import Diverge.Kube.Versioned
import Diverge.Text.Strings
import Diverge.Transition.Runs

/-! Locks of dev sessions: one ConfigMap a service, which `Acquire`, `Heartbeat` and `Release` read and
then write in separate calls of the API. Times are in nanoseconds. -/
namespace Diverge.DevSession
open Kube Text Transition

inductive ConflictPolicy
  | warn
  | block
  | allow
  deriving DecidableEq

def staleSessionDuration : ℤ := 90 * 1000000000

def zeroTime : ℤ := -62135596800 * 1000000000

structure Session where
  id : String
  service : String
  ns : String
  developer : String
  startedAt : ℤ
  heartbeat : ℤ
  deriving DecidableEq

def Session.isStale (s : Session) (now : ℤ) : Bool :=
  s.heartbeat == zeroTime || decide (staleSessionDuration < now - s.heartbeat)

def configMapStart : String := "diverge-dev-session-"

def configMapNameForService (service : String) : String :=
  configMapStart ++ replaceAll (toLower service) "_" "-"

def defaulted (ns : String) : String := if ns = "" then "default" else ns

/-- The calls of the session manager; `Acquire` reads the clock before its first API call. -/
inductive Operation
  | acquire (session : Session) (policy : ConflictPolicy) (force : Bool) (now : ℤ)
  | heartbeat (ns service sessionID : String)
  | release (ns service sessionID : String)

def Operation.ns : Operation → String
  | .acquire session _ _ _ => defaulted session.ns
  | .heartbeat ns _ _ => defaulted ns
  | .release ns _ _ => defaulted ns

def Operation.service : Operation → String
  | .acquire session _ _ _ => session.service
  | .heartbeat _ service _ => service
  | .release _ service _ => service

def Operation.lock (op : Operation) : String × String := (op.ns,configMapNameForService op.service)

inductive Error
  | emptyService
  | checking (e : ApiError)
  | conflict (service : String) (existing : Session) (developer : String)
  | sessionNotFound
  | unmarshaling
  | mismatch (held ours : String)
  | deleting (e : ApiError)
  | api (e : ApiError)

/-- What an operation returns; the first two parts are those of `Acquire`. -/
structure Answer where
  existing : Option Session := none
  conflict : Bool := false
  err : Option Error := none

/-- Before the read, before the write with the version that was read, before the deletion, or at the
end. -/
inductive Phase
  | start
  | writing (session : Session) (version : Option ℕ) (existing : Option Session) (conflict : Bool)
  | deleting (stored : Option Session)
  | done (answer : Answer)

def prepared (session : Session) (now : ℤ) : Session :=
  { session with
    ns := defaulted session.ns
    startedAt := if session.startedAt = zeroTime then now else session.startedAt
    heartbeat := now }

/-- `Acquire` after its read; a ConfigMap whose data cannot be read as a session holds `none`. -/
def acquireAfterGet (session : Session) (policy : ConflictPolicy) (force : Bool) (now : ℤ) :
    Except ApiError (ℕ × Option Session) → Phase
  | .error .notFound => .writing (prepared session now) none none false
  | .error e => .done { err := some (.checking e) }
  | .ok (version,none) => .writing (prepared session now) (some version) none false
  | .ok (version,some existing) =>
    if existing.developer ≠ session.developer ∧ existing.isStale now = false ∧ force = false ∧
        policy ≠ .allow then
      if policy = .block then
        .done ⟨some existing,true,some (.conflict session.service existing session.developer)⟩
      else .writing (prepared session now) (some version) (some existing) true
    else .writing (prepared session now) (some version) none false

def heartbeatAfterGet (sessionID : String) (now : ℤ) : Except ApiError (ℕ × Option Session) → Phase
  | .error .notFound => .done { err := some .sessionNotFound }
  | .error e => .done { err := some (.api e) }
  | .ok (_,none) => .done { err := some .unmarshaling }
  | .ok (version,some session) =>
    if session.id ≠ sessionID then .done { err := some (.mismatch session.id sessionID) }
    else .writing { session with heartbeat := now } (some version) none false

def releaseAfterGet (sessionID : String) : Except ApiError (ℕ × Option Session) → Phase
  | .error .notFound => .done {}
  | .error e => .done { err := some (.api e) }
  | .ok (_,none) => .deleting none
  | .ok (_,some session) =>
    if sessionID ≠ "" ∧ session.id ≠ sessionID then .done {} else .deleting (some session)

def Operation.afterGet (op : Operation) (now : ℤ) (answer : Except ApiError (ℕ × Option Session)) : Phase :=
  match op with
  | .acquire session policy force started =>
    if session.service = "" then .done { err := some .emptyService }
    else acquireAfterGet session policy force started answer
  | .heartbeat _ _ sessionID => heartbeatAfterGet sessionID now answer
  | .release _ _ sessionID => releaseAfterGet sessionID answer

structure State (ι : Type) where
  store : Versioned (String × String) (Option Session) := {}
  phase : ι → Phase := fun _ => .start

def State.session {ι : Type} (s : State ι) (lock : String × String) : Option Session :=
  (s.store.content lock).join

/-- The next API call of an operation, the clock then, and how the call fails if it does. -/
structure Action (ι : Type) where
  i : ι
  now : ℤ
  fault : Fault := .pass

section
variable {ι : Type} [DecidableEq ι] (ops : ι → Operation)

/-- `writeSession`: an update of what was read, or a creation. -/
def writeSession (lock : String × String) (session : Session) (version : Option ℕ)
    (store : Versioned (String × String) (Option Session)) :
    Except ApiError Unit × Versioned (String × String) (Option Session) :=
  match version with
  | some v => store.update lock v (some session)
  | none => store.create lock (some session)

def afterWrite (existing : Option Session) (conflict : Bool) : Except ApiError Unit → Answer
  | .ok _ => ⟨existing,conflict,none⟩
  | .error e => { err := some (.api e) }

def afterDelete : Except ApiError Unit → Answer
  | .ok _ => {}
  | .error .notFound => {}
  | .error e => { err := some (.deleting e) }

def step (s : State ι) (a : Action ι) : State ι :=
  match s.phase a.i with
  | .start =>
    { s with
      phase := Function.update s.phase a.i
        ((ops a.i).afterGet a.now (Versioned.answered a.fault (s.store.get (ops a.i).lock))) }
  | .writing session version existing conflict =>
    { store := (s.store.served a.fault (writeSession (ops a.i).lock session version)).2
      phase := Function.update s.phase a.i (.done (afterWrite existing conflict
        (s.store.served a.fault (writeSession (ops a.i).lock session version)).1)) }
  | .deleting _ =>
    { store := (s.store.served a.fault (Versioned.delete (ops a.i).lock)).2
      phase := Function.update s.phase a.i (.done (afterDelete
        (s.store.served a.fault (Versioned.delete (ops a.i).lock)).1)) }
  | .done _ => s

/-- An operation that may replace or remove a session. -/
def Operation.MayEnd (op : Operation) (held : Session) : Prop :=
  match op with
  | .acquire session _ force now =>
    session.developer = held.developer ∨ force = true ∨ held.isStale now = true
  | .heartbeat _ _ _ => False
  | .release _ _ sessionID => sessionID = held.id

/-- A step renews the sessions of all locks or leaves them, unless its operation may end one. -/
def Kept (s : State ι) (a : Action ι) : Prop :=
  ∀ lock held, s.session lock = some held →
    (∃ t, (step ops s a).session lock = some { held with heartbeat := t }) ∨
      ((ops a.i).lock = lock ∧ (ops a.i).MayEnd held)

/-- A lock holds sessions of the service whose operations use it. -/
def Unshared (s : State ι) : Prop :=
  ∀ i held, s.session (ops i).lock = some held → held.service = (ops i).service ∧ held.ns = (ops i).ns

/-- When a release deletes, the session that it read has not been replaced since, and a release of any
session finds one without an id. -/
def Undisturbed (s : State ι) (a : Action ι) : Prop :=
  ∀ stored, s.phase a.i = .deleting stored → ∀ held, s.session (ops a.i).lock = some held →
    ∃ read, stored = some read ∧ held.id = read.id ∧
      ∀ ns service, ops a.i = .release ns service "" → read.id = ""

def lockChar (c : Char) : Char := if lowerChar c = '_' then '-' else lowerChar c

/-- Services that differ only in case and in `_` for `-`. -/
def Alike (service service' : String) : Prop :=
  service.toList.map lockChar = service'.toList.map lockChar

def Distinguished : Prop :=
  ∀ i j, (ops i).ns = (ops j).ns → Alike (ops i).service (ops j).service → (ops i).service = (ops j).service

end

section

lemma configMapNameForService_eq_iff {service service' : String} :
    configMapNameForService service = configMapNameForService service' ↔ Alike service service' := by
  have hreplace : ∀ text, (replaceAll text "_" "-").toList =
      text.toList.map fun c => if c = '_' then '-' else c := fun text => replaceAll_char text '_' '-'
  have hchar : (fun c => if c = '_' then '-' else c) ∘ lowerChar = lockChar := rfl
  have htext : ∀ service, (replaceAll (toLower service) "_" "-").toList = service.toList.map lockChar := by
    intro service
    rw [hreplace,toLower,String.toList_ofList,List.map_map,hchar]
  rw [← String.toList_inj,configMapNameForService,configMapNameForService,String.toList_append,
    String.toList_append,List.append_right_inj,htext,htext,Alike]

/-- The writes that an operation may make over what it has read. -/
def Operation.MayWrite (op : Operation) (session : Session) (stored : Option Session) : Prop :=
  match op with
  | .acquire _ _ _ _ => ∀ held, stored = some held → op.MayEnd held
  | .heartbeat _ _ _ => ∃ held t, stored = some held ∧ session = { held with heartbeat := t }
  | .release _ _ _ => False

def Operation.Blocks (op : Operation) : Prop :=
  ∀ session policy force now, op = .acquire session policy force now → policy = .block

/-- What a session is named after: the operation, or the session that was read. -/
def Operation.Names (op : Operation) (session : Session) (stored : Option Session) : Prop :=
  (session.service = op.service ∧ session.ns = op.ns) ∨
    ∃ held, stored = some held ∧ session.service = held.service ∧ session.ns = held.ns

/-- What an operation may go on to after its read. Only a release deletes, after it has read its own
session or was given no id. -/
def Operation.Continues (op : Operation) (answer : Except ApiError (ℕ × Option Session)) : Phase → Prop
  | .writing session none _ _ => session.service = op.service ∧ session.ns = op.ns
  | .writing session (some version) _ _ =>
    ∃ stored, answer = .ok (version,stored) ∧ op.MayWrite session stored ∧ op.Names session stored
  | .deleting stored => ∃ ns service sessionID, op = .release ns service sessionID ∧
      ∀ read, stored = some read → sessionID = "" ∨ read.id = sessionID
  | _ => True

lemma afterGet_continues {op : Operation} {now : ℤ} {answer : Except ApiError (ℕ × Option Session)}
    {p : Phase} (hblock : op.Blocks) (h : op.afterGet now answer = p) : op.Continues answer p := by
  subst h
  cases op with
  | acquire mine policy force started =>
    have hpolicy := hblock _ _ _ _ rfl
    subst hpolicy
    unfold Operation.afterGet
    dsimp only
    split_ifs
    · trivial
    unfold acquireAfterGet
    split
    · exact ⟨rfl,rfl⟩
    · trivial
    · exact ⟨none,rfl,fun _ hheld => absurd hheld (by simp),.inl ⟨rfl,rfl⟩⟩
    · rename_i held
      split_ifs with hfree hblocked
      · trivial
      · exact absurd rfl hblocked
      · refine ⟨some held,rfl,fun other hother => ?_,.inl ⟨rfl,rfl⟩⟩
        obtain rfl := Option.some.inj hother
        by_contra hnone
        obtain ⟨hdeveloper,hforce,hstale⟩ := by
          simpa only [Operation.MayEnd,not_or,Bool.not_eq_true] using hnone
        exact hfree ⟨Ne.symm hdeveloper,hstale,hforce,by decide⟩
  | heartbeat ns service sessionID =>
    change Operation.Continues _ _ (heartbeatAfterGet sessionID now answer)
    unfold heartbeatAfterGet
    split
    · trivial
    · trivial
    · trivial
    · rename_i held
      split_ifs
      · trivial
      · exact ⟨some held,rfl,⟨held,now,rfl,rfl⟩,.inr ⟨held,rfl,rfl,rfl⟩⟩
  | release ns service sessionID =>
    change Operation.Continues _ _ (releaseAfterGet sessionID answer)
    unfold releaseAfterGet
    split
    · trivial
    · trivial
    · exact ⟨ns,service,sessionID,rfl,fun read hread => absurd hread (by simp)⟩
    · split_ifs with hother
      · trivial
      · refine ⟨ns,service,sessionID,rfl,fun read hread => ?_⟩
        obtain rfl := Option.some.inj hread
        by_contra hnone
        exact hother (not_or.mp hnone)

end

variable {ι : Type} [DecidableEq ι] {ops : ι → Operation} {s : State ι} {a : Action ι}

/-- A session under the lock of an operation with its service. -/
def Named (ops : ι → Operation) (lock : String × String) (session : Session) : Prop :=
  ∃ j, (ops j).lock = lock ∧ session.service = (ops j).service ∧ session.ns = (ops j).ns

/-- Pending writes are allowed over what they have read, and all sessions are under their own lock. -/
structure Tracked (ops : ι → Operation) (s : State ι) : Prop where
  numbered : s.store.Numbered
  updating : ∀ i session version existing conflict,
    s.phase i = .writing session (some version) existing conflict →
      ∃ stored, s.store.Copy (ops i).lock version stored ∧ (ops i).MayWrite session stored
  removing : ∀ i stored, s.phase i = .deleting stored → ∃ ns service sessionID,
    ops i = .release ns service sessionID ∧ ∀ read, stored = some read → sessionID = "" ∨ read.id = sessionID
  writing : ∀ i session version existing conflict, s.phase i = .writing session version existing conflict →
    Named ops (ops i).lock session
  holding : ∀ lock held, s.session lock = some held → Named ops lock held

/-- A write over a session renews it or is one that may end it. -/
def Allowed (s : State ι) (op : Operation) (session : Session) : Prop :=
  ∀ held, s.session op.lock = some held → (∃ t, session = { held with heartbeat := t }) ∨ op.MayEnd held

variable {lock : String × String} {stored : Option Session}

omit [DecidableEq ι] in
lemma session_eq_of_content (h : s.store.content lock = some stored) : s.session lock = stored := by
  rw [State.session,h]
  rfl

lemma step_store (hs : Tracked ops s) : (step ops s a).store = s.store ∨
    (∃ session, (step ops s a).store = s.store.put (ops a.i).lock (some session) ∧
      Named ops (ops a.i).lock session ∧ Allowed s (ops a.i) session) ∨
    ((step ops s a).store = s.store.remove (ops a.i).lock ∧ ∃ stored, s.phase a.i = .deleting stored) := by
  unfold step
  cases hphase : s.phase a.i with
  | start | done answer => exact .inl rfl
  | writing session version existing conflict =>
    have hnamed := hs.writing _ _ _ _ _ hphase
    dsimp only
    rcases Versioned.served_cases a.fault s.store (writeSession (ops a.i).lock session version) with h | h
    · exact .inl h
    · rw [h]
      cases version with
      | none =>
        rcases Versioned.create_cases (ops a.i).lock (some session) s.store with h | ⟨hnone,h⟩
        · exact .inl h
        · refine .inr (.inl ⟨session,h,hnamed,fun held hheld => ?_⟩)
          rw [State.session,Versioned.content,hnone] at hheld
          cases hheld
      | some version =>
        rcases Versioned.update_cases (ops a.i).lock version (some session) s.store with h | ⟨now,hnow,h⟩
        · exact .inl h
        · refine .inr (.inl ⟨session,h,hnamed,fun held hheld => ?_⟩)
          obtain ⟨stored,hcopy,hmay⟩ := hs.updating _ _ _ _ _ hphase
          have hstored := (session_eq_of_content (hcopy.content hnow)).symm.trans hheld
          unfold Operation.MayWrite at hmay
          cases hop : ops a.i with
          | acquire mine policy force started =>
            rw [hop] at hmay
            exact .inr (hmay held hstored)
          | heartbeat ns service sessionID =>
            rw [hop] at hmay
            obtain ⟨read,t,hread,rfl⟩ := hmay
            obtain rfl := Option.some.inj (hread.symm.trans hstored)
            exact .inl ⟨t,rfl⟩
          | release ns service sessionID =>
            rw [hop] at hmay
            exact absurd hmay id
  | deleting stored =>
    dsimp only
    rcases Versioned.served_cases a.fault s.store (Versioned.delete (ops a.i).lock) with h | h
    · exact .inl h
    · rw [h]
      rcases Versioned.delete_cases (ops a.i).lock s.store with h | h
      · exact .inl h
      · exact .inr (.inr ⟨h,stored,rfl⟩)

lemma step_phase (ops : ι → Operation) (s : State ι) (a : Action ι) (i : ι) :
    (step ops s a).phase i = s.phase i ∨
    (i = a.i ∧ s.phase i = .start ∧ (step ops s a).store = s.store ∧ (step ops s a).phase i =
      (ops i).afterGet a.now (Versioned.answered a.fault (s.store.get (ops i).lock))) ∨
    ∃ answer, (step ops s a).phase i = .done answer := by
  unfold step
  by_cases hi : i = a.i
  · subst hi
    cases hphase : s.phase a.i with
    | start => exact .inr (.inl ⟨rfl,rfl,rfl,Function.update_self _ _ _⟩)
    | done answer => exact .inl hphase
    | writing session version existing conflict | deleting stored =>
      exact .inr (.inr ⟨_,Function.update_self _ _ _⟩)
  · cases hphase : s.phase a.i with
    | start | writing session version existing conflict | deleting stored =>
      exact .inl (Function.update_of_ne hi _ _)
    | done answer => exact .inl rfl

lemma copy_step (hs : Tracked ops s) {version : ℕ}
    (hcopy : s.store.Copy lock version stored) : (step ops s a).store.Copy lock version stored := by
  rcases step_store (a := a) hs with h | ⟨session,h,-⟩ | ⟨h,-⟩
  · rwa [h]
  · rw [h]
    exact hcopy.put _ _
  · rw [h]
    exact hcopy.remove _

lemma session_step (hs : Tracked ops s) {held : Session} (h : (step ops s a).session lock = some held) :
    s.session lock = some held ∨ (lock = (ops a.i).lock ∧ Named ops lock held) := by
  rcases step_store (a := a) hs with hstore | ⟨session,hstore,hnamed,-⟩ | ⟨hstore,-⟩
  · rw [State.session,hstore] at h
    exact .inl h
  · rw [State.session,hstore] at h
    by_cases hlock : lock = (ops a.i).lock
    · subst hlock
      rw [Versioned.content_put_self] at h
      obtain rfl := Option.some.inj h
      exact .inr ⟨rfl,hnamed⟩
    · rw [Versioned.content_put_of_ne hlock] at h
      exact .inl h
  · rw [State.session,hstore] at h
    by_cases hlock : lock = (ops a.i).lock
    · rw [hlock,Versioned.content_remove_self] at h
      cases h
    · rw [Versioned.content_remove_of_ne hlock] at h
      exact .inl h

lemma tracked_step (hblock : ∀ i, (ops i).Blocks) (hs : Tracked ops s) : Tracked ops (step ops s a) where
  numbered := by
    rcases step_store (a := a) hs with h | ⟨session,h,-⟩ | ⟨h,-⟩
    · rw [h]
      exact hs.numbered
    · rw [h]
      exact hs.numbered.put _ _
    · rw [h]
      exact hs.numbered.remove _
  updating i session version existing conflict h := by
    rcases step_phase ops s a i with hp | ⟨-,-,hstore,hp⟩ | ⟨answer,hp⟩
    · obtain ⟨stored,hcopy,hmay⟩ := hs.updating i _ _ _ _ (hp.symm.trans h)
      exact ⟨stored,copy_step hs hcopy,hmay⟩
    · obtain ⟨stored,hanswer,hmay,-⟩ := afterGet_continues (hblock i) (hp.symm.trans h)
      rw [hstore]
      exact ⟨stored,hs.numbered.copy (Versioned.get_ok.mp (Versioned.answered_ok hanswer)),hmay⟩
    · cases hp.symm.trans h
  removing i stored h := by
    rcases step_phase ops s a i with hp | ⟨-,-,-,hp⟩ | ⟨answer,hp⟩
    · exact hs.removing i stored (hp.symm.trans h)
    · exact afterGet_continues (hblock i) (hp.symm.trans h)
    · cases hp.symm.trans h
  writing i session version existing conflict h := by
    rcases step_phase ops s a i with hp | ⟨-,-,-,hp⟩ | ⟨answer,hp⟩
    · exact hs.writing i _ _ _ _ (hp.symm.trans h)
    · cases version with
      | none => exact ⟨i,rfl,afterGet_continues (hblock i) (hp.symm.trans h)⟩
      | some version =>
        obtain ⟨stored,hanswer,-,hown | ⟨held,rfl,hservice,hns⟩⟩ :=
          afterGet_continues (hblock i) (hp.symm.trans h)
        · exact ⟨i,rfl,hown⟩
        · have hobject := Versioned.get_ok.mp (Versioned.answered_ok hanswer)
          obtain ⟨j,hj,hjs,hjn⟩ := hs.holding (ops i).lock held (by
            rw [State.session,Versioned.content,hobject]
            rfl)
          exact ⟨j,hj,hservice.trans hjs,hns.trans hjn⟩
    · cases hp.symm.trans h
  holding lock held h := by
    rcases session_step hs h with h | ⟨-,hnamed⟩
    · exact hs.holding lock held h
    · exact hnamed

lemma kept_of_undisturbed (hs : Tracked ops s) (hstep : Undisturbed ops s a) : Kept ops s a := by
  intro lock held hheld
  have hsame : (step ops s a).session lock = s.session lock →
      ∃ t, (step ops s a).session lock = some { held with heartbeat := t } :=
    fun h => ⟨held.heartbeat,h.trans hheld⟩
  by_cases hlock : (ops a.i).lock = lock
  · subst hlock
    rcases step_store (a := a) hs with hstore | ⟨session,hstore,-,hallowed⟩ | ⟨hstore,stored,hphase⟩
    · exact .inl (hsame (by rw [State.session,State.session,hstore]))
    · rcases hallowed held hheld with ⟨t,rfl⟩ | hmay
      · refine .inl ⟨t,?_⟩
        rw [State.session,hstore,Versioned.content_put_self]
        rfl
      · exact .inr ⟨rfl,hmay⟩
    · obtain ⟨ns,service,sessionID,hop,hread⟩ := hs.removing _ _ hphase
      obtain ⟨read,rfl,hid,hany⟩ := hstep _ hphase held hheld
      refine .inr ⟨rfl,?_⟩
      rw [hop]
      change sessionID = held.id
      rcases hread read rfl with rfl | hmine
      · rw [hid,hany ns service hop]
      · rw [hid,hmine]
  · refine .inl (hsame ?_)
    rcases step_store (a := a) hs with hstore | ⟨session,hstore,-⟩ | ⟨hstore,-⟩
    · rw [State.session,State.session,hstore]
    · rw [State.session,hstore,Versioned.content_put_of_ne (Ne.symm hlock),State.session]
    · rw [State.session,hstore,Versioned.content_remove_of_ne (Ne.symm hlock),State.session]

omit [DecidableEq ι] in
lemma Tracked.unshared (hnames : Distinguished ops) (hs : Tracked ops s) : Unshared ops s := by
  intro i held hheld
  obtain ⟨j,hlock,hservice,hns⟩ := hs.holding _ held hheld
  obtain ⟨hsame,hname⟩ := Prod.mk.inj hlock
  have hj := hnames j i hsame (configMapNameForService_eq_iff.mp hname)
  exact ⟨hservice.trans hj,hns.trans hsame⟩

/-- Before all operations no lock holds a session. -/
structure Opening (s : State ι) : Prop where
  numbered : s.store.Numbered
  free : ∀ lock, s.session lock = none
  ready : ∀ i, s.phase i = .start

omit [DecidableEq ι] in
lemma Opening.tracked {s : State ι} (hs : Opening s) : Tracked ops s where
  numbered := hs.numbered
  updating i _ _ _ _ h := by cases (hs.ready i).symm.trans h
  removing i _ h := by cases (hs.ready i).symm.trans h
  writing i _ _ _ _ h := by cases (hs.ready i).symm.trans h
  holding lock _ h := by cases (hs.free lock).symm.trans h

/-- With the policy to block, in every interleaving in which no session is replaced between the read
and the deletion of a release, a stored session is replaced or removed only by its own release, by its
developer, by force or when it is stale; and services that are not alike share no lock. -/
theorem sessions_ended_legitimately (hblock : ∀ i, (ops i).Blocks) (hnames : Distinguished ops)
    {start : State ι} (hstart : Opening start) (actions : List (Action ι))
    (hsteps : EveryStep (step ops) (Undisturbed ops) start actions) :
    (∀ pre a, pre ++ [a] <+: actions → Kept ops (run (step ops) start pre) a) ∧
      ∀ pre, pre <+: actions → Unshared ops (run (step ops) start pre) := by
  have htracked : ∀ pre, pre <+: actions → Tracked ops (run (step ops) start pre) :=
    hsteps.reaches (fun _ _ _ hs => tracked_step hblock hs) hstart.tracked
  refine ⟨fun pre a hpre => ?_,fun pre hpre => (htracked pre hpre).unshared hnames⟩
  refine kept_of_undisturbed (htracked pre ?_) (hsteps.reached pre a hpre)
  exact (List.prefix_append pre [a]).trans hpre

inductive Turn
  | annAcquires
  | annReleases
  | bobAcquires
  deriving DecidableEq

def annAndBob : Turn → Operation
  | .annAcquires => .acquire ⟨"1","shop","default","ann",zeroTime,zeroTime⟩ .block false 0
  | .annReleases => .release "default" "shop" "1"
  | .bobAcquires => .acquire ⟨"2","shop","default","bob",zeroTime,zeroTime⟩ .block false 100000000000

def annReleasesFirst : List (Action Turn) :=
  [⟨.annAcquires,0,.pass⟩,⟨.annAcquires,0,.pass⟩,⟨.annReleases,1000000000,.pass⟩,
    ⟨.annReleases,1000000000,.pass⟩,⟨.bobAcquires,100000000000,.pass⟩,⟨.bobAcquires,100000000000,.pass⟩]

def bobBetween : List (Action Turn) :=
  [⟨.annAcquires,0,.pass⟩,⟨.annAcquires,0,.pass⟩,⟨.annReleases,100000000000,.pass⟩,
    ⟨.bobAcquires,100000000000,.pass⟩,⟨.bobAcquires,100000000000,.pass⟩]

def shopLock : String × String := ("default","diverge-dev-session-shop")

def bobsSession : Session := ⟨"2","shop","default","bob",100000000000,100000000000⟩

/-- Ann acquires and releases the lock, and Bob has it afterwards. -/
theorem released_before_acquired :
    (∀ pre a, pre ++ [a] <+: annReleasesFirst → Kept annAndBob (run (step annAndBob) {} pre) a) ∧
      (run (step annAndBob) {} annReleasesFirst).session shopLock = some bobsSession := by
  have hshop : ∀ i, (annAndBob i).service = "shop" := by
    intro i
    cases i <;> rfl
  have hopening : Opening ({} : State Turn) :=
    ⟨fun _ _ _ h => absurd h (by simp),fun _ => rfl,fun _ => rfl⟩
  refine ⟨(sessions_ended_legitimately ?_ (fun i j _ _ => (hshop i).trans (hshop j).symm) hopening _ ?_).1,
    by decide +kernel⟩
  · intro i session policy force now h
    cases i with
    | annAcquires | bobAcquires =>
      cases h
      rfl
    | annReleases => cases h
  · refine ⟨fun _ h => ?_,fun _ h => ?_,fun _ h => ?_,fun stored h held hheld => ?_,fun _ h => ?_,
      fun _ h => ?_,trivial⟩
    · cases h
    · cases h
    · cases h
    · cases h
      cases hheld
      refine ⟨_,rfl,rfl,fun ns service hop => ?_⟩
      exact absurd (Operation.release.inj hop).2.2 (by decide)
    · cases h
    · cases h

/-- Ann's release deletes Bob's session. -/
theorem release_deletes_newer_session :
    (run (step annAndBob) {} bobBetween).session shopLock = some bobsSession ∧
      (run (step annAndBob) {} (bobBetween ++ [⟨.annReleases,100000000000,.pass⟩])).session shopLock = none ∧
      ¬Kept annAndBob (run (step annAndBob) {} bobBetween) ⟨.annReleases,100000000000,.pass⟩ := by
  have hbefore : (run (step annAndBob) {} bobBetween).session shopLock = some bobsSession := by decide +kernel
  have hafter : (run (step annAndBob) {} (bobBetween ++ [⟨.annReleases,100000000000,.pass⟩])).session
      shopLock = none := by decide +kernel
  refine ⟨hbefore,hafter,fun hkept => ?_⟩
  rcases hkept shopLock bobsSession hbefore with ⟨t,ht⟩ | ⟨-,hmay⟩
  · rw [run_append] at hafter
    cases hafter.symm.trans ht
  · change "1" = "2" at hmay
    exact absurd hmay (by decide)

end Diverge.DevSession
