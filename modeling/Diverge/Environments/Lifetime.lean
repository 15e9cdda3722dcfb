import Diverge.Environments.Types
import Diverge.Kube.Names
import Diverge.Transition.Runs

/-! The lifetime of an environment: the TTL stage of a reconcile and the `ExtendTTL` call, in any
interleaving. A reconcile reads the object and writes its status later, by a merge patch against
the copy it read. -/
namespace Diverge.Environments
open Text Tasks Kube Transition

def storedTime (t : ℤ) : ℤ := t / second * second

section
variable (now : ℤ) (env : Environment)

def createdAt : ℤ := env.status.createdAt.getD now

def expiryTime : Option ℤ := env.spec.lifecycle.ttl.map fun ttl => createdAt now env + ttl.toInt

def expired : Bool := (expiryTime now env).any (· < now)

def setTimestamps : Environment :=
  { env with
    status :=
      { env.status with
        createdAt := some (createdAt now env)
        expiresAt := (expiryTime now env).or env.status.expiresAt } }

end

/-- A field of a merge patch: it is written where the new value differs from the base. -/
def patchField {α : Type} [DecidableEq α] (base new stored : α) : α :=
  if new = base then stored else new

/-- The status patch of a reconcile that read `base` and has come to `env`, as far as the
timestamps go. -/
def patchTimestamps (base env stored : Environment) : Environment :=
  { stored with
    status :=
      { stored.status with
        createdAt := patchField base.status.createdAt (env.status.createdAt.map storedTime)
          stored.status.createdAt
        expiresAt := patchField base.status.expiresAt (env.status.expiresAt.map storedTime)
          stored.status.expiresAt } }

def requestDeletion (now : ℤ) (env : Environment) : Option Environment :=
  if env.finalizers = [] then none
  else some { env with deletionTimestamp := some (env.deletionTimestamp.getD (storedTime now)) }

structure ExtendTTLRequest where
  name : String
  ns : String
  extendBy : Option Duration
  deriving DecidableEq

inductive ServerError
  | invalidArgument (message : String)
  | failedPrecondition (message : String)
  | api (e : ApiError)
  | conversion
  deriving DecidableEq

def validateDNS1123Label (value field : String) : Except ServerError Unit :=
  if value = "" then .error (.invalidArgument (field ++ " is required"))
  else if 63 < value.utf8ByteSize then
    .error (.invalidArgument (field ++ " exceeds maximum length of 63 characters"))
  else if isDNS1123Label value then .ok ()
  else .error (.invalidArgument
    (field ++ " must be a valid DNS label (lowercase alphanumeric and hyphens)"))

def maxExtension : ℤ := 168 * 3600 * second

/-- The checks of an `ExtendTTL` request; it is authorized between the names and the duration. -/
def ExtendTTLRequest.validate (req : ExtendTTLRequest) : Except ServerError Duration := do
  validateDNS1123Label req.name "name"
  validateDNS1123Label req.ns "namespace"
  match req.extendBy with
  | none => .error (.invalidArgument "extend_by must be a positive duration")
  | some extendBy =>
    if extendBy.toInt ≤ 0 then .error (.invalidArgument "extend_by must be a positive duration")
    else if maxExtension < extendBy.toInt then
      .error (.invalidArgument "extend_by cannot exceed 7 days")
    else .ok extendBy

/-- `Time.Sub`: the difference, at the ends of the 64-bit range when it is beyond them. -/
def timeSub (t u : ℤ) : Duration := .ofInt (max minInt64 (min maxInt64 (t - u)))

lemma timeSub_toInt (t u : ℤ) : (timeSub t u).toInt = max minInt64 (min maxInt64 (t - u)) := by
  rw [timeSub,Int64.toInt_ofInt]
  exact int64_of_range (le_max_left _ _) (max_le (by decide) (min_le_left _ _))

def extendedTTL (now : ℤ) (extendBy : Duration) (env : Environment) : Duration :=
  timeSub (max (env.status.expiresAt.getD zeroTime) now + extendBy.toInt)
    (env.status.createdAt.getD env.creationTimestamp)

def Environment.setTTL (env : Environment) (ttl : Duration) : Environment :=
  { env with spec := { env.spec with lifecycle := { env.spec.lifecycle with ttl := some ttl } } }

/-- One attempt; `retry.RetryOnConflict` makes another after a conflict. The new object may fail to
convert to its message once it is written. -/
def extendTTL (req : ExtendTTLRequest) (now : ℤ) (converts : Bool) :
    Call Unit Environment ServerError Environment := fun c =>
  match req.validate with
  | .error e => (.error e,c)
  | .ok extendBy =>
    match get () c with
    | (.error e,c) => (.error (.api e),c)
    | (.ok env,c) =>
      if env.deletionTimestamp.isSome then
        (.error (.failedPrecondition "environment is being deleted"),c)
      else if env.spec.lifecycle.ttl.isNone then
        (.error (.failedPrecondition "environment has no TTL configured"),c)
      else
        match edit () (fun stored =>
            { env.setTTL (extendedTTL now extendBy env) with status := stored.status }) c with
        | (.error e,c) => (.error (.api e),c)
        | (.ok updated,c) => (if converts then .ok updated else .error .conversion,c)

section

/-- The stored object, and the copy of a reconcile under way. -/
structure State where
  stored : Option Environment
  copy : Option Environment := none
  deriving DecidableEq

inductive Action
  | extend (req : ExtendTTLRequest) (now : ℤ) (script : List Fault) (converts : Bool)
  /-- A reconcile reads the object. -/
  | read
  /-- It comes to its TTL stage; its last call may fail. -/
  | finish (now : ℤ) (fault : Fault)
  deriving DecidableEq

def State.extend (s : State) (req : ExtendTTLRequest) (now : ℤ) (script : List Fault)
    (converts : Bool) : Except ServerError Environment × Option Environment :=
  let r := extendTTL req now converts ⟨fun _ => s.stored,script⟩
  (r.1,r.2.objects ())

/-- What the TTL stage of a reconcile leaves of the stored object. -/
def ttlStage (now : ℤ) (base stored : Environment) : Option Environment :=
  if expired now base then requestDeletion now stored
  else some (patchTimestamps base (setTimestamps now base) stored)

def step (s : State) : Action → State
  | .extend req now script converts => { s with stored := (s.extend req now script converts).2 }
  | .read => { s with copy := s.stored }
  | .finish now fault =>
    match s.copy with
    | none => s
    | some base =>
      { stored := if takesEffect [fault] then s.stored.bind (ttlStage now base) else s.stored
        copy := none }

/-- The expiry that the spec stands for. -/
def effectiveExpiry (env : Environment) : Option ℤ :=
  env.spec.lifecycle.ttl.map fun ttl =>
    env.status.createdAt.getD env.creationTimestamp + ttl.toInt

/-- An extension that succeeds adds its duration to what was left. -/
def Accumulates (s : State) : Action → Prop
  | .extend req now script converts =>
    (s.extend req now script converts).1.toOption.isSome →
      ∀ before ∈ s.stored.bind effectiveExpiry, ∀ d ∈ req.extendBy,
        ∃ after ∈ (s.extend req now script converts).2.bind effectiveExpiry,
          max before now + d.toInt ≤ after
  | _ => True

/-- What an extension meets when it goes through. -/
structure Accepted (req : ExtendTTLRequest) (script : List Fault) (converts : Bool) (d : Duration)
    (env : Environment) (ttl : Duration) : Prop where
  valid : req.validate = .ok d
  live : env.deletionTimestamp = none
  ttl_eq : env.spec.lifecycle.ttl = some ttl
  reads : passesNext script = true
  writes : passesNext script.tail = true
  converts_eq : converts = true

/-- The expiry in the status is not behind the spec, unless both are past, and the new TTL is a
64-bit duration. -/
def UpToDate (now : ℤ) (d : Duration) (env : Environment) (ttl : Duration) : Prop :=
  let created := env.status.createdAt.getD env.creationTimestamp
  (created + ttl.toInt ≤ now ∨ created + ttl.toInt ≤ env.status.expiresAt.getD zeroTime) ∧
    max (created + ttl.toInt) now + d.toInt ≤ created + maxInt64

/-- Extensions that go through meet an expiry that is up to date. -/
def Current (s : State) : Action → Prop
  | .extend req now script converts =>
    ∀ env ∈ s.stored, ∀ d ttl, Accepted req script converts d env ttl → UpToDate now d env ttl
  | _ => True

variable {req : ExtendTTLRequest} {now : ℤ} {d ttl : Duration} {script : List Fault} {converts : Bool}
  {env : Environment} {s : State}

lemma ExtendTTLRequest.validate_spec (h : req.validate = .ok d) : req.extendBy = some d ∧ 0 < d.toInt := by
  simp only [validate,bind,Except.bind] at h
  split at h
  · cases h
  split at h
  · cases h
  split at h
  · cases h
  · rename_i extendBy hby
    split_ifs at h with hpos
    cases h
    exact ⟨hby,lt_of_not_ge hpos⟩

lemma extend_of_accepted (hs : s.stored = some env) (ha : Accepted req script converts d env ttl) :
    s.extend req now script converts =
      (.ok (env.setTTL (extendedTTL now d env)),some (env.setTTL (extendedTTL now d env))) := by
  have hget : get () ⟨fun _ => s.stored,script⟩ =
      ((.ok env : Except ApiError Environment),⟨fun _ => s.stored,script.tail⟩) := by
    rcases get_cases () ⟨fun _ => s.stored,script⟩ with ⟨-,hn,-⟩ | ⟨-,v,hv,h⟩ | ⟨hp,-⟩
    · exact absurd (hs.symm.trans hn) nofun
    · rw [h,Option.some.inj (hv.symm.trans hs)]
    · exact absurd (ha.reads.symm.trans hp) nofun
  obtain ⟨hobj,⟨-,hok⟩ | ⟨hp,-⟩⟩ := edit_spec (k := ()) (v := env)
    (fun stored => { env.setTTL (extendedTTL now d env) with status := stored.status })
    (c := ⟨fun _ => s.stored,script.tail⟩) hs
  · simp only [State.extend,extendTTL,ha.valid,hget,ha.live,ha.ttl_eq]
    rw [← Prod.mk.eta (p := edit _ _ _),hok,hobj]
    simp [takesEffect_of_passes ha.writes,ha.converts_eq,Environment.setTTL]
  · exact absurd (ha.writes.symm.trans hp) nofun

lemma accepted_of_extend {r : Environment} (h : (s.extend req now script converts).1 = .ok r) :
    ∃ env d ttl, s.stored = some env ∧ Accepted req script converts d env ttl := by
  simp only [State.extend,extendTTL] at h
  split at h
  · cases h
  rename_i extendBy hvalid
  rcases get_cases () ⟨fun _ => s.stored,script⟩ with ⟨-,-,hg⟩ | ⟨hp,env,hs,hg⟩ | ⟨-,hg | ⟨m,hg⟩⟩
  case inr.inl =>
    rw [hg] at h
    by_cases hdel : env.deletionTimestamp.isSome
    · simp [hdel] at h
    cases httl : env.spec.lifecycle.ttl with
    | none => simp [hdel,httl] at h
    | some ttl =>
      obtain ⟨-,⟨hw,hok⟩ | ⟨-,e,herr⟩⟩ := edit_spec (k := ()) (v := env)
        (fun stored => { env.setTTL (extendedTTL now extendBy env) with status := stored.status })
        (c := ⟨fun _ => s.stored,script.tail⟩) hs
      · refine ⟨env,extendBy,ttl,hs,hvalid,by simpa using hdel,httl,hp,hw,?_⟩
        by_contra hc
        simp only [hdel,httl,hc] at h
        rw [← Prod.mk.eta (p := edit _ _ _),hok] at h
        simp at h
      · simp only [hdel,httl] at h
        rw [← Prod.mk.eta (p := edit _ _ _),herr] at h
        simp at h
  all_goals
    rw [hg] at h
    cases h

lemma effectiveExpiry_setTTL (env : Environment) (ttl : Duration) : effectiveExpiry (env.setTTL ttl) =
      some (env.status.createdAt.getD env.creationTimestamp + ttl.toInt) := rfl

lemma extendedTTL_enough (now : ℤ) (ttl : Duration) (env : Environment) (hd : 0 < d.toInt) :
    max (env.status.createdAt.getD env.creationTimestamp + ttl.toInt) now + d.toInt ≤
        env.status.createdAt.getD env.creationTimestamp + (extendedTTL now d env).toInt ↔
      UpToDate now d env ttl := by
  have hmin : minInt64 < maxInt64 := by decide
  have httl : minInt64 ≤ ttl.toInt := Int64.le_toInt ttl
  simp only [UpToDate,extendedTTL,timeSub_toInt]
  generalize env.status.createdAt.getD env.creationTimestamp = created
  generalize env.status.expiresAt.getD zeroTime = expires
  omega

lemma accumulates_iff_current (s : State) (a : Action) : Accumulates s a ↔ Current s a := by
  cases a with
  | read | finish now fault => exact Iff.rfl
  | extend req now script converts =>
    constructor
    · intro h env hs d ttl ha
      obtain ⟨hby,hpos⟩ := ExtendTTLRequest.validate_spec ha.valid
      simp only [Accumulates,extend_of_accepted hs ha] at h
      obtain ⟨after,hafter,hle⟩ := h rfl
        (env.status.createdAt.getD env.creationTimestamp + ttl.toInt)
        (by simp [effectiveExpiry,Option.mem_def.mp hs,ha.ttl_eq]) d hby
      rw [Option.bind_some,effectiveExpiry_setTTL] at hafter
      cases hafter
      exact (extendedTTL_enough now ttl env hpos).mp hle
    · intro h hok before hbefore d hd
      cases hr : (s.extend req now script converts).1 with
      | error e => simp [hr,Except.toOption] at hok
      | ok r =>
        obtain ⟨env,d',ttl,hs,ha⟩ := accepted_of_extend hr
        obtain ⟨hby,hpos⟩ := ExtendTTLRequest.validate_spec ha.valid
        obtain rfl : d = d' := Option.some.inj (hd.symm.trans hby)
        obtain rfl : before = env.status.createdAt.getD env.creationTimestamp + ttl.toInt := by
          rw [hs,Option.bind_some,effectiveExpiry,ha.ttl_eq] at hbefore
          exact (Option.some.inj hbefore).symm
        rw [extend_of_accepted hs ha]
        exact ⟨_,rfl,(extendedTTL_enough now ttl env hpos).mpr (h env hs d ttl ha)⟩

/-- In any interleaving of extensions and reconciles, every extension adds its duration to what
was left exactly when each meets a status that is up to date with the spec. -/
theorem extensions_accumulate_iff (s : State) (as : List Action) :
    EveryStep step Accumulates s as ↔ EveryStep step Current s as :=
  everyStep_congr accumulates_iff_current s as

def hourly : Environment where
  name := "web"
  ns := "team"
  finalizers := [environmentFinalizer]
  spec := { lifecycle := { ttl := some (.ofInt (3600 * second)) } }
  status := { createdAt := some 0, expiresAt := some (3600 * second) }

def anHour : ExtendTTLRequest := ⟨"web","team",some (.ofInt (3600 * second))⟩

instance (s : State) : ∀ a, Decidable (Accumulates s a)
  | .extend req _ _ _ =>
    -- Named, since the durations are a finite type that could be searched through.
    @instDecidableForall _ _ _ (@Option.decidableForallMem _ _
      (fun _ => Option.decidableForallMem req.extendBy) _)
  | .read => .isTrue trivial
  | .finish _ _ => .isTrue trivial

/-- Two extensions by an hour without a reconcile between them: the second starts from the same
status as the first and adds nothing. -/
theorem second_extension_lost : ¬ EveryStep step Accumulates ⟨some hourly,none⟩
      [.extend anHour (10 * second) [] true,.extend anHour (20 * second) [] true] := by
  decide +kernel

end

variable {s : State} {env : Environment} {ttl : Duration} {now : ℤ}

lemma storedTime_add (t : ℤ) {d : ℤ} (h : second ∣ d) : storedTime (t + d) = storedTime t + d := by
  obtain ⟨k,rfl⟩ := h
  rw [storedTime,storedTime,Int.add_mul_ediv_left _ _ (by decide),Int.add_mul,Int.mul_comm k]

/-- A reconcile that nothing interrupts brings the status up to date, for a TTL of whole
seconds. -/
theorem reconcile_expiresAt (hs : s.stored = some env) (httl : env.spec.lifecycle.ttl = some ttl)
    (hwhole : second ∣ ttl.toInt) (hlive : expired now env = false) :
    ∃ env', (run step s [.read,.finish now .pass]).stored = some env' ∧
      env'.spec = env.spec ∧ effectiveExpiry env' = env'.status.expiresAt := by
  refine ⟨patchTimestamps env (setTimestamps now env) env,?_,rfl,?_⟩
  · simp [step,hs,takesEffect,ttlStage,hlive]
  · have hexp : expiryTime now env = some (createdAt now env + ttl.toInt) := by
      rw [expiryTime,httl,Option.map_some]
    have hpatch : ∀ {α : Type} [DecidableEq α] (base new : α), patchField base new base = new := by
      intro α _ base new
      rw [patchField]
      split_ifs with h
      · exact h.symm
      · rfl
    simp only [effectiveExpiry,patchTimestamps,setTimestamps,hpatch,httl,hexp,Option.map_some,
      Option.getD_some,Option.some_or,storedTime_add _ hwhole]

/-- An extension adds its duration to what is left when an uninterrupted reconcile came before it. -/
theorem extension_after_reconcile_accumulates (hs : s.stored = some env) (httl : env.spec.lifecycle.ttl = some ttl)
    (hwhole : second ∣ ttl.toInt) (hlive : expired now env = false) {req : ExtendTTLRequest} {later : ℤ}
    (hroom : ∀ expiry ∈ (run step s [.read,.finish now .pass]).stored.bind effectiveExpiry, ∀ d ∈ req.extendBy,
      max expiry later + d.toInt + ttl.toInt ≤ expiry + maxInt64) (script : List Fault) (converts : Bool) :
    Accumulates (run step s [.read,.finish now .pass]) (.extend req later script converts) := by
  obtain ⟨env',hstored,hspec,hexpiry⟩ := reconcile_expiresAt hs httl hwhole hlive
  rw [accumulates_iff_current]
  intro stored hmem d ttl' ha
  obtain rfl : env' = stored := Option.some.inj (hstored.symm.trans hmem)
  obtain rfl : ttl = ttl' := Option.some.inj (by rw [← httl,← hspec,ha.ttl_eq])
  have heffective : effectiveExpiry env' = some (env'.status.createdAt.getD env'.creationTimestamp + ttl.toInt) := by
    rw [effectiveExpiry,ha.ttl_eq,Option.map_some]
  have hfits := hroom _ (by rw [hstored,Option.bind_some,heffective,Option.mem_some_iff]) d
    (ExtendTTLRequest.validate_spec ha.valid).1
  refine ⟨.inr ?_,by omega⟩
  rw [← hexpiry,heffective,Option.getD_some]

theorem hourly_extension_accumulates : Accumulates (run step ⟨some hourly,none⟩ [.read,.finish (10 * second) .pass])
    (.extend anHour (20 * second) [] true) := by
  refine extension_after_reconcile_accumulates rfl rfl (by decide) (by decide) ?_ [] true
  rintro expiry hexpiry d hd
  cases hexpiry
  cases hd
  decide

end Diverge.Environments
