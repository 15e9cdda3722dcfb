import Diverge.Kube.Versioned
import Diverge.Transition.Runs

/-! Garbage collection of what tunnels leave behind. The collectors of any number of replicas sweep one
namespace, while tunnels register, beat and clean up; each API call is a step of its own. -/
namespace Diverge.Tunnel.Collection
open Kube Kube.Versioned Transition

inductive Kind
  | service
  | endpointSlice
  | endpoints
  | lease
  deriving DecidableEq

/-- The expiry in an object's annotation. -/
inductive Stamp
  | absent
  | unreadable
  | time (t : ℕ)
  deriving DecidableEq

/-- What is read of an object; the holder and the renewal are a Lease's. -/
structure Object (η : Type) where
  labelled : Bool := true
  expires : Stamp := .absent
  headless : Bool := false
  holder : Option η := none
  renewTime : Option ℕ := none
  leaseDurationSeconds : Option ℕ := none
  deriving DecidableEq

section
variable {η : Type}

/-- Times are in nanoseconds, of which RFC 3339 keeps the seconds. -/
def rfc3339 (t : ℕ) : Stamp := .time (t / 1000000000 * 1000000000)

def microTime (t : ℕ) : ℕ := t / 1000 * 1000

def tunnelTTLDuration : ℕ := 120000000000

/-- The test of a sweep: the annotation comes first, and only a Lease has another expiry. -/
def expired (now : ℕ) (k : Kind) (o : Object η) : Bool :=
  match o.expires,k,o.renewTime,o.leaseDurationSeconds with
  | .time t,_,_,_ => decide (t < now)
  | .absent,.lease,some renewed,some seconds => decide (renewed + seconds * 1000000000 < now)
  | _,_,_,_ => false

lemma expired_mono {now later : ℕ} {k : Kind} {o : Object η} (h : expired now k o = true)
    (hle : now ≤ later) : expired later k o = true := by
  unfold expired at h ⊢
  split at h
  · exact decide_eq_true (Nat.lt_of_lt_of_le (of_decide_eq_true h) hle)
  · exact decide_eq_true (Nat.lt_of_lt_of_le (of_decide_eq_true h) hle)
  · cases h

end

def Kind.next : Kind → Option Kind
  | .service => some .endpointSlice
  | .endpointSlice => some .endpoints
  | .endpoints => some .lease
  | .lease => none

section
variable {η : Type}

/-- What a tunnel does: it registers, its heartbeat goes off, or it cleans up. -/
inductive Task
  | register
  | heartbeat
  | cleanup

inductive Job (η : Type)
  | idle
  | acquiring (now : ℕ)
  | stealing (version : ℕ) (o : Object η)
  | leasing (o : Object η)
  | preparing (t : Task)
  | creating (expires : Stamp) (k : Kind)
  | reading (expires : Stamp) (k : Kind)
  | updating (expires : Stamp) (k : Kind) (version : ℕ)
  | replacing (expires : Stamp)
  | recreating (expires : Stamp)
  | renewing (t : Task)
  | measuring (t : Task) (version : ℕ) (o : Object η)
  | prolonging (t : Task) (version : ℕ) (o : Object η)
  | refreshing (expires : Stamp) (k : Kind)
  | rewriting (expires : Stamp) (k : Kind) (version : ℕ) (o : Object η)
  | deleting (k : Kind)
  | releasing
  | dropping

def Task.job (clock : ℕ) : Task → Job η
  | .register => .acquiring clock
  | .heartbeat => .renewing .heartbeat
  | .cleanup => .renewing .cleanup

namespace Job

/-- The request that a step sends; reading the clock is a step without one. -/
def request : Job η → Option (Kind × Request (Object η))
  | .idle => none
  | .acquiring _ => some (.lease,.get)
  | .stealing version o => some (.lease,.update version o)
  | .leasing o => some (.lease,.create o)
  | .preparing _ => none
  | .creating expires k => some (k,.create { expires })
  | .reading _ k => some (k,.get)
  | .updating expires k version => some (k,.update version { expires })
  | .replacing _ => some (.service,.delete)
  | .recreating expires => some (.service,.create { expires })
  | .renewing _ => some (.lease,.get)
  | .measuring _ _ _ => none
  | .prolonging _ version o => some (.lease,.update version o)
  | .refreshing _ k => some (k,.get)
  | .rewriting _ k version o => some (k,.update version o)
  | .deleting k => some (k,.delete)
  | .releasing => some (.lease,.get)
  | .dropping => some (.lease,.delete)

/-- The three resources follow one another; the Lease is no resource. -/
def afterKind (step : Kind → Job η) (done : Job η) : Kind → Job η
  | .service => step .endpointSlice
  | .endpointSlice => step .endpoints
  | _ => done

/-- `Acquire`, `createTunnelResources`, `Renew`, `refreshTunnelTTL`, `deleteTunnelResources` and
`Release`, from the answer to a step's request. -/
def next [DecidableEq η] (me : η) (clock : ℕ) : Job η → Except ApiError (Option (ℕ × Object η)) → Job η
  | .acquiring now,.ok (some (version,o)) =>
    .stealing version
      { o with holder := some me, renewTime := some (microTime now), leaseDurationSeconds := some 60 }
  | .acquiring now,_ =>
    .leasing { holder := some me, renewTime := some (microTime now), leaseDurationSeconds := some 60 }
  | .stealing _ _,.ok _ => .preparing .register
  | .leasing _,.ok _ => .preparing .register
  | .preparing .register,_ => .creating (rfc3339 (clock + tunnelTTLDuration)) .service
  | .preparing .heartbeat,_ => .refreshing (rfc3339 (clock + tunnelTTLDuration)) .service
  | .preparing .cleanup,_ => .deleting .service
  | .creating expires k,.ok _ => afterKind (.creating expires) .idle k
  | .creating expires k,.error .alreadyExists => .reading expires k
  | .reading expires k,.ok (some (version,o)) =>
    if k = .service ∧ o.headless then .replacing expires else .updating expires k version
  | .updating expires k _,.ok _ => afterKind (.creating expires) .idle k
  | .replacing expires,_ => .recreating expires
  | .recreating expires,.ok _ => .creating expires .endpointSlice
  | .recreating expires,.error .alreadyExists => .creating expires .endpointSlice
  | .renewing t,.ok (some (version,o)) => if o.holder = some me then .measuring t version o else .idle
  | .measuring t version o,_ => .prolonging t version { o with renewTime := some (microTime clock) }
  | .prolonging t _ _,.ok _ => .preparing t
  | .refreshing expires k,.ok (some (version,o)) => .rewriting expires k version { o with expires }
  | .refreshing expires k,_ => afterKind (.refreshing expires) .idle k
  | .rewriting expires k _ _,_ => afterKind (.refreshing expires) .idle k
  | .deleting k,_ => afterKind .deleting .releasing k
  | .releasing,.ok (some (_,o)) => if o.holder = some me then .dropping else .idle
  | _,_ => .idle

end Job

end

/-- The next step of a collector; a sweep keeps the time at which it started. -/
inductive Sweep (ν : Type)
  | waiting
  | listing (now : ℕ) (k : Kind)
  | deleting (now : ℕ) (k : Kind) (names : List ν)

section
variable {ν η ι γ : Type} [DecidableEq ν] [DecidableEq η] [DecidableEq ι] [DecidableEq γ]

structure System (ν η ι γ : Type) where
  store : Versioned (Kind × ν) (Object η) := {}
  job : ι → Job η := fun _ => .idle
  sweep : γ → Sweep ν := fun _ => .waiting
  clock : ℕ := 0

/-- The names of a sweep's step are those that the server lists. -/
inductive Action (ν ι γ : Type)
  | tick (d : ℕ)
  | start (i : ι) (t : Task)
  | proceed (i : ι) (fault : Fault)
  | sweep (g : γ) (names : List ν) (fault : Fault)

def Sweep.after (now : ℕ) (k : Kind) : Sweep ν := (k.next.map (Sweep.listing now)).getD .waiting

/-- A sweep ends with a list that fails, except that of the Endpoints. -/
def Sweep.unlisted (now : ℕ) (k : Kind) : Sweep ν :=
  if k = .endpoints then Sweep.after now k else .waiting

def isExpired (s : System ν η ι γ) (now : ℕ) (k : Kind) (v : ν) : Bool :=
  (s.store.content (k,v)).any fun o => o.labelled && expired now k o

/-- One step of `sweep`: the errors of deletions are only logged. -/
def sweepStep (s : System ν η ι γ) (g : γ) (names : List ν) (fault : Fault) : System ν η ι γ :=
  match s.sweep g with
  | .waiting => { s with sweep := Function.update s.sweep g (.listing s.clock .service) }
  | .listing now k =>
    { s with
      sweep := Function.update s.sweep g
        (if fault.passes then .deleting now k (names.filter (isExpired s now k)) else .unlisted now k) }
  | .deleting now k [] => { s with sweep := Function.update s.sweep g (.after now k) }
  | .deleting now k (v :: names) =>
    { s with
      store := (Request.delete.serve fault (k,v) s.store).2
      sweep := Function.update s.sweep g (.deleting now k names) }

variable (name : ι → ν) (identity : ι → η)

/-- A goroutine works for a preview and with the identity of its tunnel. -/
def proceed (s : System ν η ι γ) (i : ι) (fault : Fault) : System ν η ι γ :=
  match (s.job i).request with
  | none => { s with job := Function.update s.job i ((s.job i).next (identity i) s.clock (.ok none)) }
  | some (k,r) =>
    { s with
      store := (r.serve fault (k,name i) s.store).2
      job := Function.update s.job i
        ((s.job i).next (identity i) s.clock (r.serve fault (k,name i) s.store).1) }

def step (s : System ν η ι γ) : Action ν ι γ → System ν η ι γ
  | .tick d => { s with clock := s.clock + d }
  | .start i t =>
    match s.job i with
    | .idle => { s with job := Function.update s.job i (t.job s.clock) }
    | _ => s
  | .proceed i fault => proceed name identity s i fault
  | .sweep g names fault => sweepStep s g names fault

/-- What a collector is about to delete has expired by the time of the deletion. -/
def Spares (s : System ν η ι γ) : Action ν ι γ → Prop
  | .sweep g _ _ => ∀ now k v names o, s.sweep g = .deleting now k (v :: names) →
      s.store.content (k,v) = some o → expired s.clock k o = true
  | _ => True

/-- A write does not land on a name that a sweep has listed and not come to yet, unless what it writes had
expired when the sweep started. -/
def Calm (s : System ν η ι γ) : Action ν ι γ → Prop
  | .proceed i fault => ∀ k r o, (s.job i).request = some (k,r) →
      r.stores fault (k,name i) s.store = some o →
      ∀ g now names, s.sweep g = .deleting now k names → name i ∈ names → expired now k o = true
  | _ => True

/-- A sweep's time has passed, and what is stored under the names it will delete had expired then. -/
structure Sweep.Sound (store : Versioned (Kind × ν) (Object η)) (clock : ℕ) (w : Sweep ν) : Prop where
  listing : ∀ now k, w = .listing now k → now ≤ clock
  deleting : ∀ now k names, w = .deleting now k names → now ≤ clock ∧
    ∀ v ∈ names, ∀ o, store.content (k,v) = some o → expired now k o = true

def System.Sound (s : System ν η ι γ) : Prop := ∀ g, (s.sweep g).Sound s.store s.clock

end

section
variable {ν η ι γ : Type} {name : ι → ν} {identity : ι → η} {s : System ν η ι γ}

variable {store : Versioned (Kind × ν) (Object η)} {now clock : ℕ} {w : Sweep ν} {a : Action ν ι γ}

lemma Sweep.sound_waiting {clock : ℕ} : Sweep.Sound store clock .waiting := ⟨nofun,nofun⟩

lemma Sweep.sound_listing {k : Kind} (h : now ≤ clock) : Sweep.Sound store clock (.listing now k) :=
  ⟨fun _ _ he => (Sweep.listing.inj he).1 ▸ h,nofun⟩

lemma Sweep.sound_after (k : Kind) (h : now ≤ clock) : Sweep.Sound store clock (.after now k) := by
  cases k with
  | lease => exact Sweep.sound_waiting
  | service | endpointSlice | endpoints => exact Sweep.sound_listing h

lemma Sweep.Sound.mono {store store' : Versioned (Kind × ν) (Object η)} {clock clock' : ℕ}
    (h : w.Sound store clock) (hclock : clock ≤ clock')
    (hstore : ∀ now k names, w = .deleting now k names → ∀ v ∈ names, ∀ o,
      store'.content (k,v) = some o → store.content (k,v) = some o ∨ expired now k o = true) :
    w.Sound store' clock' := by
  constructor
  · intro now k hw
    exact Nat.le_trans (h.listing now k hw) hclock
  · intro now k names hw
    obtain ⟨hnow,hnames⟩ := h.deleting now k names hw
    refine ⟨Nat.le_trans hnow hclock,fun v hv o ho => ?_⟩
    rcases hstore now k names hw v hv o ho with hold | hexpired
    · exact hnames v hv o hold
    · exact hexpired

lemma System.Sound.set [DecidableEq γ] {g : γ} {job : ι → Job η}
    (h : ∀ g, (s.sweep g).Sound store s.clock) (hw : w.Sound store s.clock) :
    (⟨store,job,Function.update s.sweep g w,s.clock⟩ : System ν η ι γ).Sound := by
  intro g'
  by_cases hg : g' = g
  · subst hg
    simpa using hw
  · simpa [hg] using h g'

lemma System.Sound.sweepStep [DecidableEq ν] [DecidableEq γ] (h : s.Sound) (g : γ) (names : List ν)
    (fault : Fault) : (sweepStep s g names fault).Sound := by
  unfold Collection.sweepStep
  cases hw : s.sweep g with
  | waiting => exact System.Sound.set h (Sweep.sound_listing s.clock.le_refl)
  | listing now k =>
    have hnow := (h g).listing now k hw
    refine System.Sound.set h ?_
    split_ifs
    · refine ⟨nofun,fun now' k' names' he => ?_⟩
      obtain ⟨rfl,rfl,rfl⟩ := Sweep.deleting.inj he
      refine ⟨hnow,fun v hv o ho => ?_⟩
      have hexpired := (List.mem_filter.mp hv).2
      rw [isExpired,ho,Option.any_some,Bool.and_eq_true] at hexpired
      exact hexpired.2
    · unfold Sweep.unlisted
      split_ifs
      · exact Sweep.sound_after k hnow
      · exact Sweep.sound_waiting
  | deleting now k listed =>
    obtain ⟨hnow,hlisted⟩ := (h g).deleting now k listed hw
    cases listed with
    | nil => exact System.Sound.set h (Sweep.sound_after k hnow)
    | cons v rest =>
      have hkeep : ∀ k' v' o, (Request.delete.serve fault (k,v) s.store).2.content (k',v') = some o →
          s.store.content (k',v') = some o := by
        intro k' v' o ho
        rcases Request.content_serve ho with hold | ⟨-,hstores⟩
        · exact hold
        · cases hstores
      refine System.Sound.set (fun g' => (h g').mono s.clock.le_refl ?_) ⟨nofun,fun now' k' names' he => ?_⟩
      · exact fun _ k' _ _ v' _ o ho => .inl (hkeep k' v' o ho)
      · obtain ⟨rfl,rfl,rfl⟩ := Sweep.deleting.inj he
        exact ⟨hnow,fun v' hv' o ho => hlisted v' (List.mem_cons_of_mem v hv') o (hkeep _ v' o ho)⟩

lemma System.Sound.spares (h : s.Sound) (a : Action ν ι γ) : Spares s a := by
  cases a with
  | sweep g listed fault =>
    intro now k v names o hw ho
    obtain ⟨hnow,hnames⟩ := (h g).deleting now k (v :: names) hw
    exact expired_mono (hnames v List.mem_cons_self o ho) hnow
  | tick d | start i t | proceed i fault => trivial

variable [DecidableEq ν]

lemma calm_of_waiting (h : ∀ g, s.sweep g = .waiting) : Calm name s a := by
  cases a with
  | proceed i fault =>
    intro k r o _ _ g now names hw
    rw [h g] at hw
    cases hw
  | tick d | start i t | sweep g names fault => trivial

variable [DecidableEq η] [DecidableEq ι]

lemma System.Sound.proceed {i : ι} {fault : Fault} (h : s.Sound) (hcalm : Calm name s (.proceed i fault)) :
    (proceed name identity s i fault).Sound := by
  unfold Collection.proceed
  cases hr : (s.job i).request with
  | none => exact h
  | some kr =>
    obtain ⟨k,r⟩ := kr
    intro g
    refine (h g).mono s.clock.le_refl fun now k' names hw v hv o ho => ?_
    rcases Request.content_serve ho with hold | ⟨hkey,hstores⟩
    · exact .inl hold
    · obtain ⟨rfl,rfl⟩ := Prod.mk.inj hkey
      exact .inr (hcalm k' r o hr hstores g now names hw hv)

lemma System.Sound.step [DecidableEq γ] (h : s.Sound) (hcalm : Calm name s a) :
    (step name identity s a).Sound := by
  cases a with
  | tick d => exact fun g => (h g).mono (Nat.le_add_right _ d) fun _ _ _ _ _ _ _ ho => .inl ho
  | start i t =>
    change System.Sound (match s.job i with | .idle => _ | _ => s)
    split
    · exact h
    · exact h
  | proceed i fault => exact h.proceed hcalm
  | sweep g names fault => exact h.sweepStep g names fault

end

/-- In every run in which no write lands between a sweep's listing of a name and its deletion of it, the
collectors delete only what has expired by then. -/
theorem live_tunnels_spared {ν η ι γ : Type} [DecidableEq ν] [DecidableEq η] [DecidableEq ι] [DecidableEq γ]
    (name : ι → ν) (identity : ι → η) (s : System ν η ι γ) (as : List (Action ν ι γ))
    (hstart : ∀ g, s.sweep g = .waiting) (hcalm : EveryStep (step name identity) (Calm name) s as) :
    EveryStep (step name identity) Spares s as := by
  have hsound : s.Sound := fun g => by
    rw [hstart g]
    exact Sweep.sound_waiting
  refine everyStep_of_reached fun pre a hpre => System.Sound.spares ?_ a
  exact hcalm.reaches (fun s a hc hs => hs.step hc) hsound pre ((List.prefix_append pre [a]).trans hpre)

def sweptTunnel : List (Action Unit Unit Unit) :=
  .start () .register :: List.replicate 6 (.proceed () .pass) ++
    [.tick 121000000000,.sweep () [] .pass,.sweep () [()] .pass]

theorem swept_tunnel_spared : (∀ g, ({} : System Unit Unit Unit Unit).sweep g = .waiting) ∧
      EveryStep (step id id) (Calm id) ({} : System Unit Unit Unit Unit) (sweptTunnel ++ [.sweep () [] .pass]) ∧
      EveryStep (step id id) Spares ({} : System Unit Unit Unit Unit) (sweptTunnel ++ [.sweep () [] .pass]) := by
  have hcalm : EveryStep (step id id) (Calm id) ({} : System Unit Unit Unit Unit)
      (sweptTunnel ++ [.sweep () [] .pass]) := by
    refine ⟨trivial,?_,?_,?_,?_,?_,?_,trivial,trivial,trivial,trivial,trivial⟩ <;>
      exact calm_of_waiting fun _ => rfl
  exact ⟨fun _ => rfl,hcalm,live_tunnels_spared id id {} _ (fun _ => rfl) hcalm⟩

/-- The heartbeat refreshes the Service after the sweep has listed it, and the sweep deletes it with two
minutes left. -/
theorem refreshed_service_deleted :
    ((run (step id id) ({} : System Unit Unit Unit Unit) (sweptTunnel ++
        .start () .heartbeat :: List.replicate 6 (.proceed () .pass))).store.content (.service,()) =
      some { expires := .time 241000000000 }) ∧
    ((run (step id id) ({} : System Unit Unit Unit Unit) (sweptTunnel ++
        .start () .heartbeat :: List.replicate 6 (.proceed () .pass))).clock = 121000000000) ∧
    ((run (step id id) ({} : System Unit Unit Unit Unit) (sweptTunnel ++
        .start () .heartbeat :: List.replicate 6 (.proceed () .pass) ++
        [.sweep () [] .pass])).store.content (.service,()) = none) := by
  decide +kernel

end Diverge.Tunnel.Collection
