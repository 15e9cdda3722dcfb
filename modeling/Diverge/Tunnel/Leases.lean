import Diverge.Kube.Versioned
import Diverge.Transition.Runs

/-! Ownership of tunnels. The tunnels for one preview on any number of replicas share a Lease and
three resources; a tunnel registers, renews the Lease and cleans up, and each of its API calls is a
step of its own. -/
namespace Diverge.Tunnel.Leases
open Kube Transition

inductive Kind
  | service
  | endpointSlice
  | endpoints
  deriving DecidableEq

def Kind.next : Kind → Option Kind
  | .service => some .endpointSlice
  | .endpointSlice => some .endpoints
  | .endpoints => none

/-- The holder of the Lease: none, one that is no tunnel of the run, or a tunnel. A holder identity has
the tunnel's own id. -/
inductive Holder (ι : Type)
  | nobody
  | foreign
  | tunnel (i : ι)
  deriving DecidableEq

/-- A resource: the tunnel in its annotation, and for a Service whether it is headless. -/
structure Resource (ι : Type) where
  writer : Option ι
  headless : Bool := false
  deriving DecidableEq

inductive Phase (ι : Type)
  | registering
  | acquiring (found : Option (ℕ × Holder ι))
  | evicting
  | creating (k : Kind)
  | reading (k : Kind)
  | updating (k : Kind) (version : ℕ)
  | replacing
  | recreating
  | storing
  | serving
  | unregistering
  | checking
  | renewing (version : ℕ)
  | deleting (k : Kind)
  | releasing
  | dropping
  | ended
  deriving DecidableEq

inductive Beat (ι : Type)
  | off
  | waiting
  | renewing (version : ℕ)
  | refreshing (k : Kind)
  | rewriting (k : Kind) (version : ℕ) (r : Resource ι)

/-- The shared objects, and for each replica its entry for the preview in the map of tunnels. -/
structure System (ι ρ : Type) where
  lease : Versioned Unit (Holder ι) := {}
  resources : Versioned Kind (Resource ι) := {}
  tunnels : ρ → Option ι := fun _ => none
  phase : ι → Phase ι := fun _ => .registering
  beat : ι → Beat ι := fun _ => .off
  canceled : ι → Bool := fun _ => false
  /-- Tunnels that are in their replica's map or were until another one took the entry. -/
  registered : ι → Bool := fun _ => false
  /-- The position of each tunnel in the order in which the Lease was acquired, from 1. -/
  order : ι → ℕ := fun _ => 0
  clock : ℕ := 0

inductive Action (ι : Type)
  | proceed (i : ι) (fault : Fault)
  | stop (i : ι)
  | beat (i : ι) (fault : Fault)
  | quit (i : ι)

section
variable {ι ρ : Type} [DecidableEq ι] [DecidableEq ρ] (pod : ι → ρ)

def System.goto (s : System ι ρ) (i : ι) (p : Phase ι) : System ι ρ :=
  { s with phase := Function.update s.phase i p }

def System.pulse (s : System ι ρ) (i : ι) (b : Beat ι) : System ι ρ :=
  { s with beat := Function.update s.beat i b }

def System.cancel (s : System ι ρ) (i : ι) : System ι ρ :=
  { s with canceled := Function.update s.canceled i true }

def afterKind (k : Kind) : Phase ι := (k.next.map Phase.creating).getD .storing

def afterDeletion (k : Kind) : Phase ι := (k.next.map Phase.deleting).getD .releasing

/-- The write of `Acquire` and what follows its answer. -/
def acquireWrite (s : System ι ρ) (i : ι) (fault : Fault) (next : Phase ι)
    (call : Versioned Unit (Holder ι) → Except ApiError Unit × Versioned Unit (Holder ι)) : System ι ρ :=
  { s with
    lease := (s.lease.served fault call).2
    order := if s.lease.effective fault call then Function.update s.order i (s.clock + 1) else s.order
    clock := if s.lease.effective fault call then s.clock + 1 else s.clock
    phase := Function.update s.phase i (if (s.lease.served fault call).1.isOk then next else .ended) }

/-- `Acquire`: any error of its read makes it create the Lease. -/
def acquire (s : System ι ρ) (i : ι) (fault : Fault) (found : Option (ℕ × Holder ι)) : System ι ρ :=
  match found with
  | some (version,holder) =>
    acquireWrite s i fault (if holder = .nobody then .creating .service else .evicting)
      (Versioned.update () version (.tunnel i))
  | none => acquireWrite s i fault (.creating .service) (Versioned.create () (.tunnel i))

/-- `evictLocalTunnel`. -/
def evict (s : System ι ρ) (r : ρ) : System ι ρ :=
  match s.tunnels r with
  | some j => { s.cancel j with tunnels := Function.update s.tunnels r none }
  | none => s

def createResource (s : System ι ρ) (i : ι) (fault : Fault) (k : Kind) : System ι ρ :=
  { s with resources := (s.resources.served fault (Versioned.create k ⟨some i,false⟩)).2 }.goto i
    (match (s.resources.served fault (Versioned.create k ⟨some i,false⟩)).1 with
      | .ok _ => afterKind k
      | .error .alreadyExists => .reading k
      | .error _ => .ended)

/-- A headless Service is deleted and created again, everything else is updated. -/
def readResource (s : System ι ρ) (i : ι) (fault : Fault) (k : Kind) : System ι ρ :=
  s.goto i
    (match Versioned.answered fault (s.resources.get k) with
      | .ok (version,r) => if k = .service ∧ r.headless then .replacing else .updating k version
      | .error _ => .ended)

def updateResource (s : System ι ρ) (i : ι) (fault : Fault) (k : Kind) (version : ℕ) : System ι ρ :=
  { s with resources := (s.resources.served fault (Versioned.update k version ⟨some i,false⟩)).2 }.goto i
    (if (s.resources.served fault (Versioned.update k version ⟨some i,false⟩)).1.isOk then afterKind k
      else .ended)

/-- The creation of a Service after a headless one; one that exists by then is left. -/
def recreateService (s : System ι ρ) (i : ι) (fault : Fault) : System ι ρ :=
  { s with resources := (s.resources.served fault (Versioned.create .service ⟨some i,false⟩)).2 }.goto i
    (match (s.resources.served fault (Versioned.create .service ⟨some i,false⟩)).1 with
      | .ok _ => afterKind .service
      | .error .alreadyExists => afterKind .service
      | .error _ => .ended)

def store (s : System ι ρ) (i : ι) : System ι ρ :=
  { s with
    tunnels := Function.update s.tunnels (pod i) (some i)
    registered := Function.update s.registered i true
    beat := Function.update s.beat i .waiting }.goto i .serving

/-- At the end the tunnel leaves the map, if it is still there. -/
def unregister (s : System ι ρ) (i : ι) : System ι ρ :=
  { s with
    tunnels := if s.tunnels (pod i) = some i then Function.update s.tunnels (pod i) none else s.tunnels
    registered := Function.update s.registered i false }.goto i .checking

/-- The read of `Renew` and of `Release`: what follows when the tunnel holds the Lease. -/
def whenHeld (s : System ι ρ) (i : ι) (fault : Fault) (held : ℕ → Phase ι) : System ι ρ :=
  s.goto i
    (match Versioned.answered fault (s.lease.get ()) with
      | .ok (version,holder) => if holder = .tunnel i then held version else .ended
      | .error _ => .ended)

/-- The write of `Renew` in the cleanup. -/
def renew (s : System ι ρ) (i : ι) (fault : Fault) (version : ℕ) : System ι ρ :=
  { s with lease := (s.lease.served fault (Versioned.update () version (.tunnel i))).2 }.goto i
    (if (s.lease.served fault (Versioned.update () version (.tunnel i))).1.isOk then .deleting .service
      else .ended)

/-- `deleteTunnelResources` ignores all errors. -/
def deleteResource (s : System ι ρ) (i : ι) (fault : Fault) (k : Kind) : System ι ρ :=
  { s with resources := (s.resources.served fault (Versioned.delete k)).2 }.goto i (afterDeletion k)

def proceed (s : System ι ρ) (i : ι) (fault : Fault) : System ι ρ :=
  match s.phase i with
  | .registering =>
    s.goto i (.acquiring (match Versioned.answered fault (s.lease.get ()) with
      | .ok copy => some copy
      | .error _ => none))
  | .acquiring found => acquire s i fault found
  | .evicting => (evict s (pod i)).goto i (.creating .service)
  | .creating k => createResource s i fault k
  | .reading k => readResource s i fault k
  | .updating k version => updateResource s i fault k version
  | .replacing =>
    { s with resources := (s.resources.served fault (Versioned.delete .service)).2 }.goto i .recreating
  | .recreating => recreateService s i fault
  | .storing => store pod s i
  | .serving => s
  | .unregistering => unregister pod s i
  | .checking => whenHeld s i fault .renewing
  | .renewing version => renew s i fault version
  | .deleting k => deleteResource s i fault k
  | .releasing => whenHeld s i fault fun _ => .dropping
  | .dropping => { s with lease := (s.lease.served fault (Versioned.delete ())).2 }.goto i .ended
  | .ended => s

def refreshNext (k : Kind) : Beat ι := (k.next.map Beat.refreshing).getD .waiting

/-- The heartbeat: `Renew`, then `refreshTunnelTTL`; without the Lease it cancels the tunnel. -/
def heartbeat (s : System ι ρ) (i : ι) (fault : Fault) : System ι ρ :=
  match s.beat i with
  | .off => s
  | .waiting =>
    match Versioned.answered fault (s.lease.get ()) with
    | .ok (version,holder) =>
      if holder = .tunnel i then s.pulse i (.renewing version) else (s.cancel i).pulse i .off
    | .error _ => (s.cancel i).pulse i .off
  | .renewing version =>
    if (s.lease.served fault (Versioned.update () version (.tunnel i))).1.isOk then
      { s with lease := (s.lease.served fault (Versioned.update () version (.tunnel i))).2 }.pulse i
        (.refreshing .service)
    else
      ({ s with lease := (s.lease.served fault (Versioned.update () version (.tunnel i))).2 }.cancel i).pulse i
        .off
  | .refreshing k =>
    match Versioned.answered fault (s.resources.get k) with
    | .ok (version,r) => s.pulse i (.rewriting k version r)
    | .error _ => s.pulse i (refreshNext k)
  | .rewriting k version r =>
    { s with resources := (s.resources.served fault (Versioned.update k version r)).2 }.pulse i
      (refreshNext k)

/-- A tunnel may stop serving, and its heartbeat end, at any time. -/
def step (s : System ι ρ) : Action ι → System ι ρ
  | .proceed i fault => proceed pod s i fault
  | .stop i => if s.phase i = .serving then s.goto i .unregistering else s
  | .beat i fault => heartbeat s i fault
  | .quit i => s.pulse i .off

end

section
variable {ι ρ : Type} (pod : ι → ρ)

/-- Before the write of `Acquire`. -/
def Phase.acquires : Phase ι → Bool
  | .acquiring _ => true
  | _ => false

/-- Between the write of `Acquire` and the entry in the map. -/
def Phase.midway : Phase ι → Bool
  | .evicting => true
  | .creating _ => true
  | .reading _ => true
  | .updating _ _ => true
  | .replacing => true
  | .recreating => true
  | .storing => true
  | _ => false

/-- Between the write of the cleanup's `Renew` and the deletion of the Lease. -/
def Phase.cleaning : Phase ι → Bool
  | .deleting _ => true
  | .releasing => true
  | .dropping => true
  | _ => false

/-- Between the entry in the map and its removal at the end. -/
def Phase.entered : Phase ι → Bool
  | .serving => true
  | .unregistering => true
  | _ => false

/-- What the next step of a cleanup may delete: no resource of a tunnel that acquired the Lease later,
and no Lease of another tunnel. -/
structure Harmless (s : System ι ρ) (i : ι) : Prop where
  resources : ∀ k r j, s.phase i = .deleting k → s.resources.content k = some r → r.writer = some j →
    s.order j ≤ s.order i
  lease : ∀ j, s.phase i = .dropping → s.lease.content () = some (.tunnel j) → j = i

/-- The map of a replica has none that acquired the Lease before another tunnel registered there. -/
def Newest (s : System ι ρ) : Prop :=
  ∀ r i, s.tunnels r = some i → ∀ j, s.registered j = true → pod j = r → s.order j ≤ s.order i

/-- A tunnel writes the Lease in `Acquire` while no tunnel is cleaning up, and none of its replica is
between its own `Acquire` and the map. -/
def Calm (s : System ι ρ) : Action ι → Prop
  | .proceed j _ => (s.phase j).acquires = true →
      ∀ i, (s.phase i).cleaning = false ∧ (pod i = pod j → (s.phase i).midway = false)
  | _ => True

/-- The Lease and the orders of the tunnels that rely on it. -/
structure Fenced (s : System ι ρ) : Prop where
  numbered : s.lease.Numbered
  bound : ∀ i, s.order i ≤ s.clock
  distinct : ∀ i j, s.order i = s.order j → s.order i ≠ 0 → i = j
  holder : ∀ i, s.lease.content () = some (.tunnel i) → s.order i ≠ 0 ∧ ∀ j, s.order j ≤ s.order i
  renewing : ∀ i v, s.phase i = .renewing v → s.lease.Copy () v (.tunnel i)
  beating : ∀ i v, s.beat i = .renewing v → s.lease.Copy () v (.tunnel i)
  cleaning : ∀ i, (s.phase i).cleaning = true → ∀ j, s.order j ≤ s.order i
  midway : ∀ i, (s.phase i).midway = true → ∀ j, pod j = pod i → s.order j ≤ s.order i
  registered : ∀ i, s.registered i = true → (s.phase i).entered = true
  mapped : ∀ r i, s.tunnels r = some i → pod i = r ∧ s.registered i = true
  newest : Newest pod s

variable {pod} {s : System ι ρ} {i : ι}

lemma Fenced.harmless (hs : Fenced pod s) (i : ι) : Harmless s i where
  resources k r j hphase _ _ := hs.cleaning i (by rw [hphase]; rfl) j
  lease j hphase hheld := by
    obtain ⟨hne,hmax⟩ := hs.holder j hheld
    have hlast := hs.cleaning i (by rw [hphase]; rfl) j
    exact hs.distinct j i (Nat.le_antisymm hlast (hmax i)) hne

lemma Fenced.withResources (hs : Fenced pod s) (resources : Versioned Kind (Resource ι)) :
    Fenced pod { s with resources := resources } :=
  ⟨hs.numbered,hs.bound,hs.distinct,hs.holder,hs.renewing,hs.beating,hs.cleaning,hs.midway,hs.registered,
    hs.mapped,hs.newest⟩

lemma Fenced.renewed (hs : Fenced pod s) {v : ℕ} (hcopy : s.lease.Copy () v (.tunnel i))
    {b : Holder ι} (hb : s.lease.objects () = some (v,b)) :
    Fenced pod { s with lease := s.lease.put () (.tunnel i) } := by
  refine ⟨hs.numbered.put _ _,hs.bound,hs.distinct,fun j hj => ?_,fun j v hj => (hs.renewing j v hj).put _ _,
    fun j v hj => (hs.beating j v hj).put _ _,hs.cleaning,hs.midway,hs.registered,hs.mapped,hs.newest⟩
  rw [Versioned.content_put_self] at hj
  obtain rfl : i = j := Holder.tunnel.inj (Option.some.inj hj)
  exact hs.holder i (hcopy.content hb)

lemma Fenced.dropped (hs : Fenced pod s) : Fenced pod { s with lease := s.lease.remove () } := by
  refine ⟨hs.numbered.remove _,hs.bound,hs.distinct,fun j hj => ?_,
    fun j v hj => (hs.renewing j v hj).remove _,fun j v hj => (hs.beating j v hj).remove _,hs.cleaning,
    hs.midway,hs.registered,hs.mapped,hs.newest⟩
  rw [Versioned.content_remove_self] at hj
  cases hj

variable [DecidableEq ι]

lemma Fenced.cancel (hs : Fenced pod s) (i : ι) : Fenced pod (s.cancel i) :=
  ⟨hs.numbered,hs.bound,hs.distinct,hs.holder,hs.renewing,hs.beating,hs.cleaning,hs.midway,hs.registered,
    hs.mapped,hs.newest⟩

lemma Fenced.pulse (hs : Fenced pod s) {b : Beat ι} (hb : ∀ v, b = .renewing v → s.lease.Copy () v (.tunnel i)) :
    Fenced pod (s.pulse i b) := by
  refine ⟨hs.numbered,hs.bound,hs.distinct,hs.holder,hs.renewing,?_,hs.cleaning,hs.midway,hs.registered,
    hs.mapped,hs.newest⟩
  exact (Function.forall_update_iff s.beat fun j b => ∀ v, b = .renewing v → s.lease.Copy () v (.tunnel j)).mpr
    ⟨hb,fun j _ => hs.beating j⟩

lemma Fenced.goto (hs : Fenced pod s) {p : Phase ι}
    (hrenew : ∀ v, p = .renewing v → s.lease.Copy () v (.tunnel i))
    (hclean : p.cleaning = true → ∀ j, s.order j ≤ s.order i)
    (hmidway : p.midway = true → ∀ j, pod j = pod i → s.order j ≤ s.order i)
    (hentered : s.registered i = true → p.entered = true) : Fenced pod (s.goto i p) where
  numbered := hs.numbered
  bound := hs.bound
  distinct := hs.distinct
  holder := hs.holder
  renewing := (Function.forall_update_iff s.phase fun j q => ∀ v, q = .renewing v →
    s.lease.Copy () v (.tunnel j)).mpr ⟨hrenew,fun j _ => hs.renewing j⟩
  beating := hs.beating
  cleaning := (Function.forall_update_iff s.phase fun j q => q.cleaning = true → ∀ k, s.order k ≤ s.order j).mpr
    ⟨hclean,fun j _ => hs.cleaning j⟩
  midway := (Function.forall_update_iff s.phase fun j q => q.midway = true → ∀ k, pod k = pod j →
    s.order k ≤ s.order j).mpr ⟨hmidway,fun j _ => hs.midway j⟩
  registered := (Function.forall_update_iff s.phase fun j q => s.registered j = true → q.entered = true).mpr
    ⟨hentered,fun j _ => hs.registered j⟩
  mapped := hs.mapped
  newest := hs.newest

end

section
variable {ι ρ : Type} {pod : ι → ρ} {s : System ι ρ} {i : ι} {fault : Fault}

variable {p : Phase ι} {version : ℕ} {k : Kind}

lemma Phase.of_midway (hp : p.midway = true ∨ p = .ended) :
    (∀ v, p ≠ .renewing v) ∧ p.cleaning = false ∧ p.entered = false := by
  rcases hp with hp | rfl
  · cases p <;> simp_all [Phase.midway,Phase.cleaning,Phase.entered]
  · simp [Phase.cleaning,Phase.entered]

lemma Fenced.not_registered (hs : Fenced pod s) (hi : (s.phase i).entered = false) :
    s.registered i ≠ true := fun hreg => absurd ((hs.registered i hreg).symm.trans hi) (by decide)

lemma Fenced.copy_of_get (hs : Fenced pod s) {holder : Holder ι}
    (h : Versioned.answered fault (s.lease.get ()) = .ok (version,holder)) : s.lease.Copy () version holder :=
  hs.numbered.copy (Versioned.get_ok.mp (Versioned.answered_ok h))

lemma Fenced.renewWrite (hs : Fenced pod s) (fault : Fault) (hcopy : s.lease.Copy () version (.tunnel i)) :
    Fenced pod { s with lease := (s.lease.served fault (Versioned.update () version (.tunnel i))).2 } ∧
      ((s.lease.served fault (Versioned.update () version (.tunnel i))).1.isOk = true →
        ∀ j, s.order j ≤ s.order i) := by
  rcases Versioned.served_update fault () version (.tunnel i) s.lease with ⟨-,⟨b,hb⟩,hlease⟩ | ⟨hno,hlease⟩
  · rw [hlease]
    exact ⟨hs.renewed hcopy hb,fun _ => (hs.holder i (hcopy.content hb)).2⟩
  · rw [hlease]
    refine ⟨hs,fun hok => ?_⟩
    cases hanswer : (s.lease.served fault (Versioned.update () version (.tunnel i))).1 with
    | ok b => exact absurd (hno.symm.trans (Versioned.effective_of_ok hanswer)) (by decide)
    | error e =>
      rw [hanswer] at hok
      cases hok

variable [DecidableEq ι]

section
variable (hs : Fenced pod s)
include hs

lemma Fenced.midwayTo (hi : (s.phase i).midway = true)
    (hp : p.midway = true ∨ p = .ended) : Fenced pod (s.goto i p) := by
  obtain ⟨-,-,hout⟩ := Phase.of_midway (.inl hi)
  obtain ⟨hrenew,hclean,-⟩ := Phase.of_midway hp
  refine hs.goto (fun v hv => absurd hv (hrenew v)) (fun hcleans => ?_) (fun _ => hs.midway i hi)
    (fun hreg => absurd hreg (hs.not_registered hout))
  exact absurd (hcleans.symm.trans hclean) (by decide)

section
variable (hi : (s.phase i).entered = false)
include hi

lemma Fenced.toEnd : Fenced pod (s.goto i .ended) :=
  hs.goto (fun _ h => by cases h) (fun h => by cases h) (fun h => by cases h)
    (fun hreg => absurd hreg (hs.not_registered hi))

lemma Fenced.acquired
    (hcalm : ∀ j, (s.phase j).cleaning = false ∧ (pod j = pod i → (s.phase j).midway = false))
    {p : Phase ι} (hp : p.midway = true ∨ p = .ended) : Fenced pod { s with
      lease := s.lease.put () (.tunnel i)
      order := Function.update s.order i (s.clock + 1)
      clock := s.clock + 1
      phase := Function.update s.phase i p } := by
  obtain ⟨hrenew,hclean,-⟩ := Phase.of_midway hp
  have hself : Function.update s.order i (s.clock + 1) i = s.clock + 1 := Function.update_self _ _ _
  have hother : ∀ {j}, j ≠ i → Function.update s.order i (s.clock + 1) j = s.order j :=
    fun hj => Function.update_of_ne hj _ _
  have hlast : ∀ j, Function.update s.order i (s.clock + 1) j ≤ s.clock + 1 :=
    (Function.forall_update_iff s.order fun _ n => n ≤ s.clock + 1).mpr
      ⟨Nat.le_refl _,fun j _ => Nat.le_succ_of_le (hs.bound j)⟩
  have hphase : ∀ {j}, j ≠ i → Function.update s.phase i p j = s.phase j :=
    fun hj => Function.update_of_ne hj _ _
  have hout : ∀ {j}, s.registered j = true → j ≠ i := fun hreg hji =>
    hs.not_registered hi (hji ▸ hreg)
  constructor
  · exact hs.numbered.put _ _
  · exact hlast
  · intro j k hjk hne
    dsimp only at hjk hne
    by_cases hji : j = i
    · by_cases hki : k = i
      · rw [hji,hki]
      · rw [hji,hself,hother hki] at hjk
        have hk := hs.bound k
        omega
    · rw [hother hji] at hjk hne
      by_cases hki : k = i
      · rw [hki,hself] at hjk
        have hj := hs.bound j
        omega
      · rw [hother hki] at hjk
        exact hs.distinct j k hjk hne
  · intro j hj
    rw [Versioned.content_put_self] at hj
    obtain rfl := Holder.tunnel.inj (Option.some.inj hj)
    dsimp only
    rw [hself]
    exact ⟨Nat.succ_ne_zero _,hlast⟩
  · exact (Function.forall_update_iff s.phase fun j q => ∀ v, q = .renewing v →
      (s.lease.put () (.tunnel i)).Copy () v (.tunnel j)).mpr
      ⟨fun v hv => absurd hv (hrenew v),fun j _ v hj => (hs.renewing j v hj).put _ _⟩
  · exact fun j v hj => (hs.beating j v hj).put _ _
  · have hnone : ∀ j, (Function.update s.phase i p j).cleaning = false :=
      (Function.forall_update_iff s.phase fun _ q => q.cleaning = false).mpr ⟨hclean,fun j _ => (hcalm j).1⟩
    exact fun j hj => absurd (hj.symm.trans (hnone j)) (by decide)
  · intro j hj k hk
    dsimp only at hj ⊢
    by_cases hji : j = i
    · rw [hji,hself]
      exact hlast k
    · rw [hphase hji] at hj
      have hki : k ≠ i := by
        rintro rfl
        exact absurd (hj.symm.trans ((hcalm j).2 hk.symm)) (by decide)
      rw [hother hji,hother hki]
      exact hs.midway j hj k hk
  · intro j hreg
    dsimp only
    rw [hphase (hout hreg)]
    exact hs.registered j hreg
  · exact hs.mapped
  · intro r j hj k hreg hk
    dsimp only
    rw [hother (hout (hs.mapped r j hj).2),hother (hout hreg)]
    exact hs.newest r j hj k hreg hk

lemma Fenced.acquireWrite
    (hcalm : ∀ j, (s.phase j).cleaning = false ∧ (pod j = pod i → (s.phase j).midway = false))
    {next : Phase ι} (hnext : next.midway = true)
    {call : Versioned Unit (Holder ι) → Except ApiError Unit × Versioned Unit (Holder ι)}
    (hcall : (s.lease.effective fault call = true ∧ (s.lease.served fault call).2 = s.lease.put () (.tunnel i)) ∨
      (s.lease.effective fault call = false ∧ (s.lease.served fault call).2 = s.lease)) :
    Fenced pod (acquireWrite s i fault next call) := by
  unfold Leases.acquireWrite
  rcases hcall with ⟨heffect,hlease⟩ | ⟨heffect,hlease⟩
  · rw [heffect,hlease]
    refine hs.acquired hi hcalm ?_
    split_ifs
    · exact .inl hnext
    · exact .inr rfl
  · have hanswer : (s.lease.served fault call).1.isOk = false := by
      cases hok : (s.lease.served fault call).1 with
      | ok b => exact absurd (heffect.symm.trans (Versioned.effective_of_ok hok)) (by decide)
      | error e => rfl
    rw [heffect,hlease,hanswer]
    exact hs.toEnd hi

lemma Fenced.whenHeld {held : ℕ → Phase ι}
    (hheld : ∀ version, s.lease.Copy () version (.tunnel i) → Fenced pod (s.goto i (held version))) :
    Fenced pod (whenHeld s i fault held) := by
  unfold Leases.whenHeld
  cases hget : Versioned.answered fault (s.lease.get ()) with
  | error e => exact hs.toEnd hi
  | ok copy =>
    obtain ⟨version,holder⟩ := copy
    dsimp only
    split_ifs with hholder
    · subst hholder
      exact hheld version (hs.copy_of_get hget)
    · exact hs.toEnd hi

end

omit hs in
omit [DecidableEq ι] in
lemma refreshNext_ne_renewing (k : Kind) (v : ℕ) : (refreshNext k : Beat ι) ≠ .renewing v := by
  cases k <;> simp [refreshNext,Kind.next]

lemma Fenced.heartbeat : Fenced pod (heartbeat s i fault) := by
  unfold Leases.heartbeat
  cases hbeat : s.beat i with
  | off => exact hs
  | waiting =>
    dsimp only
    cases hget : Versioned.answered fault (s.lease.get ()) with
    | error e => exact (hs.cancel i).pulse fun _ h => by cases h
    | ok copy =>
      obtain ⟨version,holder⟩ := copy
      dsimp only
      split_ifs with hholder
      · subst hholder
        refine hs.pulse fun v hv => ?_
        cases hv
        exact hs.copy_of_get hget
      · exact (hs.cancel i).pulse fun _ h => by cases h
  | renewing version =>
    have hnext := (hs.renewWrite fault (hs.beating i version hbeat)).1
    dsimp only
    split_ifs
    · exact hnext.pulse fun _ h => by cases h
    · exact (hnext.cancel i).pulse fun _ h => by cases h
  | refreshing k =>
    dsimp only
    split
    · exact hs.pulse fun _ h => by cases h
    · exact hs.pulse fun v h => absurd h (refreshNext_ne_renewing k v)
  | rewriting k version r =>
    exact (hs.withResources _).pulse fun v h => absurd h (refreshNext_ne_renewing k v)

omit hs in
omit [DecidableEq ι] in
lemma midway_afterKind (k : Kind) : (afterKind k : Phase ι).midway = true := by
  cases k <;> rfl

section
variable (hi : (s.phase i).midway = true)
include hi

lemma Fenced.createResource : Fenced pod (createResource s i fault k) := by
  unfold Leases.createResource
  refine (hs.withResources _).midwayTo ?_ ?_
  · exact hi
  split
  · exact .inl (midway_afterKind k)
  · exact .inl rfl
  · exact .inr rfl

lemma Fenced.readResource : Fenced pod (readResource s i fault k) := by
  refine hs.midwayTo hi ?_
  split
  · split_ifs
    · exact .inl rfl
    · exact .inl rfl
  · exact .inr rfl

lemma Fenced.updateResource : Fenced pod (updateResource s i fault k version) := by
  unfold Leases.updateResource
  refine (hs.withResources _).midwayTo ?_ ?_
  · exact hi
  split_ifs
  · exact .inl (midway_afterKind k)
  · exact .inr rfl

lemma Fenced.recreateService : Fenced pod (recreateService s i fault) := by
  unfold Leases.recreateService
  refine (hs.withResources _).midwayTo ?_ ?_
  · exact hi
  split
  · exact .inl (midway_afterKind .service)
  · exact .inl (midway_afterKind .service)
  · exact .inr rfl

end

lemma Fenced.cleaningTo (hi : (s.phase i).cleaning = true)
    (hp : p.cleaning = true) : Fenced pod (s.goto i p) := by
  have hout : (s.phase i).entered = false := by
    cases hphase : s.phase i <;> simp_all [Phase.cleaning,Phase.entered]
  refine hs.goto (fun v hv => ?_) (fun _ => hs.cleaning i hi) (fun hmid => ?_)
    (fun hreg => absurd hreg (hs.not_registered hout))
  · rw [hv] at hp
    cases hp
  · exact absurd (hp.symm.trans (Phase.of_midway (.inl hmid)).2.1) (by decide)

end

variable [DecidableEq ρ]

lemma Fenced.evict (hs : Fenced pod s) (r : ρ) : Fenced pod (evict s r) := by
  unfold Leases.evict
  cases hr : s.tunnels r with
  | none => exact hs
  | some j =>
    have hold : ∀ {r' k}, Function.update s.tunnels r none r' = some k → s.tunnels r' = some k := by
      intro r' k h
      by_cases hrr : r' = r
      · rw [hrr,Function.update_self] at h
        cases h
      · rwa [Function.update_of_ne hrr] at h
    exact ⟨hs.numbered,hs.bound,hs.distinct,hs.holder,hs.renewing,hs.beating,hs.cleaning,hs.midway,
      hs.registered,fun r' k h => hs.mapped r' k (hold h),fun r' k h => hs.newest r' k (hold h)⟩

lemma Fenced.store (hs : Fenced pod s) (hi : s.phase i = .storing) : Fenced pod (store pod s i) := by
  have hlast := hs.midway i (by rw [hi]; rfl)
  have hserves : Fenced pod ((s.goto i .serving).pulse i .waiting) :=
    (hs.goto (fun _ h => by cases h) (fun h => by cases h) (fun h => by cases h) fun _ => rfl).pulse
      fun _ h => by cases h
  refine ⟨hs.numbered,hs.bound,hs.distinct,hs.holder,hserves.renewing,hserves.beating,hserves.cleaning,
    hserves.midway,?_,?_,?_⟩
  · refine (Function.forall_update_iff s.registered fun j b => b = true →
      (Function.update s.phase i .serving j).entered = true).mpr ⟨fun _ => ?_,fun j _ => hserves.registered j⟩
    rw [Function.update_self]
    rfl
  · intro r j hj
    change Function.update s.tunnels (pod i) (some i) r = some j at hj
    change pod j = r ∧ Function.update s.registered i true j = true
    by_cases hr : r = pod i
    · rw [hr,Function.update_self] at hj
      obtain rfl := Option.some.inj hj
      exact ⟨hr.symm,Function.update_self _ _ _⟩
    · rw [Function.update_of_ne hr] at hj
      obtain ⟨hpod,hreg⟩ := hs.mapped r j hj
      have hji : j ≠ i := fun hji => hr (hji ▸ hpod.symm)
      exact ⟨hpod,by rwa [Function.update_of_ne hji]⟩
  · intro r j hj k hreg hk
    change Function.update s.tunnels (pod i) (some i) r = some j at hj
    change Function.update s.registered i true k = true at hreg
    by_cases hr : r = pod i
    · rw [hr,Function.update_self] at hj
      obtain rfl := Option.some.inj hj
      exact hlast k (hk.trans hr)
    · have hki : k ≠ i := fun hki => hr (hki ▸ hk.symm)
      rw [Function.update_of_ne hr] at hj
      rw [Function.update_of_ne hki] at hreg
      exact hs.newest r j hj k hreg hk

lemma Fenced.unregister (hs : Fenced pod s) : Fenced pod (unregister pod s i) := by
  have hold : ∀ {r j}, (if s.tunnels (pod i) = some i then Function.update s.tunnels (pod i) none
      else s.tunnels) r = some j → s.tunnels r = some j ∧ j ≠ i := by
    intro r j h
    split_ifs at h with hin
    · by_cases hr : r = pod i
      · rw [hr,Function.update_self] at h
        cases h
      · rw [Function.update_of_ne hr] at h
        exact ⟨h,fun hji => hr (hji ▸ (hs.mapped r j h).1.symm)⟩
    · refine ⟨h,fun hji => hin ?_⟩
      rw [hji] at h
      rwa [(hs.mapped r i h).1]
  have hreg : ∀ {j}, Function.update s.registered i false j = true → j ≠ i ∧ s.registered j = true := by
    intro j h
    by_cases hji : j = i
    · rw [hji,Function.update_self] at h
      cases h
    · rw [Function.update_of_ne hji] at h
      exact ⟨hji,h⟩
  have hleft : Fenced pod { s with
      tunnels := if s.tunnels (pod i) = some i then Function.update s.tunnels (pod i) none else s.tunnels
      registered := Function.update s.registered i false } := by
    refine ⟨hs.numbered,hs.bound,hs.distinct,hs.holder,hs.renewing,hs.beating,hs.cleaning,hs.midway,
      fun j hj => hs.registered j (hreg hj).2,fun r j hj => ?_,fun r j hj k hk => ?_⟩
    · obtain ⟨hj,hji⟩ := hold hj
      obtain ⟨hpod,hin⟩ := hs.mapped r j hj
      refine ⟨hpod,?_⟩
      change Function.update s.registered i false j = true
      rwa [Function.update_of_ne hji]
    · exact hs.newest r j (hold hj).1 k (hreg hk).2
  refine hleft.goto (fun _ h => by cases h) (fun h => by cases h) (fun h => by cases h) (fun h => ?_)
  exact absurd rfl (hreg h).1

@[simp] lemma evict_phase (r : ρ) : (evict s r).phase = s.phase := by
  unfold evict
  split <;> rfl

lemma Fenced.proceed (hs : Fenced pod s) (hcalm : Calm pod s (.proceed i fault)) :
    Fenced pod (proceed pod s i fault) := by
  have hout : ∀ {p}, s.phase i = p → p.entered = false → (s.phase i).entered = false :=
    fun hphase hp => (congrArg Phase.entered hphase).trans hp
  unfold Leases.proceed
  cases hphase : s.phase i with
  | registering =>
    exact hs.goto (fun _ h => by cases h) (fun h => by cases h) (fun h => by cases h)
      (fun hreg => absurd hreg (hs.not_registered (hout hphase rfl)))
  | acquiring found =>
    change Fenced pod (acquire s i fault found)
    unfold acquire
    cases found with
    | none =>
      refine hs.acquireWrite (hout hphase rfl) (hcalm (by rw [hphase]; rfl)) rfl ?_
      exact (Versioned.served_create fault () (.tunnel i) s.lease).imp_left fun h => ⟨h.1,h.2.2⟩
    | some copy =>
      obtain ⟨version,holder⟩ := copy
      refine hs.acquireWrite (hout hphase rfl) (hcalm (by rw [hphase]; rfl)) (by split_ifs <;> rfl) ?_
      exact (Versioned.served_update fault () version (.tunnel i) s.lease).imp_left fun h => ⟨h.1,h.2.2⟩
  | evicting =>
    refine (hs.evict (pod i)).midwayTo ?_ (.inl rfl)
    rw [evict_phase,hphase]
    rfl
  | creating k => exact hs.createResource (by rw [hphase]; rfl)
  | reading k => exact hs.readResource (by rw [hphase]; rfl)
  | updating k version => exact hs.updateResource (by rw [hphase]; rfl)
  | replacing => exact (hs.withResources _).midwayTo (by rw [hphase]; rfl) (.inl rfl)
  | recreating => exact hs.recreateService (by rw [hphase]; rfl)
  | storing => exact hs.store hphase
  | serving | ended => exact hs
  | unregistering => exact hs.unregister
  | checking =>
    refine hs.whenHeld (hout hphase rfl) fun version hcopy => hs.goto (fun v hv => ?_) (fun h => by cases h)
      (fun h => by cases h) (fun hreg => absurd hreg (hs.not_registered (hout hphase rfl)))
    cases hv
    exact hcopy
  | renewing version =>
    obtain ⟨hnext,hlast⟩ := hs.renewWrite fault (hs.renewing i version hphase)
    change Fenced pod (renew s i fault version)
    unfold renew
    split_ifs with hok
    · exact hnext.goto (fun _ h => by cases h) (fun _ => hlast hok) (fun h => by cases h)
        (fun hreg => absurd hreg (hs.not_registered (hout hphase rfl)))
    · exact hnext.toEnd (hout hphase rfl)
  | deleting k =>
    refine (hs.withResources _).cleaningTo (by rw [hphase]; rfl) ?_
    cases k <;> rfl
  | releasing =>
    have hin : (s.phase i).cleaning = true := by
      rw [hphase]
      rfl
    exact hs.whenHeld (by rw [hphase]; rfl) fun _ _ => hs.cleaningTo hin rfl
  | dropping =>
    dsimp only
    rcases Versioned.served_cases fault s.lease (Versioned.delete ()) with h | h
    · rw [h]
      exact hs.toEnd (hout hphase rfl)
    · rw [h]
      rcases Versioned.delete_cases () s.lease with h | h
      · rw [h]
        exact hs.toEnd (hout hphase rfl)
      · rw [h]
        exact hs.dropped.toEnd (hout hphase rfl)

lemma fenced_step (hs : Fenced pod s) {a : Action ι} (hcalm : Calm pod s a) : Fenced pod (step pod s a) := by
  cases a with
  | proceed i fault => exact hs.proceed hcalm
  | stop i =>
    unfold step
    dsimp only
    split_ifs with hserving
    · exact hs.goto (fun _ h => by cases h) (fun h => by cases h) (fun h => by cases h) (fun _ => rfl)
    · exact hs
  | beat i fault => exact hs.heartbeat
  | quit i => exact hs.pulse fun _ h => by cases h

end

variable {ι ρ : Type} {pod : ι → ρ}

/-- Before all tunnels: the Lease may be there, but none of them holds it. -/
structure Opening (s : System ι ρ) : Prop where
  numbered : s.lease.Numbered
  free : ∀ i, s.lease.content () ≠ some (.tunnel i)
  unordered : ∀ i, s.order i = 0
  unmapped : ∀ r, s.tunnels r = none
  unregistered : ∀ i, s.registered i = false
  waiting : ∀ i, s.phase i = .registering ∧ s.beat i = .off

lemma Opening.fenced {s : System ι ρ} (hs : Opening s) : Fenced pod s where
  numbered := hs.numbered
  bound i := by
    rw [hs.unordered i]
    exact Nat.zero_le _
  distinct i _ _ hne := absurd (hs.unordered i) hne
  holder i h := absurd h (hs.free i)
  renewing i _ h := by cases (hs.waiting i).1.symm.trans h
  beating i _ h := by cases (hs.waiting i).2.symm.trans h
  cleaning i h := by
    rw [(hs.waiting i).1] at h
    cases h
  midway i h := by
    rw [(hs.waiting i).1] at h
    cases h
  registered i h := by cases (hs.unregistered i).symm.trans h
  mapped r _ h := by cases (hs.unmapped r).symm.trans h
  newest r _ h := by cases (hs.unmapped r).symm.trans h

variable [DecidableEq ι] [DecidableEq ρ]

/-- In every interleaving in which a Lease is acquired only while no tunnel cleans up and none of the
same replica is between its own `Acquire` and the map: no cleanup deletes a resource of a tunnel that
acquired the Lease later or the Lease of another tunnel, and no map goes back to an earlier tunnel. -/
theorem tunnels_fenced {start : System ι ρ} (hstart : Opening start) (actions : List (Action ι))
    (hcalm : EveryStep (step pod) (Calm pod) start actions) :
    ∀ pre, pre <+: actions → (∀ i, Harmless (run (step pod) start pre) i) ∧
      Newest pod (run (step pod) start pre) := by
  intro pre hpre
  have hfenced : Fenced pod (run (step pod) start pre) :=
    hcalm.reaches (fun _ _ hC hs => fenced_step hs hC) hstart.fenced pre hpre
  exact ⟨hfenced.harmless,hfenced.newest⟩

def steps (i : ι) (n : ℕ) : List (Action ι) := List.replicate n (.proceed i .pass)

instance decidableCalm (pod : Bool → ρ) (s : System Bool ρ) : ∀ a, Decidable (Calm pod s a)
  | .proceed j _ => inferInstanceAs (Decidable ((s.phase j).acquires = true →
      ∀ i, (s.phase i).cleaning = false ∧ (pod i = pod j → (s.phase i).midway = false)))
  | .stop _ => .isTrue trivial
  | .beat _ _ => .isTrue trivial
  | .quit _ => .isTrue trivial

def oneAfterTheOther : List (Action Bool) :=
  steps false 6 ++ [.beat false .pass,.beat false .pass,.stop false] ++ steps false 8 ++ steps true 6

theorem second_tunnel_serves :
    (∀ i, Harmless (run (step fun _ : Bool => ()) {} oneAfterTheOther) i) ∧
      Newest (fun _ => ()) (run (step fun _ : Bool => ()) {} oneAfterTheOther) ∧
      (run (step fun _ : Bool => ()) {} oneAfterTheOther).tunnels () = some true := by
  have hopening : Opening ({} : System Bool Unit) :=
    ⟨fun _ _ _ h => absurd h (by simp),fun _ => by simp [Versioned.content],fun _ => rfl,fun _ => rfl,
      fun _ => rfl,fun _ => ⟨rfl,rfl⟩⟩
  have hfenced : (∀ i, Harmless (run (step fun _ : Bool => ()) {} oneAfterTheOther) i) ∧
      Newest (fun _ => ()) (run (step fun _ : Bool => ()) {} oneAfterTheOther) :=
    tunnels_fenced hopening oneAfterTheOther (by decide +kernel) _ (List.prefix_refl _)
  exact ⟨hfenced.1,hfenced.2,by decide +kernel⟩

def duringCleanup : List (Action Bool) := steps false 6 ++ [.stop false] ++ steps false 3 ++ steps true 13

/-- The first tunnel deletes the Service of the second one. -/
theorem newer_service_deleted :
    (run (step (id : Bool → Bool)) {} duringCleanup).resources.content .service = some ⟨some true,false⟩ ∧
      (run (step (id : Bool → Bool)) {} (duringCleanup ++ steps false 1)).resources.content .service = none ∧
      ¬Harmless (run (step (id : Bool → Bool)) {} duringCleanup) false := by
  have hstored : (run (step (id : Bool → Bool)) {} duringCleanup).resources.content .service =
      some ⟨some true,false⟩ := by decide +kernel
  refine ⟨hstored,by decide +kernel,fun hharmless => ?_⟩
  have hle := hharmless.resources .service ⟨some true,false⟩ true (by decide +kernel) hstored rfl
  exact absurd hle (by decide +kernel)

end Diverge.Tunnel.Leases
