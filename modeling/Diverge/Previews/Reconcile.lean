import Diverge.Environments.Lifetime
import Diverge.Previews.Children

/-! The reconcile of a preview group, and the moment at which it asks to be run again. The time to live,
the lease and the services each ask for a run of their own. -/
namespace Diverge.Previews
open Environments Kube
open Tasks (Condition second)

def countIn (phase : EnvironmentPhase) (statuses : List ServiceStatus) : ℕ :=
  statuses.countP fun s => s.phase == phase

def derivePreviewGroupPhase (statuses : List ServiceStatus) : PreviewGroupPhase :=
  if statuses = [] then .pending
  else if countIn .running statuses = statuses.length then .running
  else if countIn .failed statuses = statuses.length then .failed
  else if 0 < countIn .failed statuses then .degraded
  else if 0 < countIn .deploying statuses then .deploying
  else .pending

def readyCondition (phase : PreviewGroupPhase) (serviceCount : ℕ) : Condition :=
  match phase with
  | .running => ⟨"Ready","True","AllServicesRunning","All " ++ toString serviceCount ++ " services are running"⟩
  | .degraded => ⟨"Ready","False","ServicesDegraded","Some services are not running"⟩
  | .failed => ⟨"Ready","False","ServicesFailed","All services have failed"⟩
  | _ => ⟨"Ready","False","ServicesProvisioning","Services are being provisioned"⟩

section

def previewGroupFinalizer : String := "divergedev.com/previewgroup-protection"

def leaseDuration : ℤ := 90 * second

/-- How a run without an error ends: with a delay, zero where it asks for none, and with the status it
patched, if it did. -/
structure Result where
  requeueAfter : ℤ := 0
  patched : Option GroupStatus := none
  deriving DecidableEq

variable (r : Controller) (sur : Surroundings) (pg : PreviewGroup)

/-- The deletion of the children in a teardown, where failures are only logged. -/
def deleteChildren : List Child → Store → Store
  | [],store => store
  | env :: rest,store =>
    deleteChildren rest
      (if env.deleting then store
        else
          match sur.delete store env.key with
          | .ok _ => store.delete env.key
          | .error _ => store)

def handleTeardown (store : Store) : Except String Result × Store :=
  if previewGroupFinalizer ∉ pg.finalizers then (.ok {},store)
  else
    match sur.cleanupRoutes with
    | .error e => (.error e,store)
    | .ok _ =>
      match listChildEnvironments sur pg store with
      | .error e => (.error ("failed to list child Environments: " ++ sur.describe e),store)
      | .ok [] =>
        match sur.updateGroup with
        | .error e => (.error ("failed to remove finalizer: " ++ e),store)
        | .ok _ => (.ok {},store)
      | .ok (env :: rest) => (.ok { requeueAfter := 2 * second },deleteChildren sur (env :: rest) store)

def groupCreatedAt : ℤ := pg.status.createdAt.getD sur.now

def groupExpiry : Option ℤ :=
  (pg.spec.lifecycle.bind GroupLifecycle.ttl).map fun ttl => groupCreatedAt sur pg + ttl.toInt

def leaseExpiry : Option ℤ := pg.status.leaseRenewedAt.map (· + leaseDuration)

/-- The status with the timestamps of the run. -/
def stampedStatus : GroupStatus :=
  { pg.status with
    observedGeneration := pg.generation
    createdAt := some (groupCreatedAt sur pg)
    expiresAt := (groupExpiry sur pg).or pg.status.expiresAt }

def timeUntil (t : ℤ) : ℤ := (timeSub t sur.now).toInt

/-- The delay for the time to live, zero where there is none. -/
def ttlDelay : ℤ := ((groupExpiry sur pg).map (timeUntil sur)).getD 0

/-- The delay that the time to live and the lease ask for together. -/
def expiryDelay : ℤ :=
  match leaseExpiry pg with
  | none => ttlDelay sur pg
  | some t =>
    if ttlDelay sur pg = 0 ∨ timeUntil sur t < ttlDelay sur pg then timeUntil sur t else ttlDelay sur pg

def deleteGroup (kind : String) : Except String Result :=
  match sur.cleanupRoutes with
  | .error e => .error e
  | .ok _ =>
    match sur.deleteGroup with
    | .error e => .error ("failed to delete " ++ kind ++ " PreviewGroup: " ++ e)
    | .ok _ => .ok {}

def patchGroup (status : GroupStatus) (requeueAfter : ℤ) : Except String Result :=
  match sur.patchStatus with
  | .error e => .error ("failed to update PreviewGroup status: " ++ e)
  | .ok _ => .ok ⟨requeueAfter,some status⟩

def invalidNameStatus : GroupStatus :=
  { stampedStatus sur pg with
    phase := .failed
    conditions := Tasks.setCondition pg.status.conditions
      ⟨"Ready","False","InvalidName","PreviewGroup name " ++ sur.quote pg.name ++
        " is invalid as a label value: " ++ sur.describeLabel pg.name⟩ }

def servicesStatus (statuses : List ServiceStatus) : GroupStatus :=
  { stampedStatus sur pg with
    services := statuses
    serviceCount := pg.spec.services.length
    phase := derivePreviewGroupPhase statuses
    conditions := Tasks.setCondition pg.status.conditions
      (readyCondition (derivePreviewGroupPhase statuses) pg.spec.services.length) }

def finalDelay (resync : Bool) : ℤ :=
  if 0 < expiryDelay sur pg then expiryDelay sur pg else if resync then 1 * second else 0

def reconcileChildren (store : Store) : Except String Result × Store :=
  match reconcileServices r sur pg pg.spec.services store with
  | (.error e,store') => (.error e,store')
  | (.ok statuses,store') =>
    (patchGroup sur (servicesStatus sur pg (statuses.map Prod.fst)) (finalDelay sur pg (statuses.any Prod.snd)),
      (deleteOrphanedEnvironments r sur pg store').2)

def reconcile (store : Store) : Except String Result × Store :=
  if pg.deleting then handleTeardown sur pg store
  else if previewGroupFinalizer ∉ pg.finalizers then
    (match sur.updateGroup with
      | .error e => .error ("failed to add finalizer: " ++ e)
      | .ok _ => .ok {},store)
  else if (groupExpiry sur pg).any (· < sur.now) then (deleteGroup sur "expired",store)
  else if (leaseExpiry pg).any (· < sur.now) then
    (match sur.patchStatus with
      | .error e => .error ("failed to update PreviewGroup status: " ++ e)
      | .ok _ => (deleteGroup sur "abandoned").map fun result =>
        { result with patched := some { stampedStatus sur pg with phase := .abandoned } },store)
  else if isValidLabelValue pg.name = false then (patchGroup sur (invalidNameStatus sur pg) 0,store)
  else reconcileChildren r sur pg store

variable (store : Store)

/-- The group is neither new nor on its way out, so that its run collects the requests. -/
structure Kept : Prop where
  present : pg.deleting = false
  finalized : previewGroupFinalizer ∈ pg.finalizers
  alive : ∀ t ∈ groupExpiry sur pg, sur.now ≤ t
  leased : ∀ t ∈ leaseExpiry pg, sur.now ≤ t

def deadlines : List ℤ := (groupExpiry sur pg).toList ++ (leaseExpiry pg).toList

/-- A service asks for a resync when its child is there although a read did not find it, and while a hook
that it waits for is running. -/
def AsksResync (svc : ServiceSpec) : Prop :=
  svc.mode ≠ .baseline ∧
    match sur.get store (childKey r pg svc) with
    | .error e => e = .notFound ∧ sur.create store (buildChildEnvironment r pg svc) = .error .alreadyExists
    | .ok existing =>
      existing.phase = .running ∧ ∃ spec ∈ svc.postDeploy, spec.waits = true ∧
        ∃ message,
          sur.hook
              (if needsUpdate existing (buildChildEnvironment r pg svc) then
                updated existing (buildChildEnvironment r pg svc)
              else existing) spec = .error (.inProgress message)

/-- Some service asks for a resync, in the store that the services before it leave. -/
def Resyncs (services : List ServiceSpec) : Prop :=
  ∃ before svc after, services = before ++ svc :: after ∧
    AsksResync r sur pg (reconcileServices r sur pg before store).2 svc

/-- The delays that a run is asked for. -/
inductive Requested : ℤ → Prop
  | teardown {env : Child} {rest : List Child} (h : pg.deleting = true)
      (hfinal : previewGroupFinalizer ∈ pg.finalizers)
      (hlist : listChildEnvironments sur pg store = .ok (env :: rest)) : Requested (2 * second)
  | expiry {t : ℤ} (h : Kept sur pg) (ht : t ∈ deadlines sur pg) : Requested (timeUntil sur t)
  | resync (h : Kept sur pg) (hname : isValidLabelValue pg.name = true)
      (hsync : Resyncs r sur pg store pg.spec.services) : Requested (1 * second)

/-- No request is passed over. A group whose name is no label value has no deadline, or one that is
now; a resync comes without one, or with one within the second that is not now; and where the time to
live ends now, so does the lease. -/
def Prompt : Prop :=
  Kept sur pg →
    if isValidLabelValue pg.name = false then deadlines sur pg = [] ∨ sur.now ∈ deadlines sur pg
    else
      (Resyncs r sur pg store pg.spec.services →
        deadlines sur pg = [] ∨ (sur.now ∉ deadlines sur pg ∧ ∃ t ∈ deadlines sur pg, t ≤ sur.now + 1 * second)) ∧
      (¬Resyncs r sur pg store pg.spec.services → groupExpiry sur pg = some sur.now →
        ∀ t ∈ leaseExpiry pg, t = sur.now)

/-- The earliest of some delays, zero where there are none. -/
def Earliest (requests : ℤ → Prop) (delay : ℤ) : Prop :=
  IsLeast {d | requests d} delay ∨ (∀ d, ¬requests d) ∧ delay = 0

end

section
variable {r : Controller} {sur : Surroundings} {pg : PreviewGroup} {svc : ServiceSpec} {store store' : Store}

lemma afterHook_resync_iff {env : Child} {status : ServiceStatus} : (afterHook sur svc env status).2 = true ↔
      status.phase = .running ∧ ∃ spec ∈ svc.postDeploy, spec.waits = true ∧
        ∃ message, sur.hook env spec = .error (.inProgress message) := by
  unfold afterHook
  cases svc.postDeploy with
  | none => simp
  | some spec =>
    by_cases hphase : status.phase = .running
    · rcases hhook : sur.hook env spec with (message | message | message) | _
      all_goals cases hwaits : spec.waits <;> simp [hphase,hhook,hwaits]
    · simp [hphase]

lemma createChild_resync_iff : (createChild r sur pg svc store).1.2 = true ↔
      sur.create store (buildChildEnvironment r pg svc) = .error .alreadyExists := by
  unfold createChild
  rcases hcreate : sur.create store (buildChildEnvironment r pg svc) with (_ | _ | _ | message) | _
  all_goals simp [hcreate]

variable {status : ServiceStatus × Bool}

lemma reconcileService_resync_iff (h : reconcileService r sur pg svc store = (.ok status,store')) :
    status.2 = true ↔ AsksResync r sur pg store svc := by
  unfold reconcileService at h
  unfold AsksResync
  split_ifs at h with hmode
  · cases h
    simp [hmode]
  · rcases hget : sur.get store (childKey r pg svc) with (_ | _ | _ | message) | existing
    · rw [hget] at h
      cases h
      simp [hmode,createChild_resync_iff]
    · simp [hget] at h
    · simp [hget] at h
    · simp [hget] at h
    · simp only [hget] at h
      split_ifs at h with hneeds
      · cases hupdate : sur.update store (updated existing (buildChildEnvironment r pg svc)) with
        | error e => simp [hupdate] at h
        | ok u =>
          simp only [hupdate] at h
          cases h
          rw [afterHook_resync_iff]
          simp [hmode,hneeds,copiedStatus,updated]
      · cases h
        rw [afterHook_resync_iff]
        simp [hmode,hneeds,copiedStatus]

lemma reconcileServices_snd_cons (rest : List ServiceSpec)
    (h : reconcileService r sur pg svc store = (.ok status,store')) :
    (reconcileServices r sur pg (svc :: rest) store).2 = (reconcileServices r sur pg rest store').2 := by
  rw [reconcileServices,h]
  dsimp only
  split <;> simp_all

lemma resyncs_cons_iff {rest : List ServiceSpec}
    (h : reconcileService r sur pg svc store = (.ok status,store')) :
    Resyncs r sur pg store (svc :: rest) ↔ AsksResync r sur pg store svc ∨ Resyncs r sur pg store' rest := by
  constructor
  · rintro ⟨before,s,after,heq,hasks⟩
    cases before with
    | nil =>
      rw [List.nil_append,List.cons.injEq] at heq
      rw [heq.1]
      exact .inl hasks
    | cons first before =>
      rw [List.cons_append,List.cons.injEq] at heq
      obtain ⟨rfl,rfl⟩ := heq
      rw [reconcileServices_snd_cons before h] at hasks
      exact .inr ⟨before,s,after,rfl,hasks⟩
  · rintro (hasks | ⟨before,s,after,rfl,hasks⟩)
    · exact ⟨[],svc,rest,rfl,hasks⟩
    · refine ⟨svc :: before,s,after,rfl,?_⟩
      rwa [reconcileServices_snd_cons before h]

lemma reconcileServices_resync_iff {services : List ServiceSpec} {statuses : List (ServiceStatus × Bool)}
    (h : reconcileServices r sur pg services store = (.ok statuses,store')) :
    statuses.any Prod.snd = true ↔ Resyncs r sur pg store services := by
  induction services generalizing store statuses with
  | nil =>
    cases h
    simp [Resyncs]
  | cons svc rest ih =>
    rw [reconcileServices] at h
    rcases hone : reconcileService r sur pg svc store with ⟨e | status,middle⟩
    · simp [hone] at h
    · rcases hall : reconcileServices r sur pg rest middle with ⟨e | others,last⟩
      · simp [hone,hall] at h
      · simp only [hone,hall] at h
        cases h
        rw [resyncs_cons_iff hone,← reconcileService_resync_iff hone,← ih hall,List.any_cons,Bool.or_eq_true]

variable {result : Result}

lemma timeUntil_of_le {t : ℤ} (h : sur.now ≤ t) : 0 ≤ timeUntil sur t ∧ (timeUntil sur t = 0 ↔ t = sur.now) ∧
      (timeUntil sur t ≤ 1 * second ↔ t ≤ sur.now + 1 * second) := by
  have hmin : Text.minInt64 = -9223372036854775808 := rfl
  have hmax : Text.maxInt64 = 9223372036854775807 := rfl
  have hsecond : second = 1000000000 := rfl
  rw [timeUntil,timeSub_toInt]
  omega

lemma earliest_mem_iff (delays : List ℤ) (delay : ℤ) :
    Earliest (· ∈ delays) delay ↔ delays.min?.getD 0 = delay := by
  cases hmin : delays.min? with
  | none =>
    rw [List.min?_eq_none_iff] at hmin
    simp [hmin,Earliest,IsLeast,eq_comm]
  | some least =>
    obtain ⟨hmem,hle⟩ := List.min?_eq_some_iff.mp hmin
    rw [Option.getD_some]
    constructor
    · rintro (⟨hdelay,hlower⟩ | ⟨hnone,-⟩)
      · exact le_antisymm (hle delay hdelay) (hlower hmem)
      · exact absurd hmem (hnone least)
    · rintro rfl
      exact .inl ⟨hmem,fun d hd => hle d hd⟩

def delays (sur : Surroundings) (pg : PreviewGroup) (resync : Bool) : List ℤ :=
  (deadlines sur pg).map (timeUntil sur) ++ if resync then [1 * second] else []

lemma requested_kept_iff (r : Controller) (store : Store) (resync : Bool) (h : Kept sur pg)
    (hresync : resync = true ↔ isValidLabelValue pg.name = true ∧ Resyncs r sur pg store pg.spec.services) (d : ℤ) :
    Requested r sur pg store d ↔ d ∈ delays sur pg resync := by
  rw [delays,List.mem_append,List.mem_map]
  constructor
  · rintro (⟨hdel,-,-⟩ | ⟨-,ht⟩ | ⟨-,hname,hsync⟩)
    · rw [h.present] at hdel
      cases hdel
    · exact .inl ⟨_,ht,rfl⟩
    · rw [if_pos (hresync.mpr ⟨hname,hsync⟩)]
      exact .inr (List.mem_singleton_self _)
  · rintro (⟨t,ht,rfl⟩ | hd)
    · exact .expiry h ht
    · split_ifs at hd with hflag
      · obtain ⟨hname,hsync⟩ := hresync.mp hflag
        rw [List.mem_singleton.mp hd]
        exact .resync h hname hsync
      · cases hd

lemma finalDelay_earliest_iff (h : Kept sur pg) (resync : Bool) :
    (delays sur pg resync).min?.getD 0 = finalDelay sur pg resync ↔ (resync = true →
        deadlines sur pg = [] ∨ (sur.now ∉ deadlines sur pg ∧ ∃ t ∈ deadlines sur pg, t ≤ sur.now + 1 * second)) ∧
      (¬resync = true → groupExpiry sur pg = some sur.now → ∀ t ∈ leaseExpiry pg, t = sur.now) := by
  have hsecond : second = 1000000000 := rfl
  obtain ⟨-,-,halive,hleased⟩ := h
  unfold finalDelay expiryDelay ttlDelay delays deadlines
  cases hexp : groupExpiry sur pg with
  | none =>
    cases hlease : leaseExpiry pg with
    | none => cases resync <;> simp
    | some u =>
      obtain ⟨hu,hnow,hsoon⟩ := timeUntil_of_le (hleased u hlease)
      cases resync
      · simp [List.min?_cons]
        omega
      · simp [List.min?_cons]
        split_ifs <;> omega
  | some t =>
    obtain ⟨ht,hnow,hsoon⟩ := timeUntil_of_le (halive t hexp)
    cases hlease : leaseExpiry pg with
    | none =>
      cases resync
      · simp [List.min?_cons]
        omega
      · simp [List.min?_cons]
        split_ifs <;> omega
    | some u =>
      obtain ⟨hu,hnow',hsoon'⟩ := timeUntil_of_le (hleased u hlease)
      cases resync <;> simp [List.min?_cons] <;> split_ifs <;> omega

lemma noDelay_earliest_iff (h : Kept sur pg) :
    (delays sur pg false).min?.getD 0 = 0 ↔ deadlines sur pg = [] ∨ sur.now ∈ deadlines sur pg := by
  obtain ⟨-,-,halive,hleased⟩ := h
  unfold delays deadlines
  cases hexp : groupExpiry sur pg with
  | none =>
    cases hlease : leaseExpiry pg with
    | none => simp
    | some u =>
      obtain ⟨hu,hnow,-⟩ := timeUntil_of_le (hleased u hlease)
      simp [List.min?_cons]
      omega
  | some t =>
    obtain ⟨ht,hnow,-⟩ := timeUntil_of_le (halive t hexp)
    cases hlease : leaseExpiry pg with
    | none =>
      simp [List.min?_cons]
      omega
    | some u =>
      obtain ⟨hu,hnow',-⟩ := timeUntil_of_le (hleased u hlease)
      simp [List.min?_cons]
      omega

lemma patchGroup_delay {status : GroupStatus} {d : ℤ} (h : patchGroup sur status d = .ok result) :
    result.requeueAfter = d := by
  unfold patchGroup at h
  split at h
  · cases h
  · cases h
    rfl

lemma handleTeardown_earliest (hdel : pg.deleting = true)
    (h : handleTeardown sur pg store = (.ok result,store')) :
    Earliest (Requested r sur pg store) result.requeueAfter := by
  have honly {d : ℤ} (hd : Requested r sur pg store d) : d = 2 * second ∧ previewGroupFinalizer ∈ pg.finalizers ∧
      ∃ env rest, listChildEnvironments sur pg store = .ok (env :: rest) := by
    rcases hd with ⟨-,hfinal,hlist⟩ | ⟨hkept,-⟩ | ⟨hkept,-,-⟩
    · exact ⟨rfl,hfinal,_,_,hlist⟩
    · simp [hkept.present] at hdel
    · simp [hkept.present] at hdel
  unfold handleTeardown at h
  split_ifs at h with hfinal
  · split at h
    · cases h
    · split at h
      · cases h
      · rename_i hlist
        refine .inr ⟨fun d hd => ?_,?_⟩
        · obtain ⟨-,-,env,rest,hsome⟩ := honly hd
          rw [hlist] at hsome
          cases hsome
        · split at h
          · cases h
          · cases h
            rfl
      · rename_i hlist
        cases h
        exact .inl ⟨.teardown hdel hfinal hlist,fun d hd => (honly hd).1.ge⟩
  · cases h
    exact .inr ⟨fun d hd => hfinal (honly hd).2.1,rfl⟩

lemma not_requested (hdel : pg.deleting = false) (hkept : ¬Kept sur pg) (d : ℤ) :
    ¬Requested r sur pg store d := by
  rintro (⟨hd,-,-⟩ | ⟨h,-⟩ | ⟨h,-,-⟩)
  · simp [hdel] at hd
  · exact hkept h
  · exact hkept h

lemma deleteGroup_delay {kind : String} (h : deleteGroup sur kind = .ok result) : result.requeueAfter = 0 := by
  unfold deleteGroup at h
  split at h
  · cases h
  · split at h
    · cases h
    · cases h
      rfl

lemma reconcile_not_kept (hdel : pg.deleting = false) (hkept : ¬Kept sur pg)
    (h : reconcile r sur pg store = (.ok result,store')) : result.requeueAfter = 0 := by
  unfold reconcile at h
  rw [hdel,if_neg Bool.false_ne_true] at h
  split_ifs at h with hfinal hexp hlease hname
  · exact deleteGroup_delay (Prod.mk.inj h).1
  · replace h := (Prod.mk.inj h).1
    split at h
    · cases h
    · cases hresult : deleteGroup sur "abandoned" with
      | error e => simp [hresult,Except.map] at h
      | ok deleted =>
        rw [hresult] at h
        cases h
        change deleted.requeueAfter = 0
        exact deleteGroup_delay hresult
  · exact patchGroup_delay (Prod.mk.inj h).1
  · refine absurd ⟨hdel,hfinal,fun t ht => ?_,fun t ht => ?_⟩ hkept
    · simpa [Option.mem_def.mp ht] using hexp
    · simpa [Option.mem_def.mp ht] using hlease
  · replace h := (Prod.mk.inj h).1
    split at h
    · cases h
    · cases h
      rfl

lemma reconcile_kept (h : Kept sur pg) : reconcile r sur pg store =
      if isValidLabelValue pg.name = false then (patchGroup sur (invalidNameStatus sur pg) 0,store)
      else reconcileChildren r sur pg store := by
  have hnone (o : Option ℤ) (ho : ∀ t ∈ o, sur.now ≤ t) : o.any (· < sur.now) = false := by
    cases o with
    | none => rfl
    | some t => simpa using ho t rfl
  unfold reconcile
  rw [h.present,hnone _ h.alive,hnone _ h.leased]
  simp [h.finalized]

end

variable (r : Controller) (sur : Surroundings) (pg : PreviewGroup) {store store' : Store} {result : Result}

/-- A run without an error ends with the earliest of the delays that were asked for exactly when none is
passed over. -/
theorem reconcile_requeues_iff (h : reconcile r sur pg store = (.ok result,store')) :
    Earliest (Requested r sur pg store) result.requeueAfter ↔ Prompt r sur pg store := by
  by_cases hkept : Kept sur pg
  · rw [reconcile_kept hkept] at h
    rw [Prompt,imp_iff_right hkept]
    split_ifs at h ⊢ with hname
    · have hrequests := requested_kept_iff r store false hkept (by simp [hname])
      rw [funext fun d => propext (hrequests d),earliest_mem_iff,patchGroup_delay (Prod.mk.inj h).1]
      exact noDelay_earliest_iff hkept
    · unfold reconcileChildren at h
      rcases hall : reconcileServices r sur pg pg.spec.services store with ⟨e | statuses,store''⟩
      · simp [hall] at h
      · rw [hall] at h
        have hsync := reconcileServices_resync_iff hall
        have hrequests := requested_kept_iff r store (statuses.any Prod.snd) hkept
          (by simp [hsync,hname])
        rw [funext fun d => propext (hrequests d),earliest_mem_iff,patchGroup_delay (Prod.mk.inj h).1,
          finalDelay_earliest_iff hkept,hsync]
  · refine iff_of_true ?_ fun hk => absurd hk hkept
    cases hdel : pg.deleting with
    | false => exact .inr ⟨not_requested hdel hkept,reconcile_not_kept hdel hkept h⟩
    | true =>
      rw [reconcile,if_pos hdel] at h
      exact handleTeardown_earliest hdel h

/-- An API server whose cache lacks an environment that exists. -/
def staleCache : Surroundings where
  now := 60 * second
  get _ _ := .error .notFound
  create _ _ := .error .alreadyExists
  update _ _ := .ok ()
  delete _ _ := .ok ()
  list _ := .ok []
  hook _ _ := .ok ()
  describe _ := ""
  describeHook _ := ""
  describeLabel _ := ""
  quote name := name

def shopGroup (ttl : Option Duration) : PreviewGroup where
  name := "mr-42"
  finalizers := [previewGroupFinalizer]
  spec := { services := [{ name := "shop" }], lifecycle := some { ttl := ttl } }
  status := { createdAt := some 0 }

def constantDigest : Controller where
  sum256 _ := Vector.replicate 32 0

theorem conflict_requeues_in_a_second :
    ∃ result store', reconcile constantDigest staleCache (shopGroup none) [] = (.ok result,store') ∧
      Earliest (Requested constantDigest staleCache (shopGroup none) []) result.requeueAfter := by
  refine ⟨_,_,rfl,(reconcile_requeues_iff constantDigest staleCache (shopGroup none) rfl).mpr fun _ => ?_⟩
  rw [if_neg (by decide)]
  exact ⟨fun _ => .inl rfl,fun _ h => by cases h⟩

/-- A service of a group with an hour to live asks for a resync, and the group is looked at again when the
hour is over. -/
theorem conflict_waits_for_expiry :
    Requested constantDigest staleCache (shopGroup (some 3600000000000)) [] (1 * second) ∧
      (reconcile constantDigest staleCache (shopGroup (some 3600000000000)) []).1.map Result.requeueAfter =
        .ok (3540 * second) := by
  refine ⟨.resync ⟨rfl,by decide,by decide,by decide⟩ (by decide) ⟨[],_,[],rfl,by decide,rfl,rfl⟩,?_⟩
  rfl

end Diverge.Previews
