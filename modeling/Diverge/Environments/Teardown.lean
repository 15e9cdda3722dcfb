import Diverge.Environments.Provisioning

/-! The teardown of an environment that is being deleted. Every part is attempted and its error
kept; the finalizer goes when no error is left, or when the errors are bypassed. -/
namespace Diverge.Environments
open Tasks

structure ServiceStatus where
  name : String
  service : String
  syncStatus : String
  health : String
  deriving DecidableEq

/-- What the API server and the providers answer in one teardown; an object that is already gone
counts as deleted. -/
structure TeardownAnswers where
  now : ℤ
  deployer : Except String Unit := .ok ()
  /-- The answer for each route, by its place in the list. -/
  async : ℕ → AsyncRouteSpec → Except String Unit := fun _ _ => .ok ()
  router : Except String Unit := .ok ()
  createDatabase : String → Except String Unit := fun _ => .ok ()
  database : Except String Unit := .ok ()
  status : Except String (List ServiceStatus) := .ok []
  deleteSecret : Except String Unit := .ok ()
  createFeatures : String → Except String Unit := fun _ => .ok ()
  features : Except String Unit := .ok ()
  deleteNamespace : Except String Unit := .ok ()
  update : Except String Unit := .ok ()

/-- One part of a teardown: the errors it adds and the provider calls that succeeded. -/
structure Part where
  errs : List String := []
  calls : List ProviderCall := []
  deriving DecidableEq

def attempt (what : String) (calls : List ProviderCall) : Except String Unit → Part
  | .ok _ => ⟨[],calls⟩
  | .error e => ⟨[what ++ ": " ++ e],[]⟩

def annotationForceTeardown : String := "divergedev.com/force-teardown"

/-- The errors of a teardown are bypassed on request and when the deletion is old. -/
def forcedTeardown (now : ℤ) (env : Environment) : Bool :=
  env.annotation annotationForceTeardown == "true" ||
    env.deletionTimestamp.any fun t => decide (15 * 60 * second < now - t)

/-- How a teardown ends. `released` carries the errors that were bypassed. -/
inductive TeardownEnd
  | absent
  | waiting
  | blocked (errs : List String)
  | updateFailed (err : String)
  | released (bypassed : List String)
  deriving DecidableEq

def TeardownEnd.requeueAfter : TeardownEnd → ℤ
  | .waiting | .updateFailed _ => 5 * second
  | .blocked _ => 10 * second
  | .absent | .released _ => 0

def TeardownEnd.stored (env : Environment) : TeardownEnd → Environment
  | .released _ => { env with finalizers := env.finalizers.filter (· != environmentFinalizer) }
  | _ => env

section
variable (op : Operator) (ans : TeardownAnswers) (env : Environment)

def asyncPart (i : ℕ) (route : AsyncRouteSpec) : Part :=
  attempt ("failed to teardown async route " ++ route.protocol ++ "/" ++ route.target)
    [.teardownAsync route.protocol route.target] (ans.async i route)

def asyncParts : List Part :=
  if op.asyncProvisioner then env.spec.routing.asyncRoutes.mapIdx (asyncPart ans) else []

def databasePart : Part :=
  match resolveDatabaseProvider op env ans.createDatabase true with
  | .error e => attempt "failed to resolve database provider for teardown" [] (.error e)
  | .ok choice =>
    if choice.present op then
      attempt "failed to teardown database" [.teardownDatabase choice] ans.database
    else {}

/-- What is torn down before the wait for the workloads. -/
def earlyParts : List Part :=
  (if op.deployer then [attempt "failed to teardown deployments" [] ans.deployer] else []) ++
    asyncParts op ans env ++
    [attempt "failed to teardown routing" [] ans.router,databasePart op ans env] ++
    (if op.deployer then
      [attempt "failed to check deployer status during teardown" [] (ans.status.map fun _ => ())]
    else [])

def workloadsRemain : Bool :=
  op.deployer && (ans.status.toOption.getD []) != []

/-- A feature provider that cannot be found is passed over. -/
def featurePart : Part :=
  match getFeatureProvider op env ans.createFeatures with
  | .error _ => {}
  | .ok provider =>
    attempt "failed to teardown features" [.teardownFeatures provider] ans.features

/-- What is torn down after the wait. -/
def lateParts : List Part :=
  [attempt "failed to delete database env secret" [] ans.deleteSecret,featurePart op ans env] ++
    (if env.spec.deploy.ns = "create" then
      [attempt "failed to delete namespace" [] ans.deleteNamespace]
    else [])

def teardownErrors : List String :=
  (earlyParts op ans env ++ lateParts op ans env).flatMap (·.errs)

def handleTeardown : List ProviderCall × TeardownEnd :=
  if environmentFinalizer ∈ env.finalizers then
    if workloadsRemain op ans then ((earlyParts op ans env).flatMap (·.calls),.waiting)
    else
      let parts := earlyParts op ans env ++ lateParts op ans env
      let errs := teardownErrors op ans env
      let kept := if forcedTeardown ans.now env then [] else errs
      (parts.flatMap (·.calls),
        if kept ≠ [] then .blocked kept
        else
          match ans.update with
          | .error e => .updateFailed ("failed to remove finalizer: " ++ e)
          | .ok _ => .released errs)
  else ([],.absent)

end

section
variable {op : Operator} {ans : TeardownAnswers} {env : Environment}

theorem handleTeardown_released_iff {errs : List String} :
    (handleTeardown op ans env).2 = .released errs ↔
      environmentFinalizer ∈ env.finalizers ∧ workloadsRemain op ans = false ∧
      errs = teardownErrors op ans env ∧ (errs = [] ∨ forcedTeardown ans.now env = true) ∧
      ans.update = .ok () := by
  unfold handleTeardown
  by_cases hfin : environmentFinalizer ∈ env.finalizers
  · cases hrem : workloadsRemain op ans with
    | true => simp [hfin]
    | false =>
      cases hforce : forcedTeardown ans.now env <;> cases hupdate : ans.update <;>
        by_cases herrs : teardownErrors op ans env = [] <;> simp [hfin,herrs,eq_comm]
      rintro rfl
      exact herrs
  · simp [hfin]

lemma workloadsRemain_iff : workloadsRemain op ans = true ↔
      op.deployer = true ∧ ∃ s rest, ans.status = .ok (s :: rest) := by
  unfold workloadsRemain
  rcases ans.status with e | _ | ⟨s,rest⟩ <;> simp [Except.toOption]

lemma finalizer_stored_iff {e : TeardownEnd} : environmentFinalizer ∈ (e.stored env).finalizers ↔
      environmentFinalizer ∈ env.finalizers ∧ ∀ errs, e ≠ .released errs := by
  cases e <;> simp [TeardownEnd.stored]

end

section

/-- A call that tears down what the spec and the status of an environment name. -/
def TeardownCall (op : Operator) (ans : TeardownAnswers) (env : Environment) (c : ProviderCall) :
    Prop :=
  (op.asyncProvisioner = true ∧ ∃ route ∈ env.spec.routing.asyncRoutes,
    c = .teardownAsync route.protocol route.target) ∨
  (∃ choice, resolveDatabaseProvider op env ans.createDatabase true = .ok choice ∧
    choice.present op = true ∧ c = .teardownDatabase choice) ∨
  ∃ provider, getFeatureProvider op env ans.createFeatures = .ok provider ∧
    c = .teardownFeatures provider

variable {op : Operator} {ans : TeardownAnswers} {env : Environment} {c : ProviderCall}

variable {what : String} {calls : List ProviderCall} {answer : Except String Unit} {part : Part}

lemma mem_attempt_calls : c ∈ (attempt what calls answer).calls ↔ answer = .ok () ∧ c ∈ calls := by
  cases answer <;> simp [attempt]

lemma attempt_errs_eq_nil : (attempt what calls answer).errs = [] ↔ answer = .ok () := by
  cases answer <;> simp [attempt]

lemma mem_asyncParts_calls (h : part ∈ asyncParts op ans env) (hc : c ∈ part.calls) :
    TeardownCall op ans env c := by
  unfold asyncParts at h
  split_ifs at h with hop
  · obtain ⟨i,hi,rfl⟩ := List.mem_mapIdx.mp h
    rw [asyncPart,mem_attempt_calls,List.mem_singleton] at hc
    exact .inl ⟨hop,_,List.getElem_mem hi,hc.2⟩
  · exact absurd h List.not_mem_nil

lemma mem_databasePart_calls (hc : c ∈ (databasePart op ans env).calls) : TeardownCall op ans env c := by
  unfold databasePart at hc
  cases hres : resolveDatabaseProvider op env ans.createDatabase true with
  | error e =>
    rw [hres] at hc
    exact absurd hc List.not_mem_nil
  | ok choice =>
    rw [hres] at hc
    dsimp only at hc
    split_ifs at hc with hpresent
    · rw [mem_attempt_calls,List.mem_singleton] at hc
      exact .inr (.inl ⟨choice,hres,hpresent,hc.2⟩)
    · exact absurd hc List.not_mem_nil

lemma mem_featurePart_calls (hc : c ∈ (featurePart op ans env).calls) : TeardownCall op ans env c := by
  unfold featurePart at hc
  cases hget : getFeatureProvider op env ans.createFeatures with
  | error e =>
    rw [hget] at hc
    exact absurd hc List.not_mem_nil
  | ok provider =>
    rw [hget,mem_attempt_calls,List.mem_singleton] at hc
    exact .inr (.inr ⟨provider,hget,hc.2⟩)

lemma not_mem_attempt_nil : c ∉ (attempt what [] answer).calls := fun h =>
  absurd (mem_attempt_calls.mp h).2 List.not_mem_nil

lemma not_mem_optional_attempt {p : Prop} [Decidable p]
    (h : part ∈ if p then [attempt what [] answer] else []) : c ∉ part.calls := by
  split_ifs at h
  · rw [List.mem_singleton.mp h]
    exact not_mem_attempt_nil
  · exact absurd h List.not_mem_nil

lemma mem_earlyParts_calls (h : part ∈ earlyParts op ans env) (hc : c ∈ part.calls) :
    TeardownCall op ans env c := by
  simp only [earlyParts,List.mem_append,List.mem_cons,List.not_mem_nil,or_false] at h
  rcases h with ((h | h) | rfl | rfl) | h
  · exact absurd hc (not_mem_optional_attempt h)
  · exact mem_asyncParts_calls h hc
  · exact absurd hc not_mem_attempt_nil
  · exact mem_databasePart_calls hc
  · exact absurd hc (not_mem_optional_attempt h)

lemma mem_lateParts_calls (h : part ∈ lateParts op ans env) (hc : c ∈ part.calls) :
    TeardownCall op ans env c := by
  simp only [lateParts,List.mem_append,List.mem_cons,List.not_mem_nil,or_false] at h
  rcases h with (rfl | rfl) | h
  · exact absurd hc not_mem_attempt_nil
  · exact mem_featurePart_calls hc
  · exact absurd hc (not_mem_optional_attempt h)

lemma handleTeardown_calls : (handleTeardown op ans env).1 = if environmentFinalizer ∈ env.finalizers then
        if workloadsRemain op ans then (earlyParts op ans env).flatMap (·.calls)
        else (earlyParts op ans env ++ lateParts op ans env).flatMap (·.calls) else [] := by
  unfold handleTeardown
  split_ifs <;> rfl

theorem mem_handleTeardown_calls (hc : c ∈ (handleTeardown op ans env).1) :
    TeardownCall op ans env c := by
  rw [handleTeardown_calls] at hc
  split_ifs at hc
  · obtain ⟨part,hpart,hc⟩ := List.mem_flatMap.mp hc
    exact mem_earlyParts_calls hpart hc
  · obtain ⟨part,hpart,hc⟩ := List.mem_flatMap.mp hc
    rcases List.mem_append.mp hpart with hpart | hpart
    · exact mem_earlyParts_calls hpart hc
    · exact mem_lateParts_calls hpart hc
  · exact absurd hc List.not_mem_nil

theorem mem_released_calls (h : (handleTeardown op ans env).2 = .released []) :
    c ∈ (handleTeardown op ans env).1 ↔ TeardownCall op ans env c := by
  refine ⟨mem_handleTeardown_calls,fun hc => ?_⟩
  obtain ⟨hfin,hremain,herrs,-,-⟩ := handleTeardown_released_iff.mp h
  have hall : ∀ part ∈ earlyParts op ans env ++ lateParts op ans env, part.errs = [] :=
    List.flatMap_eq_nil_iff.mp herrs.symm
  rw [handleTeardown_calls,if_pos hfin,if_neg (by simp [hremain]),List.mem_flatMap]
  rcases hc with ⟨hop,route,hroute,rfl⟩ | ⟨choice,hres,hpresent,rfl⟩ | ⟨provider,hget,rfl⟩
  · obtain ⟨i,hi,rfl⟩ := List.getElem_of_mem hroute
    have hpart : asyncPart ans i env.spec.routing.asyncRoutes[i] ∈ asyncParts op ans env := by
      rw [asyncParts,if_pos hop]
      exact List.mem_mapIdx.mpr ⟨i,hi,rfl⟩
    have hmem : asyncPart ans i env.spec.routing.asyncRoutes[i] ∈
        earlyParts op ans env ++ lateParts op ans env := by
      simp [earlyParts,hpart]
    exact ⟨_,hmem,mem_attempt_calls.mpr ⟨attempt_errs_eq_nil.mp (hall _ hmem),by simp⟩⟩
  · have hmem : databasePart op ans env ∈ earlyParts op ans env ++ lateParts op ans env := by
      simp [earlyParts]
    refine ⟨_,hmem,?_⟩
    have hnil := hall _ hmem
    simp only [databasePart,hres,hpresent,if_true] at hnil ⊢
    exact mem_attempt_calls.mpr ⟨attempt_errs_eq_nil.mp hnil,by simp⟩
  · have hmem : featurePart op ans env ∈ earlyParts op ans env ++ lateParts op ans env := by
      simp [lateParts]
    refine ⟨_,hmem,?_⟩
    have hnil := hall _ hmem
    simp only [featurePart,hget] at hnil ⊢
    exact mem_attempt_calls.mpr ⟨attempt_errs_eq_nil.mp hnil,by simp⟩

lemma released_resolves (h : (handleTeardown op ans env).2 = .released []) :
    ∃ choice, resolveDatabaseProvider op env ans.createDatabase true = .ok choice := by
  obtain ⟨-,-,herrs,-,-⟩ := handleTeardown_released_iff.mp h
  have hnil : (databasePart op ans env).errs = [] :=
    List.flatMap_eq_nil_iff.mp herrs.symm _ (by simp [earlyParts])
  unfold databasePart at hnil
  cases hres : resolveDatabaseProvider op env ans.createDatabase true with
  | error e =>
    rw [hres] at hnil
    cases hnil
  | ok choice => exact ⟨choice,rfl⟩

end

section
variable (op : Operator) (ans : TeardownAnswers) (env : Environment)

/-- A forced teardown whose update succeeds releases the finalizer exactly when the deployer
reports no workload: the wait for the workloads comes before the errors are bypassed. -/
theorem forced_teardown_releases_iff (hforce : forcedTeardown ans.now env = true)
    (hupdate : ans.update = .ok ()) :
    environmentFinalizer ∉ ((handleTeardown op ans env).2.stored env).finalizers ↔
      (environmentFinalizer ∈ env.finalizers →
        ¬(op.deployer = true ∧ ∃ s rest, ans.status = .ok (s :: rest))) := by
  rw [finalizer_stored_iff,← workloadsRemain_iff,not_and]
  refine imp_congr_right fun hfin => ?_
  constructor
  · intro h hremain
    refine h fun errs herrs => ?_
    rw [(handleTeardown_released_iff.mp herrs).2.1] at hremain
    contradiction
  · intro hremain h
    exact h _ (handleTeardown_released_iff.mpr
      ⟨hfin,Bool.eq_false_iff.mpr hremain,rfl,.inr hforce,hupdate⟩)

end

def plainOperator : Operator where
  quantities := noQuantities
  quote := fun s => "\"" ++ s ++ "\""
  asyncProvisioner := false
  featureProvider := none
  featureRegistered := fun _ => false
  databaseProvider := none
  databaseRegistered := fun _ => false
  deployer := true

def forcedEnvironment : Environment where
  name := "preview"
  ns := "team"
  annotations := [(annotationForceTeardown,"true")]
  finalizers := [environmentFinalizer]
  deletionTimestamp := some 0

/-- A router that fails does not keep a forced teardown from its end. -/
theorem forced_teardown_releases_router_error : environmentFinalizer ∉
      ((handleTeardown plainOperator { now := 0, router := .error "refused" }
        forcedEnvironment).2.stored forcedEnvironment).finalizers :=
  (forced_teardown_releases_iff plainOperator { now := 0, router := .error "refused" }
    forcedEnvironment (by decide) rfl).mpr fun _ ⟨_,_,_,h⟩ => by cases h

/-- A workload that the deployer still reports keeps the finalizer of a forced teardown. -/
theorem forced_teardown_waits : forcedTeardown 0 forcedEnvironment = true ∧ environmentFinalizer ∈
      ((handleTeardown plainOperator { now := 0, status := .ok [⟨"web","web","Applied","Healthy"⟩] }
        forcedEnvironment).2.stored forcedEnvironment).finalizers := by
  decide

end Diverge.Environments
