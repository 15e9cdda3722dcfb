import Diverge.Deployer.Direct
import Diverge.Environments.Teardown

/-! What the deployers leave behind while an environment is being deleted: their `Teardown` and
`Status`, the runs of the teardown, the API server that removes objects, and the garbage collector
that waits for the owner. -/
namespace Diverge.Deployer
open Environments TokenStore Transition

inductive LiveKind
  | deployment
  | statefulSet
  | service
  | endpointSlice
  | other (group kind : String)
  deriving DecidableEq

/-- What the health of a Deployment or StatefulSet is read from. -/
structure Rollout where
  replicas : Option ℤ := none
  generation : ℤ := 0
  observedGeneration : ℤ := 0
  availableReplicas : ℤ := 0
  readyReplicas : ℤ := 0
  updatedReplicas : ℤ := 0
  /-- The types and the statuses of the conditions. -/
  conditions : List (String × String) := []
  deriving DecidableEq

/-- An object of the cluster. `endpointReady` is the condition of the first endpoint. -/
structure LiveObject where
  kind : LiveKind
  ns : String
  name : String
  labels : List (String × String) := []
  rollout : Rollout := {}
  endpointReady : Option Bool := none
  owned : Bool := false
  terminating : Bool := false
  deriving DecidableEq

structure Identity where
  kind : LiveKind
  ns : String
  name : String
  deriving DecidableEq

def LiveObject.identity (o : LiveObject) : Identity := ⟨o.kind,o.ns,o.name⟩

def LiveObject.label (o : LiveObject) (key : String) : String := (o.labels.lookup key).getD ""

def requestDeletion (p : LiveObject → Bool) (objects : List LiveObject) : List LiveObject :=
  objects.map fun o => if p o then { o with terminating := true } else o

section

inductive DeployerKind
  | direct
  | localEndpoint
  deriving DecidableEq

/-- The errors of a deployer's calls, other than that an object does not exist. -/
structure DeployerFaults where
  deleteSlice : Option String := none
  deleteService : Option String := none
  listDeployments : Option String := none
  listStatefulSets : Option String := none
  getSlice : Option String := none
  deriving DecidableEq

def deploymentHealth (r : Rollout) : String :=
  let desired := r.replicas.getD 1
  if r.conditions.any fun c =>
      c == ("ReplicaFailure","True") || c == ("Progressing","False") then "Degraded"
  else if r.observedGeneration < r.generation then "Progressing"
  else if desired ≤ r.availableReplicas ∧ desired ≤ r.updatedReplicas then "Healthy"
  else "Progressing"

def statefulSetHealth (r : Rollout) : String :=
  let desired := r.replicas.getD 1
  if r.observedGeneration < r.generation then "Progressing"
  else if desired ≤ r.readyReplicas ∧ desired ≤ r.updatedReplicas then "Healthy"
  else if r.readyReplicas = 0 ∧ 1 < r.generation then "Degraded"
  else "Progressing"

variable (sum256 : Sum256) (env : Environment)

/-- The selector of the direct deployer, in the target namespace. -/
def selected (o : LiveObject) : Bool :=
  o.ns == targetNamespace sum256 env && o.labels.lookup labelEnvironment == some env.name &&
    o.labels.lookup labelManagedBy == some "diverge"

def statusesOf (kind : LiveKind) (health : Rollout → String) (objects : List LiveObject) :
    List ServiceStatus :=
  (objects.filter fun o => o.kind == kind && selected sum256 env o).map fun o =>
    ⟨o.name,o.label "divergedev.com/service","Applied",health o.rollout⟩

/-- The object of a kind that the local deployer works on. -/
def localObject (kind : LiveKind) : Identity := ⟨kind,targetNamespace sum256 env,env.name⟩

/-- The objects that `Teardown` asks to delete. -/
def requestedBy : DeployerKind → LiveObject → Bool
  | .direct,_ => false
  | .localEndpoint,o => o.identity == localObject sum256 env .endpointSlice ||
    o.identity == localObject sum256 env .service

def teardown (faults : DeployerFaults) (objects : List LiveObject) :
    DeployerKind → Except String Unit × List LiveObject
  | .direct => (.ok (),objects)
  | .localEndpoint =>
    match faults.deleteSlice with
    | some e => (.error ("failed to delete endpointslice: " ++ e),objects)
    | none =>
      let objects :=
        requestDeletion (fun o => o.identity == localObject sum256 env .endpointSlice) objects
      match faults.deleteService with
      | some e => (.error ("failed to delete headless service: " ++ e),objects)
      | none =>
        (.ok (),requestDeletion (fun o => o.identity == localObject sum256 env .service) objects)

def status (faults : DeployerFaults) (objects : List LiveObject) :
    DeployerKind → Except String (List ServiceStatus)
  | .direct =>
    match faults.listDeployments,faults.listStatefulSets with
    | some e,_ => .error ("failed to list deployments: " ++ e)
    | none,some e => .error ("failed to list statefulsets: " ++ e)
    | none,none => .ok (statusesOf sum256 env .deployment deploymentHealth objects ++
        statusesOf sum256 env .statefulSet statefulSetHealth objects)
  | .localEndpoint =>
    match faults.getSlice with
    | some e => .error ("failed to get endpointslice status: " ++ e)
    | none =>
      let slice := objects.find? fun o => o.identity == localObject sum256 env .endpointSlice
      let health := if (slice.bind (·.endpointReady)).getD false then "Healthy" else "Missing"
      .ok [⟨env.name,env.name,"Applied",health⟩]

end

section

/-- The environment, the objects of the cluster, and whether a `Teardown` of the deployer has
returned without an error. -/
structure Leftovers where
  env : Environment
  objects : List LiveObject
  returnedNil : Bool := false

inductive LeftoverEvent
  | reconcile (ans : TeardownAnswers) (faults : DeployerFaults)
  /-- The server removes an object that it was asked to delete. -/
  | remove (id : Identity)
  /-- The garbage collector removes what the environment owns, once it is gone. -/
  | collect

variable (sum256 : Sum256) (op : Operator) (kind : DeployerKind)

/-- The answers of a run, with those of the deployer. -/
def deployerAnswers (ans : TeardownAnswers) (faults : DeployerFaults) (s : Leftovers) :
    TeardownAnswers :=
  let torn := teardown sum256 s.env faults s.objects kind
  { ans with deployer := torn.1, status := status sum256 s.env faults torn.2 kind }

/-- The run asks to delete the preview namespace. -/
def deletesNamespace (ans : TeardownAnswers) (s : Leftovers) : Bool :=
  !workloadsRemain op ans && s.env.spec.deploy.ns == "create" &&
    ans.deleteNamespace.toOption.isSome

def Leftovers.step (s : Leftovers) : LeftoverEvent → Leftovers
  | .reconcile ans faults =>
    if environmentFinalizer ∈ s.env.finalizers then
      let ans := deployerAnswers sum256 kind ans faults s
      let objects := (teardown sum256 s.env faults s.objects kind).2
      { env := (handleTeardown op ans s.env).2.stored s.env
        objects :=
          if deletesNamespace op ans s then
            requestDeletion (fun o => o.ns == targetNamespace sum256 s.env) objects
          else objects
        returnedNil := s.returnedNil || ans.deployer.toOption.isSome }
    else s
  | .remove id => { s with objects := s.objects.filter fun o => !(o.identity == id && o.terminating) }
  | .collect =>
    if environmentFinalizer ∈ s.env.finalizers then s
    else { s with objects := s.objects.filter fun o => !o.owned }

def workload (env : Environment) (o : LiveObject) : Bool :=
  (o.kind == .deployment || o.kind == .statefulSet) && selected sum256 env o

def DeployerFaults.hidesWorkloads (faults : DeployerFaults) : Bool :=
  faults.listDeployments.isSome || faults.listStatefulSets.isSome

/-- The run takes the preview namespace down although there are workloads. -/
def cascades (env : Environment) (ans : TeardownAnswers) (faults : DeployerFaults) : Bool :=
  env.spec.deploy.ns == "create" && ans.deleteNamespace.toOption.isSome && faults.hidesWorkloads

/-- The server removes an object after somebody asked to delete it: before the first event, or a run
that could not list the workloads and so deleted the preview namespace. -/
def removedDuring (env : Environment) (id : Identity) (asked : Bool) : List LeftoverEvent → Bool
  | [] => false
  | .remove id' :: events => id' == id && asked || removedDuring env id asked events
  | .reconcile ans faults :: events =>
    removedDuring env id (asked || cascades env ans faults) events
  | .collect :: events => removedDuring env id asked events

/-- With the deployer's answers out of the way, no part of a teardown fails. -/
def OthersSucceed (ans : TeardownAnswers) (env : Environment) : Prop :=
  teardownErrors op { ans with deployer := .ok (), status := .ok [] } env = [] ∧ ans.update = .ok ()

/-- The deployer reports nothing, and the next run releases the environment if the other providers
succeed. -/
def Progresses (s : Leftovers) : Prop :=
  status sum256 s.env {} s.objects kind = .ok [] ∧
  ∀ ans, OthersSucceed op ans s.env →
    (handleTeardown op (deployerAnswers sum256 kind ans {} s) s.env).2 = .released []

end

section
variable {sum256 : Sum256} {op : Operator} {kind : DeployerKind}

lemma step_env {s : Leftovers} {e : LeftoverEvent}
    (h : environmentFinalizer ∈ (s.step sum256 op kind e).env.finalizers) :
    (s.step sum256 op kind e).env = s.env := by
  cases e with
  | reconcile ans faults =>
    unfold Leftovers.step at h ⊢
    split_ifs at h ⊢ with hfin
    · dsimp only at h ⊢
      cases hend : (handleTeardown op (deployerAnswers sum256 kind ans faults s) s.env).2 with
      | released errs => exact absurd hend ((finalizer_stored_iff.mp h).2 errs)
      | absent | waiting | blocked _ | updateFailed _ => rfl
    · rfl
  | remove id => rfl
  | collect =>
    unfold Leftovers.step
    split_ifs <;> rfl

lemma run_env {events : List LeftoverEvent} {s : Leftovers}
    (h : environmentFinalizer ∈ (run (Leftovers.step sum256 op kind) s events).env.finalizers) :
    (run (Leftovers.step sum256 op kind) s events).env = s.env := by
  induction events generalizing s with
  | nil => rfl
  | cons e events ih =>
    rw [run_cons] at h ⊢
    have hnext := ih h
    rw [hnext] at h ⊢
    exact step_env h

variable {env : Environment}

variable {objects : List LiveObject} {ans : TeardownAnswers} {faults : DeployerFaults} {o : LiveObject}

lemma statusesOf_eq_nil {kind : LiveKind} {health : Rollout → String} :
    statusesOf sum256 env kind health objects = [] ↔
      ∀ o ∈ objects, o.kind = kind → selected sum256 env o = false := by
  simp [statusesOf,List.filter_eq_nil_iff]

lemma status_direct_nil {faults : DeployerFaults} {objects : List LiveObject}
    (hd : faults.listDeployments = none) (hs : faults.listStatefulSets = none) :
    status sum256 env faults objects .direct = .ok [] ↔ ∀ o ∈ objects, workload sum256 env o = false := by
  simp only [status,hd,hs,Except.ok.injEq,List.append_eq_nil_iff,statusesOf_eq_nil]
  constructor
  · rintro ⟨hdep,hsts⟩ o ho
    by_cases hk : o.kind = .deployment
    · simp [workload,hdep o ho hk]
    · by_cases hk' : o.kind = .statefulSet
      · simp [workload,hsts o ho hk']
      · simp [workload,hk,hk']
  · intro h
    refine ⟨fun o ho hk => ?_,fun o ho hk => ?_⟩
    · simpa [workload,hk] using h o ho
    · simpa [workload,hk] using h o ho

lemma workloadsRemain_direct (hop : op.deployer = true) {s : Leftovers} (ho : o ∈ s.objects)
    (hwork : workload sum256 s.env o = true) :
    workloadsRemain op (deployerAnswers sum256 .direct ans faults s) = !faults.hidesWorkloads := by
  have hstatus : (deployerAnswers sum256 .direct ans faults s).status =
      status sum256 s.env faults s.objects .direct := rfl
  unfold workloadsRemain DeployerFaults.hidesWorkloads
  rw [hop,hstatus]
  cases hd : faults.listDeployments with
  | some e => simp [status,hd,Except.toOption]
  | none =>
    cases hs : faults.listStatefulSets with
    | some e => simp [status,hd,hs,Except.toOption]
    | none =>
      have hne : status sum256 s.env faults s.objects .direct ≠ .ok [] := fun h => by
        rw [status_direct_nil hd hs] at h
        rw [h o ho] at hwork
        contradiction
      cases hres : status sum256 s.env faults s.objects .direct with
      | error e => simp [status,hd,hs] at hres
      | ok services =>
        have hservices : services ≠ [] := fun h => hne (by rw [hres,h])
        simpa [Except.toOption] using hservices

lemma workload_requestDeletion {p : LiveObject → Bool} :
    (∀ o ∈ requestDeletion p objects, workload sum256 env o = false) ↔
      ∀ o ∈ objects, workload sum256 env o = false := by
  have hsame : ∀ o, workload sum256 env (if p o then { o with terminating := true } else o) =
      workload sum256 env o := by
    intro o
    split_ifs <;> rfl
  simp [requestDeletion,hsame]

variable {s : Leftovers}

lemma reconcile_objects (hop : op.deployer = true)
    (hfin : environmentFinalizer ∈ s.env.finalizers) (ho : o ∈ s.objects)
    (hwork : workload sum256 s.env o = true) :
    (s.step sum256 op .direct (.reconcile ans faults)).objects = if cascades s.env ans faults then
        requestDeletion (fun o => o.ns == targetNamespace sum256 s.env) s.objects
      else s.objects := by
  have hdelete : deletesNamespace op (deployerAnswers sum256 .direct ans faults s) s =
      cascades s.env ans faults := by
    unfold deletesNamespace cascades
    have hanswer : (deployerAnswers sum256 .direct ans faults s).deleteNamespace =
      ans.deleteNamespace := rfl
    rw [workloadsRemain_direct hop ho hwork,Bool.not_not,hanswer]
    ac_rfl
  simp only [Leftovers.step,if_pos hfin,hdelete,teardown]

lemma reconcile_workloads (hop : op.deployer = true) (hfin : environmentFinalizer ∈ s.env.finalizers)
    {P : Identity → Bool → Prop} : (∀ o ∈ (s.step sum256 op .direct (.reconcile ans faults)).objects,
      workload sum256 s.env o = true → P o.identity o.terminating) ↔
    ∀ o ∈ s.objects, workload sum256 s.env o = true →
      P o.identity (o.terminating || cascades s.env ans faults) := by
  by_cases hnone : ∀ o ∈ s.objects, workload sum256 s.env o = false
  · have hstep : ∀ o ∈ (s.step sum256 op .direct (.reconcile ans faults)).objects,
        workload sum256 s.env o = false := by
      simp only [Leftovers.step,if_pos hfin,teardown]
      split_ifs
      · exact workload_requestDeletion.mpr hnone
      · exact hnone
    refine ⟨fun _ o ho hwork => ?_,fun _ o ho hwork => ?_⟩
    · rw [hnone o ho] at hwork
      contradiction
    · rw [hstep o ho] at hwork
      contradiction
  · push Not at hnone
    obtain ⟨w,hw,hwork⟩ := hnone
    rw [reconcile_objects hop hfin hw (by simpa using hwork)]
    cases cascades s.env ans faults with
    | false => simp
    | true =>
      simp only [if_true,requestDeletion,List.forall_mem_map,Bool.or_true]
      refine forall_congr' fun o => imp_congr_right fun _ => ?_
      by_cases hns : o.ns = targetNamespace sum256 s.env
      · rw [if_pos (beq_iff_eq.mpr hns)]
        exact Iff.rfl
      · have hnot : workload sum256 s.env o = false := by simp [workload,selected,hns]
        simp [hns,hnot]

theorem workloads_gone_iff (hop : op.deployer = true) {events : List LeftoverEvent} :
    ∀ {s : Leftovers},
      environmentFinalizer ∈ (run (Leftovers.step sum256 op .direct) s events).env.finalizers →
      ((∀ o ∈ (run (Leftovers.step sum256 op .direct) s events).objects,
          workload sum256 s.env o = false) ↔ ∀ o ∈ s.objects, workload sum256 s.env o = true →
          removedDuring s.env o.identity o.terminating events = true) := by
  induction events with
  | nil => intro s _; simp [removedDuring]
  | cons e events ih =>
    intro s hfin
    rw [run_cons] at hfin ⊢
    have hnext := ih hfin
    have hstep : environmentFinalizer ∈ (s.step sum256 op .direct e).env.finalizers := by
      rwa [run_env hfin] at hfin
    have henv := step_env hstep
    rw [henv] at hnext hstep
    rw [hnext]
    cases e with
    | collect =>
      have hsame : s.step sum256 op .direct .collect = s := if_pos hstep
      rw [hsame]
      exact Iff.rfl
    | remove id =>
      simp only [Leftovers.step,List.mem_filter,removedDuring]
      constructor
      · intro h o ho hwork
        by_cases hgone : (o.identity == id && o.terminating) = true
        · rw [beq_iff_eq.mp (Bool.and_eq_true_iff.mp hgone).1,(Bool.and_eq_true_iff.mp hgone).2]
          simp
        · rw [h o ⟨ho,by rw [Bool.eq_false_iff.mpr hgone]; rfl⟩ hwork,Bool.or_true]
      · rintro h o ⟨ho,hstays⟩ hwork
        have hor := h o ho hwork
        have hnot : (id == o.identity && o.terminating) = false := by
          rw [Bool.beq_comm]
          simpa only [Bool.not_eq_eq_eq_not,Bool.not_true] using hstays
        rwa [hnot,Bool.false_or] at hor
    | reconcile ans faults =>
      exact reconcile_workloads (P := fun id asked => removedDuring s.env id asked events = true)
        hop hstep

end

section
variable (sum256 : Sum256) (op : Operator) (kind : DeployerKind)

/-- After any runs of a teardown that did not release the environment, it goes on exactly when the
deployer is the direct one and somebody else asked to delete every workload of the environment, and
the server removed it. What the deployer's `Teardown` answered makes no difference. -/
theorem teardown_progresses_iff (hop : op.deployer = true) (s : Leftovers)
    (events : List LeftoverEvent)
    (hfin : environmentFinalizer ∈ (run (Leftovers.step sum256 op kind) s events).env.finalizers) :
    Progresses sum256 op kind (run (Leftovers.step sum256 op kind) s events) ↔
      kind = .direct ∧ ∀ o ∈ s.objects, workload sum256 s.env o = true →
        removedDuring s.env o.identity o.terminating events = true := by
  cases kind with
  | localEndpoint =>
    refine ⟨fun h => ?_,fun h => nomatch h.1⟩
    exact absurd h.1 (by simp [status])
  | direct =>
    rw [← workloads_gone_iff hop hfin,← run_env hfin]
    generalize run (Leftovers.step sum256 op .direct) s events = last at hfin ⊢
    have hstatus := @status_direct_nil sum256 last.env {} last.objects rfl rfl
    refine ⟨fun h => ⟨rfl,hstatus.mp h.1⟩,fun h => ⟨hstatus.mpr h.2,fun ans hothers => ?_⟩⟩
    have hanswers : deployerAnswers sum256 .direct ans {} last =
        { ans with deployer := .ok (), status := .ok [] } := by
      unfold deployerAnswers
      dsimp only [teardown]
      rw [hstatus.mpr h.2]
    rw [hanswers,handleTeardown_released_iff]
    exact ⟨hfin,by simp [workloadsRemain,Except.toOption],hothers.1.symm,.inl rfl,hothers.2⟩

end

def webDeployment : LiveObject where
  kind := .deployment
  ns := "team"
  name := "web"
  labels := [(labelEnvironment,"preview"),(labelManagedBy,"diverge")]
  owned := true

def deletedPreview : Environment where
  name := "preview"
  ns := "team"
  finalizers := [environmentFinalizer]
  deletionTimestamp := some 0

/-- A `Teardown` has returned without an error and what it asked to delete is gone. -/
def Settled (kind : DeployerKind) (s : Leftovers) : Prop :=
  s.returnedNil = true ∧ ∀ o ∈ s.objects, requestedBy constantSum256 s.env kind o = false

instance (kind : DeployerKind) (s : Leftovers) : Decidable (Settled kind s) :=
  inferInstanceAs (Decidable (_ ∧ _))

def afterDeletion : Leftovers :=
  run (Leftovers.step constantSum256 plainOperator .direct)
    { env := deletedPreview, objects := [{ webDeployment with terminating := true }] }
    [.reconcile { now := 0 } {},.remove webDeployment.identity]

theorem deleted_deployment_progresses :
    Settled .direct afterDeletion ∧ Progresses constantSum256 plainOperator .direct afterDeletion :=
  ⟨by decide,(teardown_progresses_iff constantSum256 plainOperator .direct rfl _ _
    (by decide)).mpr ⟨rfl,by decide⟩⟩

def waitingDirect : Leftovers :=
  run (Leftovers.step constantSum256 plainOperator .direct)
    { env := deletedPreview, objects := [webDeployment] } [.reconcile { now := 0 } {},.collect]

def endpointSlice : LiveObject where
  kind := .endpointSlice
  ns := "team"
  name := "preview"
  endpointReady := some true

def waitingLocal : Leftovers :=
  run (Leftovers.step constantSum256 plainOperator .localEndpoint)
    { env := deletedPreview, objects := [endpointSlice] }
    [.reconcile { now := 0 } {},.remove endpointSlice.identity]

/-- The direct deployer still reports the Deployment, the local one its missing endpoint. -/
theorem teardown_waits_for_ever :
    (Settled .direct waitingDirect ∧ ¬Progresses constantSum256 plainOperator .direct waitingDirect) ∧
    Settled .localEndpoint waitingLocal ∧ waitingLocal.objects = [] ∧
      ¬Progresses constantSum256 plainOperator .localEndpoint waitingLocal := by
  refine ⟨⟨by decide,fun h => absurd h.1 (by decide)⟩,by decide,by decide,fun h => absurd h.1 ?_⟩
  decide

end Diverge.Deployer
