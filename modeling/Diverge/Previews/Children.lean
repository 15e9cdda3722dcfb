import Diverge.Environments.Names
import Diverge.Environments.Provisioning

/-! The child environments of a preview group. One pass over the services of the group creates the
children that are missing, brings the others up to date and collects the state of each. -/
namespace Diverge.Previews
open Environments Kube TokenStore
open Tasks (Condition)

inductive ServiceMode
  | image
  | «local»
  | baseline
  deriving DecidableEq

structure Source where
  provider : String := ""
  project : String := ""
  mr : ℤ := 0
  branch : String := ""
  commitSHA : String := ""
  deriving DecidableEq

structure PostDeploySpec where
  image : String := ""
  args : List String := []
  blocking : Option Bool := none
  deriving DecidableEq

structure KEDASpec where
  enabled : Option Bool := none
  minReplicas : Option ℤ := none
  maxReplicas : Option ℤ := none
  deriving DecidableEq

structure ServiceSpec where
  name : String
  image : String := ""
  mode : ServiceMode := .image
  ns : String := ""
  port : ℤ := 0
  parentRef : String := ""
  pathPrefix : String := ""
  protocol : String := ""
  asyncRoutes : List AsyncRouteSpec := []
  imagePullPolicy : String := ""
  env : List (String × String) := []
  resources : Option ResourceOverride := none
  database : Option EnvironmentDatabase := none
  postDeploy : Option PostDeploySpec := none
  keda : Option KEDASpec := none
  deriving DecidableEq

structure GroupRouting where
  mode : String := ""
  headerKey : String := ""
  headerValue : String := ""
  externalURL : String := ""
  deriving DecidableEq

structure GroupLifecycle where
  ttl : Option Duration := none
  cleanupOnMerge : Bool := false
  deriving DecidableEq

structure GroupSpec where
  source : Source := {}
  routing : GroupRouting := {}
  services : List ServiceSpec := []
  database : Option EnvironmentDatabase := none
  lifecycle : Option GroupLifecycle := none
  deriving DecidableEq

structure ChildRouting where
  mode : String
  provider : String
  headerKey : String
  headerValue : String
  externalURL : String
  asyncRoutes : List AsyncRouteSpec
  deriving DecidableEq

structure ServicePreviewConfig where
  serviceName : String
  ns : String
  port : ℤ
  image : String
  imagePullPolicy : String
  parentRef : String
  pathPrefix : String
  headerKey : String
  env : List (String × String)
  protocol : String
  resources : Option ResourceOverride
  keda : Option KEDASpec
  deriving DecidableEq

/-- The spec of a child. The last field stands for what a group never sets. -/
structure ChildSpec where
  source : Source
  routing : ChildRouting
  database : EnvironmentDatabase
  serviceConfig : Option ServicePreviewConfig
  deployMode : String
  deployNamespace : String
  changedServices : List String
  lifecycle : GroupLifecycle
  others : List (String × String) := []
  deriving DecidableEq

structure Child where
  name : String
  ns : String
  labels : List (String × String) := []
  annotations : List (String × String) := []
  finalizers : List String := []
  deleting : Bool := false
  spec : ChildSpec
  phase : EnvironmentPhase := .unset
  url : String := ""
  conditions : List Condition := []
  deriving DecidableEq

abbrev Key := String × String

def Child.key (env : Child) : Key := (env.ns,env.name)

abbrev Store := List Child

def Store.find (store : Store) (key : Key) : Option Child := List.find? (fun env => env.key == key) store

def Store.put (store : Store) (env : Child) : Store :=
  if (store.find env.key).isSome then store.map fun old => if old.key = env.key then env else old
  else store ++ [env]

/-- An object that something holds is only marked. -/
def Store.delete (store : Store) (key : Key) : Store :=
  store.filterMap fun env =>
    if env.key ≠ key then some env
    else if env.finalizers = [] then none
    else some { env with deleting := true }

structure ServiceStatus where
  name : String
  environmentName : String
  ns : String
  phase : EnvironmentPhase := .unset
  url : String := ""
  message : String := ""
  reason : String := ""
  changedServices : List String := []
  deriving DecidableEq

inductive PreviewGroupPhase
  | unset
  | pending
  | deploying
  | running
  | degraded
  | failed
  | terminating
  | abandoned
  deriving DecidableEq

structure GroupStatus where
  phase : PreviewGroupPhase := .unset
  serviceCount : ℕ := 0
  services : List ServiceStatus := []
  observedGeneration : ℤ := 0
  createdAt : Option ℤ := none
  expiresAt : Option ℤ := none
  leaseRenewedAt : Option ℤ := none
  conditions : List Condition := []
  deriving DecidableEq

structure PreviewGroup where
  name : String
  ns : String := ""
  annotations : List (String × String) := []
  finalizers : List String := []
  generation : ℤ := 0
  deleting : Bool := false
  spec : GroupSpec := {}
  status : GroupStatus := {}
  deriving DecidableEq

section

def labelPreviewGroup : String := "divergedev.com/previewgroup"

def labelManagedBy : String := "divergedev.com/managed-by"

def managedByPreviewGroup : String := "diverge-previewgroup"

def annotationTraceparent : String := "divergedev.com/traceparent"

def entry (m : List (String × String)) (key : String) : String := (m.lookup key).getD ""

/-- The configuration of the reconciler; the digest is the one of the children's names. -/
structure Controller where
  sum256 : Sum256
  enableGAMMA : Bool := false

variable (r : Controller) (pg : PreviewGroup) (svc : ServiceSpec)

def ServiceSpec.targetNS : String := if svc.ns = "" then "default" else svc.ns

def childKey : Key := (svc.targetNS,childEnvironmentName r.sum256 pg.name svc.name)

/-- The database of the service, else the one of the group. -/
def childDatabase : EnvironmentDatabase := (svc.database.or pg.spec.database).getD {}

def childRouting : ChildRouting where
  mode := if pg.spec.routing.mode = "" then "header" else pg.spec.routing.mode
  provider := "gateway"
  headerKey := if pg.spec.routing.headerKey = "" then "x-preview-env" else pg.spec.routing.headerKey
  headerValue := pg.spec.routing.headerValue
  externalURL := pg.spec.routing.externalURL
  asyncRoutes := svc.asyncRoutes

def childConfig : ServicePreviewConfig where
  serviceName := if r.enableGAMMA then svc.name else ""
  ns := svc.targetNS
  port := svc.port
  image := svc.image
  imagePullPolicy := svc.imagePullPolicy
  parentRef := svc.parentRef
  pathPrefix := svc.pathPrefix
  headerKey := pg.spec.routing.headerKey
  env := svc.env
  protocol := svc.protocol
  resources := svc.resources
  keda := svc.keda

def buildChildEnvironment : Child where
  name := childEnvironmentName r.sum256 pg.name svc.name
  ns := svc.targetNS
  labels := [(labelPreviewGroup,pg.name),(labelManagedBy,managedByPreviewGroup)]
  annotations :=
    let traceparent := entry pg.annotations annotationTraceparent
    if traceparent = "" then [] else [(annotationTraceparent,traceparent)]
  spec :=
    { source := pg.spec.source
      routing := childRouting pg svc
      database := childDatabase pg svc
      serviceConfig := some (childConfig r pg svc)
      deployMode := "delta"
      deployNamespace := "same"
      changedServices := [svc.name]
      lifecycle := pg.spec.lifecycle.getD {} }

variable (existing desired : Child)

def needsUpdate : Bool :=
  decide (existing.spec ≠ desired.spec) ||
    desired.labels.any (fun l => entry existing.labels l.1 != l.2) ||
    (entry desired.annotations annotationTraceparent != "" &&
      entry existing.annotations annotationTraceparent != entry desired.annotations annotationTraceparent)

/-- The existing object with the desired spec, labels and trace. -/
def updated : Child :=
  { existing with
    spec := desired.spec
    labels := desired.labels
    annotations :=
      let traceparent := entry desired.annotations annotationTraceparent
      if traceparent = "" then existing.annotations
      else (annotationTraceparent,traceparent) ::
        existing.annotations.filter fun a => a.1 != annotationTraceparent }

end

section

/-- What the API server and the hooks answer. A read may come from a cache, and any call may fail;
`describe` is the text of an error and `quote` the verb `%q`. -/
structure Surroundings where
  now : ℤ
  get : Store → Key → Except ApiError Child
  create : Store → Child → Except ApiError Unit
  update : Store → Child → Except ApiError Unit
  delete : Store → Key → Except ApiError Unit
  list : Store → Except ApiError (List Child)
  hook : Child → PostDeploySpec → Except HookError Unit
  cleanupRoutes : Except String Unit := .ok ()
  updateGroup : Except String Unit := .ok ()
  patchStatus : Except String Unit := .ok ()
  deleteGroup : Except String Unit := .ok ()
  describe : ApiError → String
  describeHook : HookError → String
  describeLabel : String → String
  quote : String → String

variable (r : Controller) (sur : Surroundings) (pg : PreviewGroup) (svc : ServiceSpec)

def newStatus : ServiceStatus where
  name := svc.name
  environmentName := (childKey r pg svc).2
  ns := svc.targetNS

/-- The first failed condition of a child that has failed. -/
def failure (env : Child) : Option Condition :=
  if env.phase = .failed then env.conditions.find? fun c => c.status == "False" else none

def copiedStatus (env : Child) : ServiceStatus :=
  { newStatus r pg svc with
    phase := env.phase
    url := env.url
    changedServices := env.spec.changedServices
    message := ((failure env).map Condition.message).getD ""
    reason := ((failure env).map Condition.reason).getD "" }

def PostDeploySpec.waits (spec : PostDeploySpec) : Bool := spec.blocking.getD false

/-- The status once the hook of a running service was asked for, and whether a resync is asked for. -/
def afterHook (env : Child) (status : ServiceStatus) : ServiceStatus × Bool :=
  match svc.postDeploy with
  | none => (status,false)
  | some spec =>
    if status.phase ≠ .running then (status,false)
    else
      match sur.hook env spec with
      | .ok _ => (status,false)
      | .error (.inProgress _) =>
        if spec.waits then
          ({ status with
              phase := .deploying
              reason := "PostDeployRunning"
              message := "Post-deploy hook is currently running" },true)
        else (status,false)
      | .error e =>
        if spec.waits then
          ({ status with
              phase := .failed
              reason := "PostDeployFailed"
              message := "Post-deploy hook failed: " ++ sur.describeHook e },false)
        else (status,false)

def createChild (store : Store) : (ServiceStatus × Bool) × Store :=
  let status := newStatus r pg svc
  let desired := buildChildEnvironment r pg svc
  match sur.create store desired with
  | .ok _ =>
    (({ status with
        phase := .pending
        message := "Environment created"
        changedServices := desired.spec.changedServices },false),store.put desired)
  | .error .alreadyExists =>
    (({ status with
        phase := .pending
        message := "Environment already exists, resyncing"
        reason := "CreateConflict" },true),store)
  | .error e =>
    (({ status with
        phase := .failed
        message := "Failed to create Environment: " ++ sur.describe e
        reason := "CreateFailed" },false),store)

def childError (verb : String) (e : ApiError) : String :=
  "failed to " ++ verb ++ " child Environment " ++ (childKey r pg svc).1 ++ "/" ++ (childKey r pg svc).2 ++
    ": " ++ sur.describe e

def reconcileService (store : Store) : Except String (ServiceStatus × Bool) × Store :=
  if svc.mode = .baseline then
    (.ok ({ newStatus r pg svc with phase := .running, message := "Using baseline service" },false),store)
  else
    match sur.get store (childKey r pg svc) with
    | .error .notFound => (.ok (createChild r sur pg svc store).1,(createChild r sur pg svc store).2)
    | .error e => (.error (childError r sur pg svc "get" e),store)
    | .ok existing =>
      let desired := buildChildEnvironment r pg svc
      if needsUpdate existing desired then
        let env := updated existing desired
        match sur.update store env with
        | .error e => (.error (childError r sur pg svc "update" e),store)
        | .ok _ => (.ok (afterHook sur svc env (copiedStatus r pg svc env)),store.put env)
      else (.ok (afterHook sur svc existing (copiedStatus r pg svc existing)),store)

def reconcileServices : List ServiceSpec → Store → Except String (List (ServiceStatus × Bool)) × Store
  | [],store => (.ok [],store)
  | svc :: rest,store =>
    match reconcileService r sur pg svc store with
    | (.error e,store') => (.error e,store')
    | (.ok status,store') =>
      match reconcileServices rest store' with
      | (.error e,store'') => (.error e,store'')
      | (.ok statuses,store'') => (.ok (status :: statuses),store'')

end

variable (r : Controller) (sur : Surroundings) (pg : PreviewGroup)

/-- The keys that the services of the spec have, those of baseline services included. -/
def desiredKeys : List Key := pg.spec.services.map (childKey r pg)

/-- The deletion of the children that no service has. The first failure ends it; the run only logs it. -/
def deleteOrphans : List Child → Store → Except String Unit × Store
  | [],store => (.ok (),store)
  | env :: rest,store =>
    if env.key ∈ desiredKeys r pg then deleteOrphans rest store
    else
      match sur.delete store env.key with
      | .ok _ => deleteOrphans rest (store.delete env.key)
      | .error .notFound => deleteOrphans rest store
      | .error e =>
        (.error ("failed to delete orphaned Environment " ++ env.ns ++ "/" ++ env.name ++ ": " ++ sur.describe e),
          store)

/-- The labels that the children of a group are listed by. -/
def Child.listedFor (env : Child) (pg : PreviewGroup) : Bool :=
  entry env.labels labelPreviewGroup == pg.name && env.labels.any (·.1 == labelPreviewGroup) &&
    entry env.labels labelManagedBy == managedByPreviewGroup && (pg.ns == "" || env.ns == pg.ns)

def listChildEnvironments (store : Store) : Except ApiError (List Child) :=
  (sur.list store).map fun envs => envs.filter fun env => env.listedFor pg

def deleteOrphanedEnvironments (store : Store) : Except String Unit × Store :=
  match listChildEnvironments sur pg store with
  | .error e => (.error (sur.describe e),store)
  | .ok children => deleteOrphans r sur pg children store

end Diverge.Previews
