import Diverge.Baseline.Objects
import Diverge.Environments.Types
import Diverge.Program.Readings

/-! The fingerprint of a baseline: which objects belong to it, the questions that find them, and the text
that is hashed. -/
namespace Diverge.Baseline
open Text Diverge.Order Environments TokenStore
open Program (Reading)

section

structure ServiceConfig where
  ns : String := ""
  serviceName : String := ""
  deriving DecidableEq

/-- What the fingerprint reads of an environment. -/
structure Selection where
  name : String
  ns : String
  mode : String := ""
  deployNamespace : String := ""
  changedServices : List String := []
  serviceConfig : Option ServiceConfig := none
  envFrom : List SecretRef := []
  deployEnvFrom : List SecretRef := []
  /-- The type of the manifests, if there are any. -/
  manifests : Option String := none
  deriving DecidableEq

/-- The orders in which the maps of one run are iterated. -/
structure Visits where
  targets : List String → List String
  configMaps : List Key → List Key
  secrets : List Key → List Key
  merged : Secret → List String → List String
  targets_perm : ∀ l, (targets l).Perm l
  configMaps_perm : ∀ l, (configMaps l).Perm l
  secrets_perm : ∀ l, (secrets l).Perm l
  merged_perm : ∀ s l, (merged s l).Perm l

variable (sel : Selection)

def baselineNamespaceForEnvironment : String :=
  match sel.serviceConfig with
  | some service => if trimSpace service.ns = "" then sel.ns else trimSpace service.ns
  | none => sel.ns

/-- The services that the environment changes, each once. -/
def targetSet : List String :=
  (((sel.changedServices ++ (sel.serviceConfig.map (·.serviceName)).toList).map trimSpace).filter
    fun svc => svc != "").dedup

def targetServices (visits : Visits) : List String := sortBy id (visits.targets (targetSet sel))

def containsString (items : List String) (target : String) : Bool := target != "" && items.contains target

def Deployment.label (d : Deployment) (k : String) : String := (d.labels.get? k).getD ""

/-- The Deployments of the baseline: those of the changed services, or all with the role. -/
def matchesBaseline (targets : List String) (d : Deployment) : Bool :=
  let role := d.label "divergedev.com/role"
  let matchesTarget := !targets.isEmpty &&
    (containsString targets (d.label "divergedev.com/service") || containsString targets d.key.name)
  if role == "preview" || d.label "divergedev.com/environment" != "" then false
  else (role == "baseline" && (targets.isEmpty || matchesTarget)) || matchesTarget

end

def refKey (ns : String) (name : Option String) : List Key :=
  ((name.map trimSpace).filter fun n => n != "").toList.map (Key.mk ns)

def EnvVar.configMapName (e : EnvVar) : Option String :=
  (e.valueFrom.bind (·.configMapKeyRef)).map (·.name)

def EnvVar.secretName (e : EnvVar) : Option String := (e.valueFrom.bind (·.secretKeyRef)).map (·.name)

def Container.configMapKeys (ns : String) (c : Container) : List Key :=
  c.envFrom.flatMap (fun ef => refKey ns ef.configMapRef) ++ c.env.flatMap fun e => refKey ns e.configMapName

def Container.secretKeys (ns : String) (c : Container) : List Key :=
  c.envFrom.flatMap (fun ef => refKey ns ef.secretRef) ++ c.env.flatMap fun e => refKey ns e.secretName

def Volume.configMapKeys (ns : String) (v : Volume) : List Key :=
  refKey ns v.configMap ++ v.projected.flatMap fun src => refKey ns src.configMap

def Volume.secretKeys (ns : String) (v : Volume) : List Key :=
  refKey ns v.secret ++ v.projected.flatMap fun src => refKey ns src.secret

def Deployment.configMapKeys (d : Deployment) : List Key :=
  (d.initContainers ++ d.containers).flatMap (·.configMapKeys d.key.ns) ++
    d.volumes.flatMap (·.configMapKeys d.key.ns)

def Deployment.secretKeys (d : Deployment) : List Key :=
  (d.initContainers ++ d.containers).flatMap (·.secretKeys d.key.ns) ++
    d.volumes.flatMap (·.secretKeys d.key.ns)

/-- The Secrets that the environment itself refers to; those of other namespaces are passed over. -/
def Selection.secretKeys (sel : Selection) : List Key :=
  (sel.envFrom ++ sel.deployEnvFrom).flatMap fun ref =>
    if trimSpace ref.ns ≠ "" ∧ trimSpace ref.ns ≠ sel.ns then [] else refKey sel.ns (some ref.name)

section

inductive Query
  | deployments (ns : String)
  /-- The ConfigMaps with the manifests of an environment. -/
  | manifests (ns env : String)
  | configMap (key : Key)
  | secret (key : Key)
  deriving DecidableEq

abbrev Query.Payload : Query → Type
  | .deployments _ => List Deployment
  | .manifests _ _ => List ConfigMap
  | .configMap _ => Option ConfigMap
  | .secret _ => Option Secret

def holdsManifests (env : String) (cm : ConfigMap) : Bool :=
  cm.labels.get? "divergedev.com/manifests" == some "true" &&
    cm.labels.get? "divergedev.com/environment" == some env

def inNamespace (ns : String) (k : Key) : Bool := ns == "" || k.ns == ns

def Cluster.answer (c : Cluster) : (q : Query) → q.Payload
  | .deployments ns => c.deployments.items.filter fun d => inNamespace ns d.key
  | .manifests ns env => c.configMaps.items.filter fun cm => inNamespace ns cm.key && holdsManifests env cm
  | .configMap k => c.configMaps.find? k
  | .secret k => c.secrets.find? k

/-- The answers when some questions fail. -/
def Cluster.answers (c : Cluster) (faults : Query → Option String) (q : Query) : Except String q.Payload :=
  match faults q with
  | some e => .error e
  | none => .ok (c.answer q)

abbrev Fetch := Reading Query.Payload String

variable (sum256 : Sum256) (sel : Selection)

def listDeployments : Fetch (List Deployment) :=
  Reading.question (Query.deployments (baselineNamespaceForEnvironment sel)) fun e =>
    "failed to list baseline deployments in " ++ baselineNamespaceForEnvironment sel ++ ": " ++ e

def manifestNamespace : String :=
  if sel.deployNamespace = "create" then previewNamespace sum256 sel.name sel.ns else sel.ns

def listManifests : Fetch (List ConfigMap) :=
  if sel.manifests = some "configmap" then do
    let own ← Reading.question (Query.manifests (manifestNamespace sum256 sel) sel.name) fun e =>
      "failed to list manifest configmaps: " ++ e
    if manifestNamespace sum256 sel = sel.ns then pure own
    else do
      let source ← Reading.question (Query.manifests sel.ns sel.name) fun e =>
        "failed to list source manifest configmaps: " ++ e
      pure (own ++ source)
  else pure []

def getConfigMap (k : Key) : Fetch (Option ConfigMap) :=
  Reading.question (Query.configMap k) fun e => "failed to get configmap " ++ k.text ++ ": " ++ e

def getSecret (k : Key) : Fetch (Option Secret) :=
  Reading.question (Query.secret k) fun e => "failed to get secret " ++ k.text ++ ": " ++ e

end

variable (sum256 : Sum256) (visits : Visits)

def portLine (p : ContainerPort) : String :=
  "port:" ++ p.name ++ ":" ++ formatInt p.containerPort ++ "/" ++ p.protocol ++ "\n"

/-- The reference of a variable, as far as it is written. -/
def EnvVar.valFrom (e : EnvVar) : String :=
  match e.valueFrom with
  | none => ""
  | some source =>
    match source.configMapKeyRef with
    | some ref => "cm:" ++ ref.name ++ ":" ++ ref.key
    | none =>
      match source.secretKeyRef with
      | some ref => "sec:" ++ ref.name ++ ":" ++ ref.key
      | none => ""

def envLine (e : EnvVar) : String := "env:" ++ e.name ++ "=" ++ e.value ++ "(" ++ e.valFrom ++ ")\n"

def envFromLine (ef : EnvFromSource) : String :=
  "envFrom:prefix=" ++ ef.keyPrefix ++ "|cm=" ++ ef.configMapRef.getD "" ++ "|sec=" ++
    ef.secretRef.getD "" ++ "\n"

def containerLine (head : String) (c : Container) : String :=
  head ++ ":" ++ c.name ++ "|image:" ++ c.image ++ "|cmd:" ++ join "\x00" c.command ++ "|args:" ++
    join "\x00" c.args ++ "\n"

def hashContainer (head : String) (c : Container) : List String :=
  containerLine head c :: (c.ports.map portLine ++ c.env.map envLine ++ c.envFrom.map envFromLine)

def annotationLine (k value : String) : String := "pod-anno:" ++ k ++ "=" ++ value ++ "\n"

def hashDeployment (d : Deployment) : List String :=
  ("deploy:" ++ d.key.text ++ "\n") ::
    (d.annotations.sortedKeys.map (fun k => annotationLine k ((d.annotations.get? k).getD "")) ++
      d.initContainers.flatMap (hashContainer "init-container") ++
      d.containers.flatMap (hashContainer "container"))

def dataLine (k value : String) : String := "data:" ++ k ++ "=" ++ value ++ "\n"

def digestText (value : Bytes) : String := hexText (sum256 value).toList

def binaryLine (k : String) (value : Bytes) : String :=
  "bdata:" ++ k ++ "=" ++ digestText sum256 value ++ "\n"

def hashConfigMap (cm : ConfigMap) : List String :=
  ("cm:" ++ cm.key.text ++ "\n") ::
    (cm.data.sortedKeys.map (fun k => dataLine k ((cm.data.get? k).getD "")) ++
      cm.binaryData.sortedKeys.map fun k => binaryLine sum256 k ((cm.binaryData.get? k).getD []))

/-- The value of a key; `stringData` goes before `data`. -/
def Secret.value (s : Secret) (k : String) : Bytes :=
  match s.stringData.get? k with
  | some text => utf8 text
  | none => (s.data.get? k).getD []

def Secret.sortedKeys (s : Secret) : List String :=
  sortBy id (visits.merged s (s.data.keys ++ s.stringData.keys).dedup)

def hashSecret (s : Secret) : List String :=
  ("secret:" ++ s.key.text ++ "|type:" ++ s.type ++ "\n") ::
    (s.sortedKeys visits).map fun k => dataLine k (digestText sum256 (s.value k))

variable (sel : Selection)

structure Found where
  deployments : List Deployment
  configMaps : List ConfigMap
  secrets : List Secret
  deriving DecidableEq

def Found.text (found : Found) : String :=
  String.join (found.deployments.flatMap hashDeployment ++
    found.configMaps.flatMap (hashConfigMap sum256) ++ found.secrets.flatMap (hashSecret sum256 visits))

def Found.isEmpty (found : Found) : Bool :=
  found.deployments.isEmpty && found.configMaps.isEmpty && found.secrets.isEmpty

def Found.fingerprint (found : Found) : String :=
  if found.isEmpty then ""
  else "sha256:" ++ hexText ((sum256 (utf8 (found.text sum256 visits))).toList.take 16)

def configMapKeys (deployments : List Deployment) (manifests : List ConfigMap) : List Key :=
  (deployments.flatMap (·.configMapKeys) ++ manifests.map (·.key)).dedup

def secretKeys (deployments : List Deployment) : List Key :=
  (deployments.flatMap (·.secretKeys) ++ sel.secretKeys).dedup

/-- The objects that Deployments and the environment refer to. -/
def findReferences (deployments : List Deployment) : Fetch Found := do
  let manifests ← listManifests sum256 sel
  let configMaps ← Reading.gather getConfigMap (visits.configMaps (configMapKeys deployments manifests))
  let secrets ← Reading.gather getSecret (visits.secrets (secretKeys sel deployments))
  pure ⟨deployments,sortBy (·.key.text) configMaps,sortBy (·.key.text) secrets⟩

/-- The objects that the environment is built from. -/
def findBaseline : Fetch Found := do
  let listed ← listDeployments sel
  findReferences sum256 visits sel
    (sortBy (·.key.text) (listed.filter (matchesBaseline (targetServices sel visits))))

def computeBaselineFingerprint : Fetch String :=
  if sel.mode = "full" then pure ""
  else do
    let found ← findBaseline sum256 visits sel
    pure (found.fingerprint sum256 visits)

end Diverge.Baseline
