import Diverge.Environments.Names
import Diverge.Environments.Quota
import Diverge.Schema.Json
import Diverge.Transition.Runs

/-! The deployer that writes the manifests of an environment itself: it checks each one, marks it
and creates or applies it, and stops at the first error. -/
namespace Diverge.Deployer
open Text Kube Diverge.Schema Environments TokenStore
open Transition

structure OwnerReference where
  apiVersion : String
  kind : String
  name : String
  uid : String
  deriving DecidableEq

/-- An object of the API server, and a manifest of one. `content` is what the deployer does not
look at. -/
structure Manifest where
  apiVersion : String
  kind : String
  ns : String := ""
  name : String
  labels : List (String × String) := []
  ownerReferences : List OwnerReference := []
  spec : Option Json := none
  content : List (String × Json) := []

def assign {α : Type} (members : List (String × α)) (key : String) (value : α) :
    List (String × α) := members.filter (fun m => m.1 != key) ++ [(key,value)]

/-- `unstructured.SetNestedField`: missing maps on the way are made, and a value on the way that is
no map is an error. -/
def setNested (value : Json) : List String → Json → Option Json
  | [],_ => some value
  | key :: path,.obj members =>
    (setNested value path ((members.lookup key).getD (.obj []))).map fun inner =>
      .obj (assign members key inner)
  | _ :: _,_ => none

/-- `unstructured.NestedStringMap`, where anything but a map of strings counts as missing. -/
def nestedStringMap : List String → Json → Option (List (String × String))
  | [],.obj members => members.mapM fun m =>
    match m.2 with
    | .str s => some (m.1,s)
    | _ => none
  | key :: path,.obj members => (members.lookup key).bind (nestedStringMap path)
  | _,_ => none

def templateAnnotations : List String := ["template","metadata","annotations"]

def Manifest.setSpec (m : Manifest) (path : List String) (value : Json) : Manifest :=
  match setNested value path (m.spec.getD (.obj [])) with
  | some spec => { m with spec := some spec }
  | none => m

/-- Add an annotation to the pod template. -/
def Manifest.annotatePods (m : Manifest) (key value : String) : Manifest :=
  let annos := (m.spec.bind (nestedStringMap templateAnnotations)).getD []
  m.setSpec templateAnnotations (.obj ((assign annos key value).map fun a => (a.1,.str a.2)))

/-- The group and the kind; a malformed `apiVersion` leaves both empty. -/
def Manifest.groupKind (m : Manifest) : String × String :=
  match split '/' m.apiVersion with
  | [_] => ("",m.kind)
  | [group,_] => (group,m.kind)
  | _ => ("","")

lemma setSpec_frame (m : Manifest) (path : List String) (value : Json) :
    (m.setSpec path value).groupKind = m.groupKind ∧ (m.setSpec path value).ns = m.ns ∧
      (m.setSpec path value).labels = m.labels := by
  unfold Manifest.setSpec
  cases setNested value path (m.spec.getD (.obj [])) <;> exact ⟨rfl,rfl,rfl⟩

section

def defaultAllowedKinds : List String :=
  ["Deployment","StatefulSet","DaemonSet","ReplicaSet","Job","CronJob","Service","ConfigMap",
    "Secret","Ingress","ServiceAccount","NetworkPolicy","PersistentVolumeClaim",
    "HorizontalPodAutoscaler","PodDisruptionBudget"]

/-- The kinds of the list with the API groups that Kubernetes serves them in. -/
def builtinKinds : List (String × String) :=
  [("apps","Deployment"),("apps","StatefulSet"),("apps","DaemonSet"),("apps","ReplicaSet"),
    ("batch","Job"),("batch","CronJob"),("","Service"),("","ConfigMap"),("","Secret"),
    ("networking.k8s.io","Ingress"),("","ServiceAccount"),("networking.k8s.io","NetworkPolicy"),
    ("","PersistentVolumeClaim"),("autoscaling","HorizontalPodAutoscaler"),
    ("policy","PodDisruptionBudget")]

structure DirectDeployer where
  allowedKinds : Option (List (String × Bool)) := none

def DirectDeployer.isKindPermitted (d : DirectDeployer) (kind : String) : Bool :=
  match d.allowedKinds with
  | some kinds => (kinds.lookup kind).getD false
  | none => defaultAllowedKinds.contains kind

structure Key where
  group : String
  kind : String
  ns : String
  name : String
  deriving DecidableEq

/-- The kinds that are served, those that live in namespaces, and the outcome of a forced Server-Side
Apply, which sets every label of the applied object. -/
structure Api where
  served : String → String → Bool
  namespaced : String → String → Bool
  apply : Manifest → Manifest → Manifest
  builtin_namespaced : ∀ gk ∈ builtinKinds, namespaced gk.1 gk.2 = true
  apply_labels : ∀ old new key value, new.labels.lookup key = some value →
    (apply old new).labels.lookup key = some value

/-- Where an object is stored; the namespace of a cluster-scoped one is dropped. -/
def Api.key (api : Api) (m : Manifest) : Key where
  group := m.groupKind.1
  kind := m.groupKind.2
  ns := if api.namespaced m.groupKind.1 m.groupKind.2 then m.ns else ""
  name := m.name

inductive DeployError
  | fetch (err : String)
  | notPermitted (kind : String)
  | crossNamespace (kind ns name target : String)
  | check (kind ns name : String) (err : ApiError)
  | create (kind ns name : String) (err : ApiError)
  | apply (kind ns name : String) (err : ApiError)
  deriving DecidableEq

/-- The environment that is deployed: its object, and what an owner reference takes of it. -/
structure Owner where
  env : Environment
  apiVersion : String := ""
  kind : String := ""
  uid : String := ""

def labelEnvironment : String := "divergedev.com/environment"

def labelManagedBy : String := "divergedev.com/managed-by"

def annotationBaselineFingerprint : String := "divergedev.com/baseline-fingerprint"

variable (sum256 : Sum256)

def targetNamespace (env : Environment) : String :=
  if env.spec.deploy.ns = "create" then previewNamespace sum256 env.name env.ns else env.ns

def injectLabels (env : Environment) (m : Manifest) : Manifest :=
  { m with labels := assign (assign m.labels labelEnvironment env.name) labelManagedBy "diverge" }

def injectOTel (env : Environment) (m : Manifest) : Manifest :=
  if m.kind ∈ ["Deployment","StatefulSet","DaemonSet","Job"] then
    (env.annotations.filter fun a => hasPrefix a.1 "instrumentation.opentelemetry.io/").foldl
      (fun m a => m.annotatePods a.1 a.2) m
  else m

def injectFingerprint (env : Environment) (m : Manifest) : Manifest :=
  let fp := trimSpace ( env.annotation annotationBaselineFingerprint)
  if fp ≠ "" ∧ m.kind ∈ ["Deployment","StatefulSet","DaemonSet"] then
    m.annotatePods annotationBaselineFingerprint fp
  else m

def scaleDown (env : Environment) (m : Manifest) : Manifest :=
  if equalFold (trimSpace ( env.annotation annotationHibernated)) "true" = true ∧
      m.kind ∈ ["Deployment","StatefulSet"] then
    m.setSpec ["replicas"] (.num 0)
  else m

def setOwner (owner : Owner) (m : Manifest) : Manifest :=
  if owner.env.spec.deploy.ns ≠ "create" ∧ m.ns = owner.env.ns then
    { m with ownerReferences := [⟨owner.apiVersion,owner.kind,owner.env.name,owner.uid⟩] }
  else m

def prepare (owner : Owner) (m : Manifest) : Manifest :=
  let m := { m with ns := targetNamespace sum256 owner.env }
  setOwner owner (scaleDown owner.env (injectFingerprint owner.env (injectOTel owner.env
    (injectLabels owner.env m))))

variable (d : DirectDeployer) (api : Api) (owner : Owner)

/-- A forced Server-Side Apply to an object that exists. -/
def applyObject (key : Key) (m : Manifest) : Call Key Manifest ApiError Unit := fun c =>
  let r := edit key (fun old => api.apply old m) c
  (r.1.map fun _ => (),r.2)

def writeObject (m : Manifest) : Call Key Manifest DeployError Unit := fun c =>
  let key := api.key m
  if api.served key.group key.kind then
    match get key c with
    | (.ok _,c) =>
      let r := applyObject api key m c
      (r.1.mapError (.apply m.kind m.ns m.name),r.2)
    | (.error .notFound,c) =>
      let r := create key m c
      (r.1.mapError (.create m.kind m.ns m.name),r.2)
    | (.error e,c) => (.error (.check m.kind m.ns m.name e),c)
  else (.error (.check m.kind m.ns m.name (.other "no matches for kind")),c)

/-- A manifest is of a permitted kind and names no other namespace. -/
def accepts (m : Manifest) : Bool :=
  d.isKindPermitted m.groupKind.2 && (m.ns == "" || m.ns == targetNamespace sum256 owner.env)

def deployObject (m : Manifest) : Call Key Manifest DeployError Unit := fun c =>
  let target := targetNamespace sum256 owner.env
  if d.isKindPermitted m.groupKind.2 = false then (.error (.notPermitted m.groupKind.2),c)
  else if m.ns ≠ "" ∧ m.ns ≠ target then (.error (.crossNamespace m.kind m.ns m.name target),c)
  else writeObject api (prepare sum256 owner m) c

def deployStep (s : Except DeployError Unit × Cluster Key Manifest) (m : Manifest) :
    Except DeployError Unit × Cluster Key Manifest :=
  match s.1 with
  | .error _ => s
  | .ok _ => deployObject sum256 d api owner m s.2

def deploy (fetched : Except String (List Manifest)) : Call Key Manifest DeployError Unit := fun c =>
  match fetched with
  | .error e => (.error (.fetch e),c)
  | .ok objects => run (deployStep sum256 d api owner) (.ok (),c) objects

end

def Labelled (env : Environment) (m : Manifest) : Prop :=
  m.labels.lookup labelEnvironment = some env.name

/-- What changes belongs to the environment: it is in its namespace, of a built-in kind of the list,
labelled, and it was new or labelled before. -/
def ChangesOwn (sum256 : Sum256) (env : Environment) (before after : Key → Option Manifest) : Prop :=
  ∀ key, after key ≠ before key → ∃ obj, after key = some obj ∧
    key.ns = targetNamespace sum256 env ∧ (key.group,key.kind) ∈ builtinKinds ∧ Labelled env obj ∧
    ∀ old, before key = some old → Labelled env old

def stored (api : Api) (m : Manifest) (old : Option Manifest) : Manifest :=
  old.elim m fun old => api.apply old m

def goesThrough (api : Api) (key : Key) (script : List Fault) : Bool :=
  api.served key.group key.kind && passesNext script && takesEffect script.tail

/-- A manifest that takes effect is of a built-in kind of the list, and the object in its place, if
any, carries the label of the environment. -/
def WritesOwn (sum256 : Sum256) (d : DirectDeployer) (api : Api) (owner : Owner)
    (s : Except DeployError Unit × Cluster Key Manifest) (m : Manifest) : Prop :=
  let obj := prepare sum256 owner m
  let key := api.key obj
  s.1 = .ok () → accepts sum256 d owner m = true → goesThrough api key s.2.script = true →
    s.2.objects key ≠ some (stored api obj (s.2.objects key)) →
    m.groupKind ∈ builtinKinds ∧ ∀ old, s.2.objects key = some old → Labelled owner.env old

variable {sum256 : Sum256} {d : DirectDeployer} {api : Api} {owner : Owner}

variable (members : List (String × String)) (env : Environment) (m : Manifest)
  (s : Except DeployError Unit × Cluster Key Manifest)

lemma lookup_assign (key value : String) : (assign members key value).lookup key = some value := by
  simp [assign,List.lookup_append,lookup_filter_self]

lemma lookup_assign_of_ne {key other : String} (value : String)
    (hne : other ≠ key) : (assign members key value).lookup other = members.lookup other := by
  have hlast : [(key,value)].lookup other = none := by simp [List.lookup_cons,beq_false_of_ne hne]
  rw [assign,List.lookup_append,lookup_filter_ne members hne,hlast,Option.or_none]

def SameIdentity (m m' : Manifest) : Prop :=
  m'.groupKind = m.groupKind ∧ m'.ns = m.ns ∧ m'.labels = m.labels

lemma SameIdentity.trans {m m' m'' : Manifest} (h : SameIdentity m m') (h' : SameIdentity m' m'') :
    SameIdentity m m'' := ⟨h'.1.trans h.1,h'.2.1.trans h.2.1,h'.2.2.trans h.2.2⟩

lemma annotateAll_same (annos : List (String × String)) (m : Manifest) :
    SameIdentity m (annos.foldl (fun m a => m.annotatePods a.1 a.2) m) := by
  induction annos generalizing m with
  | nil => exact ⟨rfl,rfl,rfl⟩
  | cons a annos ih => exact SameIdentity.trans (setSpec_frame m _ _) (ih _)

lemma injectOTel_same (m : Manifest) : SameIdentity m (injectOTel env m) := by
  unfold injectOTel
  split_ifs
  · exact annotateAll_same _ m
  · exact ⟨rfl,rfl,rfl⟩

lemma injectFingerprint_same (m : Manifest) : SameIdentity m (injectFingerprint env m) := by
  unfold injectFingerprint
  dsimp only
  split_ifs
  · exact setSpec_frame m _ _
  · exact ⟨rfl,rfl,rfl⟩

lemma scaleDown_same (m : Manifest) : SameIdentity m (scaleDown env m) := by
  unfold scaleDown
  split_ifs
  · exact setSpec_frame m _ _
  · exact ⟨rfl,rfl,rfl⟩

lemma setOwner_same (owner : Owner) (m : Manifest) : SameIdentity m (setOwner owner m) := by
  unfold setOwner
  split_ifs <;> exact ⟨rfl,rfl,rfl⟩

lemma prepare_same : SameIdentity (injectLabels owner.env { m with ns := targetNamespace sum256 owner.env })
      (prepare sum256 owner m) :=
  (((injectOTel_same _ _).trans (injectFingerprint_same _ _)).trans (scaleDown_same _ _)).trans
    (setOwner_same _ _)

@[simp] lemma prepare_groupKind : (prepare sum256 owner m).groupKind = m.groupKind := (prepare_same m).1

@[simp] lemma prepare_ns :
    (prepare sum256 owner m).ns = targetNamespace sum256 owner.env := (prepare_same m).2.1

lemma prepare_labelled : Labelled owner.env (prepare sum256 owner m) := by
  unfold Labelled
  rw [(prepare_same m).2.2]
  exact (lookup_assign_of_ne _ _ (by decide)).trans (lookup_assign _ _ _)

lemma stored_labelled (old : Option Manifest) :
    Labelled owner.env (stored api (prepare sum256 owner m) old) := by
  cases old with
  | none => exact prepare_labelled m
  | some old => exact api.apply_labels _ _ _ _ (prepare_labelled m)

lemma writeObject_objects (c : Cluster Key Manifest) :
    (writeObject api m c).2.objects = if goesThrough api (api.key m) c.script then
        Function.update c.objects (api.key m) (some (stored api m (c.objects (api.key m))))
      else c.objects := by
  unfold writeObject goesThrough
  cases hserved : api.served (api.key m).group (api.key m).kind with
  | false => simp [hserved]
  | true =>
    rcases get_cases (api.key m) c with ⟨hp,hnone,hget⟩ | ⟨hp,old,hold,hget⟩ | ⟨hp,hget⟩
    · simp only [hserved,hget,hp,hnone,if_true,Bool.true_and,stored,Option.elim_none]
      obtain ⟨objects,script⟩ := c
      rcases script with _ | ⟨f,_ | ⟨⟨⟩ | g | g,rest⟩⟩ <;>
        simp_all [create,request,takesEffect]
    · simp only [hserved,hget,hp,hold,if_true,Bool.true_and,stored,Option.elim_some,applyObject]
      rw [(edit_spec (c := ⟨c.objects,c.script.tail⟩) (fun old => api.apply old m) hold).1]
    · rcases hget with hget | ⟨msg,hget⟩ <;> simp [hserved,hget,hp]

lemma deployStep_objects (m : Manifest) : (deployStep sum256 d api owner s m).2.objects =
      if s.1 = .ok () ∧ accepts sum256 d owner m = true then
        (writeObject api (prepare sum256 owner m) s.2).2.objects else s.2.objects := by
  obtain ⟨_ | ⟨⟩,c⟩ := s
  · simp [deployStep]
  · unfold deployStep deployObject accepts
    cases d.isKindPermitted m.groupKind.2 with
    | false => simp
    | true =>
      by_cases hns : m.ns ≠ "" ∧ m.ns ≠ targetNamespace sum256 owner.env
      · simp [hns]
      · have hok : m.ns = "" ∨ m.ns = targetNamespace sum256 owner.env := by tauto
        simp [hns,hok]

lemma changesOwn_update_iff {before : Key → Option Manifest} {key : Key} {obj : Manifest}
    (hobj : Labelled owner.env obj) :
    ChangesOwn sum256 owner.env before (Function.update before key (some obj)) ↔
      (before key ≠ some obj → key.ns = targetNamespace sum256 owner.env ∧
        (key.group,key.kind) ∈ builtinKinds ∧ ∀ old, before key = some old → Labelled owner.env old) := by
  constructor
  · intro h hne
    obtain ⟨_,-,hns,hkind,-,hold⟩ := h key (by simpa using hne.symm)
    exact ⟨hns,hkind,hold⟩
  · intro h k hk
    obtain rfl : k = key := by
      by_contra hne
      exact hk (Function.update_of_ne hne _ _)
    rw [Function.update_self] at hk
    obtain ⟨hns,hkind,hold⟩ := h hk.symm
    exact ⟨obj,Function.update_self ..,hns,hkind,hobj,hold⟩

lemma changesOwn_refl (objects : Key → Option Manifest) :
    ChangesOwn sum256 env objects objects := fun _ h => absurd rfl h

lemma key_of_builtin {m : Manifest} (h : m.groupKind ∈ builtinKinds) :
    (api.key (prepare sum256 owner m)).ns = targetNamespace sum256 owner.env := by
  simp [Api.key,api.builtin_namespaced _ h]

lemma changesOwn_step_iff (m : Manifest) :
    ChangesOwn sum256 owner.env s.2.objects (deployStep sum256 d api owner s m).2.objects ↔
      WritesOwn sum256 d api owner s m := by
  rw [deployStep_objects]
  unfold WritesOwn
  by_cases hrun : s.1 = .ok () ∧ accepts sum256 d owner m = true
  · rw [if_pos hrun,writeObject_objects]
    simp only [hrun.1,hrun.2,true_imp_iff]
    by_cases hgo : goesThrough api (api.key (prepare sum256 owner m)) s.2.script = true
    · rw [if_pos hgo,changesOwn_update_iff (stored_labelled m _)]
      simp only [hgo,true_imp_iff]
      refine imp_congr_right fun _ => ?_
      have hkind : ((api.key (prepare sum256 owner m)).group,(api.key (prepare sum256 owner m)).kind) =
          m.groupKind := by simp [Api.key]
      rw [hkind]
      exact ⟨fun h => h.2,fun h => ⟨key_of_builtin h.1,h⟩⟩
    · rw [if_neg hgo]
      simp [hgo,changesOwn_refl]
  · rw [if_neg hrun]
    refine ⟨fun _ hok haccept => absurd ⟨hok,haccept⟩ hrun,fun _ => changesOwn_refl _ _⟩

lemma ChangesOwn.keeps {env : Environment} {before after : Key → Option Manifest}
    (h : ChangesOwn sum256 env before after) {key : Key} {old : Manifest}
    (hold : before key = some old) (hlabel : ¬Labelled env old) : after key = some old := by
  by_contra hne
  obtain ⟨-,-,-,-,-,hbefore⟩ := h key (fun heq => hne (heq.trans hold))
  exact hlabel (hbefore old hold)

variable (sum256 d api owner)

/-- The deployer writes only what belongs to the environment, and leaves the objects of others,
exactly when every manifest that it writes is of a built-in kind of the list and every object that
it changes carries the label of the environment. -/
theorem deploy_writes_own_iff (fetched : Except String (List Manifest)) (c : Cluster Key Manifest) :
    (EveryStep (deployStep sum256 d api owner) (fun s m => ChangesOwn sum256 owner.env s.2.objects
          (deployStep sum256 d api owner s m).2.objects) (.ok (),c) (fetched.toOption.getD []) ∧
      ∀ key old, c.objects key = some old → ¬Labelled owner.env old →
        (deploy sum256 d api owner fetched c).2.objects key = some old) ↔
    EveryStep (deployStep sum256 d api owner) (WritesOwn sum256 d api owner)
      (.ok (),c) (fetched.toOption.getD []) := by
  rw [everyStep_congr changesOwn_step_iff,and_iff_left_iff_imp]
  intro hsafe key old hold hlabel
  cases fetched with
  | error e => exact hold
  | ok objects =>
    refine hsafe.reaches (P := fun s => s.2.objects key = some old) (fun s m hm hs => ?_) hold
      objects (List.prefix_refl _)
    exact ((changesOwn_step_iff s m).mpr hm).keeps hs hlabel

def sampleApi : Api where
  served _ _ := true
  namespaced _ _ := true
  apply old new := { old with labels := new.labels ++ old.labels, spec := new.spec }
  builtin_namespaced _ _ := rfl
  apply_labels old new key value h := by simp [List.lookup_append,h]

def preview : Owner where
  env := { name := "preview", ns := "team" }

def constantSum256 : Sum256 := fun _ => Vector.replicate 32 0

/-- A custom resource whose kind has the name of a built-in one. -/
def knativeService : Manifest where
  apiVersion := "serving.knative.dev/v1"
  kind := "Service"
  name := "web"

def secretManifest : Manifest where
  apiVersion := "v1"
  kind := "Secret"
  name := "db"

/-- A Secret of somebody else under the name of the manifest. -/
def billingSecret : Manifest where
  apiVersion := "v1"
  kind := "Secret"
  ns := "team"
  name := "db"
  labels := [("app","billing")]

def dbKey : Key := ⟨"","Secret","team","db"⟩

def billingCluster : Cluster Key Manifest where
  objects := Function.update (fun _ => none) dbKey (some billingSecret)
  script := []

theorem foreign_objects_written : (¬EveryStep (deployStep constantSum256 {} sampleApi preview)
      (fun s m => ChangesOwn constantSum256 preview.env s.2.objects
        (deployStep constantSum256 {} sampleApi preview s m).2.objects)
      (.ok (),⟨fun _ => none,[]⟩) [knativeService]) ∧
    billingCluster.objects dbKey = some billingSecret ∧ ¬Labelled preview.env billingSecret ∧
    (deploy constantSum256 {} sampleApi preview (.ok [secretManifest]) billingCluster).2.objects
      dbKey ≠ some billingSecret := by
  have hlabel : ¬Labelled preview.env billingSecret := by
    unfold Labelled
    decide
  refine ⟨?_,by simp [billingCluster],hlabel,fun h => hlabel ?_⟩
  · rintro ⟨h,-⟩
    have hkind := ((changesOwn_step_iff _ _).mp h rfl (by decide) rfl nofun).1
    exact absurd hkind (by decide)
  · have hkey : sampleApi.key (prepare constantSum256 preview secretManifest) = dbKey := by decide
    change (deployStep constantSum256 {} sampleApi preview (.ok (),billingCluster)
      secretManifest).2.objects dbKey = _ at h
    rw [deployStep_objects,if_pos ⟨rfl,by decide⟩,writeObject_objects,hkey,if_pos (by decide),
      Function.update_self] at h
    rw [← Option.some.inj h]
    exact stored_labelled _ _

end Diverge.Deployer
