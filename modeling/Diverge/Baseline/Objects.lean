import Diverge.Environments.Names
import Diverge.Order.Enumerations

/-! The objects of a cluster that the baseline of an environment is made of: Deployments, ConfigMaps and
Secrets. Go maps are lists of entries in the order of an iteration. -/
namespace Diverge.Baseline
open Text Kube Diverge.Order

structure KeyRef where
  name : String
  key : String
  deriving DecidableEq

structure EnvVarSource where
  configMapKeyRef : Option KeyRef := none
  secretKeyRef : Option KeyRef := none
  /-- The path of a field of the pod. -/
  fieldRef : Option String := none
  /-- The resource of a container. -/
  resourceFieldRef : Option String := none
  deriving DecidableEq

structure EnvVar where
  name : String
  value : String := ""
  valueFrom : Option EnvVarSource := none
  deriving DecidableEq

structure EnvFromSource where
  keyPrefix : String := ""
  configMapRef : Option String := none
  secretRef : Option String := none
  deriving DecidableEq

structure ContainerPort where
  name : String := ""
  containerPort : ℤ
  protocol : String := "TCP"
  deriving DecidableEq

structure Container where
  name : String
  image : String
  command : List String := []
  args : List String := []
  ports : List ContainerPort := []
  env : List EnvVar := []
  envFrom : List EnvFromSource := []
  deriving DecidableEq

/-- One source of a projected volume. -/
structure VolumeProjection where
  configMap : Option String := none
  secret : Option String := none
  deriving DecidableEq

structure Volume where
  configMap : Option String := none
  secret : Option String := none
  projected : List VolumeProjection := []
  deriving DecidableEq

structure Key where
  ns : String
  name : String
  deriving DecidableEq

def Key.text (k : Key) : String := k.ns ++ "/" ++ k.name

def Key.Valid (k : Key) : Prop := isDNS1123Label k.ns = true ∧ isDNS1123Subdomain k.name = true

instance (k : Key) : Decidable k.Valid := inferInstanceAs (Decidable (_ ∧ _))

/-- A Deployment; the annotations are those of its pod template. -/
structure Deployment where
  key : Key
  labels : Listing String := .empty
  annotations : Listing String := .empty
  initContainers : List Container := []
  containers : List Container := []
  volumes : List Volume := []
  deriving DecidableEq

structure ConfigMap where
  key : Key
  labels : Listing String := .empty
  data : Listing String := .empty
  binaryData : Listing Bytes := .empty
  deriving DecidableEq

structure Secret where
  key : Key
  type : String := ""
  data : Listing Bytes := .empty
  stringData : Listing String := .empty
  deriving DecidableEq

/-- The stored objects of a kind: their keys are valid and all different. -/
structure Objects (α : Type) (key : α → Key) where
  items : List α
  unique : (items.map key).Nodup
  valid : ∀ a ∈ items, (key a).Valid

namespace Objects

variable {α : Type} {key : α → Key} (objects : Objects α key)

def empty : Objects α key := ⟨[],List.nodup_nil,List.forall_mem_nil _⟩

def find? (k : Key) : Option α := objects.items.find? fun a => key a == k

variable {objects}

lemma find?_eq_some_iff {k : Key} {a : α} : objects.find? k = some a ↔ a ∈ objects.items ∧ key a = k := by
  constructor
  · intro h
    exact ⟨List.mem_of_find?_eq_some h,by simpa using List.find?_some h⟩
  · rintro ⟨ha,rfl⟩
    cases h : objects.find? (key a) with
    | none => exact absurd (List.find?_eq_none.mp h a ha) (by simp)
    | some b =>
      have hb : b ∈ objects.items := List.mem_of_find?_eq_some h
      have hkey : key b = key a := by simpa using List.find?_some h
      exact congrArg some (List.inj_on_of_nodup_map objects.unique hb ha hkey)

end Objects

structure Cluster where
  deployments : Objects Deployment Deployment.key
  configMaps : Objects ConfigMap ConfigMap.key
  secrets : Objects Secret Secret.key

lemma Key.text_inj {k k' : Key} (h : k.Valid) (h' : k'.Valid) (heq : k.text = k'.text) : k = k' := by
  have hslash : ∀ {ns : String}, isDNS1123Label ns = true → '/' ∉ ns.toList := by
    intro ns hns hmem
    exact absurd (nameChar_of_label hns hmem) (by decide)
  have hlists := congrArg String.toList heq
  simp only [Key.text,String.toList_append] at hlists
  rw [show ("/" : String).toList = ['/'] from rfl,List.append_assoc,List.append_assoc] at hlists
  obtain ⟨hns,hname⟩ := append_separator_inj (hslash h.1) (hslash h'.1) hlists
  cases k
  cases k'
  rw [Key.mk.injEq]
  exact ⟨String.toList_inj.mp hns,String.toList_inj.mp hname⟩

lemma nodup_text {α : Type} {key : α → Key} {l : List α} (hunique : (l.map key).Nodup)
    (hvalid : ∀ a ∈ l, (key a).Valid) : (l.map fun a => (key a).text).Nodup := by
  have hmap : (l.map fun a => (key a).text) = (l.map key).map Key.text := by simp
  rw [hmap]
  refine hunique.map_on ?_
  intro k hk k' hk' h
  obtain ⟨a,ha,rfl⟩ := List.mem_map.mp hk
  obtain ⟨b,hb,rfl⟩ := List.mem_map.mp hk'
  exact Key.text_inj (hvalid a ha) (hvalid b hb) h

end Diverge.Baseline
