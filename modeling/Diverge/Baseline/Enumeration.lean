import Diverge.Baseline.Fingerprint

/-! The fingerprint of a baseline sees neither the orders in which objects are listed and maps iterated, nor
the objects outside the baseline. -/
namespace Diverge.Baseline
open Diverge.Order TokenStore Program
open Program.Reading (question gather eval_bind)

section

/-- The same Deployment, with its maps iterated in other orders. -/
structure Deployment.Same (d d' : Deployment) : Prop where
  key : d.key = d'.key
  labels : d.labels.Same d'.labels
  annotations : d.annotations.Same d'.annotations
  initContainers : d.initContainers = d'.initContainers
  containers : d.containers = d'.containers
  volumes : d.volumes = d'.volumes

structure ConfigMap.Same (cm cm' : ConfigMap) : Prop where
  key : cm.key = cm'.key
  labels : cm.labels.Same cm'.labels
  data : cm.data.Same cm'.data
  binaryData : cm.binaryData.Same cm'.binaryData

structure Secret.Same (s s' : Secret) : Prop where
  key : s.key = s'.key
  type : s.type = s'.type
  data : s.data.Same s'.data
  stringData : s.stringData.Same s'.stringData

variable {d d' : Deployment} {cm cm' : ConfigMap} {s s' : Secret}

lemma matchesBaseline_same (h : d.Same d') (targets : List String) :
    matchesBaseline targets d = matchesBaseline targets d' := by
  have hlabel (k : String) : d.label k = d'.label k := by rw [Deployment.label,Deployment.label,h.labels.get?]
  simp only [matchesBaseline,hlabel,h.key]

lemma Deployment.Same.configMapKeys (h : d.Same d') : d.configMapKeys = d'.configMapKeys := by
  rw [Deployment.configMapKeys,Deployment.configMapKeys,h.key,h.initContainers,h.containers,h.volumes]

lemma Deployment.Same.secretKeys (h : d.Same d') : d.secretKeys = d'.secretKeys := by
  rw [Deployment.secretKeys,Deployment.secretKeys,h.key,h.initContainers,h.containers,h.volumes]

lemma hashDeployment_same (h : d.Same d') : hashDeployment d = hashDeployment d' := by
  simp only [hashDeployment,h.key,h.initContainers,h.containers,h.annotations.sortedKeys,h.annotations.get?]

lemma holdsManifests_same (h : cm.Same cm') (env : String) :
    holdsManifests env cm = holdsManifests env cm' := by
  rw [holdsManifests,holdsManifests,h.labels.get?,h.labels.get?]

lemma hashConfigMap_same (sum256 : Sum256) (h : cm.Same cm') :
    hashConfigMap sum256 cm = hashConfigMap sum256 cm' := by
  simp only [hashConfigMap,h.key,h.data.sortedKeys,h.data.get?,h.binaryData.sortedKeys,h.binaryData.get?]

lemma Secret.Same.value (h : s.Same s') (k : String) : s.value k = s'.value k := by
  rw [Secret.value,Secret.value,h.stringData.get?,h.data.get?]

lemma Secret.Same.sortedKeys (h : s.Same s') (visits visits' : Visits) :
    s.sortedKeys visits = s'.sortedKeys visits' := by
  have hkeys : (s.data.keys ++ s.stringData.keys).dedup.Perm (s'.data.keys ++ s'.stringData.keys).dedup :=
    (h.data.keys.append h.stringData.keys).dedup
  have hperm := (visits.merged_perm s _).trans (hkeys.trans (visits'.merged_perm s' _).symm)
  refine sortBy_eq_of_perm hperm ?_
  rw [List.map_id,(visits.merged_perm s _).nodup_iff]
  exact List.nodup_dedup _

lemma hashSecret_same (sum256 : Sum256) (h : s.Same s') (visits visits' : Visits) :
    hashSecret sum256 visits s = hashSecret sum256 visits' s' := by
  simp only [hashSecret,h.key,h.type,h.sortedKeys visits visits',h.value]

end

section
variable (sum256 : Sum256) (sel : Selection)

/-- The same environment, with its changed services in another order and repeated otherwise. -/
def Selection.SameServices (sel sel' : Selection) : Prop :=
  ∃ services, sel' = { sel with changedServices := services } ∧
    ∀ svc, svc ∈ sel.changedServices ↔ svc ∈ services

lemma Selection.SameServices.refl (sel : Selection) : sel.SameServices sel :=
  ⟨sel.changedServices,rfl,fun _ => Iff.rfl⟩

lemma targetServices_same {sel sel' : Selection} (h : sel.SameServices sel') (visits visits' : Visits) :
    targetServices sel visits = targetServices sel' visits' := by
  obtain ⟨services,rfl,hmem⟩ := h
  have hset : (targetSet sel).Perm (targetSet { sel with changedServices := services }) := by
    refine (List.perm_ext_iff_of_nodup (List.nodup_dedup _) (List.nodup_dedup _)).mpr fun svc => ?_
    simp only [List.mem_dedup,List.mem_filter,List.mem_map,List.mem_append,hmem]
  have hperm := (visits.targets_perm _).trans (hset.trans (visits'.targets_perm _).symm)
  refine sortBy_eq_of_perm hperm ?_
  rw [List.map_id,(visits.targets_perm _).nodup_iff]
  exact List.nodup_dedup _

/-- Every order of the iterations is as good as this one. -/
def listed : Visits where
  targets l := l
  configMaps l := l
  secrets l := l
  merged _ l := l
  targets_perm _ := .refl _
  configMaps_perm _ := .refl _
  secrets_perm _ := .refl _
  merged_perm _ _ := .refl _

def Cluster.matched (c : Cluster) : List Deployment :=
  (c.answer (.deployments (baselineNamespaceForEnvironment sel))).filter
    (matchesBaseline (targetServices sel listed))

def Cluster.manifests (c : Cluster) : List ConfigMap :=
  if sel.manifests = some "configmap" then
    c.answer (.manifests (manifestNamespace sum256 sel) sel.name) ++ c.answer (.manifests sel.ns sel.name)
  else []

/-- A ConfigMap of the baseline: a Deployment of it refers to it, or it has manifests. -/
def Cluster.NeedsConfigMap (c : Cluster) (k : Key) : Prop :=
  (∃ d ∈ c.matched sel, k ∈ d.configMapKeys) ∨ ∃ cm ∈ c.manifests sum256 sel, cm.key = k

/-- A Secret of the baseline: a Deployment of it or the environment refers to it. -/
def Cluster.NeedsSecret (c : Cluster) (k : Key) : Prop :=
  (∃ d ∈ c.matched sel, k ∈ d.secretKeys) ∨ k ∈ sel.secretKeys

/-- Two clusters with the same baseline, up to order. -/
structure SameBaseline (c c' : Cluster) : Prop where
  deployments : UpToOrder Deployment.Same (c.matched sel) (c'.matched sel)
  manifests : ∀ ns, ns = manifestNamespace sum256 sel ∨ ns = sel.ns → sel.manifests = some "configmap" →
    UpToOrder ConfigMap.Same (c.answer (.manifests ns sel.name)) (c'.answer (.manifests ns sel.name))
  configMaps : ∀ k, c.NeedsConfigMap sum256 sel k →
    Option.Rel ConfigMap.Same (c.configMaps.find? k) (c'.configMaps.find? k)
  secrets : ∀ k, c.NeedsSecret sel k → Option.Rel Secret.Same (c.secrets.find? k) (c'.secrets.find? k)

end

section
variable {sum256 : Sum256} {sel : Selection} {c c' : Cluster} {faults : Query → Option String}

lemma question_agree {q : Query} {R : q.Payload → q.Payload → Prop} (h : R (c.answer q) (c'.answer q))
    (wrap : String → String) : Agree R ((question q wrap : Fetch q.Payload).eval (c.answers faults))
      ((question q wrap : Fetch q.Payload).eval (c'.answers faults)) := by
  cases hq : faults q with
  | some e =>
    rw [Reading.eval_question_error (e := e) (by rw [Cluster.answers,hq]),
      Reading.eval_question_error (e := e) (by rw [Cluster.answers,hq])]
    trivial
  | none =>
    rw [Reading.eval_question_ok (a := c.answer q) (by rw [Cluster.answers,hq]),
      Reading.eval_question_ok (a := c'.answer q) (by rw [Cluster.answers,hq])]
    exact h

/-- The lists of manifests have the same keys, all of ConfigMaps that are needed. -/
def SameKeys (sum256 : Sum256) (sel : Selection) (c : Cluster) (l l' : List ConfigMap) : Prop :=
  (∀ k, k ∈ l.map (·.key) ↔ k ∈ l'.map (·.key)) ∧ ∀ cm ∈ l, cm ∈ c.manifests sum256 sel

lemma listManifests_agree (h : SameBaseline sum256 sel c c') :
    Agree (SameKeys sum256 sel c) ((listManifests sum256 sel).eval (c.answers faults))
      ((listManifests sum256 sel).eval (c'.answers faults)) := by
  unfold listManifests
  by_cases hm : sel.manifests = some "configmap"
  · rw [if_pos hm]
    have hkeys : ∀ ns, ns = manifestNamespace sum256 sel ∨ ns = sel.ns → ∀ k,
        k ∈ (c.answer (.manifests ns sel.name)).map (·.key) ↔
          k ∈ (c'.answer (.manifests ns sel.name)).map (·.key) :=
      fun ns hns k => ((h.manifests ns hns hm).map_perm fun _ _ hs => hs.key).mem_iff
    have hmanifests : c.manifests sum256 sel = c.answer (.manifests (manifestNamespace sum256 sel) sel.name) ++
        c.answer (.manifests sel.ns sel.name) := if_pos hm
    rw [eval_bind,eval_bind]
    refine (question_agree (R := fun l l' => l = c.answer (.manifests (manifestNamespace sum256 sel) sel.name) ∧
      l' = c'.answer (.manifests (manifestNamespace sum256 sel) sel.name)) ⟨rfl,rfl⟩ _).bind ?_
    rintro own own' ⟨rfl,rfl⟩
    split_ifs
    · refine ⟨hkeys _ (.inl rfl),fun cm hcm => ?_⟩
      rw [hmanifests]
      exact List.mem_append_left _ hcm
    · rw [eval_bind,eval_bind]
      refine (question_agree (R := fun l l' => l = c.answer (.manifests sel.ns sel.name) ∧
        l' = c'.answer (.manifests sel.ns sel.name)) ⟨rfl,rfl⟩ _).bind ?_
      rintro source source' ⟨rfl,rfl⟩
      refine ⟨fun k => ?_,fun cm hcm => by rwa [hmanifests]⟩
      rw [List.map_append,List.map_append,List.mem_append,List.mem_append,hkeys _ (.inl rfl),hkeys _ (.inr rfl)]
  · rw [if_neg hm]
    exact ⟨fun _ => Iff.rfl,fun cm hcm => absurd hcm List.not_mem_nil⟩

lemma configMap_agree (h : SameBaseline sum256 sel c c') {k : Key} (hk : c.NeedsConfigMap sum256 sel k) :
    Agree (Option.Rel ConfigMap.Same) ((getConfigMap k).eval (c.answers faults))
      ((getConfigMap k).eval (c'.answers faults)) :=
  question_agree (q := .configMap k) (R := Option.Rel ConfigMap.Same) (h.configMaps k hk) _

lemma secret_agree (h : SameBaseline sum256 sel c c') {k : Key} (hk : c.NeedsSecret sel k) :
    Agree (Option.Rel Secret.Same) ((getSecret k).eval (c.answers faults))
      ((getSecret k).eval (c'.answers faults)) :=
  question_agree (q := .secret k) (R := Option.Rel Secret.Same) (h.secrets k hk) _

lemma dedup_perm_of_mem {α : Type} [DecidableEq α] {l l' : List α} (h : ∀ a, a ∈ l ↔ a ∈ l') :
    l.dedup.Perm l'.dedup := by
  refine (List.perm_ext_iff_of_nodup (List.nodup_dedup _) (List.nodup_dedup _)).mpr fun a => ?_
  rw [List.mem_dedup,List.mem_dedup,h]

/-- The objects that one run finds, as far as they are hashed. -/
def SameLines (sum256 : Sum256) (visits visits' : Visits) (found found' : Found) : Prop :=
  found.deployments.map hashDeployment = found'.deployments.map hashDeployment ∧
  found.configMaps.map (hashConfigMap sum256) = found'.configMaps.map (hashConfigMap sum256) ∧
  found.secrets.map (hashSecret sum256 visits) = found'.secrets.map (hashSecret sum256 visits')

lemma SameLines.fingerprint {visits visits' : Visits} {found found' : Found}
    (h : SameLines sum256 visits visits' found found') :
    found.fingerprint sum256 visits = found'.fingerprint sum256 visits' := by
  obtain ⟨hdeployments,hconfigMaps,hsecrets⟩ := h
  have hempty : found.isEmpty = found'.isEmpty := by
    have hlength := congrArg List.isEmpty hdeployments
    have hlength' := congrArg List.isEmpty hconfigMaps
    have hlength'' := congrArg List.isEmpty hsecrets
    simp only [List.isEmpty_map] at hlength hlength' hlength''
    rw [Found.isEmpty,Found.isEmpty,hlength,hlength',hlength'']
  have htext : found.text sum256 visits = found'.text sum256 visits' := by
    simp only [Found.text,List.flatMap_def,hdeployments,hconfigMaps,hsecrets]
  rw [Found.fingerprint,Found.fingerprint,hempty,htext]

end

section
variable {α : Type} {key : α → Key} {objects : Objects α key} {value : Key → Option α}

lemma nodup_found (hvalue : ∀ k a, value k = some a → objects.find? k = some a) {ks : List Key} (h : ks.Nodup) :
    ((ks.filterMap value).map fun a => (key a).text).Nodup := by
  have hkeys : (ks.filterMap value).map key = ks.filter fun k => (value k).isSome := by
    clear h
    induction ks with
    | nil => rfl
    | cons k ks ih =>
      rw [List.filterMap_cons,List.filter_cons]
      cases hk : value k with
      | none => exact ih
      | some a =>
        rw [Option.isSome_some,if_pos rfl,← ih,← (Objects.find?_eq_some_iff.mp (hvalue k a hk)).2]
        rfl
  refine nodup_text ?_ ?_
  · rw [hkeys]
    exact h.filter _
  · intro a ha
    obtain ⟨k,-,hk⟩ := List.mem_filterMap.mp ha
    exact objects.valid a (Objects.find?_eq_some_iff.mp (hvalue k a hk)).1

variable {sum256 : Sum256} {sel : Selection} {c c' : Cluster} {faults : Query → Option String}

lemma matched_nodup (c : Cluster) : ((c.matched sel).map (·.key.text)).Nodup := by
  have hsub : (c.matched sel).Sublist c.deployments.items := List.filter_sublist.trans List.filter_sublist
  exact nodup_text (c.deployments.unique.sublist (hsub.map _)) fun d hd =>
    c.deployments.valid d (hsub.subset hd)

lemma getConfigMap_found {k : Key} {cm : ConfigMap}
    (h : foundValue ((getConfigMap k).eval (c.answers faults)) = some cm) : c.configMaps.find? k = some cm := by
  cases hq : faults (.configMap k) with
  | some e =>
    rw [getConfigMap,Reading.eval_question_error (e := e) (by rw [Cluster.answers,hq])] at h
    cases h
  | none =>
    rw [getConfigMap,Reading.eval_question_ok (a := c.answer (.configMap k)) (by rw [Cluster.answers,hq])] at h
    exact h

lemma getSecret_found {k : Key} {s : Secret}
    (h : foundValue ((getSecret k).eval (c.answers faults)) = some s) : c.secrets.find? k = some s := by
  cases hq : faults (.secret k) with
  | some e =>
    rw [getSecret,Reading.eval_question_error (e := e) (by rw [Cluster.answers,hq])] at h
    cases h
  | none =>
    rw [getSecret,Reading.eval_question_ok (a := c.answer (.secret k)) (by rw [Cluster.answers,hq])] at h
    exact h

lemma gather_sorted_agree (objects : Objects α key) {get : Key → Fetch (Option α)}
    {Same : α → α → Prop} {f f' : α → List String} {ks ks' : List Key} (hks : ks.Perm ks') (hnodup : ks.Nodup)
    (hfound : ∀ k a, foundValue ((get k).eval (c.answers faults)) = some a → objects.find? k = some a)
    (hagree : ∀ k ∈ ks, Agree (Option.Rel Same) ((get k).eval (c.answers faults))
      ((get k).eval (c'.answers faults))) (hsame : ∀ a b, Same a b → key a = key b ∧ f a = f' b) :
    Agree (fun l l' => (sortBy (fun a => (key a).text) l).map f = (sortBy (fun a => (key a).text) l').map f')
      ((gather get ks).eval (c.answers faults)) ((gather get ks').eval (c'.answers faults)) := by
  have hgathered := (gather_agree hks hagree).and_left
    (P := fun l => (l.map fun a => (key a).text).Nodup) fun l hl => by
      rw [eq_of_gather hl]
      exact nodup_found hfound hnodup
  refine hgathered.mono ?_
  rintro l l' ⟨hupTo,hkeys⟩
  refine map_sortBy_eq (hupTo.map_perm fun a b hs => ?_) hkeys
  rw [(hsame a b hs).1,(hsame a b hs).2]

lemma findReferences_agree (h : SameBaseline sum256 sel c c') (visits visits' : Visits) :
    Agree (SameLines sum256 visits visits')
      ((findReferences sum256 visits sel (sortBy (·.key.text) (c.matched sel))).eval (c.answers faults))
      ((findReferences sum256 visits' sel (sortBy (·.key.text) (c'.matched sel))).eval (c'.answers faults)) := by
  have hlines : (sortBy (·.key.text) (c.matched sel)).map hashDeployment =
      (sortBy (·.key.text) (c'.matched sel)).map hashDeployment :=
    map_sortBy_eq (h.deployments.map_perm fun d d' hs => by rw [hs.key,hashDeployment_same hs]) (matched_nodup c)
  have hsorted (c : Cluster) (f : Deployment → List Key) (k : Key) :
      k ∈ (sortBy (·.key.text) (c.matched sel)).flatMap f ↔ ∃ d ∈ c.matched sel, k ∈ f d := by
    simp only [List.mem_flatMap,mem_sortBy]
  have hreferred (f : Deployment → List Key) (hf : ∀ d d', d.Same d' → f d = f d') (k : Key) :
      (∃ d ∈ c.matched sel, k ∈ f d) ↔ ∃ d ∈ c'.matched sel, k ∈ f d := by
    simpa only [List.mem_flatMap] using h.deployments.mem_flatMap hf k
  unfold findReferences
  rw [eval_bind,eval_bind]
  refine (listManifests_agree h).bind ?_
  rintro manifests manifests' ⟨hkeys,hneeded⟩
  have hconfigMaps : (configMapKeys (sortBy (·.key.text) (c.matched sel)) manifests).Perm
      (configMapKeys (sortBy (·.key.text) (c'.matched sel)) manifests') := by
    refine dedup_perm_of_mem fun k => ?_
    rw [List.mem_append,List.mem_append,hkeys,hsorted,hsorted,hreferred _ fun _ _ hs => hs.configMapKeys]
  have hsecrets : (secretKeys sel (sortBy (·.key.text) (c.matched sel))).Perm
      (secretKeys sel (sortBy (·.key.text) (c'.matched sel))) := by
    refine dedup_perm_of_mem fun k => ?_
    rw [List.mem_append,List.mem_append,hsorted,hsorted,hreferred _ fun _ _ hs => hs.secretKeys]
  rw [eval_bind,eval_bind]
  refine (gather_sorted_agree c.configMaps
    ((visits.configMaps_perm _).trans (hconfigMaps.trans (visits'.configMaps_perm _).symm))
    ((visits.configMaps_perm _).nodup_iff.mpr (List.nodup_dedup _)) (fun _ _ hv => getConfigMap_found hv)
    (fun k hk => configMap_agree h ?_) fun a b hs => ⟨hs.key,hashConfigMap_same sum256 hs⟩).bind ?_
  · rw [(visits.configMaps_perm _).mem_iff,configMapKeys,List.mem_dedup,List.mem_append,hsorted] at hk
    refine hk.imp id fun hmanifest => ?_
    obtain ⟨cm,hcm,rfl⟩ := List.mem_map.mp hmanifest
    exact ⟨cm,hneeded cm hcm,rfl⟩
  intro configMaps configMaps' hconfigMapLines
  rw [eval_bind,eval_bind]
  refine (gather_sorted_agree c.secrets
    ((visits.secrets_perm _).trans (hsecrets.trans (visits'.secrets_perm _).symm))
    ((visits.secrets_perm _).nodup_iff.mpr (List.nodup_dedup _)) (fun _ _ hv => getSecret_found hv)
    (fun k hk => secret_agree h ?_) fun a b hs => ⟨hs.key,hashSecret_same sum256 hs visits visits'⟩).bind ?_
  · rwa [(visits.secrets_perm _).mem_iff,secretKeys,List.mem_dedup,List.mem_append,hsorted] at hk
  intro secrets secrets' hsecretLines
  exact ⟨hlines,hconfigMapLines,hsecretLines⟩

theorem findBaseline_agree {sel' : Selection} (hsel : sel.SameServices sel') (h : SameBaseline sum256 sel c c')
    (visits visits' : Visits) :
    Agree (SameLines sum256 visits visits') ((findBaseline sum256 visits sel).eval (c.answers faults))
      ((findBaseline sum256 visits' sel').eval (c'.answers faults)) := by
  have htargets := targetServices_same hsel visits visits'
  have htargets' := targetServices_same (.refl sel) visits listed
  obtain ⟨services,rfl,-⟩ := hsel
  unfold findBaseline
  rw [← htargets,htargets',eval_bind,eval_bind]
  refine (question_agree (R := fun l l' => l = c.answer (.deployments (baselineNamespaceForEnvironment sel)) ∧
    l' = c'.answer (.deployments (baselineNamespaceForEnvironment sel))) ⟨rfl,rfl⟩ _).bind ?_
  rintro _ _ ⟨rfl,rfl⟩
  exact findReferences_agree h visits visits'

end

variable (sum256 : Sum256) (sel : Selection)

/-- The same objects, listed in other orders and with their maps iterated in other orders. -/
structure Cluster.Reordered (c c' : Cluster) : Prop where
  deployments : UpToOrder Deployment.Same c.deployments.items c'.deployments.items
  configMaps : UpToOrder ConfigMap.Same c.configMaps.items c'.configMaps.items
  secrets : UpToOrder Secret.Same c.secrets.items c'.secrets.items

def IsMatched (d : Deployment) : Prop :=
  inNamespace (baselineNamespaceForEnvironment sel) d.key = true ∧
    matchesBaseline (targetServices sel listed) d = true

def IsManifest (cm : ConfigMap) : Prop :=
  sel.manifests = some "configmap" ∧ holdsManifests sel.name cm = true ∧
    (inNamespace (manifestNamespace sum256 sel) cm.key = true ∨ inNamespace sel.ns cm.key = true)

/-- The clusters differ only in objects that are neither matched nor referred to. -/
structure Cluster.OthersDiffer (c c' : Cluster) : Prop where
  deployments : ∀ d, IsMatched sel d → (d ∈ c.deployments.items ↔ d ∈ c'.deployments.items)
  configMaps : ∀ cm, IsManifest sum256 sel cm ∨ (∃ d ∈ c.matched sel, cm.key ∈ d.configMapKeys) →
    (cm ∈ c.configMaps.items ↔ cm ∈ c'.configMaps.items)
  secrets : ∀ s, (∃ d ∈ c.matched sel, s.key ∈ d.secretKeys) ∨ s.key ∈ sel.secretKeys →
    (s ∈ c.secrets.items ↔ s ∈ c'.secrets.items)

variable {sum256 sel} {c c' : Cluster}

variable {α : Type} {key : α → Key} {objects objects' : Objects α key} {cm : ConfigMap}

lemma find?_rel {Same : α → α → Prop}
    (hkey : ∀ a b, Same a b → key a = key b) (h : UpToOrder Same objects.items objects'.items) (k : Key) :
    Option.Rel Same (objects.find? k) (objects'.find? k) := by
  cases hfind : objects.find? k with
  | some a =>
    obtain ⟨ha,rfl⟩ := Objects.find?_eq_some_iff.mp hfind
    obtain ⟨b,hb,hs⟩ := h.exists_right ha
    rw [Objects.find?_eq_some_iff.mpr ⟨hb,(hkey a b hs).symm⟩]
    exact .some hs
  | none =>
    cases hfind' : objects'.find? k with
    | none => exact .none
    | some b =>
      obtain ⟨hb,rfl⟩ := Objects.find?_eq_some_iff.mp hfind'
      obtain ⟨a,ha,hs⟩ := h.exists_left hb
      rw [Objects.find?_eq_some_iff.mpr ⟨ha,hkey a b hs⟩] at hfind
      cases hfind

lemma Cluster.Reordered.sameBaseline (h : c.Reordered c') : SameBaseline sum256 sel c c' where
  deployments := (h.deployments.filter fun _ _ hs => by rw [hs.key]).filter fun _ _ hs =>
    matchesBaseline_same hs _
  manifests ns _ _ := h.configMaps.filter fun _ _ hs => by rw [hs.key,holdsManifests_same hs]
  configMaps k _ := find?_rel (fun _ _ hs => hs.key) h.configMaps k
  secrets k _ := find?_rel (fun _ _ hs => hs.key) h.secrets k

lemma find?_eq_of_mem {k : Key}
    (h : ∀ a, key a = k → (a ∈ objects.items ↔ a ∈ objects'.items)) : objects.find? k = objects'.find? k := by
  apply Option.ext
  intro a
  rw [Objects.find?_eq_some_iff,Objects.find?_eq_some_iff]
  constructor
  · rintro ⟨ha,hk⟩
    exact ⟨(h a hk).mp ha,hk⟩
  · rintro ⟨ha,hk⟩
    exact ⟨(h a hk).mpr ha,hk⟩

lemma mem_matched {d : Deployment} : d ∈ c.matched sel ↔ d ∈ c.deployments.items ∧ IsMatched sel d := by
  rw [Cluster.matched,Cluster.answer,List.mem_filter,List.mem_filter,and_assoc]
  rfl

lemma mem_manifests_iff {ns : String} : cm ∈ c.answer (.manifests ns sel.name) ↔
    cm ∈ c.configMaps.items ∧ inNamespace ns cm.key = true ∧ holdsManifests sel.name cm = true := by
  rw [Cluster.answer,List.mem_filter,Bool.and_eq_true]

lemma isManifest_of_mem (h : cm ∈ c.manifests sum256 sel) :
    cm ∈ c.configMaps.items ∧ IsManifest sum256 sel cm := by
  unfold Cluster.manifests at h
  split_ifs at h with hm
  · rcases List.mem_append.mp h with h | h
    · obtain ⟨hcm,hns,hholds⟩ := mem_manifests_iff.mp h
      exact ⟨hcm,hm,hholds,.inl hns⟩
    · obtain ⟨hcm,hns,hholds⟩ := mem_manifests_iff.mp h
      exact ⟨hcm,hm,hholds,.inr hns⟩
  · cases h

lemma items_nodup (objects : Objects α key) : objects.items.Nodup :=
  .of_map key objects.unique

lemma Cluster.OthersDiffer.sameBaseline (h : c.OthersDiffer sum256 sel c') : SameBaseline sum256 sel c c' where
  deployments := by
    refine .of_perm (fun d => ⟨rfl,.refl _,.refl _,rfl,rfl,rfl⟩) ?_
    refine (List.perm_ext_iff_of_nodup ((items_nodup _).filter _ |>.filter _)
      ((items_nodup _).filter _ |>.filter _)).mpr fun d => ?_
    change d ∈ c.matched sel ↔ d ∈ c'.matched sel
    rw [mem_matched,mem_matched]
    exact and_congr_left fun hd => h.deployments d hd
  manifests ns hns hm := by
    refine .of_perm (fun cm => ⟨rfl,.refl _,.refl _,.refl _⟩) ?_
    refine (List.perm_ext_iff_of_nodup ((items_nodup _).filter _) ((items_nodup _).filter _)).mpr fun cm => ?_
    change cm ∈ c.answer (.manifests ns sel.name) ↔ cm ∈ c'.answer (.manifests ns sel.name)
    rw [mem_manifests_iff,mem_manifests_iff]
    refine and_congr_left fun hcm => h.configMaps cm (.inl ⟨hm,hcm.2,?_⟩)
    rcases hns with rfl | rfl
    · exact .inl hcm.1
    · exact .inr hcm.1
  configMaps k hk := by
    rcases hk with hk | ⟨cm,hcm,rfl⟩
    · rw [find?_eq_of_mem fun cm hkey => h.configMaps cm (.inr (hkey ▸ hk))]
      cases c'.configMaps.find? k with
      | none => exact .none
      | some cm => exact .some ⟨rfl,.refl _,.refl _,.refl _⟩
    · obtain ⟨hmem,hmanifest⟩ := isManifest_of_mem hcm
      rw [Objects.find?_eq_some_iff.mpr ⟨hmem,rfl⟩,
        Objects.find?_eq_some_iff.mpr ⟨(h.configMaps cm (.inl hmanifest)).mp hmem,rfl⟩]
      exact .some ⟨rfl,.refl _,.refl _,.refl _⟩
  secrets k hk := by
    rw [find?_eq_of_mem fun s hkey => h.secrets s (hkey ▸ hk)]
    cases c'.secrets.find? k with
    | none => exact .none
    | some s => exact .some ⟨rfl,rfl,.refl _,.refl _⟩

lemma computeBaselineFingerprint_agree {sel' : Selection} (hsel : sel.SameServices sel')
    (h : SameBaseline sum256 sel c c') (visits visits' : Visits) (faults : Query → Option String) :
    Agree Eq ((computeBaselineFingerprint sum256 visits sel).eval (c.answers faults))
      ((computeBaselineFingerprint sum256 visits' sel').eval (c'.answers faults)) := by
  have hmode : sel'.mode = sel.mode := by
    obtain ⟨services,rfl,-⟩ := hsel
    rfl
  unfold computeBaselineFingerprint
  rw [hmode]
  split_ifs
  · rfl
  · rw [eval_bind,eval_bind]
    refine (findBaseline_agree hsel h visits visits').bind ?_
    intro found found' hlines
    exact hlines.fingerprint

/-- The fingerprint is the same for every order of the listings and of the iterations, however the changed
services are ordered and repeated, and whatever else there is in the cluster. -/
theorem fingerprint_order_free (sum256 : Sum256) (visits visits' : Visits) (faults : Query → Option String)
    {sel sel' : Selection} (hsel : sel.SameServices sel') {c c' : Cluster}
    (h : c.Reordered c' ∨ c.OthersDiffer sum256 sel c') (fp : String) :
    (computeBaselineFingerprint sum256 visits sel).eval (c.answers faults) = .ok fp ↔
      (computeBaselineFingerprint sum256 visits' sel').eval (c'.answers faults) = .ok fp := by
  have hsame : SameBaseline sum256 sel c c' := h.elim (·.sameBaseline) (·.sameBaseline)
  exact (computeBaselineFingerprint_agree hsel hsame visits visits' faults).ok_iff fp

def reversed : Visits where
  targets := List.reverse
  configMaps := List.reverse
  secrets := List.reverse
  merged _ := List.reverse
  targets_perm := List.reverse_perm
  configMaps_perm := List.reverse_perm
  secrets_perm := List.reverse_perm
  merged_perm _ := List.reverse_perm

def serviceDeployment (name : String) : Deployment where
  key := ⟨"shop",name⟩
  labels := ⟨[("divergedev.com/role","baseline")],by decide⟩
  containers := [{ name := name, image := name ++ ":1" }]

def shopCluster : Cluster where
  deployments := ⟨[serviceDeployment "api",serviceDeployment "web"],by decide,by decide⟩
  configMaps := ⟨[],by decide,by decide⟩
  secrets := ⟨[],by decide,by decide⟩

def shopSwapped : Cluster where
  deployments := ⟨[serviceDeployment "web",serviceDeployment "api"],by decide,by decide⟩
  configMaps := ⟨[],by decide,by decide⟩
  secrets := ⟨[],by decide,by decide⟩

def shopPreview : Selection where
  name := "pr-1"
  ns := "shop"
  changedServices := ["api","web"]

theorem shop_order_free :
    shopPreview.SameServices { shopPreview with changedServices := ["web","api","web"] } ∧
    shopCluster.Reordered shopSwapped ∧
    ∀ (sum256 : Sum256) (fp : String),
      (computeBaselineFingerprint sum256 listed shopPreview).eval (shopCluster.answers fun _ => none) = .ok fp ↔
        (computeBaselineFingerprint sum256 reversed
          { shopPreview with changedServices := ["web","api","web"] }).eval
          (shopSwapped.answers fun _ => none) = .ok fp := by
  have hsel : shopPreview.SameServices { shopPreview with changedServices := ["web","api","web"] } := by
    refine ⟨_,rfl,fun svc => ?_⟩
    change svc ∈ ["api","web"] ↔ svc ∈ ["web","api","web"]
    simp only [List.mem_cons,List.not_mem_nil,or_false]
    constructor
    · rintro (rfl | rfl)
      · exact .inr (.inl rfl)
      · exact .inl rfl
    · rintro (rfl | rfl | rfl)
      · exact .inr rfl
      · exact .inl rfl
      · exact .inr rfl
  have hsame : ∀ d : Deployment, d.Same d := fun d => ⟨rfl,.refl _,.refl _,rfl,rfl,rfl⟩
  have hclusters : shopCluster.Reordered shopSwapped :=
    ⟨.of_perm hsame (List.Perm.swap _ _ _),⟨[],.nil,.nil⟩,⟨[],.nil,.nil⟩⟩
  exact ⟨hsel,hclusters,fun sum256 fp =>
    fingerprint_order_free sum256 listed reversed (fun _ => none) hsel (.inl hclusters) fp⟩

end Diverge.Baseline
