import Mathlib.Data.List.Dedup
import Diverge.Text.Strings

/-! The graph of service dependencies, as `pkg/topology` builds and reads it. -/
namespace Diverge.Topology

structure Edge where
  from_ : String
  to_ : String
  protocol : String
  source : String
  tombstone : Bool
  deriving DecidableEq

/-- The adjacency map is the list of its edges in the order of adding. Sets of names are lists without
repetition. -/
structure ServiceGraph where
  edges : List Edge
  entrypoints : List String
  nodes : List String
  deriving DecidableEq

def addName (names : List String) (s : String) : List String := if s ∈ names then names else names ++ [s]

def newServiceGraph : ServiceGraph := ⟨[],[],[]⟩

namespace ServiceGraph

def addEdge (g : ServiceGraph) (e : Edge) : ServiceGraph :=
  if e.tombstone = true then { g with nodes := addName (addName g.nodes e.from_) e.to_ }
  else { g with nodes := addName (addName g.nodes e.from_) e.to_,edges := g.edges ++ [e] }

def addNode (g : ServiceGraph) (service : String) : ServiceGraph := { g with nodes := addName g.nodes service }

def addEntrypoint (g : ServiceGraph) (service : String) : ServiceGraph :=
  { g with entrypoints := addName g.entrypoints service,nodes := addName g.nodes service }

def sorted (names : List String) : List String := names.mergeSort fun s t => decide (s ≤ t)

/-- `Entrypoints`. -/
def sortedEntrypoints (g : ServiceGraph) : List String := sorted g.entrypoints

def neighbors (g : ServiceGraph) (service : String) : List String :=
  sorted ((g.edges.filter fun e => e.from_ = service ∧ e.tombstone = false).map Edge.to_).dedup

def services (g : ServiceGraph) : List String := sorted g.nodes

end ServiceGraph

/-- The calls that build a graph. -/
inductive Build
  | addNode (service : String)
  | addEdge (e : Edge)
  | addEntrypoint (service : String)
  deriving DecidableEq

def Build.apply (g : ServiceGraph) : Build → ServiceGraph
  | .addNode service => g.addNode service
  | .addEdge e => g.addEdge e
  | .addEntrypoint service => g.addEntrypoint service

def build (calls : List Build) : ServiceGraph := calls.foldl Build.apply newServiceGraph

variable {names : List String}

@[simp] lemma mem_addName {s t : String} : t ∈ addName names s ↔ t = s ∨ t ∈ names := by
  unfold addName
  split_ifs with h
  · constructor
    · exact .inr
    · rintro (rfl | ht)
      · exact h
      · exact ht
  · simp [or_comm]

lemma nodup_addName (h : names.Nodup) (s : String) : (addName names s).Nodup := by
  unfold addName
  split_ifs with hs
  · exact h
  · refine List.nodup_append.mpr ⟨h,by simp,fun a ha b hb heq => hs ?_⟩
    rwa [← List.mem_singleton.mp hb,← heq]

lemma perm_sorted (names : List String) : (ServiceGraph.sorted names).Perm names := List.mergeSort_perm _ _

@[simp] lemma mem_sorted {s : String} : s ∈ ServiceGraph.sorted names ↔ s ∈ names :=
  (perm_sorted names).mem_iff

namespace ServiceGraph

def HasEdge (g : ServiceGraph) (a b : String) : Prop :=
  ∃ e ∈ g.edges, e.from_ = a ∧ e.to_ = b ∧ e.tombstone = false

variable {g : ServiceGraph} {a b : String}

lemma mem_neighbors : b ∈ g.neighbors a ↔ g.HasEdge a b := by
  simp only [neighbors,mem_sorted,List.mem_dedup,List.mem_map,List.mem_filter,decide_eq_true_eq,HasEdge]
  constructor
  · rintro ⟨e,⟨he,hfrom,hlive⟩,hto⟩
    exact ⟨e,he,hfrom,hto,hlive⟩
  · rintro ⟨e,he,hfrom,hto,hlive⟩
    exact ⟨e,⟨he,hfrom,hlive⟩,hto⟩

lemma nodup_neighbors (g : ServiceGraph) (a : String) : (g.neighbors a).Nodup :=
  (perm_sorted _).nodup_iff.mpr (List.nodup_dedup _)

/-- What holds of every graph that is built by the calls. -/
structure WellFormed (g : ServiceGraph) : Prop where
  from_mem : ∀ e ∈ g.edges, e.from_ ∈ g.nodes
  to_mem : ∀ e ∈ g.edges, e.to_ ∈ g.nodes
  live : ∀ e ∈ g.edges, e.tombstone = false
  entrypoint_mem : ∀ s ∈ g.entrypoints, s ∈ g.nodes
  nodup_entrypoints : g.entrypoints.Nodup
  nodup_nodes : g.nodes.Nodup

lemma wellFormed_new : newServiceGraph.WellFormed := by
  constructor <;> simp [newServiceGraph]

lemma WellFormed.apply (h : g.WellFormed) (call : Build) : (call.apply g).WellFormed := by
  cases call with
  | addNode service =>
    exact ⟨fun e he => mem_addName.mpr (.inr (h.from_mem e he)),fun e he => mem_addName.mpr (.inr (h.to_mem e he)),
      h.live,fun s hs => mem_addName.mpr (.inr (h.entrypoint_mem s hs)),h.nodup_entrypoints,
      nodup_addName h.nodup_nodes service⟩
  | addEntrypoint service =>
    refine ⟨fun e he => mem_addName.mpr (.inr (h.from_mem e he)),fun e he => mem_addName.mpr (.inr (h.to_mem e he)),
      h.live,fun s hs => mem_addName.mpr ?_,nodup_addName h.nodup_entrypoints service,
      nodup_addName h.nodup_nodes service⟩
    exact (mem_addName.mp hs).imp_right (h.entrypoint_mem s)
  | addEdge e =>
    have hnodes : ∀ s, s ∈ addName (addName g.nodes e.from_) e.to_ ↔ s = e.to_ ∨ s = e.from_ ∨ s ∈ g.nodes := by
      simp
    have hnodup := nodup_addName (nodup_addName h.nodup_nodes e.from_) e.to_
    change (g.addEdge e).WellFormed
    unfold addEdge
    split_ifs with htomb
    · exact ⟨fun f hf => (hnodes _).mpr (.inr (.inr (h.from_mem f hf))),
        fun f hf => (hnodes _).mpr (.inr (.inr (h.to_mem f hf))),h.live,
        fun s hs => (hnodes _).mpr (.inr (.inr (h.entrypoint_mem s hs))),h.nodup_entrypoints,hnodup⟩
    · refine ⟨fun f hf => (hnodes _).mpr ?_,fun f hf => (hnodes _).mpr ?_,fun f hf => ?_,
        fun s hs => (hnodes _).mpr (.inr (.inr (h.entrypoint_mem s hs))),h.nodup_entrypoints,hnodup⟩
      · rcases List.mem_append.mp hf with hf | hf
        · exact .inr (.inr (h.from_mem f hf))
        · exact .inr (.inl (congrArg Edge.from_ (List.mem_singleton.mp hf)))
      · rcases List.mem_append.mp hf with hf | hf
        · exact .inr (.inr (h.to_mem f hf))
        · exact .inl (congrArg Edge.to_ (List.mem_singleton.mp hf))
      · rcases List.mem_append.mp hf with hf | hf
        · exact h.live f hf
        · rw [List.mem_singleton.mp hf]
          exact (Bool.not_eq_true _).mp htomb

theorem wellFormed_build (calls : List Build) : (build calls).WellFormed := by
  have hrun : ∀ (calls : List Build) (g : ServiceGraph), g.WellFormed → (calls.foldl Build.apply g).WellFormed := by
    intro calls
    induction calls with
    | nil => exact fun g h => h
    | cons call calls ih => exact fun g h => ih _ (h.apply call)
  exact hrun calls _ wellFormed_new

lemma WellFormed.neighbors_mem (h : g.WellFormed) (hb : b ∈ g.neighbors a) : a ∈ g.nodes ∧ b ∈ g.nodes := by
  obtain ⟨e,he,rfl,rfl,-⟩ := mem_neighbors.mp hb
  exact ⟨h.from_mem e he,h.to_mem e he⟩

end ServiceGraph

end Diverge.Topology
