import Diverge.Graph.CycleSearch
import Diverge.Topology.ServiceGraph

/-! `Validate`: the graph has no cycle through two services or more, or the error lists one. -/
namespace Diverge.Topology
open Text Diverge.Graph Relation

namespace ServiceGraph
variable (g : ServiceGraph)

def findCycleInSCC (scc : List String) : String :=
  match scc.head?.bind (cycleFrom g.neighbors scc) with
  | some path => "cycle detected: " ++ join " -> " path
  | none => "cycle detected in components: [" ++ join " " scc ++ "]"

/-- The error of `Validate`, if there is one. -/
def validate : Option String :=
  ((components g.neighbors g.services).find? fun scc => decide (1 < scc.length)).map g.findCycleInSCC

/-- A walk along edges that ends where it started and goes through two services at least. -/
structure ClosedWalk (walk : List String) : Prop where
  chain : walk.IsChain g.HasEdge
  closed : walk.head? = walk.getLast?
  distinct : ∃ a ∈ walk, ∃ b ∈ walk, a ≠ b

structure IsCycle (cycle : List String) : Prop where
  chain : cycle.IsChain g.HasEdge
  closed : cycle.head? = cycle.getLast?
  length : 3 ≤ cycle.length
  nodup : cycle.dropLast.Nodup

variable {g}

variable {a b : String} {walk : List String}

lemma reach_neighbors_iff : Reach g.neighbors a b ↔ ReflTransGen g.HasEdge a b := by
  have h : (fun x y => y ∈ g.neighbors x) = g.HasEdge := by
    funext x y
    exact propext mem_neighbors
  rw [Reach,h]

lemma reach_of_chain {first : String} (h : (first :: walk).IsChain g.HasEdge) {a : String}
    (ha : a ∈ first :: walk) :
    ReflTransGen g.HasEdge first a ∧ ∀ last, (first :: walk).getLast? = some last → ReflTransGen g.HasEdge a last := by
  induction walk generalizing first a with
  | nil =>
    obtain rfl := List.mem_singleton.mp ha
    refine ⟨.refl,fun last hlast => ?_⟩
    obtain rfl : a = last := by simpa using hlast
    exact .refl
  | cons second walk ih =>
    obtain ⟨hedge,hwalk⟩ := List.isChain_cons_cons.mp h
    rcases List.mem_cons.mp ha with rfl | ha
    · refine ⟨.refl,fun last hlast => ?_⟩
      rw [List.getLast?_cons_cons] at hlast
      exact ((ih hwalk (by simp)).2 last hlast).head hedge
    · obtain ⟨hfrom,hto⟩ := ih hwalk ha
      refine ⟨hfrom.head hedge,fun last hlast => ?_⟩
      rw [List.getLast?_cons_cons] at hlast
      exact hto last hlast

lemma ClosedWalk.reach (h : g.ClosedWalk walk) (ha : a ∈ walk) (hb : b ∈ walk) :
    ReflTransGen g.HasEdge a b := by
  cases walk with
  | nil => cases ha
  | cons first walk =>
    have hlast : (first :: walk).getLast? = some first := h.closed.symm
    exact ((reach_of_chain h.chain ha).2 first hlast).trans (reach_of_chain h.chain hb).1

lemma IsCycle.closedWalk {cycle : List String} (h : g.IsCycle cycle) : g.ClosedWalk cycle := by
  refine ⟨h.chain,h.closed,?_⟩
  have hlength := h.length
  have hnodup := h.nodup
  match cycle,hlength,hnodup with
  | a :: b :: c :: rest,_,hnodup =>
    refine ⟨a,by simp,b,by simp,?_⟩
    simp only [List.dropLast_cons_cons,List.nodup_cons,List.mem_cons,not_or] at hnodup
    exact hnodup.1.1

lemma findCycleInSCC_spec {scc : List String} (hscc : IsComponent g.neighbors scc) (hlength : 1 < scc.length) :
    ∃ cycle, g.findCycleInSCC scc = "cycle detected: " ++ join " -> " cycle ∧ g.IsCycle cycle := by
  obtain ⟨start,other,more,rfl⟩ : ∃ start other more, scc = start :: other :: more := by
    match scc,hlength with
    | start :: other :: more,_ => exact ⟨start,other,more,rfl⟩
  have hne : other ≠ start := by
    rintro rfl
    exact (List.nodup_cons.mp hscc.nodup).1 (by simp)
  obtain ⟨rest,hrest,hcycle,hnodup,hchain⟩ := cycleFrom_spec hscc (by simp) (by simp) hne
  refine ⟨start :: rest ++ [start],?_,?_,?_,?_,?_⟩
  · unfold findCycleInSCC
    rw [List.head?_cons,Option.bind_some,hcycle]
  · exact hchain.imp fun x y hxy => mem_neighbors.mp hxy
  · rw [List.getLast?_concat]
    rfl
  · have hpos := List.length_pos_iff.mpr hrest
    simp only [List.length_append,List.length_cons,List.length_nil]
    omega
  · rwa [List.dropLast_concat]

theorem validate_decides_acyclicity (calls : List Build) :
    ((build calls).validate = none ↔ ¬∃ walk, (build calls).ClosedWalk walk) ∧
      ∀ err, (build calls).validate = some err →
        ∃ cycle, err = "cycle detected: " ++ join " -> " cycle ∧ (build calls).IsCycle cycle := by
  have hwf := wellFormed_build calls
  generalize build calls = g at hwf ⊢
  obtain ⟨hcomponents,hcovers⟩ := components_spec
    fun x (_ : x ∈ g.services) y (hy : y ∈ g.neighbors x) => mem_sorted.mpr (hwf.neighbors_mem hy).2
  have herror : ∀ err, g.validate = some err →
      ∃ cycle, err = "cycle detected: " ++ join " -> " cycle ∧ g.IsCycle cycle := by
    intro err herr
    obtain ⟨scc,hfind,rfl⟩ := Option.map_eq_some_iff.mp herr
    have hlength : 1 < scc.length := by simpa using List.find?_some hfind
    exact findCycleInSCC_spec (hcomponents scc (List.mem_of_find?_eq_some hfind)) hlength
  refine ⟨⟨?_,?_⟩,herror⟩
  · rintro hnone ⟨walk,hwalk⟩
    obtain ⟨a,ha,b,hb,hne⟩ := hwalk.distinct
    have hab := reach_neighbors_iff.mpr (hwalk.reach ha hb)
    have hba := reach_neighbors_iff.mpr (hwalk.reach hb ha)
    have hnode : a ∈ g.services := by
      obtain heq | ⟨c,hac,-⟩ := ReflTransGen.cases_head hab
      · exact absurd heq hne
      · exact mem_sorted.mpr (hwf.neighbors_mem hac).1
    obtain ⟨scc,hscc,hmem⟩ := hcovers a hnode
    have hmem' : b ∈ scc := ((hcomponents scc hscc).mem_iff a hmem b).mpr ⟨hab,hba⟩
    have hshort := List.find?_eq_none.mp (Option.map_eq_none_iff.mp hnone) scc hscc
    have hlong : 1 < scc.length := by
      by_contra hle
      match scc,hle,hmem,hmem' with
      | [c],_,hmem,hmem' =>
        exact hne ((List.mem_singleton.mp hmem).trans (List.mem_singleton.mp hmem').symm)
    exact hshort (by simpa using hlong)
  · intro hacyclic
    cases hval : g.validate with
    | none => rfl
    | some err =>
      obtain ⟨cycle,-,hcycle⟩ := herror err hval
      exact absurd ⟨cycle,hcycle.closedWalk⟩ hacyclic

end ServiceGraph

end Diverge.Topology
