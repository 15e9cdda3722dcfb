import Diverge.Graph.SimplePaths
import Diverge.Topology.ServiceGraph

/-! `AllIngressPaths`: the simple paths from the entrypoints to a service, a hundred at most. -/
namespace Diverge.Topology
open Diverge.Graph

structure IngressPath where
  entrypoint : String
  hops : List String
  deriving DecidableEq

def maxIngressPaths : ℕ := 100

namespace ServiceGraph
variable (g : ServiceGraph) (target : String)

/-- The body of the loop over the entrypoints: where the source breaks off, the paths stay. -/
def addIngressPaths (paths : List IngressPath) (ep : String) : List IngressPath :=
  if maxIngressPaths ≤ paths.length then paths
  else if ep = target then paths ++ [⟨ep,[ep]⟩]
  else
    (searchPaths maxIngressPaths target g.neighbors (fun hops => ⟨ep,hops⟩) g.nodes.length
      ⟨paths,fun _ => false⟩ [] ep).paths

def allIngressPaths : List IngressPath := g.sortedEntrypoints.foldl (g.addIngressPaths target) []

/-- A simple path along edges from its declared entrypoint to the target, which is nowhere but at
the end. -/
structure IsIngressPath (p : IngressPath) : Prop where
  declared : p.entrypoint ∈ g.entrypoints
  head : p.hops.head? = some p.entrypoint
  chain : p.hops.IsChain g.HasEdge
  nodup : p.hops.Nodup
  last : p.hops.getLast? = some target
  only_last : target ∉ p.hops.dropLast

def pathsOf (ep : String) : List IngressPath :=
  (simplePaths target g.neighbors g.nodes.length (fun _ => false) ep).map fun hops => ⟨ep,hops⟩

variable {g target}

lemma addIngressPaths_eq {paths : List IngressPath} {ep : String} (hpaths : paths.length ≤ maxIngressPaths)
    (hep : ep ∈ g.nodes) :
    g.addIngressPaths target paths ep = (paths ++ g.pathsOf target ep).take maxIngressPaths := by
  unfold addIngressPaths
  split_ifs with hfull htarget
  · rw [List.take_append_of_le_length hfull,List.take_of_length_le hpaths]
  · obtain ⟨n,hn⟩ := Nat.exists_eq_succ_of_ne_zero (Nat.ne_of_gt (List.length_pos_of_mem hep))
    rw [pathsOf,hn,simplePaths,if_pos htarget,List.take_of_length_le]
    · rfl
    · simp only [List.length_append,List.length_map,List.length_singleton]
      omega
  · rw [searchPaths_eq [] hpaths rfl]
    rfl

lemma allIngressPaths_eq (hwf : g.WellFormed) :
    g.allIngressPaths target = (g.sortedEntrypoints.flatMap (g.pathsOf target)).take maxIngressPaths := by
  have hloop : ∀ (eps : List String) (paths : List IngressPath), (∀ ep ∈ eps, ep ∈ g.nodes) →
      paths.length ≤ maxIngressPaths →
      eps.foldl (g.addIngressPaths target) paths = (paths ++ eps.flatMap (g.pathsOf target)).take maxIngressPaths := by
    intro eps
    induction eps with
    | nil =>
      intro paths _ hpaths
      simp [List.take_of_length_le hpaths]
    | cons ep eps ih =>
      intro paths hnodes hpaths
      rw [List.foldl_cons,addIngressPaths_eq hpaths (hnodes ep (by simp)),
        ih _ (fun e he => hnodes e (by simp [he])) (by simp),take_take_append,List.flatMap_cons,List.append_assoc]
  exact hloop _ [] (fun ep hep => hwf.entrypoint_mem ep (mem_sorted.mp hep)) (Nat.zero_le _)

lemma chain_nodes (hwf : g.WellFormed) {first : String} {p : List String} (hfirst : first ∈ g.nodes)
    (h : (first :: p).IsChain g.HasEdge) : ∀ x ∈ first :: p, x ∈ g.nodes := by
  induction p generalizing first with
  | nil => simpa using hfirst
  | cons second p ih =>
    obtain ⟨hedge,hchain⟩ := List.isChain_cons_cons.mp h
    have hsecond := (hwf.neighbors_mem (mem_neighbors.mpr hedge)).2
    intro x hx
    rcases List.mem_cons.mp hx with rfl | hx
    · exact hfirst
    · exact ih hsecond hchain x hx

lemma only_last_of_nodup {p : List String} (hnodup : p.Nodup) (hlast : p.getLast? = some target) :
    target ∉ p.dropLast := by
  obtain ⟨q,rfl⟩ := List.getLast?_eq_some_iff.mp hlast
  rw [List.dropLast_concat]
  exact fun hmem => (List.nodup_append.mp hnodup).2.2 target hmem target (by simp) rfl

lemma mem_flatMap_pathsOf (hwf : g.WellFormed) {p : IngressPath} :
    p ∈ g.sortedEntrypoints.flatMap (g.pathsOf target) ↔ g.IsIngressPath target p := by
  have hedges : (fun x y => y ∈ g.neighbors x) = g.HasEdge := by
    funext x y
    exact propext mem_neighbors
  rw [List.mem_flatMap]
  constructor
  · rintro ⟨ep,hep,hp⟩
    obtain ⟨hops,hhops,rfl⟩ := List.mem_map.mp hp
    obtain ⟨hpath,hhead,-,-⟩ := (mem_simplePaths rfl).mp hhops
    exact ⟨mem_sorted.mp hep,hhead,hedges ▸ hpath.chain,hpath.nodup,hpath.last,
      only_last_of_nodup hpath.nodup hpath.last⟩
  · intro h
    have hpath : SimplePath target g.neighbors p.hops := ⟨hedges ▸ h.chain,h.nodup,h.last⟩
    have hnodes : ∀ x ∈ p.hops, x ∈ g.nodes := by
      have hhead := h.head
      have hchain := h.chain
      cases hhops : p.hops with
      | nil => simp
      | cons first rest =>
        rw [hhops] at hhead hchain
        have hfirst : first = p.entrypoint := Option.some.inj hhead
        exact chain_nodes hwf (hfirst ▸ hwf.entrypoint_mem _ h.declared) hchain
    refine ⟨p.entrypoint,mem_sorted.mpr h.declared,List.mem_map.mpr ⟨p.hops,?_,rfl⟩⟩
    exact (mem_simplePaths rfl).mpr ⟨hpath,h.head,fun _ _ => rfl,hpath.length_le hnodes⟩

lemma nodup_flatMap_pathsOf (hwf : g.WellFormed) : (g.sortedEntrypoints.flatMap (g.pathsOf target)).Nodup := by
  refine List.nodup_flatMap.mpr ⟨fun ep _ => ?_,?_⟩
  · refine (nodup_simplePaths g.nodup_neighbors _ _ _).map fun a b hab => ?_
    exact congrArg IngressPath.hops hab
  · refine ((perm_sorted _).nodup_iff.mpr hwf.nodup_entrypoints).imp fun {a b} hab p hpa hpb => hab ?_
    obtain ⟨q,-,rfl⟩ := List.mem_map.mp hpa
    obtain ⟨q',-,heq⟩ := List.mem_map.mp hpb
    exact (congrArg IngressPath.entrypoint heq).symm

theorem allIngressPaths_exact (calls : List Build) (target : String) :
    ((build calls).allIngressPaths target).Nodup ∧
      ((build calls).allIngressPaths target).length ≤ 100 ∧
      (∀ p ∈ (build calls).allIngressPaths target, (build calls).IsIngressPath target p) ∧
      (((build calls).allIngressPaths target).length < 100 →
        ∀ p, (build calls).IsIngressPath target p → p ∈ (build calls).allIngressPaths target) := by
  have hwf := wellFormed_build calls
  rw [allIngressPaths_eq hwf]
  refine ⟨(nodup_flatMap_pathsOf hwf).sublist (List.take_sublist _ _),List.length_take_le _ _,?_,?_⟩
  · exact fun p hp => (mem_flatMap_pathsOf hwf).mp (List.mem_of_mem_take hp)
  · intro hfew p hp
    rw [List.length_take] at hfew
    have hall : ((build calls).sortedEntrypoints.flatMap ((build calls).pathsOf target)).length ≤ maxIngressPaths := by
      unfold maxIngressPaths at hfew ⊢
      omega
    rw [List.take_of_length_le hall]
    exact (mem_flatMap_pathsOf hwf).mpr hp

end ServiceGraph

end Diverge.Topology
