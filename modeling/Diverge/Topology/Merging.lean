import Mathlib.Data.String.Basic
import Diverge.Topology.ServiceGraph

/-! `Merge`: which edges, entrypoints and services the merged graph has. Go visits a map in any order,
so the orders in which the edges are visited are inputs here. -/
namespace Diverge.Topology

def Edge.pair (e : Edge) : String × String := (e.from_,e.to_)

def keyOf (p : String × String) : String := p.1 ++ "->" ++ p.2

def Edge.Le (e f : Edge) : Prop := e.from_ < f.from_ ∨ (e.from_ = f.from_ ∧ e.to_ ≤ f.to_)

instance (e f : Edge) : Decidable (e.Le f) := inferInstanceAs (Decidable (_ ∨ _))

namespace ServiceGraph

/-- The body of both loops over edges. -/
def mergeEdge (tombstones : List String) (st : List String × ServiceGraph) (e : Edge) :
    List String × ServiceGraph :=
  if keyOf e.pair ∉ tombstones ∧ keyOf e.pair ∉ st.1 then (keyOf e.pair :: st.1,st.2.addEdge e) else st

/-- `Merge`, where `mine` are the edges as `Edges` lists them, and `theirs` the other's in the order
of the loop. -/
def mergeVisiting (g other : ServiceGraph) (mine theirs : List Edge) : ServiceGraph :=
  let tombstones := (theirs.filter fun e => e.tombstone).map fun e => keyOf e.pair
  let merged := (theirs.filter fun e => !e.tombstone).foldl (mergeEdge tombstones)
    (mine.foldl (mergeEdge tombstones) ([],newServiceGraph))
  let merged := other.entrypoints.foldl addEntrypoint (g.entrypoints.foldl addEntrypoint merged.2)
  other.nodes.foldl addNode (g.nodes.foldl addNode merged)

structure Visits (g other : ServiceGraph) (mine theirs : List Edge) : Prop where
  mine_perm : mine.Perm (g.edges.filter fun e => !e.tombstone)
  mine_sorted : mine.Pairwise Edge.Le
  theirs_perm : theirs.Perm other.edges

def Merged (g other m : ServiceGraph) : Prop :=
  ∃ mine theirs, Visits g other mine theirs ∧ m = g.mergeVisiting other mine theirs

def pairs (g : ServiceGraph) : List (String × String) := g.edges.map Edge.pair

/-- The same edge pairs, entrypoints and services. -/
structure SameGraph (g g' : ServiceGraph) : Prop where
  pairs : ∀ p, p ∈ g.pairs ↔ p ∈ g'.pairs
  entrypoints : ∀ s, s ∈ g.entrypoints ↔ s ∈ g'.entrypoints
  nodes : ∀ s, s ∈ g.nodes ↔ s ∈ g'.nodes

end ServiceGraph
open ServiceGraph

def Tombstoned (calls : List Build) (p : String × String) : Prop :=
  ∃ e : Edge, Build.addEdge e ∈ calls ∧ e.tombstone = true ∧ e.pair = p

section

/-- The edges that the loops keep: the first of each key that was not seen before. -/
def kept : List String → List Edge → List Edge
  | _,[] => []
  | seen,e :: es => if keyOf e.pair ∈ seen then kept seen es else e :: kept (keyOf e.pair :: seen) es

variable {e : Edge} {es : List Edge} {p : String × String}

lemma addEdge_live (g : ServiceGraph) (he : e.tombstone = false) :
    (g.addEdge e).edges = g.edges ++ [e] ∧ (g.addEdge e).entrypoints = g.entrypoints ∧
      ∀ s, s ∈ (g.addEdge e).nodes ↔ s ∈ g.nodes ∨ s = e.from_ ∨ s = e.to_ := by
  rw [addEdge,if_neg (by simp [he])]
  refine ⟨rfl,rfl,fun s => ?_⟩
  simp only [mem_addName]
  tauto

lemma foldl_mergeEdge (hlive : ∀ e ∈ es, e.tombstone = false) (st : List String × ServiceGraph) :
    (es.foldl (mergeEdge []) st).2.edges = st.2.edges ++ kept st.1 es ∧
      (es.foldl (mergeEdge []) st).2.entrypoints = st.2.entrypoints ∧
      ∀ s, s ∈ (es.foldl (mergeEdge []) st).2.nodes ↔
        s ∈ st.2.nodes ∨ ∃ e ∈ kept st.1 es, s = e.from_ ∨ s = e.to_ := by
  induction es generalizing st with
  | nil => simp [kept]
  | cons e es ih =>
    have hrest := ih fun f hf => hlive f (by simp [hf])
    rw [List.foldl_cons,mergeEdge,kept]
    by_cases hseen : keyOf e.pair ∈ st.1
    · rw [if_neg (by simp [hseen]),if_pos hseen]
      exact hrest st
    · rw [if_pos ⟨by simp,hseen⟩,if_neg hseen]
      obtain ⟨hedges,hentrypoints,hnodes⟩ := hrest (keyOf e.pair :: st.1,st.2.addEdge e)
      obtain ⟨hadd,hsame,hnames⟩ := addEdge_live st.2 (hlive e (by simp))
      refine ⟨?_,hentrypoints.trans hsame,fun s => (hnodes s).trans ?_⟩
      · rw [hedges,hadd,List.append_assoc]
        rfl
      · rw [hnames]
        simp only [List.mem_cons,exists_eq_or_imp]
        exact or_assoc

lemma mem_kept {seen : List String} :
    e ∈ kept seen es ↔ keyOf e.pair ∉ seen ∧ es.find? (fun f => keyOf f.pair = keyOf e.pair) = some e := by
  induction es generalizing seen with
  | nil => simp [kept]
  | cons f es ih =>
    rw [kept,List.find?_cons]
    by_cases hkey : keyOf f.pair = keyOf e.pair
    · rw [decide_eq_true hkey]
      split_ifs with hseen
      · rw [hkey] at hseen
        rw [ih]
        exact ⟨fun h => absurd hseen h.1,fun h => absurd hseen h.1⟩
      · rw [hkey] at hseen
        rw [List.mem_cons,ih,hkey]
        constructor
        · rintro (rfl | ⟨hnot,-⟩)
          · exact ⟨hseen,rfl⟩
          · simp at hnot
        · rintro ⟨-,h⟩
          exact .inl (Option.some.inj h).symm
    · rw [decide_eq_false hkey]
      split_ifs with hseen
      · exact ih
      · have hne : e ≠ f := by
          rintro rfl
          exact hkey rfl
        rw [List.mem_cons,ih,List.mem_cons,not_or]
        constructor
        · rintro (h | ⟨⟨-,hnot⟩,h⟩)
          · exact absurd h hne
          · exact ⟨hnot,h⟩
        · rintro ⟨hnot,h⟩
          exact .inr ⟨⟨Ne.symm hkey,hnot⟩,h⟩

/-- A pair is chosen if the first edge with its key is an edge of this pair. -/
def Chosen (es : List Edge) (p : String × String) : Prop :=
  ∃ e, es.find? (fun f => keyOf f.pair = keyOf p) = some e ∧ e.pair = p

/-- A pair is shadowed if the first edge with its key is another pair's. -/
def Shadowed (es : List Edge) (p : String × String) : Prop :=
  ∃ e, es.find? (fun f => keyOf f.pair = keyOf p) = some e ∧ e.pair ≠ p

lemma mem_pairs_kept : p ∈ (kept [] es).map Edge.pair ↔ Chosen es p := by
  rw [List.mem_map]
  constructor
  · rintro ⟨e,he,rfl⟩
    exact ⟨e,(mem_kept.mp he).2,rfl⟩
  · rintro ⟨e,hfind,rfl⟩
    exact ⟨e,mem_kept.mpr ⟨by simp,hfind⟩,rfl⟩

lemma kept_keys (seen : List String) (es : List Edge) : ((kept seen es).map fun e => keyOf e.pair).Nodup := by
  induction es generalizing seen with
  | nil => simp [kept]
  | cons e es ih =>
    rw [kept]
    split_ifs
    · exact ih seen
    · refine List.nodup_cons.mpr ⟨fun hmem => ?_,ih _⟩
      obtain ⟨f,hf,hkey⟩ := List.mem_map.mp hmem
      exact (mem_kept.mp hf).1 (by simp [hkey])

lemma Chosen.mem (h : Chosen es p) : p ∈ es.map Edge.pair := by
  obtain ⟨e,hfind,rfl⟩ := h
  exact List.mem_map_of_mem (List.mem_of_find?_eq_some hfind)

lemma Chosen.unique {p q : String × String} (hp : Chosen es p) (hq : Chosen es q)
    (hkey : keyOf p = keyOf q) : p = q := by
  obtain ⟨e,he,rfl⟩ := hp
  obtain ⟨f,hf,rfl⟩ := hq
  rw [hkey,hf] at he
  rw [Option.some.inj he]

lemma not_chosen_iff (hp : p ∈ es.map Edge.pair) : ¬Chosen es p ↔ Shadowed es p := by
  obtain ⟨e,he,rfl⟩ := List.mem_map.mp hp
  cases hfind : es.find? (fun f => keyOf f.pair = keyOf e.pair) with
  | none => simpa using List.find?_eq_none.mp hfind e he
  | some first =>
    constructor
    · exact fun hnot => ⟨first,hfind,fun heq => hnot ⟨first,hfind,heq⟩⟩
    · rintro ⟨f,hf,hne⟩ ⟨f',hf',heq⟩
      rw [hf] at hf'
      exact hne (Option.some.inj hf' ▸ heq)

lemma chosen_append {es fs : List Edge} :
    Chosen (es ++ fs) p ↔ Chosen es p ∨ ((∀ e ∈ es, keyOf e.pair ≠ keyOf p) ∧ Chosen fs p) := by
  unfold Chosen
  rw [List.find?_append]
  cases hfind : es.find? (fun f => keyOf f.pair = keyOf p) with
  | none =>
    have hnone : ∀ e ∈ es, keyOf e.pair ≠ keyOf p := by simpa using List.find?_eq_none.mp hfind
    constructor
    · exact fun h => .inr ⟨hnone,h⟩
    · rintro (⟨e,he,-⟩ | ⟨-,h⟩)
      · cases he
      · exact h
  | some e =>
    have hkey : keyOf e.pair = keyOf p := by simpa using List.find?_some hfind
    have hmem := List.mem_of_find?_eq_some hfind
    constructor
    · exact fun h => .inl h
    · rintro (h | ⟨hnone,-⟩)
      · exact h
      · exact absurd hkey (hnone e hmem)

lemma chosen_of_unique (hp : p ∈ es.map Edge.pair)
    (hunique : ∀ q ∈ es.map Edge.pair, keyOf q = keyOf p → q = p) : Chosen es p := by
  by_contra hnot
  obtain ⟨e,hfind,hne⟩ := (not_chosen_iff hp).mp hnot
  exact hne (hunique e.pair (List.mem_map_of_mem (List.mem_of_find?_eq_some hfind)) (by
    simpa using List.find?_some hfind))

end

section
variable {g h m : ServiceGraph} {mine theirs : List Edge}

lemma mem_foldl_addEntrypoint (names : List String) (g : ServiceGraph) :
    (names.foldl addEntrypoint g).edges = g.edges ∧
      (∀ s, s ∈ (names.foldl addEntrypoint g).entrypoints ↔ s ∈ g.entrypoints ∨ s ∈ names) ∧
      ∀ s, s ∈ (names.foldl addEntrypoint g).nodes ↔ s ∈ g.nodes ∨ s ∈ names := by
  induction names generalizing g with
  | nil => simp
  | cons name names ih =>
    obtain ⟨hedges,hentrypoints,hnodes⟩ := ih (g.addEntrypoint name)
    refine ⟨hedges,fun s => (hentrypoints s).trans ?_,fun s => (hnodes s).trans ?_⟩
    · simp only [addEntrypoint,mem_addName,List.mem_cons]
      tauto
    · simp only [addEntrypoint,mem_addName,List.mem_cons]
      tauto

lemma mem_foldl_addNode (names : List String) (g : ServiceGraph) :
    (names.foldl addNode g).edges = g.edges ∧ (names.foldl addNode g).entrypoints = g.entrypoints ∧
      ∀ s, s ∈ (names.foldl addNode g).nodes ↔ s ∈ g.nodes ∨ s ∈ names := by
  induction names generalizing g with
  | nil => simp
  | cons name names ih =>
    obtain ⟨hedges,hentrypoints,hnodes⟩ := ih (g.addNode name)
    refine ⟨hedges,hentrypoints,fun s => (hnodes s).trans ?_⟩
    simp only [addNode,mem_addName,List.mem_cons]
    tauto

/-- What the edges of a graph need of it. -/
structure Live (g : ServiceGraph) : Prop where
  live : ∀ e ∈ g.edges, e.tombstone = false
  from_mem : ∀ e ∈ g.edges, e.from_ ∈ g.nodes
  to_mem : ∀ e ∈ g.edges, e.to_ ∈ g.nodes
  entrypoint_mem : ∀ s ∈ g.entrypoints, s ∈ g.nodes

lemma live_build (calls : List Build) : Live (build calls) :=
  ⟨(wellFormed_build calls).live,(wellFormed_build calls).from_mem,(wellFormed_build calls).to_mem,
    (wellFormed_build calls).entrypoint_mem⟩

lemma ServiceGraph.Visits.mem_mine (hv : Visits g h mine theirs) (hg : Live g) {e : Edge} :
    e ∈ mine ↔ e ∈ g.edges := by
  rw [hv.mine_perm.mem_iff,List.mem_filter]
  exact ⟨fun he => he.1,fun he => ⟨he,by simp [hg.live e he]⟩⟩

lemma mergeVisiting_spec (hg : Live g) (hh : Live h) (hv : Visits g h mine theirs) :
    (g.mergeVisiting h mine theirs).edges = kept [] (mine ++ theirs) ∧
      (∀ s, s ∈ (g.mergeVisiting h mine theirs).entrypoints ↔ s ∈ g.entrypoints ∨ s ∈ h.entrypoints) ∧
      ∀ s, s ∈ (g.mergeVisiting h mine theirs).nodes ↔ s ∈ g.nodes ∨ s ∈ h.nodes := by
  have hlive : ∀ e ∈ theirs, e.tombstone = false := fun e he => hh.live e (hv.theirs_perm.mem_iff.mp he)
  have htombs : theirs.filter (fun e => e.tombstone) = [] := by
    refine List.filter_eq_nil_iff.mpr fun e he => ?_
    simp [hlive e he]
  have hall : theirs.filter (fun e => !e.tombstone) = theirs := by
    refine List.filter_eq_self.mpr fun e he => ?_
    simp [hlive e he]
  have hedges : ∀ e ∈ mine ++ theirs, e.tombstone = false ∧ (e ∈ g.edges ∨ e ∈ h.edges) := by
    intro e he
    rcases List.mem_append.mp he with he | he
    · have hmem := (hv.mem_mine hg).mp he
      exact ⟨hg.live e hmem,.inl hmem⟩
    · exact ⟨hlive e he,.inr (hv.theirs_perm.mem_iff.mp he)⟩
  unfold mergeVisiting
  rw [htombs,hall,List.map_nil]
  simp only [← List.foldl_append]
  obtain ⟨h₁,h₂,h₃⟩ := foldl_mergeEdge (fun e he => (hedges e he).1) ([],newServiceGraph)
  generalize (mine ++ theirs).foldl (mergeEdge []) ([],newServiceGraph) = st at h₁ h₂ h₃ ⊢
  obtain ⟨ha₁,ha₂,ha₃⟩ := mem_foldl_addEntrypoint (g.entrypoints ++ h.entrypoints) st.2
  obtain ⟨hb₁,hb₂,hb₃⟩ := mem_foldl_addNode (g.nodes ++ h.nodes)
    ((g.entrypoints ++ h.entrypoints).foldl addEntrypoint st.2)
  refine ⟨?_,fun s => ?_,fun s => ?_⟩
  · rw [hb₁,ha₁,h₁]
    rfl
  · rw [hb₂,ha₂,h₂,List.mem_append]
    simp [newServiceGraph]
  · rw [hb₃,ha₃,h₃,List.mem_append,List.mem_append]
    refine ⟨?_,.inr⟩
    rintro (((hs | ⟨e,he,hs⟩) | hs) | hs)
    · simp [newServiceGraph] at hs
    · have hmem := (hedges e (List.mem_of_find?_eq_some (mem_kept.mp he).2)).2
      rcases hs with rfl | rfl
      · exact hmem.imp (hg.from_mem e) (hh.from_mem e)
      · exact hmem.imp (hg.to_mem e) (hh.to_mem e)
    · exact hs.imp (hg.entrypoint_mem s) (hh.entrypoint_mem s)
    · exact hs

variable {p : String × String}

lemma mem_pairs_mergeVisiting (hg : Live g) (hh : Live h) (hv : Visits g h mine theirs) :
    p ∈ (g.mergeVisiting h mine theirs).pairs ↔ Chosen (mine ++ theirs) p := by
  rw [pairs,(mergeVisiting_spec hg hh hv).1]
  exact mem_pairs_kept

lemma ServiceGraph.Visits.mem_pairs_mine (hv : Visits g h mine theirs) (hg : Live g) :
    p ∈ mine.map Edge.pair ↔ p ∈ g.pairs := by
  simp only [pairs,List.mem_map,hv.mem_mine hg]

lemma ServiceGraph.Visits.mem_pairs_theirs (hv : Visits g h mine theirs) :
    p ∈ theirs.map Edge.pair ↔ p ∈ h.pairs := (hv.theirs_perm.map Edge.pair).mem_iff

def KeysDistinct (ps : List (String × String)) : Prop := ∀ p ∈ ps, ∀ q ∈ ps, keyOf p = keyOf q → p = q

/-- What every result of a merge has, whatever the orders were. -/
structure MergeResult (g h m : ServiceGraph) : Prop where
  live : Live m
  entrypoints : ∀ s, s ∈ m.entrypoints ↔ s ∈ g.entrypoints ∨ s ∈ h.entrypoints
  nodes : ∀ s, s ∈ m.nodes ↔ s ∈ g.nodes ∨ s ∈ h.nodes
  distinct : KeysDistinct m.pairs
  sub : ∀ p ∈ m.pairs, p ∈ g.pairs ∨ p ∈ h.pairs
  first : ∀ p ∈ m.pairs, (∃ q ∈ g.pairs, keyOf q = keyOf p) → p ∈ g.pairs
  mine : KeysDistinct g.pairs → ∀ p ∈ g.pairs, p ∈ m.pairs
  theirs : ∀ p ∈ h.pairs, (∀ q ∈ g.pairs, keyOf q ≠ keyOf p) →
    (∀ q ∈ h.pairs, keyOf q = keyOf p → q = p) → p ∈ m.pairs

lemma ServiceGraph.Merged.result (hg : Live g) (hh : Live h) (hm : Merged g h m) : MergeResult g h m := by
  obtain ⟨mine,theirs,hv,rfl⟩ := hm
  obtain ⟨hedges,hentrypoints,hnodes⟩ := mergeVisiting_spec hg hh hv
  have hpairs := fun p => mem_pairs_mergeVisiting hg hh hv (p := p)
  have hmine := fun p => hv.mem_pairs_mine hg (p := p)
  have htheirs := fun p => hv.mem_pairs_theirs (p := p)
  have hmem : ∀ e ∈ kept [] (mine ++ theirs), e ∈ g.edges ∨ e ∈ h.edges := by
    intro e he
    rcases List.mem_append.mp (List.mem_of_find?_eq_some (mem_kept.mp he).2) with he | he
    · exact .inl ((hv.mem_mine hg).mp he)
    · exact .inr (hv.theirs_perm.mem_iff.mp he)
  refine ⟨⟨?_,?_,?_,?_⟩,hentrypoints,hnodes,?_,?_,?_,?_,?_⟩
  · rw [hedges]
    exact fun e he => (hmem e he).elim (hg.live e) (hh.live e)
  · rw [hedges]
    exact fun e he => (hnodes _).mpr ((hmem e he).imp (hg.from_mem e) (hh.from_mem e))
  · rw [hedges]
    exact fun e he => (hnodes _).mpr ((hmem e he).imp (hg.to_mem e) (hh.to_mem e))
  · exact fun s hs => (hnodes s).mpr (((hentrypoints s).mp hs).imp (hg.entrypoint_mem s) (hh.entrypoint_mem s))
  · exact fun p hp q hq hkey => ((hpairs p).mp hp).unique ((hpairs q).mp hq) hkey
  · intro p hp
    rcases chosen_append.mp ((hpairs p).mp hp) with hc | ⟨-,hc⟩
    · exact .inl ((hmine p).mp hc.mem)
    · exact .inr ((htheirs p).mp hc.mem)
  · rintro p hp ⟨q,hq,hkey⟩
    rcases chosen_append.mp ((hpairs p).mp hp) with hc | ⟨hnone,-⟩
    · exact (hmine p).mp hc.mem
    · obtain ⟨e,he,rfl⟩ := List.mem_map.mp ((hmine q).mpr hq)
      exact absurd hkey (hnone e he)
  · intro hdistinct p hp
    refine (hpairs p).mpr (chosen_append.mpr (.inl (chosen_of_unique ((hmine p).mpr hp) fun q hq hkey => ?_)))
    exact hdistinct q ((hmine q).mp hq) p hp hkey
  · intro p hp hnone hunique
    refine (hpairs p).mpr (chosen_append.mpr (.inr ⟨fun e he => ?_,chosen_of_unique ((htheirs p).mpr hp) ?_⟩))
    · exact hnone e.pair ((hmine _).mp (List.mem_map_of_mem he))
    · exact fun q hq hkey => hunique q ((htheirs q).mp hq) hkey

lemma Edge.Le.trans {a b c : Edge} (hab : a.Le b) (hbc : b.Le c) : a.Le c := by
  rcases hab with hab | ⟨hab,hab'⟩
  · rcases hbc with hbc | ⟨hbc,-⟩
    · exact .inl (lt_trans hab hbc)
    · exact .inl (hbc ▸ hab)
  · rcases hbc with hbc | ⟨hbc,hbc'⟩
    · exact .inl (hab ▸ hbc)
    · exact .inr ⟨hab.trans hbc,le_trans hab' hbc'⟩

lemma Edge.Le.total (a b : Edge) : a.Le b ∨ b.Le a := by
  rcases lt_trichotomy a.from_ b.from_ with h | h | h
  · exact .inl (.inl h)
  · rcases le_total a.to_ b.to_ with h' | h'
    · exact .inl (.inr ⟨h,h'⟩)
    · exact .inr (.inr ⟨h.symm,h'⟩)
  · exact .inr (.inl h)

lemma exists_visits (g : ServiceGraph) {theirs : List Edge} (htheirs : theirs.Perm h.edges) :
    ∃ mine, Visits g h mine theirs := by
  refine ⟨(g.edges.filter fun e => !e.tombstone).mergeSort fun e f => decide (e.Le f),List.mergeSort_perm _ _,?_,htheirs⟩
  refine (List.pairwise_mergeSort ?_ ?_ _).imp fun hle => of_decide_eq_true hle
  · exact fun a b c hab hbc => decide_eq_true ((of_decide_eq_true hab).trans (of_decide_eq_true hbc))
  · intro a b
    rw [Bool.or_eq_true]
    exact (Edge.Le.total a b).imp (fun h => decide_eq_true h) fun h => decide_eq_true h

lemma exists_merged_with (hg : Live g) (hh : Live h) (hp : p ∈ h.pairs)
    (hnew : ∀ q ∈ g.pairs, keyOf q ≠ keyOf p) : ∃ m, Merged g h m ∧ p ∈ m.pairs := by
  obtain ⟨e,he,rfl⟩ := List.mem_map.mp hp
  obtain ⟨mine,hv⟩ := exists_visits g (List.perm_cons_erase he).symm
  refine ⟨_,⟨mine,_,hv,rfl⟩,(mem_pairs_mergeVisiting hg hh hv).mpr (chosen_append.mpr (.inr ⟨fun f hf => ?_,?_⟩))⟩
  · exact hnew f.pair ((hv.mem_pairs_mine hg).mp (List.mem_map_of_mem hf))
  · exact ⟨e,by simp,rfl⟩

end

section

def TombstoneFree (calls : List Build) : Prop := ∀ p, ¬Tombstoned calls p

/-- What a merge of two graphs should be, and what merging should satisfy with a third one. -/
structure Honours (callsG callsH callsK : List Build) (mine theirs : List Edge) : Prop where
  edges : ∀ p, p ∈ ((build callsG).mergeVisiting (build callsH) mine theirs).pairs ↔
    (p ∈ (build callsG).pairs ∨ p ∈ (build callsH).pairs) ∧ ¬Tombstoned callsH p
  once : ((build callsG).mergeVisiting (build callsH) mine theirs).pairs.Nodup
  entrypoints : ∀ s, s ∈ ((build callsG).mergeVisiting (build callsH) mine theirs).entrypoints ↔
    s ∈ (build callsG).entrypoints ∨ s ∈ (build callsH).entrypoints
  nodes : ∀ s, s ∈ ((build callsG).mergeVisiting (build callsH) mine theirs).nodes ↔
    s ∈ (build callsG).nodes ∨ s ∈ (build callsH).nodes
  comm : TombstoneFree callsG ∧ TombstoneFree callsH ∧ TombstoneFree callsK →
    ∀ m, Merged (build callsH) (build callsG) m →
      SameGraph ((build callsG).mergeVisiting (build callsH) mine theirs) m
  assoc : TombstoneFree callsG ∧ TombstoneFree callsH ∧ TombstoneFree callsK →
    ∀ a n b, Merged ((build callsG).mergeVisiting (build callsH) mine theirs) (build callsK) a →
      Merged (build callsH) (build callsK) n → Merged (build callsG) n b → SameGraph a b
  idem : TombstoneFree callsG ∧ TombstoneFree callsH ∧ TombstoneFree callsK →
    ∀ m, Merged (build callsG) (build callsG) m → SameGraph m (build callsG)

variable {callsG callsH callsK : List Build} {mine theirs : List Edge}

lemma KeysDistinct.subset {ps qs : List (String × String)} (h : KeysDistinct qs) (hsub : ∀ p ∈ ps, p ∈ qs) :
    KeysDistinct ps := fun p hp q hq => h p (hsub p hp) q (hsub q hq)

lemma MergeResult.pairs_iff {g h m : ServiceGraph} (hm : MergeResult g h m) (hkeys : KeysDistinct (g.pairs ++ h.pairs))
    (p : String × String) : p ∈ m.pairs ↔ p ∈ g.pairs ∨ p ∈ h.pairs := by
  refine ⟨hm.sub p,?_⟩
  have hkeysG : KeysDistinct g.pairs := hkeys.subset fun q hq => List.mem_append_left _ hq
  rintro (hp | hp)
  · exact hm.mine hkeysG p hp
  · by_cases hold : ∃ q ∈ g.pairs, keyOf q = keyOf p
    · obtain ⟨q,hq,hkey⟩ := hold
      obtain rfl := hkeys q (by simp [hq]) p (by simp [hp]) hkey
      exact hm.mine hkeysG q hq
    · refine hm.theirs p hp (fun q hq hkey => hold ⟨q,hq,hkey⟩) fun q hq hkey => ?_
      exact hkeys q (by simp [hq]) p (by simp [hp]) hkey

lemma assoc_pairs {g h k m a n b : ServiceGraph} (hgh : KeysDistinct (g.pairs ++ h.pairs))
    (hk : ∀ p ∈ k.pairs, ∀ q ∈ k.pairs, keyOf p = keyOf q → (∀ r ∈ g.pairs ++ h.pairs, keyOf r ≠ keyOf p) → p = q)
    (hm : MergeResult g h m) (ha : MergeResult m k a) (hn : MergeResult h k n) (hb : MergeResult g n b)
    (p : String × String) : p ∈ a.pairs ↔ p ∈ b.pairs := by
  have hmp := hm.pairs_iff hgh
  have hkeysG : KeysDistinct g.pairs := hgh.subset fun q hq => List.mem_append_left _ hq
  have hkeysH : KeysDistinct h.pairs := hgh.subset fun q hq => List.mem_append_right _ hq
  have hnew : ∀ q ∈ k.pairs, (∀ r ∈ g.pairs ++ h.pairs, keyOf r ≠ keyOf q) → q ∈ n.pairs := by
    intro q hq hnone
    refine hn.theirs q hq (fun r hr => hnone r (by simp [hr])) fun r hr hkey => ?_
    exact (hk q hq r hr hkey.symm hnone).symm
  have hgb : ∀ q ∈ g.pairs, q ∈ b.pairs := hb.mine hkeysG
  have hnb : ∀ q ∈ n.pairs, (∀ r ∈ g.pairs, keyOf r ≠ keyOf q) → q ∈ b.pairs :=
    fun q hq hnone => hb.theirs q hq hnone fun r hr hkey => hn.distinct r hr q hq hkey
  constructor
  · intro hp
    by_cases hold : ∃ r ∈ m.pairs, keyOf r = keyOf p
    · have hpm := ha.first p hp hold
      rcases (hmp p).mp hpm with hpg | hph
      · exact hgb p hpg
      · by_cases hkey : ∃ r ∈ g.pairs, keyOf r = keyOf p
        · obtain ⟨r,hr,hrp⟩ := hkey
          obtain rfl := hgh r (by simp [hr]) p (by simp [hph]) hrp
          exact hgb r hr
        · exact hnb p (hn.mine hkeysH p hph) fun r hr hrp => hkey ⟨r,hr,hrp⟩
    · have hnone : ∀ r ∈ g.pairs ++ h.pairs, keyOf r ≠ keyOf p :=
        fun r hr hrp => hold ⟨r,(hmp r).mpr (List.mem_append.mp hr),hrp⟩
      rcases ha.sub p hp with hpm | hpk
      · exact absurd ⟨p,hpm,rfl⟩ hold
      · exact hnb p (hnew p hpk hnone) fun r hr => hnone r (by simp [hr])
  · intro hp
    have hma : ∀ q ∈ m.pairs, q ∈ a.pairs := ha.mine hm.distinct
    by_cases hold : ∃ r ∈ g.pairs ++ h.pairs, keyOf r = keyOf p
    · have hin : p ∈ g.pairs ∨ p ∈ h.pairs := by
        by_cases hkey : ∃ r ∈ g.pairs, keyOf r = keyOf p
        · exact .inl (hb.first p hp hkey)
        · obtain ⟨r,hr,hrp⟩ := hold
          have hrh : r ∈ h.pairs := (List.mem_append.mp hr).resolve_left fun hrg => hkey ⟨r,hrg,hrp⟩
          rcases hb.sub p hp with hpg | hpn
          · exact .inl hpg
          · exact .inr (hn.first p hpn ⟨r,hrh,hrp⟩)
      exact hma p ((hmp p).mpr hin)
    · have hnone : ∀ r ∈ g.pairs ++ h.pairs, keyOf r ≠ keyOf p := fun r hr hrp => hold ⟨r,hr,hrp⟩
      have hpk : p ∈ k.pairs := by
        rcases hb.sub p hp with hpg | hpn
        · exact absurd rfl (hnone p (by simp [hpg]))
        · exact (hn.sub p hpn).resolve_left fun hph => hnone p (by simp [hph]) rfl
      refine ha.theirs p hpk (fun r hr => hnone r (List.mem_append.mpr ((hmp r).mp hr))) fun r hr hkey => ?_
      exact (hk p hpk r hr hkey.symm hnone).symm

lemma keysDistinct_of_cond {es : List Edge} {calls : List Build} (hfree : TombstoneFree calls)
    (hcond : ∀ p ∈ es.map Edge.pair, Tombstoned calls p ↔ Shadowed es p) : KeysDistinct (es.map Edge.pair) := by
  have hchosen : ∀ p ∈ es.map Edge.pair, Chosen es p := by
    intro p hp
    by_contra hnot
    exact hfree p ((hcond p hp).mpr ((not_chosen_iff hp).mp hnot))
  exact fun p hp q hq hkey => (hchosen p hp).unique (hchosen q hq) hkey

lemma not_assoc {g h k m : ServiceGraph} (hg : Live g) (hh : Live h) (hk : Live k) (hm : MergeResult g h m)
    {p q : String × String} (hp : p ∈ k.pairs) (hq : q ∈ k.pairs) (hkey : keyOf p = keyOf q)
    (hnew : ∀ r ∈ g.pairs ++ h.pairs, keyOf r ≠ keyOf p) (hne : p ≠ q) :
    ∃ a n b, Merged m k a ∧ Merged h k n ∧ Merged g n b ∧ ¬SameGraph a b := by
  obtain ⟨a,ha,hpa⟩ := exists_merged_with hm.live hk hp
    fun r hr => hnew r (List.mem_append.mpr (hm.sub r hr))
  obtain ⟨n,hn,hqn⟩ := exists_merged_with hh hk hq fun r hr => hkey ▸ hnew r (by simp [hr])
  have hn' := hn.result hh hk
  obtain ⟨mine,hv⟩ := exists_visits g (List.Perm.refl n.edges)
  refine ⟨a,n,_,ha,hn,⟨mine,_,hv,rfl⟩,fun hsame => ?_⟩
  have hb : MergeResult g n (g.mergeVisiting n mine n.edges) := Merged.result hg hn'.live ⟨mine,_,hv,rfl⟩
  rcases hb.sub p ((hsame.pairs p).mp hpa) with hpg | hpn
  · exact hnew p (by simp [hpg]) rfl
  · exact hne (hn'.distinct p hpn q hqn hkey)

/-- Merging honours tombstones and satisfies its laws exactly if those edges are tombstones that another
pair with the same key shadows, and the third graph has no two new pairs with the same key. -/
theorem merge_honours_tombstones_iff (callsG callsH callsK : List Build) (mine theirs : List Edge)
    (hv : Visits (build callsG) (build callsH) mine theirs) :
    Honours callsG callsH callsK mine theirs ↔
      (∀ p ∈ (mine ++ theirs).map Edge.pair, Tombstoned callsH p ↔ Shadowed (mine ++ theirs) p) ∧
        (TombstoneFree callsG ∧ TombstoneFree callsH ∧ TombstoneFree callsK →
          ∀ p ∈ (build callsK).pairs, ∀ q ∈ (build callsK).pairs, keyOf p = keyOf q →
            (∀ r ∈ (build callsG).pairs ++ (build callsH).pairs, keyOf r ≠ keyOf p) → p = q) := by
  have hg := live_build callsG
  have hh := live_build callsH
  have hk := live_build callsK
  have hm : MergeResult (build callsG) (build callsH) ((build callsG).mergeVisiting (build callsH) mine theirs) :=
    Merged.result hg hh ⟨mine,theirs,hv,rfl⟩
  have hpairs : ∀ p, p ∈ ((build callsG).mergeVisiting (build callsH) mine theirs).pairs ↔
      Chosen (mine ++ theirs) p := fun p => mem_pairs_mergeVisiting hg hh hv
  have hlist : ∀ p, p ∈ (mine ++ theirs).map Edge.pair ↔ p ∈ (build callsG).pairs ∨ p ∈ (build callsH).pairs := by
    intro p
    rw [List.map_append,List.mem_append,hv.mem_pairs_mine hg,hv.mem_pairs_theirs]
  constructor
  · intro h
    refine ⟨fun p hp => ?_,fun hfree p hp q hq hkey hnew => ?_⟩
    · rw [← not_chosen_iff hp,← hpairs,h.edges p]
      have hin := (hlist p).mp hp
      tauto
    · by_contra hne
      obtain ⟨a,n,b,ha,hn,hb,hnot⟩ := not_assoc hg hh hk hm hp hq hkey hnew hne
      exact hnot (h.assoc hfree a n b ha hn hb)
  · rintro ⟨hcond,hthird⟩
    have hdistinct : TombstoneFree callsH → KeysDistinct ((build callsG).pairs ++ (build callsH).pairs) := by
      intro hfree
      exact (keysDistinct_of_cond hfree hcond).subset fun p hp => (hlist p).mpr (List.mem_append.mp hp)
    refine ⟨fun p => ?_,?_,hm.entrypoints,hm.nodes,?_,?_,?_⟩
    · rw [hpairs]
      constructor
      · intro hchosen
        exact ⟨(hlist p).mp hchosen.mem,fun ht => (not_chosen_iff hchosen.mem).mpr ((hcond p hchosen.mem).mp ht) hchosen⟩
      · rintro ⟨hin,hlive⟩
        have hp := (hlist p).mpr hin
        by_contra hnot
        exact hlive ((hcond p hp).mpr ((not_chosen_iff hp).mp hnot))
    · rw [pairs,(mergeVisiting_spec hg hh hv).1]
      have hkeys := kept_keys [] (mine ++ theirs)
      exact List.Nodup.of_map keyOf (by rwa [List.map_map])
    · intro hfree m' hm'
      have hresult := hm'.result hh hg
      have hkeys := hdistinct hfree.2.1
      refine ⟨fun p => ?_,fun s => ?_,fun s => ?_⟩
      · rw [hm.pairs_iff hkeys,hresult.pairs_iff (hkeys.subset fun q hq => by simpa [or_comm] using hq),or_comm]
      · rw [hm.entrypoints,hresult.entrypoints,or_comm]
      · rw [hm.nodes,hresult.nodes,or_comm]
    · intro hfree a n b ha hn hb
      have ha' := ha.result hm.live hk
      have hn' := hn.result hh hk
      have hb' := hb.result hg hn'.live
      refine ⟨assoc_pairs (hdistinct hfree.2.1) (hthird hfree) hm ha' hn' hb',fun s => ?_,fun s => ?_⟩
      · rw [ha'.entrypoints,hm.entrypoints,hb'.entrypoints,hn'.entrypoints,or_assoc]
      · rw [ha'.nodes,hm.nodes,hb'.nodes,hn'.nodes,or_assoc]
    · intro hfree m' hm'
      have hresult := hm'.result hg hg
      have hkeys : KeysDistinct ((build callsG).pairs ++ (build callsG).pairs) :=
        (hdistinct hfree.2.1).subset fun q hq => by
          rcases List.mem_append.mp hq with hq | hq
          · exact List.mem_append_left _ hq
          · exact List.mem_append_left _ hq
      refine ⟨fun p => ?_,fun s => ?_,fun s => ?_⟩
      · rw [hresult.pairs_iff hkeys,or_self]
      · rw [hresult.entrypoints,or_self]
      · rw [hresult.nodes,or_self]

end

def webToApi : Edge := ⟨"web","api","http","static",false⟩

def noWebToApi : Edge := ⟨"web","api","","",true⟩

def apiToDb : Edge := ⟨"api","db","grpc","static",false⟩

theorem merge_of_disjoint_edges :
    Honours [.addEdge webToApi] [.addEdge apiToDb] [] [webToApi] [apiToDb] := by
  refine (merge_honours_tombstones_iff _ _ _ _ _ ⟨by decide,by decide,by decide⟩).mpr ⟨fun p hp => ?_,?_⟩
  · have hlive : ¬Tombstoned [.addEdge apiToDb] p := by
      rintro ⟨e,he,htomb,-⟩
      obtain rfl : e = apiToDb := by simpa using he
      cases htomb
    have hchosen : ¬Shadowed ([webToApi] ++ [apiToDb]) p := by
      refine fun hshadowed => (not_chosen_iff hp).mpr hshadowed ?_
      obtain rfl | rfl : p = ("web","api") ∨ p = ("api","db") := by simpa [webToApi,apiToDb,Edge.pair] using hp
      · exact ⟨webToApi,by decide,rfl⟩
      · exact ⟨apiToDb,by decide,rfl⟩
    exact ⟨fun h => absurd h hlive,fun h => absurd h hchosen⟩
  · intro _ p hp
    cases hp

/-- The tombstone is dropped by `AddEdge`, so the merged graph still has the edge. -/
theorem tombstone_ignored_by_merge :
    ¬Honours [.addEdge webToApi] [.addEdge noWebToApi] [] [webToApi] [] := by
  intro h
  have hedge := (h.edges ("web","api")).mp (by decide)
  exact hedge.2 ⟨noWebToApi,by simp,rfl,rfl⟩

end Diverge.Topology
