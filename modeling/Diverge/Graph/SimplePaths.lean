import Mathlib.Data.Finset.Card

/-! Simple paths to a target by depth-first search with backtracking. The search that shares its
marks and its results between calls, and stops at a limit, is the cut of a plain enumeration. -/
namespace Diverge.Graph

section
variable {α β : Type} [DecidableEq α]

structure PathSearch (α β : Type) where
  paths : List β
  visited : α → Bool

variable (limit : ℕ) (target : α) (next : α → List α) (record : List α → β)

/-- One call of the search, for a node and the path to it. -/
def searchPaths : ℕ → PathSearch α β → List α → α → PathSearch α β
  | 0,s,_,_ => s
  | fuel+1,s,path,current =>
    if limit ≤ s.paths.length then s
    else if current = target then { s with paths := s.paths ++ [record (path ++ [current])] }
    else
      let t := (next current).foldl
        (fun s w => if s.visited w = true then s else searchPaths fuel s (path ++ [current]) w)
        { s with visited := Function.update s.visited current true }
      { t with visited := Function.update t.visited current false }

/-- The simple paths from a node through unmarked nodes, of bounded length. -/
def simplePaths : ℕ → (α → Bool) → α → List (List α)
  | 0,_,_ => []
  | fuel+1,visited,current =>
    if current = target then [[current]]
    else
      ((next current).filter fun w => Function.update visited current true w = false).flatMap fun w =>
        (simplePaths fuel (Function.update visited current true) w).map (current :: ·)

end

section
variable {α β : Type} [DecidableEq α] {limit : ℕ} {target : α} {next : α → List α} {record : List α → β}

omit [DecidableEq α] in
lemma take_take_append (xs ys : List β) (n : ℕ) : ((xs.take n) ++ ys).take n = (xs ++ ys).take n := by
  rw [List.take_append,List.take_append,List.take_take,Nat.min_self,List.length_take]
  congr 2
  omega

lemma searchPaths_loop {fuel : ℕ} {path : List α}
    (ih : ∀ (s : PathSearch α β) (w : α), s.paths.length ≤ limit → s.visited w = false →
      searchPaths limit target next record fuel s path w =
        ⟨(s.paths ++ (simplePaths target next fuel s.visited w).map fun p => record (path ++ p)).take limit,
          s.visited⟩) (ws : List α) (s : PathSearch α β) (hs : s.paths.length ≤ limit) :
    ws.foldl (fun s w => if s.visited w = true then s else searchPaths limit target next record fuel s path w) s =
      ⟨(s.paths ++ ((ws.filter fun w => s.visited w = false).flatMap
        fun w => (simplePaths target next fuel s.visited w)).map fun p => record (path ++ p)).take limit,
        s.visited⟩ := by
  induction ws generalizing s with
  | nil => simp [List.take_of_length_le hs]
  | cons w ws ihws =>
    rw [List.foldl_cons]
    by_cases hw : s.visited w = true
    · rw [if_pos hw,ihws s hs,List.filter_cons_of_neg (by simp [hw])]
    · rw [if_neg hw,ih s w hs ((Bool.not_eq_true _).mp hw),ihws _ (by simp),List.filter_cons_of_pos (by simpa using hw)]
      dsimp only
      rw [take_take_append,List.flatMap_cons,List.map_append,List.append_assoc]

/-- A call adds the paths from its node, up to the limit, and restores the marks. -/
theorem searchPaths_eq {fuel : ℕ} {s : PathSearch α β} (path : List α) {current : α}
    (hs : s.paths.length ≤ limit) (hcurrent : s.visited current = false) :
    searchPaths limit target next record fuel s path current =
      ⟨(s.paths ++ (simplePaths target next fuel s.visited current).map fun p => record (path ++ p)).take limit,
        s.visited⟩ := by
  induction fuel generalizing s path current with
  | zero => simp [searchPaths,simplePaths,List.take_of_length_le hs]
  | succ fuel ih =>
    rw [searchPaths,simplePaths]
    split_ifs with hfull htarget htarget
    · rw [List.take_append_of_le_length hfull,List.take_of_length_le hs]
    · rw [List.take_append_of_le_length hfull,List.take_of_length_le hs]
    · rw [List.take_of_length_le]
      · rfl
      · simp only [List.length_append,List.length_map,List.length_singleton]
        omega
    · have hloop := searchPaths_loop (fun s w hs hw => ih (path ++ [current]) hs hw) (next current)
        ⟨s.paths,Function.update s.visited current true⟩ hs
      have hrestore : Function.update (Function.update s.visited current true) current false = s.visited := by
        rw [Function.update_idem,← hcurrent,Function.update_eq_self]
      dsimp only at hloop ⊢
      rw [hloop,hrestore,← List.map_flatMap,List.map_map]
      simp only [Function.comp_def,List.append_assoc,List.singleton_append]

end

variable {α : Type} {target : α} {next : α → List α}

/-- A path along edges, without repetition, that ends in the target. -/
structure SimplePath (target : α) (next : α → List α) (p : List α) : Prop where
  chain : p.IsChain fun x y => y ∈ next x
  nodup : p.Nodup
  last : p.getLast? = some target

lemma SimplePath.length_le [DecidableEq α] {nodes p : List α} (h : SimplePath target next p)
    (hsub : ∀ x ∈ p, x ∈ nodes) : p.length ≤ nodes.length := by
  rw [← List.toFinset_card_of_nodup h.nodup]
  refine Nat.le_trans (Finset.card_le_card fun x hx => ?_) nodes.toFinset_card_le
  rw [List.mem_toFinset] at hx ⊢
  exact hsub x hx

variable {rest : List α} {current : α} {fuel : ℕ} {visited : α → Bool} {p : List α}

lemma SimplePath.eq_singleton (h : SimplePath target next (target :: rest)) : rest = [] := by
  cases rest with
  | nil => rfl
  | cons w rest =>
    have hlast := h.last
    rw [List.getLast?_cons_cons] at hlast
    exact absurd (List.mem_of_getLast? hlast) (List.nodup_cons.mp h.nodup).1

lemma simplePath_cons_iff (hne : current ≠ target) : SimplePath target next (current :: rest) ↔
      current ∉ rest ∧ SimplePath target next rest ∧ ∃ w ∈ next current, rest.head? = some w := by
  cases rest with
  | nil =>
    constructor
    · intro h
      exact absurd (Option.some.inj h.last) hne
    · rintro ⟨-,h,-⟩
      exact absurd h.last (by simp)
  | cons w rest =>
    constructor
    · intro h
      obtain ⟨hedge,hchain⟩ := List.isChain_cons_cons.mp h.chain
      obtain ⟨hnot,hnodup⟩ := List.nodup_cons.mp h.nodup
      exact ⟨hnot,⟨hchain,hnodup,by rw [← List.getLast?_cons_cons]; exact h.last⟩,w,hedge,rfl⟩
    · rintro ⟨hnot,h,w',hedge,hhead⟩
      obtain rfl := Option.some.inj hhead
      exact ⟨List.isChain_cons_cons.mpr ⟨hedge,h.chain⟩,List.nodup_cons.mpr ⟨hnot,h.nodup⟩,
        by rw [List.getLast?_cons_cons]; exact h.last⟩

variable [DecidableEq α]

/-- The enumeration has the simple paths of its length, and no other. -/
theorem mem_simplePaths (hcurrent : visited current = false) :
    p ∈ simplePaths target next fuel visited current ↔
      SimplePath target next p ∧ p.head? = some current ∧ (∀ x ∈ p, visited x = false) ∧ p.length ≤ fuel := by
  induction fuel generalizing visited current p with
  | zero =>
    constructor
    · intro h
      cases h
    · rintro ⟨-,hhead,-,hlength⟩
      rw [List.length_eq_zero_iff.mp (Nat.le_zero.mp hlength)] at hhead
      cases hhead
  | succ fuel ih =>
    rw [simplePaths]
    split_ifs with htarget
    · subst htarget
      rw [List.mem_singleton]
      constructor
      · rintro rfl
        exact ⟨⟨by simp,by simp,rfl⟩,rfl,by simpa using hcurrent,by simp⟩
      · rintro ⟨hpath,hhead,-,-⟩
        cases p with
        | nil => cases hhead
        | cons x rest =>
          obtain rfl := Option.some.inj hhead
          rw [hpath.eq_singleton]
    · have hmark : ∀ x, Function.update visited current true x = false ↔ x ≠ current ∧ visited x = false := by
        intro x
        by_cases hx : x = current
        · simp [hx]
        · simp [hx]
      constructor
      · intro h
        obtain ⟨w,hw,h⟩ := List.mem_flatMap.mp h
        obtain ⟨q,hq,rfl⟩ := List.mem_map.mp h
        obtain ⟨hedge,hfree⟩ := List.mem_filter.mp hw
        obtain ⟨hpath,hhead,hunmarked,hlength⟩ := (ih (of_decide_eq_true hfree)).mp hq
        refine ⟨(simplePath_cons_iff htarget).mpr ⟨fun hmem => ?_,hpath,w,hedge,hhead⟩,rfl,?_,by simpa using hlength⟩
        · exact ((hmark current).mp (hunmarked current hmem)).1 rfl
        · intro x hx
          rcases List.mem_cons.mp hx with rfl | hx
          · exact hcurrent
          · exact ((hmark x).mp (hunmarked x hx)).2
      · rintro ⟨hpath,hhead,hunmarked,hlength⟩
        cases p with
        | nil => cases hhead
        | cons x rest =>
          obtain rfl := Option.some.inj hhead
          obtain ⟨hnot,hrest,w,hedge,hw⟩ := (simplePath_cons_iff htarget).mp hpath
          have hfree : ∀ y ∈ rest, Function.update visited x true y = false :=
            fun y hy => (hmark y).mpr ⟨fun hyx => hnot (hyx ▸ hy),hunmarked y (by simp [hy])⟩
          have hwfree := hfree w (List.mem_of_mem_head? hw)
          refine List.mem_flatMap.mpr ⟨w,List.mem_filter.mpr ⟨hedge,by simpa using hwfree⟩,List.mem_map.mpr ⟨rest,?_,rfl⟩⟩
          exact (ih hwfree).mpr ⟨hrest,hw,hfree,by simpa using hlength⟩

lemma head?_of_mem_simplePaths
    (h : p ∈ simplePaths target next fuel visited current) : p.head? = some current := by
  cases fuel with
  | zero => cases h
  | succ fuel =>
    rw [simplePaths] at h
    split_ifs at h
    · rw [List.mem_singleton.mp h]
      rfl
    · obtain ⟨w,-,h⟩ := List.mem_flatMap.mp h
      obtain ⟨q,-,rfl⟩ := List.mem_map.mp h
      rfl

lemma nodup_simplePaths (hnext : ∀ x, (next x).Nodup) (fuel : ℕ) (visited : α → Bool) (current : α) :
    (simplePaths target next fuel visited current).Nodup := by
  induction fuel generalizing visited current with
  | zero => exact List.nodup_nil
  | succ fuel ih =>
    rw [simplePaths]
    split_ifs
    · simp
    · refine List.nodup_flatMap.mpr ⟨fun w _ => (ih _ w).map (List.cons_injective),?_⟩
      refine ((hnext current).filter _).imp fun {a b} hab => ?_
      intro p hpa hpb
      obtain ⟨q,hq,rfl⟩ := List.mem_map.mp hpa
      obtain ⟨q',hq',heq⟩ := List.mem_map.mp hpb
      obtain rfl := List.cons_injective heq
      exact hab (Option.some.inj ((head?_of_mem_simplePaths hq).symm.trans (head?_of_mem_simplePaths hq')))

end Diverge.Graph
