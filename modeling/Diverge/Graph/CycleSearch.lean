import Diverge.Graph.Components

/-! A depth-first search for a cycle through a start node within a component. The marks on visited
nodes stay, and the path is cut back when a call fails. -/
namespace Diverge.Graph
open Relation

section
variable {α : Type} [DecidableEq α]

structure CycleSearch (α : Type) where
  path : List α
  visited : α → Bool

def CycleSearch.enter (s : CycleSearch α) (v : α) : CycleSearch α :=
  ⟨s.path ++ [v],Function.update s.visited v true⟩

variable (inScc : α → Bool) (start : α)

/-- The loop of a call over the neighbours of its node. -/
def scanCycle (call : CycleSearch α → α → Bool × CycleSearch α) (curr : α) :
    List α → CycleSearch α → Bool × CycleSearch α
  | [],s => (false,{ s with path := s.path.dropLast })
  | w :: ws,s =>
    if w = curr then scanCycle call curr ws s
    else if inScc w = false then scanCycle call curr ws s
    else if w = start then (true,{ s with path := s.path ++ [start] })
    else if s.visited w = true then scanCycle call curr ws s
    else if (call s w).1 = true then (true,(call s w).2)
    else scanCycle call curr ws (call s w).2

variable (next : α → List α)

def searchCycle : ℕ → CycleSearch α → α → Bool × CycleSearch α
  | 0,s,_ => (false,s)
  | fuel+1,s,curr => scanCycle inScc start (searchCycle fuel) curr (next curr) (s.enter curr)

/-- The path that the search from a node of a component ends with, if it finds one. -/
def cycleFrom (scc : List α) (start : α) : Option (List α) :=
  if (searchCycle scc.contains start next scc.length ⟨[],fun _ => false⟩ start).1 = true then
    some (searchCycle scc.contains start next scc.length ⟨[],fun _ => false⟩ start).2.path
  else none

/-- All that a node leads to in the component is visited, and none of it is the start. -/
def Dead (visited : α → Bool) (x : α) : Prop :=
  ∀ y ∈ next x, y ≠ x → inScc y = true → y ≠ start ∧ visited y = true

structure Failed (s : CycleSearch α) (curr : α) (t : CycleSearch α) : Prop where
  path : t.path = s.path
  keeps : ∀ x, s.visited x = true → t.visited x = true
  visited : t.visited curr = true
  dead : ∀ x, t.visited x = true → s.visited x = true ∨ Dead inScc start next t.visited x

structure Found (s : CycleSearch α) (curr : α) (t : CycleSearch α) (rest : List α) : Prop where
  path : t.path = s.path ++ (curr :: rest ++ [start])
  chain : (curr :: rest ++ [start]).IsChain fun x y => y ∈ next x
  nodup : (curr :: rest).Nodup
  fresh : ∀ x ∈ curr :: rest, s.visited x = false
  proper : rest = [] → curr ≠ start

def Outcome (s : CycleSearch α) (curr : α) (result : Bool × CycleSearch α) : Prop :=
  if result.1 = true then ∃ rest, Found start next s curr result.2 rest
  else Failed inScc start next s curr result.2

/-- Within a call, when some of the neighbours are done. -/
structure Scanned (s : CycleSearch α) (curr : α) (t : CycleSearch α) (done : List α) : Prop where
  path : t.path = s.path ++ [curr]
  keeps : ∀ x, s.visited x = true → t.visited x = true
  visited : t.visited curr = true
  dead : ∀ x, t.visited x = true → s.visited x = true ∨ x = curr ∨ Dead inScc start next t.visited x
  done : ∀ y ∈ done, y ≠ curr → inScc y = true → y ≠ start ∧ t.visited y = true

end

section
variable {α : Type} {inScc : α → Bool} {start : α} {next : α → List α}
  {s t : CycleSearch α} {curr w : α} {done : List α}

lemma Dead.mono {visited later : α → Bool} (hmono : ∀ x, visited x = true → later x = true) {x : α}
    (h : Dead inScc start next visited x) : Dead inScc start next later x :=
  fun y hy hne hin => ⟨(h y hy hne hin).1,hmono y (h y hy hne hin).2⟩

lemma scanned_enter [DecidableEq α] : Scanned inScc start next s curr (s.enter curr) [] := by
  have hvisited : ∀ x, (s.enter curr).visited x = true ↔ x = curr ∨ s.visited x = true := by
    intro x
    by_cases hx : x = curr
    · simp [CycleSearch.enter,hx]
    · simp [CycleSearch.enter,hx]
  refine ⟨rfl,fun x hx => (hvisited x).mpr (.inr hx),(hvisited curr).mpr (.inl rfl),fun x hx => ?_,by simp⟩
  rcases (hvisited x).mp hx with hx | hx
  · exact .inr (.inl hx)
  · exact .inl hx

variable (h : Scanned inScc start next s curr t done)
include h

lemma Scanned.append (hw : w ≠ curr → inScc w = true → w ≠ start ∧ t.visited w = true) :
    Scanned inScc start next s curr t (done ++ [w]) := by
  refine ⟨h.path,h.keeps,h.visited,h.dead,fun y hy => ?_⟩
  rcases List.mem_append.mp hy with hy | hy
  · exact h.done y hy
  · obtain rfl := List.mem_singleton.mp hy
    exact hw

lemma Scanned.failed {u : CycleSearch α} (hw : w ≠ start)
    (hcall : Failed inScc start next t w u) : Scanned inScc start next s curr u (done ++ [w]) := by
  refine ⟨hcall.path.trans h.path,fun x hx => hcall.keeps x (h.keeps x hx),hcall.keeps curr h.visited,?_,?_⟩
  · intro x hx
    rcases hcall.dead x hx with hx | hx
    · exact (h.dead x hx).imp_right (.imp_right fun hdead => hdead.mono hcall.keeps)
    · exact .inr (.inr hx)
  · intro y hy hne hin
    rcases List.mem_append.mp hy with hy | hy
    · obtain ⟨hstart,hvisited⟩ := h.done y hy hne hin
      exact ⟨hstart,hcall.keeps y hvisited⟩
    · obtain rfl := List.mem_singleton.mp hy
      exact ⟨hw,hcall.visited⟩

omit h in
lemma Scanned.exhausted (h : Scanned inScc start next s curr t (next curr)) :
    Failed inScc start next s curr { t with path := t.path.dropLast } := by
  refine ⟨by simp [h.path],h.keeps,h.visited,fun x hx => ?_⟩
  rcases h.dead x hx with hx | rfl | hx
  · exact .inl hx
  · exact .inr h.done
  · exact .inr hx

lemma Scanned.found {u : CycleSearch α} {rest : List α}
    (hcurr : s.visited curr = false) (hedge : w ∈ next curr) (hcall : Found start next t w u rest) :
    Found start next s curr u (w :: rest) := by
  have hfresh : ∀ x ∈ w :: rest, s.visited x = false := by
    intro x hx
    by_contra hvisited
    have ht := h.keeps x ((Bool.not_eq_false _).mp hvisited)
    rw [hcall.fresh x hx] at ht
    cases ht
  have hnot : curr ∉ w :: rest := by
    intro hmem
    have ht := hcall.fresh curr hmem
    rw [h.visited] at ht
    cases ht
  refine ⟨?_,?_,List.nodup_cons.mpr ⟨hnot,hcall.nodup⟩,?_,by simp⟩
  · rw [hcall.path,h.path]
    simp
  · exact List.isChain_cons_cons.mpr ⟨hedge,hcall.chain⟩
  · intro x hx
    rcases List.mem_cons.mp hx with rfl | hx
    · exact hcurr
    · exact hfresh x hx

lemma Scanned.closed (hcurr : s.visited curr = false) (hedge : start ∈ next curr) (hne : start ≠ curr) :
    Found start next s curr { t with path := t.path ++ [start] } [] := by
  refine ⟨by simp [h.path],?_,by simp,by simpa using hcurr,fun _ => hne.symm⟩
  exact List.isChain_cons_cons.mpr ⟨hedge,by simp⟩

end

variable {α : Type} [DecidableEq α] {start : α} {next : α → List α} {scc : List α}

def unmarked (scc : List α) (s : CycleSearch α) : ℕ := (scc.toFinset.filter fun x => s.visited x = false).card

lemma unmarked_lt {s t : CycleSearch α} {v : α} (hv : v ∈ scc) (hnew : s.visited v = false)
    (hvisited : t.visited v = true) (h : ∀ x, s.visited x = true → t.visited x = true) :
    unmarked scc t < unmarked scc s := by
  refine Finset.card_lt_card ⟨fun x hx => ?_,fun hsub => ?_⟩
  · rw [Finset.mem_filter] at hx ⊢
    refine ⟨hx.1,?_⟩
    by_contra hx'
    rw [h x ((Bool.not_eq_false _).mp hx')] at hx
    exact absurd hx.2 (by simp)
  · have hmem := (Finset.mem_filter.mp (hsub (Finset.mem_filter.mpr ⟨by simpa using hv,hnew⟩))).2
    rw [hvisited] at hmem
    cases hmem

/-- A call finds a path to the start or marks all that it could go through. -/
theorem searchCycle_outcome {fuel : ℕ} {s : CycleSearch α} {curr : α} (hcurr : curr ∈ scc)
    (hnew : s.visited curr = false) (hfuel : unmarked scc s ≤ fuel) :
    Outcome scc.contains start next s curr (searchCycle scc.contains start next fuel s curr) := by
  induction fuel generalizing s curr with
  | zero =>
    have hpos : 0 < unmarked scc s :=
      Finset.card_pos.mpr ⟨curr,Finset.mem_filter.mpr ⟨by simpa using hcurr,hnew⟩⟩
    omega
  | succ fuel ih =>
    have hscan : ∀ (todo done : List α) (t : CycleSearch α), next curr = done ++ todo →
        Scanned scc.contains start next s curr t done →
        Outcome scc.contains start next s curr
          (scanCycle scc.contains start (searchCycle scc.contains start next fuel) curr todo t) := by
      intro todo
      induction todo with
      | nil =>
        intro done t hsplit h
        rw [List.append_nil] at hsplit
        rw [← hsplit] at h
        exact h.exhausted
      | cons w todo ihtodo =>
        intro done t hsplit h
        have hedge : w ∈ next curr := by simp [hsplit]
        have hsplit' : next curr = (done ++ [w]) ++ todo := by simp [hsplit]
        rw [scanCycle]
        split_ifs with hself hout hstart hold hfound
        · exact ihtodo _ t hsplit' (h.append fun hne => absurd hself hne)
        · exact ihtodo _ t hsplit' (h.append fun _ hin => absurd (hout.symm.trans hin) (by simp))
        · subst hstart
          exact ⟨[],h.closed hnew hedge hself⟩
        · exact ihtodo _ t hsplit' (h.append fun _ _ => ⟨hstart,hold⟩)
        · have hw : w ∈ scc := by simpa using hout
          have hcount := unmarked_lt hcurr hnew h.visited h.keeps
          have hcall := ih hw ((Bool.not_eq_true _).mp hold) (by omega)
          rw [Outcome,if_pos hfound] at hcall
          obtain ⟨rest,hrest⟩ := hcall
          exact ⟨w :: rest,h.found hnew hedge hrest⟩
        · have hw : w ∈ scc := by simpa using hout
          have hcount := unmarked_lt hcurr hnew h.visited h.keeps
          have hcall := ih hw ((Bool.not_eq_true _).mp hold) (by omega)
          rw [Outcome,if_neg hfound] at hcall
          exact ihtodo _ _ hsplit' (h.failed hstart hcall)
    exact hscan (next curr) [] (s.enter curr) rfl scanned_enter

lemma exists_last_step {x : α} (h : Reach next x start) (hne : x ≠ start) :
    ∃ u, u ≠ start ∧ Reach next x u ∧ start ∈ next u := by
  induction h using ReflTransGen.head_induction_on with
  | refl => exact absurd rfl hne
  | @head x y hxy _ ih =>
    by_cases hy : y = start
    · exact ⟨x,hne,.refl,hy ▸ hxy⟩
    · obtain ⟨u,hu,hyu,hstart⟩ := ih hy
      exact ⟨u,hu,hyu.head hxy,hstart⟩

lemma not_all_dead {visited : α → Bool} (hscc : IsComponent next scc) (hstart : start ∈ scc) {other : α}
    (hother : other ∈ scc) (hne : other ≠ start) (hvisited : visited start = true)
    (hdead : ∀ x, visited x = true → Dead scc.contains start next visited x) : False := by
  have hmark : ∀ x, Reach next start x → x ∈ scc → visited x = true := by
    intro x hx
    induction hx with
    | refl => exact fun _ => hvisited
    | @tail y z hy hyz ih =>
      intro hz
      have hin : y ∈ scc := by
        refine (hscc.mem_iff start hstart y).mpr ⟨hy,?_⟩
        exact ((hscc.mem_iff z hz start).mp hstart).1.head hyz
      by_cases hzy : z = y
      · rw [hzy]
        exact ih hin
      · exact (hdead y (ih hin) z hyz hzy (by simpa using hz)).2
  obtain ⟨hto,hback⟩ := (hscc.mem_iff start hstart other).mp hother
  obtain ⟨u,hu,hou,hus⟩ := exists_last_step hback hne
  have hin : u ∈ scc := (hscc.mem_iff start hstart u).mpr ⟨hto.trans hou,ReflTransGen.single hus⟩
  exact (hdead u (hmark u (hto.trans hou) hin) start hus (Ne.symm hu) (by simpa using hstart)).1 rfl

/-- In a component of two nodes or more the search finds a cycle through its start. -/
theorem cycleFrom_spec (hscc : IsComponent next scc) (hstart : start ∈ scc) {other : α}
    (hother : other ∈ scc) (hne : other ≠ start) :
    ∃ rest, rest ≠ [] ∧ cycleFrom next scc start = some (start :: rest ++ [start]) ∧ (start :: rest).Nodup ∧
      (start :: rest ++ [start]).IsChain fun x y => y ∈ next x := by
  have hfuel : unmarked scc ⟨[],fun _ => false⟩ ≤ scc.length :=
    Nat.le_trans (Finset.card_filter_le _ _) scc.toFinset_card_le
  have houtcome : Outcome scc.contains start next ⟨[],fun _ => false⟩ start
      (searchCycle scc.contains start next scc.length ⟨[],fun _ => false⟩ start) :=
    searchCycle_outcome hstart rfl hfuel
  unfold Outcome at houtcome
  unfold cycleFrom
  split_ifs at houtcome ⊢ with hfound
  · obtain ⟨rest,h⟩ := houtcome
    exact ⟨rest,fun hrest => h.proper hrest rfl,congrArg some h.path,h.nodup,h.chain⟩
  · exfalso
    refine not_all_dead hscc hstart hother hne houtcome.visited fun x hx => ?_
    exact (houtcome.dead x hx).resolve_left (by simp)

end Diverge.Graph
