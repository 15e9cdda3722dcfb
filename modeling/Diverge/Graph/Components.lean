import Mathlib.Data.Finset.Card

/-! Strongly connected components by Tarjan's algorithm, over any type of nodes with a list of
successors each. The calls share one state; the invariant speaks of the nodes whose calls are open. -/
namespace Diverge.Graph
open Relation

section
variable {α : Type} [DecidableEq α]

structure Tarjan (α : Type) where
  index : ℕ
  indices : α → Option ℕ
  lowlink : α → ℕ
  onStack : α → Bool
  stack : List α
  sccs : List (List α)

def Tarjan.initial : Tarjan α := ⟨0,fun _ => none,fun _ => 0,fun _ => false,[],[]⟩

/-- The number of a node: zero, as a map gives it, for a node that has none. -/
def Tarjan.number (s : Tarjan α) (v : α) : ℕ := (s.indices v).getD 0

def Tarjan.Visited (s : Tarjan α) (v : α) : Prop := s.indices v ≠ none

/-- The node gets the next number and is pushed. The top of the stack is its head. -/
def Tarjan.enter (s : Tarjan α) (v : α) : Tarjan α where
  index := s.index + 1
  indices := Function.update s.indices v (some s.index)
  lowlink := Function.update s.lowlink v s.index
  onStack := Function.update s.onStack v true
  stack := v :: s.stack
  sccs := s.sccs

def Tarjan.lower (s : Tarjan α) (v : α) (n : ℕ) : Tarjan α :=
  if n < s.lowlink v then { s with lowlink := Function.update s.lowlink v n } else s

/-- What a call does with one neighbour of its node. -/
def visitNeighbor (call : Tarjan α → α → Tarjan α) (v : α) (s : Tarjan α) (w : α) : Tarjan α :=
  if w = v then s
  else if s.indices w = none then (call s w).lower v ((call s w).lowlink w)
  else if s.onStack w = true then s.lower v (s.number w)
  else s

/-- The stack is popped down to the node, each popped node in front of those popped before it. -/
def popTo (v : α) : List α → List α → List α × List α
  | scc,[] => (scc,[])
  | scc,w :: rest => if w = v then (w :: scc,rest) else popTo v (w :: scc) rest

def Tarjan.close (s : Tarjan α) (v : α) : Tarjan α :=
  if s.lowlink v = s.number v then
    { s with
      stack := (popTo v [] s.stack).2
      onStack := fun w => s.onStack w && !(popTo v [] s.stack).1.contains w
      sccs := s.sccs ++ [(popTo v [] s.stack).1] }
  else s

variable (next : α → List α)

def strongconnect : ℕ → Tarjan α → α → Tarjan α
  | 0,s,_ => s
  | fuel+1,s,v => ((next v).foldl (visitNeighbor (strongconnect fuel) v) (s.enter v)).close v

/-- The components, with as many nested calls as there are nodes. -/
def components (nodes : List α) : List (List α) :=
  (nodes.foldl
    (fun s v => if s.indices v = none then strongconnect next nodes.length s v else s)
    Tarjan.initial).sccs

def Reach : α → α → Prop := ReflTransGen fun x y => y ∈ next x

/-- A component: the nodes that reach each other. -/
structure IsComponent (scc : List α) : Prop where
  nonempty : scc ≠ []
  nodup : scc.Nodup
  mem_iff : ∀ u ∈ scc, ∀ w, w ∈ scc ↔ Reach next u w ∧ Reach next w u

/-- Between the steps of the search, with calls open for the nodes of a list. -/
structure Searching (open_ : List α) (s : Tarjan α) : Prop where
  onStack_iff : ∀ x, s.onStack x = true ↔ x ∈ s.stack
  sorted : s.stack.Pairwise fun x y => s.number y < s.number x
  visited : ∀ x ∈ s.stack, s.Visited x
  number_lt : ∀ x, s.Visited x → s.number x < s.index
  open_stack : ∀ g ∈ open_, g ∈ s.stack
  to_open : ∀ y ∈ s.stack, ∃ g ∈ open_, s.number g ≤ s.number y ∧ Reach next y g
  of_open : ∀ g ∈ open_, ∀ y ∈ s.stack, s.number g ≤ s.number y → Reach next g y
  explored : ∀ x, s.Visited x → x ∉ open_ → ∀ y ∈ next x, s.Visited y
  closed : ∀ x, s.Visited x → x ∉ s.stack → ∀ y ∈ next x, y ∉ s.stack
  covered : ∀ x, (∃ scc ∈ s.sccs, x ∈ scc) ↔ s.Visited x ∧ x ∉ s.stack
  component : ∀ scc ∈ s.sccs, IsComponent next scc

/-- What a call for a node makes of the state. -/
structure Called (open_ : List α) (s : Tarjan α) (v : α) (t : Tarjan α) : Prop where
  searching : Searching next open_ t
  visited : t.Visited v
  index_le : s.index ≤ t.number v
  keeps : ∀ x, s.Visited x → t.Visited x ∧ t.number x = s.number x ∧ t.lowlink x = s.lowlink x
  stack : ∃ fresh, t.stack = fresh ++ s.stack ∧
    ∀ x ∈ fresh, ∀ y ∈ s.stack, y ∈ next x → t.lowlink v ≤ t.number y
  low : t.lowlink v = t.number v ∨ ∃ y ∈ t.stack, t.number y = t.lowlink v ∧ Reach next v y

/-- Within the call for a node, when some of the neighbours are done. -/
structure Scanning (open_ : List α) (s : Tarjan α) (v : α) (t : Tarjan α) (done : List α) : Prop where
  searching : Searching next (v :: open_) t
  visited : t.Visited v
  number : t.number v = s.index
  keeps : ∀ x, s.Visited x → t.Visited x ∧ t.number x = s.number x ∧ t.lowlink x = s.lowlink x
  stack : ∃ fresh, t.stack = fresh ++ v :: s.stack ∧
    ∀ x ∈ fresh, ∀ y ∈ s.stack, y ∈ next x → t.lowlink v ≤ t.number y
  low_le : t.lowlink v ≤ t.number v
  low : ∃ y ∈ t.stack, t.number y = t.lowlink v ∧ Reach next v y
  done : ∀ w ∈ done, t.Visited w ∧ (w ∈ s.stack → t.lowlink v ≤ t.number w)

end

section
variable {α : Type} [DecidableEq α] {next : α → List α} {open_ : List α} {s t : Tarjan α} {v w : α}

variable {x : α} {done : List α}

lemma visited_enter : (s.enter v).Visited x ↔ x = v ∨ s.Visited x := by
  unfold Tarjan.Visited Tarjan.enter
  by_cases h : x = v
  · simp [h]
  · simp [h]

lemma number_enter_self : (s.enter v).number v = s.index := by
  simp [Tarjan.number,Tarjan.enter]

lemma number_enter_of_ne (h : x ≠ v) : (s.enter v).number x = s.number x := by
  simp [Tarjan.number,Tarjan.enter,h]

variable (n : ℕ)

@[simp] lemma indices_lower : (s.lower v n).indices = s.indices := by
  unfold Tarjan.lower
  split_ifs <;> rfl

@[simp] lemma number_lower : (s.lower v n).number = s.number := by
  unfold Tarjan.number
  rw [indices_lower]

@[simp] lemma visited_lower : (s.lower v n).Visited = s.Visited := by
  unfold Tarjan.Visited
  rw [indices_lower]

@[simp] lemma stack_lower : (s.lower v n).stack = s.stack := by
  unfold Tarjan.lower
  split_ifs <;> rfl

lemma lowlink_lower_self : (s.lower v n).lowlink v = min (s.lowlink v) n := by
  unfold Tarjan.lower
  split_ifs with h
  · change Function.update s.lowlink v n v = _
    rw [Function.update_self]
    omega
  · omega

lemma lowlink_lower_of_ne (h : x ≠ v) (n : ℕ) : (s.lower v n).lowlink x = s.lowlink x := by
  unfold Tarjan.lower
  split_ifs
  · exact Function.update_of_ne h _ _
  · rfl

section
variable (h : Searching next open_ s)
include h

lemma Searching.lower (n : ℕ) : Searching next open_ (s.lower v n) := by
  unfold Tarjan.lower
  split_ifs
  · exact ⟨h.onStack_iff,h.sorted,h.visited,h.number_lt,h.open_stack,h.to_open,h.of_open,h.explored,h.closed,
      h.covered,h.component⟩
  · exact h

omit [DecidableEq α] in
lemma Searching.nodup : s.stack.Nodup :=
  h.sorted.imp fun hlt heq => by
    subst heq
    exact Nat.lt_irrefl _ hlt

/-- A node is entered: it is open, and every open node reaches it. -/
lemma Searching.enter (hv : ¬s.Visited v) (hreach : ∀ g ∈ open_, Reach next g v) :
    Searching next (v :: open_) (s.enter v) := by
  have hfresh : ∀ x, s.Visited x → x ≠ v := by
    rintro x hx rfl
    exact hv hx
  have hstack : ∀ x ∈ s.stack, x ≠ v ∧ (s.enter v).number x = s.number x ∧ s.number x < s.index := by
    intro x hx
    have hx' := h.visited x hx
    exact ⟨hfresh x hx',number_enter_of_ne (hfresh x hx'),h.number_lt x hx'⟩
  refine ⟨?_,?_,?_,?_,?_,?_,?_,?_,?_,?_,h.component⟩
  · intro x
    change Function.update s.onStack v true x = true ↔ x ∈ v :: s.stack
    rw [List.mem_cons,← h.onStack_iff]
    by_cases hx : x = v
    · simp [hx]
    · simp [hx]
  · refine List.pairwise_cons.mpr ⟨?_,h.sorted.imp_of_mem ?_⟩
    · intro y hy
      obtain ⟨-,hnumber,hlt⟩ := hstack y hy
      rwa [number_enter_self,hnumber]
    · intro x y hx hy hlt
      rwa [(hstack x hx).2.1,(hstack y hy).2.1]
  · intro x hx
    exact visited_enter.mpr ((List.mem_cons.mp hx).imp_right (h.visited x))
  · intro x hx
    change _ < s.index + 1
    rcases visited_enter.mp hx with rfl | hx
    · rw [number_enter_self]
      omega
    · rw [number_enter_of_ne (hfresh x hx)]
      exact Nat.lt_succ_of_lt (h.number_lt x hx)
  · intro g hg
    exact List.mem_cons.mpr ((List.mem_cons.mp hg).imp_right (h.open_stack g))
  · intro y hy
    rcases List.mem_cons.mp hy with rfl | hy
    · exact ⟨y,by simp,Nat.le_refl _,.refl⟩
    · obtain ⟨g,hg,hle,hreach⟩ := h.to_open y hy
      refine ⟨g,by simp [hg],?_,hreach⟩
      rwa [(hstack g (h.open_stack g hg)).2.1,(hstack y hy).2.1]
  · intro g hg y hy hle
    rcases List.mem_cons.mp hy with hyv | hold
    · rcases List.mem_cons.mp hg with hgv | hopen
      · rw [hgv,hyv]
        exact .refl
      · rw [hyv]
        exact hreach g hopen
    · obtain ⟨-,hnumber,hlt⟩ := hstack y hold
      rcases List.mem_cons.mp hg with hgv | hopen
      · rw [hgv,number_enter_self,hnumber] at hle
        omega
      · rw [(hstack g (h.open_stack g hopen)).2.1,hnumber] at hle
        exact h.of_open g hopen y hold hle
  · intro x hx hopen y hy
    rw [List.mem_cons,not_or] at hopen
    rcases visited_enter.mp hx with hx | hx
    · exact absurd hx hopen.1
    · exact visited_enter.mpr (.inr (h.explored x hx hopen.2 y hy))
  · intro x hx hnot y hy hmem
    rcases visited_enter.mp hx with hxv | hold
    · exact hnot (by simp [hxv,Tarjan.enter])
    · have hx' : x ∉ s.stack := fun hs => hnot (List.mem_cons_of_mem v hs)
      rcases List.mem_cons.mp hmem with hyv | hmem'
      · exact hv (hyv ▸ h.explored x hold (fun hg => hx' (h.open_stack x hg)) y hy)
      · exact h.closed x hold hx' y hy hmem'
  · intro x
    refine (h.covered x).trans ?_
    rw [visited_enter,show (s.enter v).stack = v :: s.stack from rfl,List.mem_cons,not_or]
    constructor
    · rintro ⟨hx,hns⟩
      exact ⟨.inr hx,hfresh x hx,hns⟩
    · rintro ⟨hx,hne,hns⟩
      exact ⟨hx.resolve_left hne,hns⟩

lemma Searching.scanning (hv : ¬s.Visited v)
    (hreach : ∀ g ∈ open_, Reach next g v) : Scanning next open_ s v (s.enter v) [] where
  searching := h.enter hv hreach
  visited := visited_enter.mpr (.inl rfl)
  number := number_enter_self
  keeps := by
    intro x hx
    have hne : x ≠ v := by
      rintro rfl
      exact hv hx
    exact ⟨visited_enter.mpr (.inr hx),number_enter_of_ne hne,Function.update_of_ne hne _ _⟩
  stack := ⟨[],rfl,by simp⟩
  low_le := by
    rw [number_enter_self]
    simp [Tarjan.enter]
  low := by
    refine ⟨v,by simp [Tarjan.enter],?_,.refl⟩
    rw [number_enter_self]
    simp [Tarjan.enter]
  done := by simp

end

section
variable (h : Scanning next open_ s v t done)
include h

/-- The low link takes the number of a node of the stack that is reached, or stays. -/
lemma Scanning.lower (hv : ¬s.Visited v) {n : ℕ}
    (hn : t.lowlink v ≤ n ∨ ∃ y ∈ t.stack, t.number y = n ∧ Reach next v y) :
    Scanning next open_ s v (t.lower v n) done := by
  have hle : (t.lower v n).lowlink v ≤ t.lowlink v := by
    rw [lowlink_lower_self]
    omega
  refine ⟨h.searching.lower n,?_,?_,?_,?_,?_,?_,?_⟩
  · rw [visited_lower]
    exact h.visited
  · rw [number_lower]
    exact h.number
  · intro x hx
    have hne : x ≠ v := by
      rintro rfl
      exact hv hx
    rw [visited_lower,number_lower,lowlink_lower_of_ne hne]
    exact h.keeps x hx
  · obtain ⟨fresh,hstack,hfresh⟩ := h.stack
    rw [stack_lower,number_lower]
    exact ⟨fresh,hstack,fun x hx y hy hxy => Nat.le_trans hle (hfresh x hx y hy hxy)⟩
  · rw [number_lower]
    exact Nat.le_trans hle h.low_le
  · rw [stack_lower,number_lower,lowlink_lower_self]
    by_cases hlt : n < t.lowlink v
    · rw [Nat.min_eq_right (Nat.le_of_lt hlt)]
      exact hn.resolve_left (Nat.not_le_of_lt hlt)
    · rw [Nat.min_eq_left (Nat.le_of_not_lt hlt)]
      exact h.low
  · intro w hw
    rw [visited_lower,number_lower]
    exact ⟨(h.done w hw).1,fun hs => Nat.le_trans hle ((h.done w hw).2 hs)⟩

omit [DecidableEq α] in
lemma Scanning.append
    (hw : t.Visited w ∧ (w ∈ s.stack → t.lowlink v ≤ t.number w)) : Scanning next open_ s v t (done ++ [w]) := by
  refine ⟨h.searching,h.visited,h.number,h.keeps,h.stack,h.low_le,h.low,fun x hx => ?_⟩
  rcases List.mem_append.mp hx with hx | hx
  · exact h.done x hx
  · obtain rfl := List.mem_singleton.mp hx
    exact hw

/-- After the call for a neighbour the low link is at most the neighbour's. -/
lemma Scanning.called {u : Tarjan α} (hv : ¬s.Visited v)
    (hedge : w ∈ next v) (hw : ¬t.Visited w) (hcall : Called next (v :: open_) t w u) :
    Scanning next open_ s v (u.lower v (u.lowlink w)) (done ++ [w]) := by
  obtain ⟨hvisited,hnumber,hlowlink⟩ := hcall.keeps v h.visited
  obtain ⟨fresh,hstack,hfresh⟩ := h.stack
  obtain ⟨more,hmore,hcross⟩ := hcall.stack
  have hold : ∀ y ∈ t.stack, u.number y = t.number y :=
    fun y hy => (hcall.keeps y (h.searching.visited y hy)).2.1
  have hsub : ∀ y ∈ s.stack, y ∈ t.stack := fun y hy => by simp [hstack,hy]
  have hlow : (u.lower v (u.lowlink w)).lowlink v = min (t.lowlink v) (u.lowlink w) := by
    rw [lowlink_lower_self,hlowlink]
  refine ⟨hcall.searching.lower _,?_,?_,?_,?_,?_,?_,?_⟩
  · rw [visited_lower]
    exact hvisited
  · rw [number_lower,hnumber]
    exact h.number
  · intro x hx
    have hne : x ≠ v := by
      rintro rfl
      exact hv hx
    obtain ⟨hx₁,hx₂,hx₃⟩ := h.keeps x hx
    obtain ⟨hx₁',hx₂',hx₃'⟩ := hcall.keeps x hx₁
    rw [visited_lower,number_lower,lowlink_lower_of_ne hne]
    exact ⟨hx₁',hx₂'.trans hx₂,hx₃'.trans hx₃⟩
  · refine ⟨more ++ fresh,by rw [stack_lower,hmore,hstack,List.append_assoc],fun x hx y hy hxy => ?_⟩
    rw [hlow,number_lower]
    rcases List.mem_append.mp hx with hx | hx
    · have hle := hcross x hx y (hsub y hy) hxy
      omega
    · have hle := hfresh x hx y hy hxy
      rw [hold y (hsub y hy)]
      omega
  · have hle := h.low_le
    rw [hlow,number_lower,hnumber]
    omega
  · rw [hlow,stack_lower,number_lower]
    by_cases hlt : u.lowlink w < t.lowlink v
    · rw [Nat.min_eq_right (Nat.le_of_lt hlt)]
      rcases hcall.low with hself | ⟨y,hy,hlink,hreach⟩
      · have hfirst := hcall.index_le
        have hnew := h.searching.number_lt v h.visited
        have hle := h.low_le
        omega
      · exact ⟨y,hy,hlink,hreach.head hedge⟩
    · rw [Nat.min_eq_left (Nat.le_of_not_lt hlt)]
      obtain ⟨y,hy,hlink,hreach⟩ := h.low
      exact ⟨y,by simp [hmore,hy],(hold y hy).trans hlink,hreach⟩
  · intro x hx
    rw [hlow,visited_lower,number_lower]
    rcases List.mem_append.mp hx with hx | hx
    · obtain ⟨hx₁,hx₂⟩ := h.done x hx
      refine ⟨(hcall.keeps x hx₁).1,fun hs => ?_⟩
      have hle := hx₂ hs
      rw [(hcall.keeps x hx₁).2.1]
      omega
    · obtain rfl := List.mem_singleton.mp hx
      exact ⟨hcall.visited,fun hs => absurd (h.searching.visited x (hsub x hs)) hw⟩

lemma Scanning.visitNeighbor {call : Tarjan α → α → Tarjan α} (hv : ¬s.Visited v) (hedge : w ∈ next v)
    (hcall : ¬t.Visited w → Called next (v :: open_) t w (call t w)) :
    Scanning next open_ s v (visitNeighbor call v t w) (done ++ [w]) := by
  unfold Graph.visitNeighbor
  split_ifs with hself hnew hon
  · subst hself
    exact h.append ⟨h.visited,fun _ => h.low_le⟩
  · have hw : ¬t.Visited w := fun hvisited => hvisited hnew
    exact h.called hv hedge hw (hcall hw)
  · have hmem : w ∈ t.stack := (h.searching.onStack_iff w).mp hon
    refine (h.lower hv (.inr ⟨w,hmem,rfl,ReflTransGen.single hedge⟩)).append ⟨?_,fun _ => ?_⟩
    · rw [visited_lower]
      exact hnew
    · rw [number_lower,lowlink_lower_self]
      omega
  · refine h.append ⟨hnew,fun hs => absurd ?_ hon⟩
    obtain ⟨fresh,hstack,-⟩ := h.stack
    exact (h.searching.onStack_iff w).mpr (by simp [hstack,hs])

end

lemma popTo_append {fresh : List α} (hv : v ∉ fresh) (scc rest : List α) :
    popTo v scc (fresh ++ v :: rest) = (v :: (fresh.reverse ++ scc),rest) := by
  induction fresh generalizing scc with
  | nil => simp [popTo]
  | cons w fresh ih =>
    rw [List.mem_cons,not_or] at hv
    rw [List.cons_append,popTo,if_neg (Ne.symm hv.1),ih hv.2]
    simp

end

section
variable {α : Type} {next : α → List α} {open_ : List α} {s t : Tarjan α} {v : α} {fresh : List α}

lemma mem_stack (hstack : t.stack = fresh ++ v :: s.stack) (y : α) : y ∈ t.stack ↔ y ∈ v :: fresh ∨ y ∈ s.stack := by
  simp only [hstack,List.mem_append,List.mem_cons]
  tauto

lemma Searching.closed_reach (h : Searching next open_ t) {x y : α} (hx : t.Visited x) (hnot : x ∉ t.stack)
    (hxy : Reach next x y) : t.Visited y ∧ y ∉ t.stack := by
  induction hxy with
  | refl => exact ⟨hx,hnot⟩
  | @tail y z _ hyz ih =>
    have hopen : y ∉ open_ := fun hg => ih.2 (h.open_stack y hg)
    exact ⟨h.explored y ih.1 hopen z hyz,h.closed y ih.1 ih.2 z hyz⟩

variable (h : Scanning next open_ s v t (next v)) (hstack : t.stack = fresh ++ v :: s.stack)
include h hstack

variable {y : α}

lemma Scanning.disjoint (hy : y ∈ v :: fresh) : y ∉ s.stack := by
  have hnodup := h.searching.nodup
  rw [hstack,List.nodup_append,List.nodup_cons] at hnodup
  obtain ⟨-,⟨hv,-⟩,hne⟩ := hnodup
  rcases List.mem_cons.mp hy with rfl | hy
  · exact hv
  · exact fun hys => hne y hy y (by simp [hys]) rfl

lemma Scanning.number_lt (hy : y ∈ s.stack) : t.number y < t.number v := by
  have hsorted := h.searching.sorted
  rw [hstack,List.pairwise_append,List.pairwise_cons] at hsorted
  exact hsorted.2.1.1 y hy

lemma Scanning.le_number (hy : y ∈ v :: fresh) : t.number v ≤ t.number y := by
  have hsorted := h.searching.sorted
  rw [hstack,List.pairwise_append] at hsorted
  rcases List.mem_cons.mp hy with rfl | hy
  · exact Nat.le_refl _
  · exact Nat.le_of_lt (hsorted.2.2 y hy v (by simp))

section
variable (hs : Searching next open_ s)
include hs

lemma Scanning.not_open (hy : y ∈ fresh) : y ∉ v :: open_ := by
  have hnodup := h.searching.nodup
  rw [hstack,List.nodup_append] at hnodup
  intro hg
  rcases List.mem_cons.mp hg with rfl | hg
  · exact hnodup.2.2 y hy y (by simp) rfl
  · exact h.disjoint hstack (by simp [hy]) (hs.open_stack y hg)

variable (hfresh : ∀ x ∈ fresh, ∀ y ∈ s.stack, y ∈ next x → t.lowlink v ≤ t.number y)
include hfresh

variable (hroot : t.lowlink v = t.number v)
include hroot

/-- What the node's part of the stack reaches: itself and what is closed already. -/
lemma Scanning.reached {x y : α} (hx : x ∈ v :: fresh) (hxy : Reach next x y) :
    y ∈ v :: fresh ∨ (t.Visited y ∧ y ∉ t.stack) := by
  have hsplit := mem_stack hstack
  induction hxy with
  | refl => exact .inl hx
  | @tail y z _ hyz ih =>
    rcases ih with hy | ⟨hy,hnot⟩
    · have hz : t.Visited z ∧ (z ∈ s.stack → t.lowlink v ≤ t.number z) := by
        rcases List.mem_cons.mp hy with rfl | hyf
        · exact h.done z hyz
        · have hvisited := h.searching.visited y ((hsplit y).mpr (.inl hy))
          exact ⟨h.searching.explored y hvisited (h.not_open hstack hs hyf) z hyz,
            fun hzs => hfresh y hyf z hzs hyz⟩
      have hzs : z ∉ s.stack := by
        intro hzs
        have hle := hz.2 hzs
        have hlt := h.number_lt hstack hzs
        omega
      by_cases hmem : z ∈ v :: fresh
      · exact .inl hmem
      · exact .inr ⟨hz.1,fun hzt => ((hsplit z).mp hzt).elim hmem hzs⟩
    · have hopen : y ∉ v :: open_ := fun hg => hnot (h.searching.open_stack y hg)
      exact .inr ⟨h.searching.explored y hy hopen z hyz,h.searching.closed y hy hnot z hyz⟩

lemma Scanning.isComponent : IsComponent next (v :: fresh.reverse) := by
  have hmem : ∀ x, x ∈ v :: fresh.reverse ↔ x ∈ v :: fresh := by simp
  have hback : ∀ x ∈ v :: fresh, Reach next x v := by
    intro x hx
    obtain ⟨g,hg,-,hreach⟩ := h.searching.to_open x ((mem_stack hstack x).mpr (.inl hx))
    rcases List.mem_cons.mp hg with rfl | hg
    · exact hreach
    · have hold := hs.open_stack g hg
      rcases h.reached hstack hs hfresh hroot hx hreach with hin | ⟨-,hnot⟩
      · exact absurd hold (h.disjoint hstack hin)
      · exact absurd ((mem_stack hstack g).mpr (.inr hold)) hnot
  have hforth : ∀ x ∈ v :: fresh, Reach next v x := fun x hx =>
    h.searching.of_open v (by simp) x ((mem_stack hstack x).mpr (.inl hx)) (h.le_number hstack hx)
  refine ⟨by simp,?_,fun u hu w => ?_⟩
  · have hnodup := h.searching.nodup
    rw [hstack,List.nodup_append] at hnodup
    refine List.nodup_cons.mpr ⟨fun hv => ?_,List.nodup_reverse.mpr hnodup.1⟩
    exact hnodup.2.2 v (List.mem_reverse.mp hv) v (by simp) rfl
  · rw [hmem] at hu ⊢
    constructor
    · intro hw
      exact ⟨(hback u hu).trans (hforth w hw),(hback w hw).trans (hforth u hu)⟩
    · rintro ⟨huw,hwu⟩
      rcases h.reached hstack hs hfresh hroot hu huw with hw | ⟨hw,hnot⟩
      · exact hw
      · exact absurd ((mem_stack hstack u).mpr (.inl hu)) (h.searching.closed_reach hw hnot hwu).2

/-- The popped part of the stack is closed, and the call is over. -/
lemma Scanning.searching_closed {u : Tarjan α} (hindex : u.index = t.index)
    (hindices : u.indices = t.indices) (hu : u.stack = s.stack)
    (hon : ∀ x, u.onStack x = true ↔ t.onStack x = true ∧ x ∉ v :: fresh)
    (hsccs : u.sccs = t.sccs ++ [v :: fresh.reverse]) : Searching next open_ u := by
  have hnumber : u.number = t.number := by
    unfold Tarjan.number
    rw [hindices]
  have hvisited : u.Visited = t.Visited := by
    unfold Tarjan.Visited
    rw [hindices]
  have hsplit := mem_stack hstack
  have hold : ∀ x ∈ s.stack, x ∈ t.stack := fun x hx => (hsplit x).mpr (.inr hx)
  refine ⟨?_,?_,?_,?_,?_,?_,?_,?_,?_,?_,?_⟩
  · intro x
    rw [hon,h.searching.onStack_iff,hsplit,hu]
    constructor
    · rintro ⟨hx,hnot⟩
      exact hx.resolve_left hnot
    · intro hx
      exact ⟨.inr hx,fun hmem => h.disjoint hstack hmem hx⟩
  · have hsorted := h.searching.sorted
    rw [hstack,List.pairwise_append,List.pairwise_cons] at hsorted
    rw [hu,hnumber]
    exact hsorted.2.1.2
  · rw [hu,hvisited]
    exact fun x hx => h.searching.visited x (hold x hx)
  · rw [hvisited,hnumber,hindex]
    exact h.searching.number_lt
  · rw [hu]
    exact hs.open_stack
  · rw [hu,hnumber]
    intro y hy
    obtain ⟨g,hg,hle,hreach⟩ := h.searching.to_open y (hold y hy)
    rcases List.mem_cons.mp hg with rfl | hg
    · have hlt := h.number_lt hstack hy
      omega
    · exact ⟨g,hg,hle,hreach⟩
  · rw [hu,hnumber]
    exact fun g hg y hy hle => h.searching.of_open g (by simp [hg]) y (hold y hy) hle
  · rw [hvisited]
    intro x hx hopen y hy
    by_cases hxv : x = v
    · subst hxv
      exact (h.done y hy).1
    · exact h.searching.explored x hx (by simp [hxv,hopen]) y hy
  · rw [hvisited,hu]
    intro x hx hnot y hy hys
    by_cases hmem : x ∈ v :: fresh
    · rcases h.reached hstack hs hfresh hroot hmem (ReflTransGen.single hy) with hin | ⟨-,hout⟩
      · exact h.disjoint hstack hin hys
      · exact hout (hold y hys)
    · have hnot' : x ∉ t.stack := fun hxt => ((hsplit x).mp hxt).elim hmem hnot
      exact h.searching.closed x hx hnot' y hy (hold y hys)
  · intro x
    rw [hsccs,hvisited,hu]
    constructor
    · rintro ⟨scc,hscc,hx⟩
      rcases List.mem_append.mp hscc with hscc | hscc
      · obtain ⟨hx₁,hx₂⟩ := (h.searching.covered x).mp ⟨scc,hscc,hx⟩
        exact ⟨hx₁,fun hxs => hx₂ (hold x hxs)⟩
      · rw [List.mem_singleton.mp hscc] at hx
        have hmem : x ∈ v :: fresh := by simpa using hx
        exact ⟨h.searching.visited x ((hsplit x).mpr (.inl hmem)),h.disjoint hstack hmem⟩
    · rintro ⟨hx,hnot⟩
      by_cases hmem : x ∈ v :: fresh
      · exact ⟨v :: fresh.reverse,by simp,by simpa using hmem⟩
      · have hnot' : x ∉ t.stack := fun hxt => ((hsplit x).mp hxt).elim hmem hnot
        obtain ⟨scc,hscc,hx'⟩ := (h.searching.covered x).mpr ⟨hx,hnot'⟩
        exact ⟨scc,by simp [hscc],hx'⟩
  · rw [hsccs]
    intro scc hscc
    rcases List.mem_append.mp hscc with hscc | hscc
    · exact h.searching.component scc hscc
    · obtain rfl := List.mem_singleton.mp hscc
      exact h.isComponent hstack hs hfresh hroot

end

omit hstack in
lemma Scanning.searching_kept (hbelow : t.lowlink v < t.number v) : Searching next open_ t := by
  obtain ⟨z,hz,hlink,hreach⟩ := h.low
  obtain ⟨g',hg',hle',hreach'⟩ := h.searching.to_open z hz
  have hold : g' ∈ open_ := by
    rcases List.mem_cons.mp hg' with rfl | hg'
    · omega
    · exact hg'
  refine ⟨h.searching.onStack_iff,h.searching.sorted,h.searching.visited,h.searching.number_lt,?_,?_,?_,?_,
    h.searching.closed,h.searching.covered,h.searching.component⟩
  · exact fun g hg => h.searching.open_stack g (by simp [hg])
  · intro y hy
    obtain ⟨g,hg,hle,hyg⟩ := h.searching.to_open y hy
    rcases List.mem_cons.mp hg with rfl | hg
    · exact ⟨g',hold,by omega,(hyg.trans hreach).trans hreach'⟩
    · exact ⟨g,hg,hle,hyg⟩
  · exact fun g hg => h.searching.of_open g (by simp [hg])
  · intro x hx hopen y hy
    by_cases hxv : x = v
    · subst hxv
      exact (h.done y hy).1
    · exact h.searching.explored x hx (by simp [hxv,hopen]) y hy

end

section
variable {α : Type} [DecidableEq α] {next : α → List α} {open_ : List α} {s t : Tarjan α} {v : α}

lemma Scanning.close (hs : Searching next open_ s) (h : Scanning next open_ s v t (next v)) :
    Called next open_ s v (t.close v) := by
  obtain ⟨fresh,hstack,hfresh⟩ := h.stack
  unfold Tarjan.close
  split_ifs with hroot
  · have hnot : v ∉ fresh := fun hv => h.not_open hstack hs hv (by simp)
    have hpop : popTo v [] t.stack = (v :: fresh.reverse,s.stack) := by
      rw [hstack,popTo_append hnot,List.append_nil]
    rw [hpop]
    refine ⟨h.searching_closed hstack hs hfresh hroot rfl rfl rfl ?_ rfl,h.visited,Nat.le_of_eq h.number.symm,
      h.keeps,⟨[],rfl,by simp⟩,.inl hroot⟩
    intro x
    simp
  · have hbelow : t.lowlink v < t.number v := Nat.lt_of_le_of_ne h.low_le hroot
    refine ⟨h.searching_kept hbelow,h.visited,Nat.le_of_eq h.number.symm,h.keeps,⟨fresh ++ [v],?_,?_⟩,.inr h.low⟩
    · rw [hstack,List.append_assoc]
      rfl
    · intro x hx y hy hxy
      rcases List.mem_append.mp hx with hx | hx
      · exact hfresh x hx y hy hxy
      · obtain rfl := List.mem_singleton.mp hx
        exact (h.done y hxy).2 hy

end

section
variable {α : Type} {s t : Tarjan α} {v : α}

def unvisited (nodes : Finset α) (s : Tarjan α) : ℕ := (nodes.filter fun x => s.indices x = none).card

lemma unvisited_lt {nodes : Finset α} (hv : v ∈ nodes) (hnew : ¬s.Visited v) (hvisited : t.Visited v)
    (h : ∀ x, s.Visited x → t.Visited x) : unvisited nodes t < unvisited nodes s := by
  refine Finset.card_lt_card ⟨fun x hx => ?_,fun hsub => ?_⟩
  · rw [Finset.mem_filter] at hx ⊢
    refine ⟨hx.1,?_⟩
    by_contra hx'
    exact h x hx' hx.2
  · have hmem := hsub (Finset.mem_filter.mpr ⟨hv,by_contra hnew⟩)
    exact hvisited (Finset.mem_filter.mp hmem).2

variable [DecidableEq α] {next : α → List α} {open_ : List α}

/-- A call with as much fuel as there are unvisited nodes does what it should. -/
theorem strongconnect_called {nodes : Finset α} (hnext : ∀ x ∈ nodes, ∀ y ∈ next x, y ∈ nodes) {fuel : ℕ}
    (hs : Searching next open_ s) (hv : v ∈ nodes) (hnew : ¬s.Visited v)
    (hreach : ∀ g ∈ open_, Reach next g v) (hfuel : unvisited nodes s ≤ fuel) :
    Called next open_ s v (strongconnect next fuel s v) := by
  induction fuel generalizing open_ s v with
  | zero =>
    have hpos : 0 < unvisited nodes s := Finset.card_pos.mpr ⟨v,Finset.mem_filter.mpr ⟨hv,by_contra hnew⟩⟩
    omega
  | succ fuel ih =>
    have hscan : ∀ (done todo : List α) (t : Tarjan α), next v = done ++ todo →
        Scanning next open_ s v t done →
        Scanning next open_ s v (todo.foldl (visitNeighbor (strongconnect next fuel) v) t) (next v) := by
      intro done todo
      induction todo generalizing done with
      | nil =>
        intro t hsplit h
        rw [hsplit,List.append_nil]
        exact h
      | cons w todo ihtodo =>
        intro t hsplit h
        have hw : w ∈ next v := by simp [hsplit]
        have hcount : unvisited nodes t < unvisited nodes s :=
          unvisited_lt hv hnew h.visited fun x hx => (h.keeps x hx).1
        refine ihtodo (done ++ [w]) _ (by simp [hsplit]) (h.visitNeighbor hnew hw fun hwnew => ?_)
        refine ih h.searching (hnext v hv w hw) hwnew (fun g hg => ?_) (by omega)
        have hgv : Reach next g v := by
          rcases List.mem_cons.mp hg with rfl | hg
          · exact .refl
          · exact hreach g hg
        exact hgv.tail hw
    exact (hscan [] (next v) (s.enter v) rfl (hs.scanning hnew hreach)).close hs

omit [DecidableEq α] in
lemma searching_initial : Searching next [] (Tarjan.initial : Tarjan α) := by
  have hnone : ∀ x, ¬(Tarjan.initial : Tarjan α).Visited x := fun x hx => hx rfl
  refine ⟨by simp [Tarjan.initial],by simp [Tarjan.initial],?_,?_,by simp,?_,by simp,?_,?_,?_,?_⟩
  · exact fun x hx => absurd hx (List.not_mem_nil)
  · exact fun x hx => absurd hx (hnone x)
  · exact fun x hx => absurd hx (List.not_mem_nil)
  · exact fun x hx => absurd hx (hnone x)
  · exact fun x hx => absurd hx (hnone x)
  · intro x
    constructor
    · rintro ⟨scc,hscc,-⟩
      cases hscc
    · exact fun hx => absurd hx.1 (hnone x)
  · exact fun scc hscc => absurd hscc (List.not_mem_nil)

/-- Tarjan's algorithm finds components only, and every node's component. -/
theorem components_spec {nodes : List α} (hnext : ∀ x ∈ nodes, ∀ y ∈ next x, y ∈ nodes) :
    (∀ scc ∈ components next nodes, IsComponent next scc) ∧
      ∀ x ∈ nodes, ∃ scc ∈ components next nodes, x ∈ scc := by
  have hrun : ∀ (todo : List α) (s : Tarjan α), (∀ x ∈ todo, x ∈ nodes) → Searching next [] s →
      ∀ t, t = todo.foldl (fun s v => if s.indices v = none then strongconnect next nodes.length s v else s) s →
        Searching next [] t ∧ (∀ x, s.Visited x ∨ x ∈ todo → t.Visited x) := by
    intro todo
    induction todo with
    | nil =>
      rintro s - hs t rfl
      exact ⟨hs,fun x hx => hx.resolve_right List.not_mem_nil⟩
    | cons v todo ih =>
      intro s hsub hs t ht
      rw [List.foldl_cons] at ht
      have hv : v ∈ nodes := hsub v (by simp)
      have hcall : ∃ u, u = (if s.indices v = none then strongconnect next nodes.length s v else s) ∧
          Searching next [] u ∧ u.Visited v ∧ ∀ x, s.Visited x → u.Visited x := by
        refine ⟨_,rfl,?_⟩
        split_ifs with hnew
        · have hfuel : unvisited nodes.toFinset s ≤ nodes.length :=
            Nat.le_trans (Finset.card_filter_le _ _) nodes.toFinset_card_le
          have hcalled : Called next [] s v (strongconnect next nodes.length s v) :=
            strongconnect_called (by simpa using hnext) hs (by simpa using hv) (fun h => h hnew) (by simp) hfuel
          exact ⟨hcalled.searching,hcalled.visited,fun x hx => (hcalled.keeps x hx).1⟩
        · exact ⟨hs,hnew,fun x hx => hx⟩
      obtain ⟨u,hu,hsu,hvu,hmono⟩ := hcall
      rw [← hu] at ht
      obtain ⟨hst,hvisited⟩ := ih u (fun x hx => hsub x (by simp [hx])) hsu t ht
      refine ⟨hst,fun x hx => hvisited x ?_⟩
      rcases hx with hx | hx
      · exact .inl (hmono x hx)
      · rcases List.mem_cons.mp hx with rfl | hx
        · exact .inl hvu
        · exact .inr hx
  obtain ⟨hsearch,hvisited⟩ := hrun nodes Tarjan.initial (fun x hx => hx) searching_initial _ rfl
  refine ⟨hsearch.component,fun x hx => (hsearch.covered x).mpr ⟨hvisited x (.inr hx),fun hstack => ?_⟩⟩
  obtain ⟨g,hg,-⟩ := hsearch.to_open x hstack
  cases hg

end

example : components (fun n => if n = 1 then [2,3] else if n = 2 then [1] else []) [1,2,3] = [[3],[1,2]] := by
  decide

end Diverge.Graph
