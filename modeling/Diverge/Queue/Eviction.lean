import Mathlib

/-! Queues that are evicted from the front until the rest fits, and the members that stay when
the queue is ordered by a key. -/
namespace Diverge.Queue

section
variable {α : Type} {fits : List α → Bool}

/-- The members that go and the rest that stays; `none` when not even the empty rest fits. -/
def evict (fits : List α → Bool) : List α → Option (List α × List α)
  | [] => if fits [] then some ([],[]) else none
  | x :: xs =>
    if fits (x :: xs) then some ([],x :: xs)
    else (evict fits xs).map fun r => (x :: r.1,r.2)

variable {xs : List α}

lemma evict_of_fits (h : fits xs = true) : evict fits xs = some ([],xs) := by
  cases xs with
  | nil | cons x xs => rw [evict,if_pos h]

/-- Who goes stood in front of who stays, and the rest fits. -/
theorem evict_spec :
    ∀ {r : List α × List α}, evict fits xs = some r → xs = r.1 ++ r.2 ∧ fits r.2 = true := by
  induction xs with
  | nil =>
    intro r h
    rw [evict] at h
    split_ifs at h with hf
    cases h
    exact ⟨rfl,hf⟩
  | cons x xs ih =>
    intro r h
    rw [evict] at h
    split_ifs at h with hf
    · cases h
      exact ⟨rfl,hf⟩
    · obtain ⟨q,hq,rfl⟩ := Option.map_eq_some_iff.mp h
      obtain ⟨happ,hfits⟩ := ih hq
      exact ⟨by rw [List.cons_append,← happ],hfits⟩

/-- Nobody goes who could have stayed. -/
theorem evict_minimal :
    ∀ {r : List α × List α}, evict fits xs = some r → ∀ k < r.1.length, fits (xs.drop k) = false := by
  induction xs with
  | nil =>
    intro r h k hk
    rw [evict] at h
    split_ifs at h
    cases h
    exact absurd hk (Nat.not_lt_zero k)
  | cons x xs ih =>
    intro r h k hk
    rw [evict] at h
    split_ifs at h with hf
    · cases h
      exact absurd hk (Nat.not_lt_zero k)
    · obtain ⟨q,hq,rfl⟩ := Option.map_eq_some_iff.mp h
      cases k with
      | zero => exact (Bool.not_eq_true _).mp hf
      | succ k => exact ih hq k (Nat.lt_of_succ_lt_succ hk)

theorem evict_eq_none : evict fits xs = none ↔ ∀ rest, rest <:+ xs → fits rest = false := by
  induction xs with
  | nil =>
    rw [evict]
    split_ifs with hf
    · exact ⟨nofun,fun h => absurd (h [] List.suffix_rfl) (by simp [hf])⟩
    · refine ⟨fun _ rest hrest => ?_,fun _ => rfl⟩
      rw [List.suffix_nil.mp hrest]
      simpa using hf
  | cons x xs ih =>
    rw [evict]
    split_ifs with hf
    · exact ⟨nofun,fun h => absurd (h _ List.suffix_rfl) (by simp [hf])⟩
    · rw [Option.map_eq_none_iff,ih]
      constructor
      · intro h rest hrest
        rcases List.suffix_cons_iff.mp hrest with rfl | hrest
        · simpa using hf
        · exact h rest hrest
      · exact fun h rest hrest => h rest (hrest.trans (List.suffix_cons x xs))

/-- Where only the length matters, the surplus goes. -/
theorem evict_of_length {m : ℕ} (h : ∀ rest, rest <:+ xs → (fits rest = true ↔ rest.length ≤ m)) :
    evict fits xs = some (xs.take (xs.length - m),xs.drop (xs.length - m)) := by
  induction xs with
  | nil =>
    rw [evict_of_fits ((h [] List.suffix_rfl).mpr (Nat.zero_le m))]
    simp
  | cons x xs ih =>
    by_cases hm : (x :: xs).length ≤ m
    · rw [evict_of_fits ((h _ List.suffix_rfl).mpr hm),Nat.sub_eq_zero_of_le hm]
      rfl
    · have hf : ¬ fits (x :: xs) = true := fun hf => hm ((h _ List.suffix_rfl).mp hf)
      have hlen : (x :: xs).length - m = xs.length - m + 1 := by
        rw [List.length_cons] at hm ⊢
        omega
      rw [evict,if_neg hf,ih fun rest hrest => h rest (hrest.trans (List.suffix_cons x xs)),hlen]
      rfl

end

lemma countP_lt_countP {α : Type} {p r : α → Bool} {xs : List α} (hpr : ∀ x, p x = true → r x = true)
    {x : α} (hx : x ∈ xs) (hp : p x = false) (hr : r x = true) : xs.countP p < xs.countP r := by
  induction xs with
  | nil => exact absurd hx List.not_mem_nil
  | cons y ys ih =>
    have hle := List.countP_mono_left fun z (_ : z ∈ ys) => hpr z
    rcases List.mem_cons.mp hx with rfl | hx
    · rw [List.countP_cons_of_neg (by simp [hp]),List.countP_cons_of_pos hr]
      omega
    · have hlt := ih hx
      rw [List.countP_cons,List.countP_cons]
      by_cases hy : p y = true
      · simp only [hy,hpr y hy,if_true]
        omega
      · simp only [hy,if_false,Bool.false_eq_true]
        omega

variable {α β : Type} [LinearOrder β] (key : α → β)

/-- In a queue ordered by key, the last members are those with the fewest greater keys. -/
theorem mem_drop_iff_countP {xs : List α} (hsorted : xs.Pairwise fun x y => key x < key y) {x : α}
    (hx : x ∈ xs) : ∀ k, x ∈ xs.drop k ↔ xs.countP (fun y => key x < key y) < xs.length - k := by
  induction xs with
  | nil => exact absurd hx List.not_mem_nil
  | cons y ys ih =>
    intro k
    obtain ⟨hy,hys⟩ := List.pairwise_cons.mp hsorted
    rcases List.mem_cons.mp hx with rfl | hxs
    · have hcount : (x :: ys).countP (fun z => key x < key z) = ys.length := by
        rw [List.countP_cons_of_neg (by simp),List.countP_eq_length]
        exact fun z hz => decide_eq_true (hy z hz)
      rw [hcount,List.length_cons]
      cases k with
      | zero => simp
      | succ k =>
        refine ⟨fun hd => absurd (hy x (List.mem_of_mem_drop hd)) (lt_irrefl _),fun hlt => ?_⟩
        omega
    · have hneg : ¬ key x < key y := not_lt.mpr (le_of_lt (hy x hxs))
      rw [List.countP_cons_of_neg (by simpa using hneg),List.length_cons]
      cases k with
      | zero =>
        have hle := List.countP_le_length (p := fun y => decide (key x < key y)) (l := ys)
        simp only [List.drop_zero,hx,true_iff]
        omega
      | succ k => rw [List.drop_succ_cons,ih hys hxs k,Nat.add_sub_add_right]

end Diverge.Queue
