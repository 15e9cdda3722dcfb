import Mathlib.Data.List.Perm.Basic
import Mathlib.Order.Lattice

/-! The least value of a list, as a loop finds it that keeps the best one so far. -/
namespace Diverge.Order

variable {α : Type} [LinearOrder α]

/-- The least of the values, and nothing where there are none. -/
def Least (xs : List α) : Option α → Prop
  | none => xs = []
  | some m => m ∈ xs ∧ ∀ x ∈ xs, m ≤ x

/-- The value takes the place of the best one so far if it is below it. -/
def lower (best : Option α) (x : α) : Option α := if best.all (fun m => decide (x < m)) then some x else best

variable {xs : List α} {m n : Option α}

lemma Least.concat {best : Option α} (h : Least xs best) (x : α) : Least (xs ++ [x]) (lower best x) := by
  cases best with
  | none =>
    have hnil : xs = [] := h
    subst hnil
    exact ⟨by simp,by simp⟩
  | some m =>
    obtain ⟨hmem,hle⟩ := h
    by_cases hlt : x < m
    · rw [lower,if_pos (by simpa using hlt)]
      refine ⟨by simp,fun y hy => ?_⟩
      rcases List.mem_append.mp hy with hy | hy
      · exact hlt.le.trans (hle y hy)
      · rw [List.mem_singleton.mp hy]
    · rw [lower,if_neg (by simpa using hlt)]
      refine ⟨List.mem_append_left _ hmem,fun y hy => ?_⟩
      rcases List.mem_append.mp hy with hy | hy
      · exact hle y hy
      · rw [List.mem_singleton.mp hy]
        exact not_lt.mp hlt

lemma Least.unique {xs ys : List α} (hperm : xs.Perm ys) (h : Least xs m) (h' : Least ys n) : m = n := by
  cases m with
  | none =>
    cases n with
    | none => rfl
    | some y =>
      have hnil : xs = [] := h
      rw [hnil] at hperm
      rw [hperm.symm.eq_nil] at h'
      cases h'.1
  | some x =>
    cases n with
    | none =>
      have hnil : ys = [] := h'
      rw [hnil] at hperm
      rw [hperm.eq_nil] at h
      cases h.1
    | some y => exact congrArg some (le_antisymm (h.2 y (hperm.mem_iff.mpr h'.1)) (h'.2 x (hperm.mem_iff.mp h.1)))

def NotRaised (before after : Option α) : Prop := ∀ m ∈ before, ∃ n ∈ after, n ≤ m

lemma Least.notRaised {ys : List α} (hsub : ∀ x ∈ m, x ∈ ys) (h' : Least ys n) : NotRaised m n := by
  intro x hx
  have hmem := hsub x hx
  cases n with
  | none =>
    have hnil : ys = [] := h'
    rw [hnil] at hmem
    cases hmem
  | some y => exact ⟨y,rfl,h'.2 x hmem⟩

lemma Least.mem {m : Option α} (h : Least xs m) {x : α} (hx : x ∈ m) : x ∈ xs := by
  cases hx
  exact h.1

end Diverge.Order
