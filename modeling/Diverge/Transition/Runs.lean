import Mathlib.Data.List.Basic

/-! Runs of a machine with deterministic steps: what every step of a run meets, what a run keeps,
and runs that follow those of another machine. -/
namespace Diverge.Transition

variable {S T A : Type} {step : S → A → S}

def run (step : S → A → S) (s : S) (as : List A) : S := as.foldl step s

@[simp] lemma run_nil (s : S) : run step s [] = s := rfl

@[simp] lemma run_cons (s : S) (a : A) (as : List A) : run step s (a :: as) = run step (step s a) as := rfl

@[simp] lemma run_append (s : S) (as bs : List A) :
    run step s (as ++ bs) = run step (run step s as) bs := List.foldl_append

variable {P : S → Prop} {s : S} {as : List A} {C : S → A → Prop}

/-- What every step keeps, a run keeps. -/
theorem run_invariant (hstep : ∀ s a, P s → P (step s a)) (h : P s)
    (as : List A) : P (run step s as) := by
  induction as generalizing s with
  | nil => exact h
  | cons a as ih => exact ih (hstep s a h)

/-- Every action of a run meets a condition in the state it is taken in. -/
def EveryStep (step : S → A → S) (C : S → A → Prop) : S → List A → Prop
  | _,[] => True
  | s,a :: as => C s a ∧ EveryStep step C (step s a) as

instance decidableEveryStep {C : S → A → Prop} [∀ s a, Decidable (C s a)] :
    ∀ (s : S) (as : List A), Decidable (EveryStep step C s as)
  | _,[] => .isTrue trivial
  | s,a :: as => @instDecidableAnd _ _ _ (decidableEveryStep (step s a) as)

lemma everyStep_congr {C D : S → A → Prop} (h : ∀ s a, C s a ↔ D s a) (s : S) (as : List A) :
    EveryStep step C s as ↔ EveryStep step D s as := by
  induction as generalizing s with
  | nil => exact Iff.rfl
  | cons a as ih => exact and_congr (h s a) (ih _)

lemma everyStep_iff_forall {C : A → Prop} {s : S} {as : List A} :
    EveryStep step (fun _ => C) s as ↔ ∀ a ∈ as, C a := by
  induction as generalizing s with
  | nil => simp [EveryStep]
  | cons a as ih => rw [EveryStep,ih,List.forall_mem_cons]

lemma everyStep_of_forall {C : A → Prop} (h : ∀ a ∈ as, C a) (s : S) :
    EveryStep step (fun _ => C) s as := everyStep_iff_forall.mpr h

lemma everyStep_of_reached :
    ∀ {s : S}, (∀ pre a, pre ++ [a] <+: as → C (run step s pre) a) → EveryStep step C s as := by
  induction as with
  | nil => exact fun _ => trivial
  | cons a as ih =>
    intro s h
    refine ⟨h [] a (List.cons_prefix_cons.mpr ⟨rfl,List.nil_prefix⟩),ih fun pre b hpre => ?_⟩
    exact h (a :: pre) b (List.cons_prefix_cons.mpr ⟨rfl,hpre⟩)

lemma EveryStep.reached :
    ∀ {s : S}, EveryStep step C s as → ∀ pre a, pre ++ [a] <+: as → C (run step s pre) a := by
  induction as with
  | nil => exact fun _ pre a hpre => absurd (List.prefix_nil.mp hpre) (by simp)
  | cons b as ih =>
    intro s h pre a hpre
    cases pre with
    | nil =>
      obtain ⟨rfl,-⟩ := List.cons_prefix_cons.mp hpre
      exact h.1
    | cons c pre =>
      obtain ⟨rfl,htail⟩ := List.cons_prefix_cons.mp hpre
      exact ih h.2 pre a htail

lemma EveryStep.and {C D : S → A → Prop} : ∀ {s : S}, EveryStep step C s as → EveryStep step D s as →
      EveryStep step (fun s a => C s a ∧ D s a) s as := by
  induction as with
  | nil => exact fun _ _ => trivial
  | cons a as ih => exact fun hC hD => ⟨⟨hC.1,hD.1⟩,ih hC.2 hD.2⟩

/-- What every step of the run keeps holds in every state reached. -/
theorem EveryStep.reaches (hstep : ∀ s a, C s a → P s → P (step s a)) :
    ∀ {s : S}, EveryStep step C s as → P s → ∀ pre, pre <+: as → P (run step s pre) := by
  induction as with
  | nil =>
    intro s _ hP pre hpre
    rw [List.prefix_nil.mp hpre]
    exact hP
  | cons a as ih =>
    intro s hC hP pre hpre
    cases pre with
    | nil => exact hP
    | cons b pre =>
      obtain ⟨rfl,htail⟩ := List.cons_prefix_cons.mp hpre
      exact ih hC.2 (hstep s b hC.1 hP) pre htail

/-- A property that a step keeps exactly under a condition holds in every state reached exactly when
every step meets it. -/
theorem reaches_iff_everyStep (hstep : ∀ s a, P s → (P (step s a) ↔ C s a)) {as : List A} :
    ∀ {s : S}, P s → ((∀ pre, pre <+: as → P (run step s pre)) ↔ EveryStep step C s as) := by
  induction as with
  | nil =>
    intro s hP
    refine ⟨fun _ => trivial,fun _ pre hpre => ?_⟩
    rw [List.prefix_nil.mp hpre]
    exact hP
  | cons a as ih =>
    intro s hP
    constructor
    · intro h
      have hnext : P (step s a) := h [a] (List.cons_prefix_cons.mpr ⟨rfl,List.nil_prefix⟩)
      refine ⟨(hstep s a hP).mp hnext,(ih hnext).mp fun pre hpre => ?_⟩
      exact h (a :: pre) (List.cons_prefix_cons.mpr ⟨rfl,hpre⟩)
    · exact fun h => h.reaches (fun s a hC hP => (hstep s a hP).mpr hC) hP

/-- Within a domain of steps, a property that an invariant implies, and that fails after a step that
misses the condition which keeps the invariant, holds in every state reached exactly when every step
meets the condition. -/
theorem reaches_iff_within {C D : S → A → Prop} {I P : S → Prop}
    (hkeep : ∀ s a, D s a → C s a → I s → I (step s a)) (hprop : ∀ s, I s → P s)
    (hfail : ∀ s a, D s a → I s → ¬C s a → ¬P (step s a)) : ∀ {s : S}, EveryStep step D s as → I s →
      ((∀ pre, pre <+: as → P (run step s pre)) ↔ EveryStep step C s as) := by
  intro s hD hI
  constructor
  · intro h
    induction as generalizing s with
    | nil => trivial
    | cons a as ih =>
      have hC : C s a := by
        by_contra hC
        exact hfail s a hD.1 hI hC (h [a] (List.cons_prefix_cons.mpr ⟨rfl,List.nil_prefix⟩))
      refine ⟨hC,ih hD.2 (hkeep s a hD.1 hC hI) fun pre hpre => ?_⟩
      exact h (a :: pre) (List.cons_prefix_cons.mpr ⟨rfl,hpre⟩)
  · intro h pre hpre
    exact hprop _ ((hD.and h).reaches (fun s a hDC hI => hkeep s a hDC.1 hDC.2 hI) hI pre hpre)

theorem reaches_iff_of_invariant {I P : S → Prop}
    (hkeep : ∀ s a, C s a → I s → I (step s a)) (hprop : ∀ s, I s → P s)
    (hfail : ∀ s a, I s → ¬C s a → ¬P (step s a)) (hI : I s) :
    (∀ pre, pre <+: as → P (run step s pre)) ↔ EveryStep step C s as :=
  reaches_iff_within (fun s a _ => hkeep s a) hprop (fun s a _ => hfail s a)
    (everyStep_of_forall (C := fun _ => True) (fun _ _ => trivial) s) hI

/-- Related states stay related when each action is followed by its abstract counterpart. -/
theorem run_simulates {abstractStep : T → A → T} {R : S → T → Prop} {ok : A → Prop}
    (hstep : ∀ s t a, ok a → R s t → R (step s a) (abstractStep t a)) :
    ∀ {as : List A} {s : S} {t : T}, (∀ a ∈ as, ok a) → R s t →
      R (run step s as) (run abstractStep t as) := by
  intro as
  induction as with
  | nil => exact fun _ h => h
  | cons a as ih =>
    intro s t hok h
    exact ih (fun b hb => hok b (by simp [hb])) (hstep s t a (hok a (by simp)) h)

end Diverge.Transition
