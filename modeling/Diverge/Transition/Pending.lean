import Mathlib.Data.List.Basic

/-! Logs in which an entry stays open until a later one closes it. -/
namespace Diverge.Transition

variable {E : Type} (opens closes : E → Bool)

/-- Some entry that opens is not followed by one that closes. -/
def pending : List E → Bool
  | [] => false
  | e :: rest => (opens e && !rest.any closes) || pending rest

lemma pending_append (log later : List E) : pending opens closes (log ++ later) =
      (pending opens closes later || (pending opens closes log && !later.any closes)) := by
  induction log with
  | nil => simp [pending]
  | cons e log ih =>
    rw [List.cons_append,pending,pending,ih,List.any_append]
    cases opens e <;> cases log.any closes <;> cases later.any closes <;>
      cases pending opens closes later <;> simp

lemma pending_eq_false (log : List E) (h : ∀ e ∈ log, opens e = false) :
    pending opens closes log = false := by
  induction log with
  | nil => rfl
  | cons e log ih => rw [pending,h e (by simp),ih fun d hd => h d (by simp [hd])]; rfl

end Diverge.Transition
