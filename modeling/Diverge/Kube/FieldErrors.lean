import Mathlib.Tactic.Common

/-! The errors of an admission check: each names the field it is about. -/
namespace Diverge.Kube

inductive FieldErrorType
  | required
  | invalid
  | forbidden
  deriving DecidableEq

structure FieldError where
  type : FieldErrorType
  field : String
  badValue : String := ""
  detail : String
  deriving DecidableEq

def FieldError.required (field detail : String) : FieldError := ⟨.required,field,"",detail⟩

def FieldError.invalid (field badValue detail : String) : FieldError := ⟨.invalid,field,badValue,detail⟩

def FieldError.forbidden (field detail : String) : FieldError := ⟨.forbidden,field,"",detail⟩

def errorIf (failed : Bool) (err : FieldError) : List FieldError := if failed then [err] else []

@[simp] lemma errorIf_eq_nil {failed : Bool} {err : FieldError} : errorIf failed err = [] ↔ failed = false := by
  cases failed <;> simp [errorIf]

end Diverge.Kube
