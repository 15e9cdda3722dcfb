import Diverge.Kube.FieldErrors
import Diverge.Tasks.Types
import Diverge.Text.Amounts

/-! The admission check of agent tasks. -/
namespace Diverge.Tasks
open Text Kube

def blockedNamespaces : List String := ["kube-system","kube-public","kube-node-lease","istio-system"]

def isValidRepoURL (u : String) : Bool :=
  hasPrefix u "https://" || hasPrefix u "http://" || hasPrefix u "ssh://" || hasPrefix u "git@"

/-- The errors of a repository address; the address is judged without the space around it. -/
def validateRepoURL (url : String) : List FieldError :=
  if trimSpace url = "" then [.required "spec.repository.url" "repository URL is required"]
  else errorIf (!isValidRepoURL (trimSpace url))
    (.invalid "spec.repository.url" url "must start with https://, http://, ssh://, or git@")

/-- A budget that is finite and positive. -/
def isPositiveAmount (budgetUSD : String) : Bool :=
  match parseFloat budgetUSD with
  | some (.finite q) => decide (0 < q)
  | _ => false

def nonNegative (field : String) (value : ℤ) : List FieldError :=
  errorIf (decide (value < 0)) (.invalid field (formatInt value) "must be non-negative")

/-- `ValidateAgentTask`; `quote` is the format `%q`. -/
def validateAgentTask (quote : String → String) (task : AgentTask) : List FieldError :=
  errorIf (decide (task.ns ∈ blockedNamespaces))
    (.forbidden "metadata.namespace" ("namespace " ++ quote task.ns ++ " is blocked for agent tasks")) ++
  errorIf (decide (trimSpace task.spec.objective = ""))
    (.required "spec.objective" "objective is required") ++
  validateRepoURL task.spec.repositoryURL ++
  errorIf (decide (task.spec.budgetUSD ≠ "") && !isPositiveAmount task.spec.budgetUSD)
    (.invalid "spec.budgetUSD" task.spec.budgetUSD "must be a positive decimal amount (e.g. \"5.00\")") ++
  nonNegative "spec.budgetTokens" task.spec.budgetTokens ++
  nonNegative "spec.maxIterations" task.spec.maxIterations ++
  nonNegative "spec.sandbox.timeoutSeconds" task.spec.timeoutSeconds

lemma budgets_of_admitted {quote : String → String} {task : AgentTask} (h : validateAgentTask quote task = []) :
    0 ≤ task.spec.budgetTokens ∧
      (task.spec.budgetUSD = "" ∨ ∃ q, parseFloat task.spec.budgetUSD = some (.finite q) ∧ 0 < q) := by
  simp only [validateAgentTask,List.append_eq_nil_iff,nonNegative,errorIf_eq_nil,decide_eq_false_iff_not,
    not_lt] at h
  obtain ⟨⟨⟨⟨-,hbudget⟩,htokens⟩,-⟩,-⟩ := h
  refine ⟨htokens,or_iff_not_imp_left.mpr fun hne => ?_⟩
  simp only [hne,ne_eq,not_false_eq_true,decide_true,Bool.true_and,Bool.not_eq_false'] at hbudget
  unfold isPositiveAmount at hbudget
  split at hbudget
  · rename_i q hq
    exact ⟨q,hq,of_decide_eq_true hbudget⟩
  · cases hbudget

end Diverge.Tasks
