import Diverge.Environments.Calls
import Diverge.Transition.Pending

/-! Histories of one environment: edits of its spec and annotations, its deletion and reconciles
with any answers, and the provider calls that succeeded along the way. -/
namespace Diverge.Environments
open Transition

section

/-- The stored object and the provider calls that have succeeded. -/
structure Ledger where
  stored : Option Environment
  calls : List ProviderCall := []

inductive LedgerAction
  | edit (annotations : List (String × String)) (spec : EnvironmentSpec)
  | delete (now : ℤ)
  | reconcile (ans : Answers) (tans : TeardownAnswers)

def Environment.remaining (env : Environment) : Option Environment :=
  if env.deleting = true ∧ env.finalizers = [] then none else some env

variable (op : Operator)

def Ledger.step (s : Ledger) (a : LedgerAction) : Ledger :=
  match s.stored,a with
  | none,_ => s
  | some env,.edit annotations spec =>
    { s with stored := some { env with annotations := annotations, spec := spec } }
  | some env,.delete now => { s with stored := requestDeletion now env }
  | some env,.reconcile ans tans =>
    let r := reconcile op ans tans env
    ⟨(r.2.stored ans env).remaining,s.calls ++ r.1⟩

end

section

/-- What the providers of routes and features hold. -/
inductive Resource
  | async (protocol target : String)
  | features (provider : String)
  deriving DecidableEq

def Resource.provisionedBy : Resource → ProviderCall → Bool
  | .async p t,.provisionAsync p' t' => p == p' && t == t'
  | .features f,.provisionFeatures f' _ => f == f'
  | _,_ => false

def Resource.tornDownBy : Resource → ProviderCall → Bool
  | .async p t,.teardownAsync p' t' => p == p' && t == t'
  | .features f,.teardownFeatures f' => f == f'
  | _,_ => false

def Resource.forgotten (calls : List ProviderCall) (k : Resource) : Bool :=
  pending k.provisionedBy k.tornDownBy calls

/-- The last teardown knows a resource from the spec it reads. -/
def Resource.Known (op : Operator) (tans : TeardownAnswers) (env : Environment) : Resource → Prop
  | .async p t => op.asyncProvisioner = true ∧
      ∃ route ∈ env.spec.routing.asyncRoutes, route.protocol = p ∧ route.target = t
  | .features f => getFeatureProvider op env tans.createFeatures = .ok f

variable {op : Operator} {tans : TeardownAnswers} {env : Environment}

lemma teardownCall_not_provisions {c : ProviderCall} (h : TeardownCall op tans env c)
    (k : Resource) : k.provisionedBy c = false := by
  rcases h with ⟨-,route,-,rfl⟩ | ⟨choice,-,-,rfl⟩ | ⟨provider,-,rfl⟩ <;> cases k <;> rfl

lemma released_tearsDown_iff (h : (handleTeardown op tans env).2 = .released []) (k : Resource) :
    (handleTeardown op tans env).1.any k.tornDownBy = true ↔ k.Known op tans env := by
  simp only [List.any_eq_true,mem_released_calls h]
  constructor
  · rintro ⟨c,⟨hop,route,hroute,rfl⟩ | ⟨choice,-,-,rfl⟩ | ⟨provider,hget,rfl⟩,hc⟩
    · cases k with
      | async p t =>
        simp only [Resource.tornDownBy,Bool.and_eq_true,beq_iff_eq] at hc
        exact ⟨hop,route,hroute,hc.1.symm,hc.2.symm⟩
      | features f => cases hc
    · cases k <;> cases hc
    · cases k with
      | async p t => cases hc
      | features f =>
        simp only [Resource.tornDownBy,beq_iff_eq] at hc
        rw [← hc] at hget
        exact hget
  · intro hknown
    cases k with
    | async p t =>
      obtain ⟨hop,route,hroute,rfl,rfl⟩ := hknown
      exact ⟨_,.inl ⟨hop,route,hroute,rfl⟩,by simp [Resource.tornDownBy]⟩
    | features f => exact ⟨_,.inr (.inr ⟨f,hknown,rfl⟩),by simp [Resource.tornDownBy]⟩

/-- When the finalizer is removed without a bypass, nothing provisioned is forgotten exactly when
the last teardown knows everything that was still provisioned from the spec it reads. -/
theorem nothing_forgotten_iff (op : Operator) (created : Environment) (history : List LedgerAction)
    (ans : Answers) (tans : TeardownAnswers) (env : Environment)
    (hstored : (run (Ledger.step op) ⟨some created,[]⟩ history).stored = some env)
    (hdeleting : env.deleting = true) (hreleased : (handleTeardown op tans env).2 = .released []) :
    (∀ k : Resource, k.forgotten
      (run (Ledger.step op) ⟨some created,[]⟩ (history ++ [.reconcile ans tans])).calls = false) ↔
    ∀ k : Resource, k.forgotten (run (Ledger.step op) ⟨some created,[]⟩ history).calls = true →
      k.Known op tans env := by
  have hcalls : (run (Ledger.step op) ⟨some created,[]⟩ (history ++ [.reconcile ans tans])).calls =
      (run (Ledger.step op) ⟨some created,[]⟩ history).calls ++ (handleTeardown op tans env).1 := by
    rw [run_append,run_cons,run_nil]
    simp only [Ledger.step,hstored,reconcile,hdeleting,if_true]
  rw [hcalls]
  refine forall_congr' fun k => ?_
  have hnew : pending k.provisionedBy k.tornDownBy (handleTeardown op tans env).1 = false :=
    pending_eq_false _ _ _ fun c hc => teardownCall_not_provisions (mem_handleTeardown_calls hc) k
  rw [← released_tearsDown_iff hreleased,Resource.forgotten,pending_append,hnew,Resource.forgotten]
  cases pending k.provisionedBy k.tornDownBy (run (Ledger.step op) ⟨some created,[]⟩ history).calls <;>
    cases (handleTeardown op tans env).1.any k.tornDownBy <;> simp

end

def asyncOperator : Operator := { plainOperator with asyncProvisioner := true }

def routed : Environment where
  name := "preview"
  ns := "team"
  finalizers := [environmentFinalizer]
  spec := { routing := { asyncRoutes := [{ protocol := "kafka", target := "orders" }] } }

def provisionedThenDeleted : List LedgerAction := [.reconcile { now := 0 } { now := 0 },.delete 0]

def removedThenDeleted : List LedgerAction :=
  [.reconcile { now := 0 } { now := 0 },.edit [] {},.delete 0]

def routedAfter (history : List LedgerAction) : Environment :=
  (run (Ledger.step asyncOperator) ⟨some routed,[]⟩ history).stored.getD routed

theorem route_not_forgotten :
    (handleTeardown asyncOperator { now := 0 } (routedAfter provisionedThenDeleted)).2 =
      .released [] ∧
    ∀ k : Resource, k.forgotten (run (Ledger.step asyncOperator) ⟨some routed,[]⟩
      (provisionedThenDeleted ++ [.reconcile { now := 0 } { now := 0 }])).calls = false := by
  have hreleased : (handleTeardown asyncOperator { now := 0 }
      (routedAfter provisionedThenDeleted)).2 = .released [] := by decide +kernel
  refine ⟨hreleased,(nothing_forgotten_iff asyncOperator routed provisionedThenDeleted { now := 0 }
    { now := 0 } (routedAfter provisionedThenDeleted) (by decide +kernel) (by decide +kernel)
    hreleased).mpr fun k hk => ?_⟩
  have hcalls : (run (Ledger.step asyncOperator) ⟨some routed,[]⟩ provisionedThenDeleted).calls =
      [.provisionAsync "kafka" "orders"] := by decide +kernel
  rw [hcalls] at hk
  cases k with
  | async p t =>
    simp only [Resource.forgotten,pending,Resource.provisionedBy,List.any_nil,Bool.not_false,
      Bool.and_true,Bool.or_false,Bool.and_eq_true,beq_iff_eq] at hk
    obtain ⟨rfl,rfl⟩ := hk
    exact ⟨rfl,{ protocol := "kafka", target := "orders" },by decide +kernel,rfl,rfl⟩
  | features f => cases hk

/-- A route that was removed from the spec is still provisioned when its environment is gone. -/
theorem removed_route_forgotten :
    (handleTeardown asyncOperator { now := 0 } (routedAfter removedThenDeleted)).2 =
      .released [] ∧
    (run (Ledger.step asyncOperator) ⟨some routed,[]⟩
      (removedThenDeleted ++ [.reconcile { now := 0 } { now := 0 }])).stored = none ∧
    (Resource.async "kafka" "orders").forgotten (run (Ledger.step asyncOperator) ⟨some routed,[]⟩
      (removedThenDeleted ++ [.reconcile { now := 0 } { now := 0 }])).calls = true := by
  decide +kernel

end Diverge.Environments
