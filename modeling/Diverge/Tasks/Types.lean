import Diverge.Text.Numbers
import Diverge.Kube.Cluster

/-! Agent tasks as the API server stores them, and the calls that change them. Times are in
nanoseconds since the Unix epoch. -/
namespace Diverge.Tasks
open Kube

/-- `AgentTaskPhase`; `unset` is the empty phase of a new object. -/
inductive Phase
  | unset
  | pending
  | provisioning
  | active
  | pausing
  | paused
  | completed
  | failed
  deriving DecidableEq

def Phase.isTerminal : Phase → Bool
  | .completed | .failed => true
  | _ => false

structure Condition where
  kind : String
  status : String
  reason : String
  message : String
  deriving DecidableEq

structure AgentTaskSpec where
  objective : String := ""
  repositoryURL : String := ""
  baseBranch : String := ""
  sandboxProvider : String := ""
  timeoutSeconds : ℤ := 0
  budgetUSD : String := ""
  budgetTokens : ℤ := 0
  maxIterations : ℤ := 0
  capabilities : List String := []
  suspended : Bool := false
  deriving DecidableEq

structure AgentTaskStatus where
  phase : Phase := .unset
  sandboxClaimRef : String := ""
  sandboxPodName : String := ""
  sandboxIP : String := ""
  iteration : ℤ := 0
  prURL : String := ""
  costUSD : String := ""
  tokensConsumed : ℤ := 0
  message : String := ""
  conditions : List Condition := []
  lastMeterRequestIDs : List String := []
  deriving DecidableEq

structure AgentTask where
  name : String
  ns : String
  annotations : List (String × String) := []
  finalizers : List String := []
  deleting : Bool := false
  creationTimestamp : ℤ := 0
  spec : AgentTaskSpec := {}
  status : AgentTaskStatus := {}
  deriving DecidableEq

def zeroTime : ℤ := -62135596800000000000

def second : ℤ := 1000000000

def AgentTask.annotation (t : AgentTask) (key : String) : String := (t.annotations.lookup key).getD ""

/-- An annotation set or deleted. -/
def editAnnotation (annotations : List (String × String)) (edit : String × Option String) :
    List (String × String) :=
  let rest := annotations.filter fun a => a.1 != edit.1
  match edit.2 with
  | some value => rest ++ [(edit.1,value)]
  | none => rest

def setCondition (conditions : List Condition) (c : Condition) : List Condition :=
  if conditions.any fun d => d.kind == c.kind then
    conditions.map fun d => if d.kind = c.kind then c else d
  else conditions ++ [c]

/-- `meta.RemoveStatusCondition`. -/
def removeCondition (conditions : List Condition) (kind : String) : List Condition :=
  conditions.filter fun d => d.kind != kind

abbrev Cell := Cluster Unit AgentTask

def writeStatus (status : AgentTaskStatus) : Call Unit AgentTask ApiError AgentTask :=
  edit () fun stored => { stored with status := status }

def writeObject (task : AgentTask) : Call Unit AgentTask ApiError AgentTask :=
  edit () fun stored => { task with status := stored.status }

def writeAnnotations (edits : List (String × Option String)) :
    Call Unit AgentTask ApiError AgentTask :=
  edit () fun stored => { stored with annotations := edits.foldl editAnnotation stored.annotations }

/-- Attempts of `retry.DefaultRetry` after the first. -/
def defaultRetries : ℕ := 4

def modifyAttempt (f : AgentTask → AgentTask) : Call Unit AgentTask ApiError AgentTask := fun c =>
  match get () c with
  | (.error e,c) => (.error e,c)
  | (.ok task,c) => writeObject (f task) c

def modifyObject (f : AgentTask → AgentTask) : Call Unit AgentTask ApiError AgentTask :=
  retryOnConflict (· == .conflict) (modifyAttempt f) defaultRetries

end Diverge.Tasks
