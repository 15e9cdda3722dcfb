import Diverge.Tasks.Meter

/-! The task service: pausing and resuming a task by its spec, and other edits of it by users.
Requests stand here after their validation by name and their authorization. -/
namespace Diverge.Tasks
open Text Kube

def pauseTask : Call Unit AgentTask ApiError AgentTask :=
  modifyObject fun task => { task with spec := { task.spec with suspended := true } }

def normalizeBudgetBumpString (raw : String) : String :=
  let s := trimSpace (trimPrefix (trimSpace raw) "+")
  trimSpace (trimPrefix (trimPrefix s "$") "+")

structure ResumeTaskRequest where
  budgetUsdBump : String := ""
  budgetTokensBump : ℤ := 0

inductive ServiceError
  | invalidArgument (message : String)
  | api (e : ApiError)
  deriving DecidableEq

/-- A finite amount written in a text. -/
def readAmount (s : String) : Option ℚ :=
  match parseFloat s with
  | some (.finite q) => some q
  | _ => none

def readBump (req : ResumeTaskRequest) : Except ServiceError (Option ℚ) :=
  let cleanBump := normalizeBudgetBumpString req.budgetUsdBump
  if req.budgetTokensBump < 0 then
    .error (.invalidArgument "budget_tokens_bump must be non-negative")
  else if cleanBump = "" then
    if trimSpace req.budgetUsdBump = "" then .ok none
    else .error (.invalidArgument "budget_usd_bump must be a positive number")
  else
    match (readAmount cleanBump).filter (0 < ·) with
    | some bump => .ok (some bump)
    | none => .error (.invalidArgument "budget_usd_bump must be a positive number")

def resumedSpec (m : Rounding) (bumpUSD : Option ℚ) (bumpTokens : ℤ) (task : AgentTask) :
    AgentTaskSpec :=
  { task.spec with
    suspended := false
    budgetUSD :=
      match bumpUSD with
      | some bump =>
        formatFixed m 2 ((readAmount (normalizeBudgetBumpString task.spec.budgetUSD)).getD 0 + bump)
      | none => task.spec.budgetUSD
    budgetTokens :=
      if 0 < bumpTokens then int64 (task.spec.budgetTokens + bumpTokens) else task.spec.budgetTokens
    maxIterations :=
      if 0 < task.spec.maxIterations ∧ task.spec.maxIterations ≤ task.status.iteration then
        int32 (task.status.iteration + 5)
      else task.spec.maxIterations }

/-- The message and the request ids of a resumed task are dropped. -/
def clearAttempt : Call Unit AgentTask ApiError AgentTask := fun c =>
  match get () c with
  | (.error e,c) => (.error e,c)
  | (.ok latest,c) =>
    if latest.status.message = "" ∧ latest.status.lastMeterRequestIDs = [] then (.ok latest,c)
    else
      updateTaskStatus
        { latest with status := { latest.status with message := "", lastMeterRequestIDs := [] } } c

def resumeTask (m : Rounding) (req : ResumeTaskRequest) :
    Call Unit AgentTask ServiceError AgentTask := fun c =>
  match readBump req with
  | .error e => (.error e,c)
  | .ok bumpUSD =>
    match modifyObject (fun task =>
        { task with spec := resumedSpec m bumpUSD req.budgetTokensBump task }) c with
    | (.error e,c) => (.error (.api e),c)
    | (.ok updated,c) =>
      if updated.status.message = "" ∧ updated.status.lastMeterRequestIDs = [] then (.ok updated,c)
      else
        match retryOnConflict (· == .conflict) clearAttempt defaultRetries c with
        | (.error e,c) => (.error (.api e),c)
        | (.ok latest,c) => (.ok latest,c)

def editSpec (f : AgentTaskSpec → AgentTaskSpec) : Call Unit AgentTask ApiError AgentTask :=
  modifyObject fun task => { task with spec := f task.spec }

/-- A deletion waits for the finalizers. -/
def deleteTask : Call Unit AgentTask ApiError Unit := fun c =>
  match c.objects () with
  | none => (.error .notFound,c)
  | some task =>
    if task.finalizers = [] then delete () c
    else
      match edit () (fun stored => { stored with deleting := true }) c with
      | (.error e,c) => (.error e,c)
      | (.ok _,c) => (.ok (),c)

end Diverge.Tasks
