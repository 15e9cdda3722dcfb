import Diverge.Auth.Bearer
import Diverge.Auth.Macaroon
import Diverge.Tasks.System

/-! The metering endpoint: usage is added to the status under optimistic concurrency, and a task
beyond one of its limits is paused, suspended and its token revoked. The amounts are exact; the stored
total is their text with four decimals. -/
namespace Diverge.Tasks
open Text Kube Program TokenStore Auth Hmac

structure LLMMeterRequest where
  requestID : String := ""
  iteration : ℤ := 0
  model : String := ""
  tokensUsed : ℤ := 0
  costUSD : ℚ := 0
  prURL : String := ""
  deriving DecidableEq

structure LLMMeterResponse where
  allowed : Bool := false
  suspended : Bool := false
  reason : String := ""
  totalTokensUsed : ℤ := 0
  totalCostUSD : ℚ := 0
  iteration : ℤ := 0
  maxIterations : ℤ := 0
  guidance : String := ""
  previewURL : String := ""
  prURL : String := ""
  deriving DecidableEq

structure MeterReply where
  code : ℕ
  body : LLMMeterResponse
  deriving DecidableEq

def refuse (code : ℕ) (reason : String) : MeterReply := ⟨code,{ reason := reason }⟩

/-- The stored total; a text that is no finite number counts as nothing spent. -/
def readCost (costUSD : String) : ℚ :=
  match parseFloat costUSD with
  | some (.finite q) => q
  | _ => 0

def alreadyCounted (req : LLMMeterRequest) (status : AgentTaskStatus) : Bool :=
  req.requestID != "" && status.lastMeterRequestIDs.contains req.requestID

def meterWindow : ℕ := 32

def rememberID (ids : List String) (id : String) : List String :=
  if id = "" then ids
  else
    let longer := ids ++ [id]
    if meterWindow < longer.length then longer.drop (longer.length - meterWindow) else longer

/-- The status with the usage of a request added. -/
def countUsage (m : Rounding) (req : LLMMeterRequest) (prURL : String) (status : AgentTaskStatus) :
    AgentTaskStatus :=
  { status with
    tokensConsumed := int64 (status.tokensConsumed + req.tokensUsed)
    costUSD := formatFixed m 4 (readCost status.costUSD + req.costUSD)
    iteration := if status.iteration < req.iteration then req.iteration else status.iteration
    prURL := if prURL ≠ "" then prURL else status.prURL
    lastMeterRequestIDs := rememberID status.lastMeterRequestIDs req.requestID }

/-- A positive budget in the spec. -/
def specBudgetUSD (spec : AgentTaskSpec) : Option Number :=
  if spec.budgetUSD = "" then none
  else (parseFloat spec.budgetUSD).filter fun budget => Number.lt (.finite 0) budget

lemma specBudgetUSD_eq {spec : AgentTaskSpec} {B : ℚ} (hB : parseFloat spec.budgetUSD = some (.finite B))
    (hpos : 0 < B) : specBudgetUSD spec = some (.finite B) := by
  rw [specBudgetUSD,if_neg (ne_empty_of_parseFloat hB),hB]
  simp [Option.filter,Number.lt,hpos]

/-- Whether a total is beyond the budget of the spec or, where it has none, of the token. -/
def usdExceeded (spec : AgentTaskSpec) (claims : Claims) (totalCost : ℚ) : Bool :=
  match specBudgetUSD spec with
  | some budget => budget.lt (.finite totalCost)
  | none => decide (0 < claims.maxCostUSD) && decide (claims.maxCostUSD < totalCost)

def tokensExceeded (spec : AgentTaskSpec) (claims : Claims) (totalTokens : ℤ) : Bool :=
  if 0 < spec.budgetTokens then decide (spec.budgetTokens < totalTokens)
  else decide (0 < claims.maxTokens) && decide (claims.maxTokens < totalTokens)

def iterationsExceeded (spec : AgentTaskSpec) (iteration : ℤ) : Bool :=
  decide (0 < spec.maxIterations) && decide (spec.maxIterations < iteration)

/-- The reason for which a request is refused after it was counted. -/
def exceedReason (spec : AgentTaskSpec) (claims : Claims) (totalCost : ℚ) (totalTokens iteration : ℤ) :
    Option String :=
  if usdExceeded spec claims totalCost || tokensExceeded spec claims totalTokens then
    some "budget exceeded"
  else if iterationsExceeded spec iteration then some "max iterations exceeded"
  else none

/-- The totals that every answer about a loaded task carries. -/
structure MeterTotals where
  cost : ℚ
  tokens : ℤ
  iteration : ℤ
  maxIterations : ℤ
  guidance : String
  previewURL : String
  prURL : String
  deriving DecidableEq

def MeterTotals.reply (v : MeterTotals) (code : ℕ) (allowed suspended : Bool) (reason : String) :
    MeterReply :=
  ⟨code,
    { allowed := allowed, suspended := suspended, reason := reason
      totalTokensUsed := v.tokens, totalCostUSD := v.cost
      iteration := v.iteration, maxIterations := v.maxIterations
      guidance := v.guidance, previewURL := v.previewURL, prURL := v.prURL }⟩

/-- The totals of a task before a request is counted. -/
def loadedTotals (task : AgentTask) : MeterTotals :=
  { cost := readCost task.status.costUSD
    tokens := task.status.tokensConsumed
    iteration := task.status.iteration
    maxIterations := task.spec.maxIterations
    guidance := trimSpace ( task.annotation "divergedev.com/guidance")
    previewURL := trimSpace ( task.annotation "divergedev.com/preview-url")
    prURL := task.status.prURL }

/-- What one attempt decides: the status to write, the totals to answer with, and the reason if
the task is beyond a limit. -/
structure MeterDecision where
  status : AgentTaskStatus
  totals : MeterTotals
  exceeded : Option String
  deriving DecidableEq

inductive MeterFailure
  | load (e : ApiError)
  | taskNotActive (message : String) (totals : MeterTotals)
  | tokensOverflow
  | update (e : ApiError)
  deriving DecidableEq

def MeterFailure.isConflict : MeterFailure → Bool
  | .load .conflict => true
  | .update .conflict => true
  | _ => false

/-- A task that is paused, suspended or over takes no usage. -/
def meterable (task : AgentTask) : Bool :=
  !task.spec.suspended && task.status.phase != .paused && !task.status.phase.isTerminal

/-- The status after a request, which counts at most once while its id is remembered. -/
def meteredStatus (m : Rounding) (req : LLMMeterRequest) (prURL : String) (status : AgentTaskStatus) :
    AgentTaskStatus :=
  if alreadyCounted req status then status else countUsage m req prURL status

/-- The total that the budgets are compared with: the stored one and, unrounded, the new cost. -/
def meteredCost (req : LLMMeterRequest) (status : AgentTaskStatus) : ℚ :=
  readCost status.costUSD + if alreadyCounted req status then 0 else req.costUSD

/-- The status of a task that is beyond a limit. -/
def exceededStatus (status : AgentTaskStatus) (reason : String) : AgentTaskStatus :=
  { status with
    phase := .paused
    message := if reason = "max iterations exceeded" then "Max iterations exceeded"
      else "Budget exceeded" }

def meterDecision (m : Rounding) (claims : Claims) (req : LLMMeterRequest) (prURL : String)
    (task : AgentTask) : MeterDecision :=
  let status := meteredStatus m req prURL task.status
  let cost := meteredCost req task.status
  let exceeded := exceedReason task.spec claims cost status.tokensConsumed status.iteration
  { status := exceeded.elim status (exceededStatus status)
    totals :=
      { loadedTotals task with
        cost := cost, tokens := status.tokensConsumed, iteration := status.iteration
        prURL := status.prURL }
    exceeded := exceeded }

section
variable (m : Rounding) (claims : Claims) (req : LLMMeterRequest) (prURL : String) (task : AgentTask)

lemma meterDecision_status {α : Type} (g : AgentTaskStatus → α)
    (h : ∀ status reason, g (exceededStatus status reason) = g status) :
    g (meterDecision m claims req prURL task).status = g (meteredStatus m req prURL task.status) := by
  unfold meterDecision
  dsimp only
  cases exceedReason _ _ _ _ _ with
  | none => rfl
  | some reason => exact h _ reason

@[simp] lemma meterDecision_costUSD : (meterDecision m claims req prURL task).status.costUSD =
    (meteredStatus m req prURL task.status).costUSD :=
  meterDecision_status m claims req prURL task (·.costUSD) fun _ _ => rfl

@[simp] lemma meterDecision_tokensConsumed : (meterDecision m claims req prURL task).status.tokensConsumed =
      (meteredStatus m req prURL task.status).tokensConsumed :=
  meterDecision_status m claims req prURL task (·.tokensConsumed) fun _ _ => rfl

@[simp] lemma meterDecision_iteration : (meterDecision m claims req prURL task).status.iteration =
    (meteredStatus m req prURL task.status).iteration :=
  meterDecision_status m claims req prURL task (·.iteration) fun _ _ => rfl

@[simp] lemma meterDecision_lastMeterRequestIDs :
    (meterDecision m claims req prURL task).status.lastMeterRequestIDs =
      (meteredStatus m req prURL task.status).lastMeterRequestIDs :=
  meterDecision_status m claims req prURL task (·.lastMeterRequestIDs) fun _ _ => rfl

lemma meteredStatus_phase (status : AgentTaskStatus) :
    (meteredStatus m req prURL status).phase = status.phase := by
  unfold meteredStatus
  split_ifs
  · rfl
  · rfl

variable {m claims req prURL task} in
lemma meterDecision_phase (h : (meterDecision m claims req prURL task).exceeded = none) :
    (meterDecision m claims req prURL task).status.phase = task.status.phase := by
  rw [← meteredStatus_phase m req prURL task.status]
  unfold meterDecision at h ⊢
  dsimp only at h ⊢
  rw [h]
  rfl

end

/-- The body of an attempt between the read and the write. -/
def meterDecide (m : Rounding) (claims : Claims) (req : LLMMeterRequest) (prURL : String)
    (task : AgentTask) : Except MeterFailure MeterDecision :=
  if meterable task = false then .error (.taskNotActive task.status.message (loadedTotals task))
  else if int64 (maxInt64 - task.status.tokensConsumed) < req.tokensUsed then .error .tokensOverflow
  else .ok (meterDecision m claims req prURL task)

/-- `updateTaskStatus`: where the status is not found the object is updated instead. -/
def updateTaskStatus (task : AgentTask) : Call Unit AgentTask ApiError AgentTask := fun c =>
  match writeStatus task.status c with
  | (.error .notFound,c) => writeObject task c
  | r => r

def meterAttempt (m : Rounding) (claims : Claims) (req : LLMMeterRequest) (prURL : String) :
    Call Unit AgentTask MeterFailure MeterDecision := fun c =>
  match get () c with
  | (.error e,c) => (.error (.load e),c)
  | (.ok task,c) =>
    match meterDecide m claims req prURL task with
    | .error e => (.error e,c)
    | .ok d =>
      match updateTaskStatus { task with status := d.status } c with
      | (.error e,c) => (.error (.update e),c)
      | (.ok _,c) => (.ok d,c)

def recordUsage (m : Rounding) (claims : Claims) (req : LLMMeterRequest) (prURL : String) :
    Call Unit AgentTask MeterFailure MeterDecision :=
  retryOnConflict MeterFailure.isConflict (meterAttempt m claims req prURL) defaultRetries

def suspendTask : Call Unit AgentTask ApiError AgentTask :=
  modifyObject fun latest => { latest with spec := { latest.spec with suspended := true } }

def MeterFailure.reply : MeterFailure → MeterReply
  | .taskNotActive message totals =>
    let reason := trimSpace message
    totals.reply 429 false true (if reason = "" then "task is paused or in terminal state" else reason)
  | .tokensOverflow => refuse 400 "tokensUsed overflows accumulated usage"
  | .load .notFound => refuse 404 "agent task not found"
  | .update .notFound => refuse 404 "agent task not found"
  | .load _ => refuse 500 "failed to load agent task"
  | .update _ => refuse 500 "failed to update task status"

lemma MeterFailure.reply_refused (e : MeterFailure) : e.reply.body.allowed = false := by
  rcases e with ⟨⟨⟩⟩ | _ | _ | ⟨⟨⟩⟩ <;> rfl

structure LLMMeterHandler (κ : Type) where
  macaroonVerifier : Option (MacaroonProvider κ)
  /-- The token store, if there is one, and whether it reads the index only. -/
  tokenStore : Option Bool
  crdClient : Bool

structure HTTPRequest where
  method : String
  authorization : String
  /-- The decoded body, if it is one. -/
  body : Option LLMMeterRequest

def extractMeterBearerToken (authHeader : String) : String :=
  match split ' ' authHeader with
  | scheme :: rest@(_ :: _) =>
    if toLower scheme = "bearer" then trimSpace (join " " rest) else ""
  | _ => ""

variable {κ σ : Type} [Scheme κ σ] [DecidableEq σ] (h : LLMMeterHandler κ)
  (unmarshal : Bytes → Option (Macaroon σ)) (sum256 : Sum256) (m : Rounding)
  (quote : String → String) (isHTTPURL : String → Bool)

def LLMMeterHandler.checkTokenRevoked (taskID ns : Bytes) : Prog System MeterReply Unit := do
  match h.tokenStore with
  | none => pure ()
  | some indexOnly =>
    match ← onSecrets (checkRevoked sum256 indexOnly taskID ns) with
    | .error _ => throw (refuse 503 "failed to verify token revocation status")
    | .ok true => throw (refuse 401 "token revoked")
    | .ok false => pure ()

/-- Whether the token's models admit the request; a report of a pull request alone needs none. -/
def checkModel (claims : Claims) (req : LLMMeterRequest) (prURL : String) :
    Except MeterReply Unit :=
  let zeroCostPRReport := decide (prURL ≠ "") && decide (req.tokensUsed = 0) &&
    decide (req.costUSD = 0) && decide (trimSpace req.model = "")
  if claims.allowedModels = [] ∨ zeroCostPRReport then .ok ()
  else if trimSpace req.model = "" then
    .error (refuse 403 "model is required when token restricts allowed_models")
  else if claims.allowedModels.any fun p => matchesAllowedModel p req.model then .ok ()
  else .error (refuse 403 ("model " ++ quote req.model ++ " is not allowed"))

/-- The checks of a request before the task is looked at. -/
def checkRequest (claims : Claims) (body : Option LLMMeterRequest) :
    Except MeterReply LLMMeterRequest :=
  match body with
  | none => .error (refuse 400 "invalid JSON request body")
  | some req =>
    if req.tokensUsed < 0 ∨ req.costUSD < 0 then
      .error (refuse 400 "tokensUsed and costUSD must be non-negative")
    else if trimSpace req.prURL ≠ "" ∧ isHTTPURL (trimSpace req.prURL) = false then
      .error (refuse 400 "invalid prUrl: must be a valid http or https URL")
    else (checkModel quote claims req (trimSpace req.prURL)).map fun _ => req

/-- The token of a task beyond a limit is revoked; a failure to do so is only logged. -/
def LLMMeterHandler.revokeExceeded (taskID ns : Bytes) : Prog System MeterReply Unit := do
  match h.tokenStore with
  | none => pure ()
  | some indexOnly =>
    let _ ← onSecrets (revokeToken sum256 indexOnly taskID ns)
    pure ()

/-- What is left to do when usage was recorded. -/
def LLMMeterHandler.settle (taskID ns : Bytes) (d : MeterDecision) :
    Prog System MeterReply MeterReply := do
  match d.exceeded with
  | none => pure (d.totals.reply 200 true false "")
  | some reason =>
    let _ ← orExit (fun _ => refuse 500 "failed to suspend task") (← onTask suspendTask)
    h.revokeExceeded sum256 taskID ns
    pure (d.totals.reply 429 false true reason)

/-- The part of `ServeHTTP` under the task's lock. -/
def LLMMeterHandler.meter (claims : Claims) (req : LLMMeterRequest) : Prog System MeterReply MeterReply := do
  let taskID := utf8 claims.taskID
  let ns := utf8 (if claims.ns = "" then "default" else claims.ns)
  h.checkTokenRevoked sum256 taskID ns
  let usage ← onPart System.cell (fun c s => { s with cell := c })
    (recordUsage m claims req (trimSpace req.prURL))
  let d ← orExit MeterFailure.reply usage
  h.settle sum256 taskID ns d

def LLMMeterHandler.requestClaims (now : ℤ) (method authorization : String) :
    Except MeterReply Claims :=
  let rawToken := extractMeterBearerToken authorization
  if method ≠ "POST" then .error (refuse 405 "method not allowed")
  else if rawToken = "" then .error (refuse 401 "missing or invalid authorization header")
  else
    match decodeMacaroonToken (utf8 rawToken),h.macaroonVerifier with
    | none,_ => .error (refuse 401 "malformed capability token")
    | some _,none => .error (refuse 503 "macaroon verifier not configured")
    | some token,some verifier =>
      match verifier.verifyAndExtract unmarshal now token with
      | .error _ => .error (refuse 401 "invalid or expired capability token")
      | .ok (_,claims) => .ok claims

def LLMMeterHandler.serveClaims (claims : Claims) (body : Option LLMMeterRequest) :
    Prog System MeterReply MeterReply := do
  h.checkTokenRevoked sum256 (utf8 claims.taskID)
    (utf8 (if claims.ns = "" then "default" else claims.ns))
  let req ← orExit id (checkRequest quote isHTTPURL claims body)
  if h.crdClient = false then throw (refuse 503 "crd client not configured")
  else h.meter sum256 m claims req

def LLMMeterHandler.serveHTTP (now : ℤ) (r : HTTPRequest) : Prog System MeterReply MeterReply := do
  let claims ← orExit id (h.requestClaims unmarshal now r.method r.authorization)
  h.serveClaims sum256 m quote isHTTPURL claims r.body

end Diverge.Tasks
