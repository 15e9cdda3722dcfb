import Diverge.Auth.Bearer
import Diverge.Auth.Macaroon
import Diverge.Tasks.System
import Diverge.TokenStore.Revocation

/-! The reconciler of agent tasks. One call works through a fixed order of guards: deletion,
finalizer, feature gate, suspension, sandbox provider, and then the phase. What lies outside the API
server's objects answers through the surroundings. -/
namespace Diverge.Tasks
open Text Kube Program TokenStore Auth Hmac

def agentTaskFinalizer : String := "divergedev.com/agenttask-finalizer"
def annotationActiveSince : String := "divergedev.com/active-since"
def conditionPreviewEnvReady : String := "PreviewEnvironmentReady"

structure SandboxResult where
  claimName : String := ""
  podName : String := ""
  podIP : String := ""
  ready : Bool := false
  message : String := ""

structure SandboxStatus where
  podName : String := ""
  podIP : String := ""
  phase : String := ""
  ready : Bool := false
  message : String := ""

/-- A sandbox provider, as it answers during one call. Only some providers can suspend. -/
structure SandboxProvider where
  provision : Except String SandboxResult
  teardown : Except String Unit
  status : Except String SandboxStatus
  suspender : Option (Except String Unit × Except String Unit)

/-- Of the linked preview environment: a failure, or annotations to edit on the task and the condition
to set; no condition is one removed. -/
inductive PreviewAnswer
  | failed (message : String)
  | synced (edits : List (String × Option String)) (condition : Option Condition)

structure Surroundings where
  clock : ℤ
  gate : Option Bool
  providers : String → Option (Except String SandboxProvider)
  nonce : Except String Bytes
  hibernate : Except String Unit
  preview : PreviewAnswer

/-- The reconciler's configuration and the library functions it is built on. -/
structure Reconciler (κ σ : Type) where
  tokenMinter : Option (MacaroonProvider κ)
  notifier : Bool
  defaultProvider : String
  sum256 : Sum256
  unmarshal : Bytes → Option (Macaroon σ)
  written : σ → String
  quote : String → String
  apiError : ApiError → String
  storeError : StoreError → String
  parseTime : String → Option ℤ
  formatTime : ℤ → String

/-- `ctrl.Result` with the error beside it. -/
structure Result where
  requeueAfter : ℕ := 0
  err : Option String := none
  deriving DecidableEq

abbrev Step := Prog System Result

def usesPod (task : AgentTask) : Bool :=
  task.spec.sandboxProvider == "pod" || task.spec.sandboxProvider == "k8s-pod"

/-- `checkBudgetOrIterationLimit`, with the reason for a pause. -/
def checkBudgetOrIterationLimit (task : AgentTask) : Option String :=
  let spec := task.spec
  let status := task.status
  if 0 < spec.maxIterations ∧ spec.maxIterations < status.iteration then
    some ("Reached max iterations limit (" ++ formatInt spec.maxIterations ++ "); paused")
  else if spec.budgetUSD ≠ "" ∧ status.costUSD ≠ "" ∧
      (match parseFloat spec.budgetUSD,parseFloat status.costUSD with
        | some budget,some cost => Number.lt (.finite 0) budget && budget.le cost
        | _,_ => false) = true then
    some ("Reached USD budget limit ($" ++ status.costUSD ++ " / $" ++ spec.budgetUSD ++ "); paused")
  else if 0 < spec.budgetTokens ∧ spec.budgetTokens ≤ status.tokensConsumed then
    some ("Reached token budget limit (" ++ formatInt status.tokensConsumed ++ " / " ++
      formatInt spec.budgetTokens ++ "); paused")
  else none

/-- `restoreReconcilerStatus`: what the reconciler had worked out, laid over the object that came
back from the server. -/
def restoreReconcilerStatus (task : AgentTask) (saved : AgentTaskStatus) : AgentTask :=
  let status := task.status
  { task with
    status :=
      { status with
        phase := if status.phase = .unset then saved.phase else status.phase
        sandboxClaimRef :=
          if saved.sandboxClaimRef ≠ "" then saved.sandboxClaimRef else status.sandboxClaimRef
        sandboxPodName :=
          if saved.sandboxPodName ≠ "" then saved.sandboxPodName else status.sandboxPodName
        sandboxIP := if saved.sandboxIP ≠ "" then saved.sandboxIP else status.sandboxIP
        message := if status.message = "" then saved.message else status.message
        conditions := saved.conditions.foldl setCondition status.conditions } }

/-- The budget of the spec as the tokens state it. -/
def specCost (spec : AgentTaskSpec) : ℚ :=
  match parseFloat spec.budgetUSD with
  | some (.finite q) => q
  | _ => 0

/-- The tools of a minted token. -/
def taskTools : List String :=
  ["diverge_*_environment*","diverge_*_preview_group*","diverge_wait_for_ready",
    "diverge_fetch_errors","diverge_list_hook_jobs","diverge_retry_hook","diverge_extend_ttl",
    "diverge_doctor","diverge_verify","diverge_loadtest","diverge_visual_test","diverge_replay",
    "diverge_get_task","diverge_list_tasks"]

/-- The status of a task that is paused with its sandbox halted. -/
def pausedStatus (task : AgentTask) (message : String) : AgentTaskStatus :=
  { task.status with
    phase := .paused
    message := message
    sandboxPodName := if usesPod task then "" else task.status.sandboxPodName }

variable {κ σ : Type} [Scheme κ σ] [DecidableEq σ] (r : Reconciler κ σ) (env : Surroundings)
  (task : AgentTask)

def Surroundings.now : ℤ := env.clock / second

def Reconciler.resolveSandboxProvider : Except String SandboxProvider :=
  let name :=
    if task.spec.sandboxProvider ≠ "" then task.spec.sandboxProvider
    else if r.defaultProvider ≠ "" then r.defaultProvider
    else "agent-sandbox"
  match env.providers name with
  | none => .error ("sandbox provider " ++ r.quote name ++ " not registered")
  | some created => created

def Reconciler.activeStartTime : ℤ :=
  let raw := task.annotation annotationActiveSince
  if raw = "" then task.creationTimestamp else (r.parseTime raw).getD task.creationTimestamp

/-- Whether the sandbox has been running for longer than it may. -/
def timedOut (start : ℤ) : Bool :=
  decide (0 < task.spec.timeoutSeconds) && decide (start ≠ zeroTime) &&
    decide (task.spec.timeoutSeconds * second < env.clock - start)

def failWith (err : String) : Result := { err := some err }

def Reconciler.patchStatus (status : AgentTaskStatus) : Step AgentTask := do
  orExit (fun e => failWith (r.apiError e)) (← onTask (writeStatus status))

def Reconciler.notify (old new : Phase) : Step Unit :=
  if r.notifier && old != new then emit (.notify old new) else pure ()

def Reconciler.revokeToken : Step Unit := do
  orExit (fun e => failWith ("revoke task token: " ++ r.storeError e))
    (← onSecrets (TokenStore.Reconciler.revokeToken r.sum256 (utf8 task.name) (utf8 task.ns)))

/-- `setLinkedPreviewEnvironmentHibernated`. -/
def hibernatePreview (hibernated : Bool) : Step (Except String Unit) := do
  emit (.hibernate hibernated)
  pure env.hibernate

def taskClaims : Claims :=
  { taskID := task.name
    ns := task.ns
    repoURL := task.spec.repositoryURL
    branch := task.spec.baseBranch
    allowedTools := taskTools
    allowedModels := task.spec.capabilities
    maxTokens := task.spec.budgetTokens
    maxCostUSD := specCost task.spec
    expiresAt := some (env.now +
      if task.spec.timeoutSeconds ≤ 0 then 3600 else task.spec.timeoutSeconds) }

def Reconciler.mintAndSaveToken : Step (Except String Unit) := do
  match r.tokenMinter with
  | none => pure (.ok ())
  | some minter =>
    emit (.mint (taskClaims env task))
    match minter.mint env.nonce (taskClaims env task) with
    | .error e => pure (.error ("mint task token: " ++ e))
    | .ok token =>
      match ← onSecrets (saveToken r.sum256 (utf8 task.name) (utf8 task.ns)
          (token.serialize r.written)) with
      | .error e => pure (.error ("persist task token: " ++ r.storeError e))
      | .ok _ => pure (.ok ())

/-- The stored token is minted anew when it is missing, does not verify, or states another
budget. -/
def Reconciler.ensureActiveTokenMatchesSpec : Step (Except String Unit) := do
  match r.tokenMinter with
  | none => pure (.ok ())
  | some verifier =>
    match ← onSecrets (getToken r.sum256 false (utf8 task.name) (utf8 task.ns)) with
    | .error _ => r.mintAndSaveToken env task
    | .ok rawTok =>
      match verifier.verifyAndExtract r.unmarshal env.now rawTok with
      | .error _ => r.mintAndSaveToken env task
      | .ok (_,claims) =>
        if claims.maxTokens ≠ task.spec.budgetTokens ∨
            1/1000000 < |claims.maxCostUSD - specCost task.spec| then
          r.mintAndSaveToken env task
        else pure (.ok ())

/-- Suspend the sandbox, or take a plain pod down. -/
def haltSandbox (provider : SandboxProvider) : Step Unit := do
  match provider.suspender with
  | some (suspended,_) =>
    emit .suspend
    orExit failWith suspended
  | none =>
    if usesPod task then
      emit .teardown
      orExit failWith provider.teardown
    else pure ()

/-- The annotations are edited on the server, and the object it answers with takes the place of
the one in hand. -/
def patchAnnotations (edits : List (String × Option String)) : Step (Except ApiError AgentTask) := do
  match ← onTask (writeAnnotations edits) with
  | .error e => pure (.error e)
  | .ok answered => pure (.ok (restoreReconcilerStatus answered task.status))

def withCondition (condition : Option Condition) : AgentTask :=
  { task with
    status :=
      { task.status with
        conditions :=
          match condition with
          | some c => setCondition task.status.conditions c
          | none => removeCondition task.status.conditions conditionPreviewEnvReady } }

/-- `reconcileLinkedPreviewEnvironment`, as far as the task is concerned. -/
def reconcileLinkedPreviewEnvironment : Step AgentTask := do
  match env.preview with
  | .failed _ => pure task
  | .synced [] condition => pure (withCondition task condition)
  | .synced edits condition =>
    match ← patchAnnotations task edits with
    | .error _ => pure task
    | .ok answered => pure (withCondition answered condition)

def Reconciler.releaseSandbox : Step Unit := do
  match r.resolveSandboxProvider env task with
  | .ok provider =>
    emit .teardown
    orExit (fun e => { requeueAfter := 5, err := some e }) provider.teardown
  | .error _ => pure ()

def Reconciler.deleteTaskToken : Step Unit := do
  match ← onSecrets (deleteToken r.sum256 (utf8 task.name) (utf8 task.ns)) with
  | .ok _ => pure ()
  | .error .tokenNotFound => pure ()
  | .error e => throw { requeueAfter := 5, err := some (r.storeError e) }

/-- The object goes with its last finalizer. -/
def Reconciler.removeFinalizer : Step Result := do
  let rest := task.finalizers.filter (· != agentTaskFinalizer)
  if rest = [] then
    let _ ← orExit (fun e => failWith (r.apiError e)) (← onTask (delete ()))
    pure {}
  else
    let _ ← orExit (fun e => failWith (r.apiError e))
      (← onTask (writeObject { task with finalizers := rest }))
    pure {}

def Reconciler.reconcileDeletion : Step Result := do
  if agentTaskFinalizer ∉ task.finalizers then pure {}
  else
    r.releaseSandbox env task
    r.deleteTaskToken task
    r.removeFinalizer task

def Reconciler.ensureFinalizer : Step Result := do
  let _ ← orExit (fun e => failWith (r.apiError e))
    (← onTask (writeObject { task with finalizers := task.finalizers ++ [agentTaskFinalizer] }))
  pure {}

def gatedStatus : AgentTaskStatus :=
  { task.status with
    phase := .paused
    message := "Agent sandbox execution paused: feature gate 'agent_sandbox' is disabled" }

def Reconciler.reconcileGateDisabled : Step Result := do
  if task.status.phase = .paused then pure {}
  else
    let _ ← r.patchStatus (gatedStatus task)
    pure {}

/-- The message of a task suspended by its spec; a message of another kind is kept. -/
def suspendedMessage (message : String) : String :=
  if message = "" ∨ message = "Sandbox active and ready" ∨ message = "Task resumed and active" then
    "Task execution paused by spec.suspended"
  else message

def Reconciler.haltResolved : Step Unit :=
  match r.resolveSandboxProvider env task with
  | .ok provider => haltSandbox task provider
  | .error _ => pure ()

def Reconciler.pauseSuspended : Step Unit := do
  if task.status.phase = .paused then pure ()
  else
    let _ ← r.patchStatus (pausedStatus task (suspendedMessage task.status.message))
    r.notify task.status.phase .paused

def Reconciler.reconcileSuspended : Step Result := do
  r.haltResolved env task
  orExit failWith (← hibernatePreview env true)
  r.pauseSuspended task
  r.revokeToken task
  pure {}

def unresolvedStatus (err : String) : AgentTaskStatus :=
  { task.status with
    phase := .failed, message := "Failed to resolve sandbox provider: " ++ err }

def Reconciler.reconcileUnresolved (err : String) : Step Result := do
  let _ ← onTask (writeStatus (unresolvedStatus task err))
  r.notify task.status.phase .failed
  pure (failWith err)

/-- A step of provisioning failed: the task stays pending and is tried again. -/
def retryPending (what err : String) : Step Result := do
  let _ ← onTask (writeStatus { task.status with
    phase := .pending, message := what ++ " failed (retrying): " ++ err })
  pure { requeueAfter := 10, err := some err }

def Reconciler.reconcilePending (provider : SandboxProvider) : Step Result := do
  match ← r.mintAndSaveToken env task with
  | .error err => retryPending task "Token provisioning" err
  | .ok _ =>
    emit .provision
    match provider.provision with
    | .error err => retryPending task "Provisioning" err
    | .ok res =>
      let provisioned := { task with
        status := { task.status with
          sandboxClaimRef := res.claimName
          sandboxPodName := res.podName
          sandboxIP := res.podIP
          message := res.message } }
      let synced ← reconcileLinkedPreviewEnvironment env provisioned
      let phase := if res.ready then Phase.active else Phase.provisioning
      let _ ← r.patchStatus { synced.status with phase := phase }
      r.notify task.status.phase phase
      pure { requeueAfter := 3 }

/-- Where the sandbox says it is, as far as it says so. -/
def observedStatus (sb : SandboxStatus) : AgentTaskStatus :=
  { task.status with
    sandboxPodName := if sb.podName ≠ "" then sb.podName else task.status.sandboxPodName
    sandboxIP := if sb.podIP ≠ "" then sb.podIP else task.status.sandboxIP }

def terminalStatus (sb : SandboxStatus) : AgentTaskStatus :=
  if sb.phase = "Succeeded" then
    { observedStatus task sb with phase := .completed, message := "Agent task completed successfully" }
  else
    { observedStatus task sb with
      phase := .failed
      message := if sb.message ≠ "" then sb.message else "Sandbox execution failed" }

/-- `handleTerminalSandboxPhase`, where the sandbox has ended. -/
def Reconciler.handleTerminalSandboxPhase (sb : SandboxStatus) : Step Result := do
  let _ ← r.patchStatus (terminalStatus task sb)
  r.notify task.status.phase (terminalStatus task sb).phase
  let _ ← hibernatePreview env true
  r.revokeToken task
  pure {}

def SandboxStatus.ended (sb : SandboxStatus) : Bool := sb.phase == "Succeeded" || sb.phase == "Failed"

def Reconciler.reconcileProvisioning (provider : SandboxProvider) : Step Result := do
  match provider.status with
  | .error _ => pure { requeueAfter := 5 }
  | .ok sb =>
    if sb.ended then r.handleTerminalSandboxPhase env task sb
    else
      let polled := { task with
        status := { task.status with
          sandboxPodName := sb.podName, sandboxIP := sb.podIP, message := sb.message } }
      let synced ← reconcileLinkedPreviewEnvironment env polled
      let status := if sb.ready then
          { synced.status with phase := .active, message := "Sandbox active and ready" }
        else synced.status
      let _ ← r.patchStatus status
      r.notify task.status.phase status.phase
      pure { requeueAfter := if sb.ready then 10 else 5 }

def Reconciler.reconcileTimeout (provider : SandboxProvider) : Step Result := do
  emit .teardown
  match provider.teardown with
  | .error err =>
    let _ ← onSecrets (TokenStore.Reconciler.revokeToken r.sum256 (utf8 task.name) (utf8 task.ns))
    pure { requeueAfter := 5, err := some err }
  | .ok _ =>
    let _ ← r.patchStatus { task.status with
      phase := .failed
      message := "Sandbox execution timed out after " ++ formatInt task.spec.timeoutSeconds ++ "s" }
    r.notify task.status.phase .failed
    let _ ← hibernatePreview env true
    r.revokeToken task
    pure {}

def Reconciler.reconcileLimit (provider : SandboxProvider) (reason : String) : Step Result := do
  haltSandbox task provider
  orExit failWith (← hibernatePreview env true)
  let _ ← r.patchStatus (pausedStatus task reason)
  r.notify task.status.phase .paused
  r.revokeToken task
  pure {}

def Reconciler.reconcileActive (provider : SandboxProvider) : Step Result := do
  if timedOut env task (r.activeStartTime task) then r.reconcileTimeout env task provider
  else
    match checkBudgetOrIterationLimit task with
    | some reason => r.reconcileLimit env task provider reason
    | none =>
      let _ ← r.ensureActiveTokenMatchesSpec env task
      match provider.status with
      | .error _ =>
        let synced ← reconcileLinkedPreviewEnvironment env task
        let _ ← onTask (writeStatus synced.status)
        pure { requeueAfter := 15 }
      | .ok sb =>
        if sb.ended then r.handleTerminalSandboxPhase env task sb
        else
          let synced ← reconcileLinkedPreviewEnvironment env
            { task with status := observedStatus task sb }
          let _ ← onTask (writeStatus synced.status)
          pure { requeueAfter := 15 }

/-- A task paused for longer than its timeout starts a new period of activity. -/
def Reconciler.restartClock : Step AgentTask := do
  if timedOut env task task.creationTimestamp then
    orExit (fun e => failWith (r.apiError e))
      (← patchAnnotations task [(annotationActiveSince,some (r.formatTime env.clock))])
  else pure task

def SandboxStatus.lost (sb : SandboxStatus) : Bool :=
  sb.ended || sb.message == "Sandbox pod not found" || sb.message == "SandboxClaim not found"

/-- The pod that a resumed task can go on with. -/
def resumablePod (provider : SandboxProvider) : String :=
  match provider.status with
  | .ok sb => if sb.lost then "" else task.status.sandboxPodName
  | .error _ => task.status.sandboxPodName

def resumeSandbox (provider : SandboxProvider) : Step Unit := do
  match provider.suspender with
  | some (_,resumed) =>
    emit .resume
    orExit failWith resumed
  | none => pure ()

def Reconciler.leavePause (status : AgentTaskStatus) : Step Result := do
  let _ ← r.patchStatus { status with lastMeterRequestIDs := [] }
  r.notify task.status.phase status.phase
  pure { requeueAfter := 1 }

/-- A task that is no longer suspended goes on in its sandbox, or waits for a new one. -/
def Reconciler.resumeTask (provider : SandboxProvider) : Step Result := do
  let task ← r.restartClock env task
  orExit failWith (← hibernatePreview env false)
  let resumed := { task.status with sandboxPodName := resumablePod task provider }
  if resumed.sandboxPodName ≠ "" then
    orExit failWith (← r.mintAndSaveToken env { task with status := resumed })
    resumeSandbox provider
    r.leavePause task { resumed with phase := .active, message := "Task resumed and active" }
  else
    r.leavePause task
      { resumed with phase := .pending, message := "Task resumed, awaiting provisioning" }

def Reconciler.reconcilePaused (provider : SandboxProvider) : Step Result := do
  match checkBudgetOrIterationLimit task with
  | some _ =>
    r.revokeToken task
    pure {}
  | none => r.resumeTask env task provider

def Reconciler.reconcileTerminal : Step Result := do
  r.revokeToken task
  pure {}

/-- The switch over the phase. -/
def Reconciler.reconcilePhase (provider : SandboxProvider) : Step Result :=
  match task.status.phase with
  | .unset | .pending => r.reconcilePending env task provider
  | .provisioning => r.reconcileProvisioning env task provider
  | .active => r.reconcileActive env task provider
  | .paused => r.reconcilePaused env task provider
  | .completed | .failed => r.reconcileTerminal task
  | .pausing => pure {}

def Reconciler.reconcileTask : Step Result :=
  if task.deleting then r.reconcileDeletion env task
  else if agentTaskFinalizer ∉ task.finalizers then r.ensureFinalizer task
  else if env.gate = some false then r.reconcileGateDisabled task
  else if task.spec.suspended then r.reconcileSuspended env task
  else
    match r.resolveSandboxProvider env task with
    | .error err => r.reconcileUnresolved task err
    | .ok provider => r.reconcilePhase env task provider

def Reconciler.reconcile : Step Result := do
  match ← onTask (get ()) with
  | .error .notFound => pure {}
  | .error e => pure (failWith (r.apiError e))
  | .ok task => r.reconcileTask env task

end Diverge.Tasks
