import Diverge.Environments.Lifetime
import Diverge.Environments.Teardown
import Diverge.Text.Durations

/-! The reconcile of an environment: the deploy and lifecycle stages after its provisioning, and
the object that a run leaves behind. -/
namespace Diverge.Environments
open Text Tasks Program

def annotationBaselineFingerprint : String := "divergedev.com/baseline-fingerprint"

def annotationDriftPolicy : String := "divergedev.com/drift-policy"

def annotationHibernateAfter : String := "divergedev.com/hibernate-after"

def Environment.annotate (env : Environment) (key value : String) : Environment :=
  { env with annotations := editAnnotation env.annotations (key,some value) }

section
variable (op : Operator) (ans : Answers) (env : Environment)

def baselineFingerprint : String := trimSpace ( env.annotation annotationBaselineFingerprint)

def driftPolicy : String := trimSpace ( env.annotation annotationDriftPolicy)

/-- A change of the baseline is deployed at once and recorded. -/
def syncBaseline (previous fp : String) : Except String (Environment × Bool) := do
  if op.deployer then ans.deploy
  match ans.persistFingerprint with
  | .error e => .error ("failed to update baseline fingerprint during sync: " ++ e)
  | .ok _ =>
    .ok ((env.annotate annotationBaselineFingerprint fp).markFalse conditionBaselineDrift
      "BaselineSynced" ("Automatically synced preview with updated baseline (" ++ previous ++
        " -> " ++ fp ++ ")"),true)

/-- `reconcileBaselineDrift`: the environment, and whether it was deployed. -/
def reconcileBaselineDrift : Except String (Environment × Bool) :=
  if equalFold (driftPolicy env) "ignore" then .ok (env,false)
  else do
    let fp ← ans.fingerprint
    let previous := baselineFingerprint env
    if fp = "" then .ok (env,false)
    else if previous = "" then
      match ans.persistFingerprint with
      | .error e => .error ("failed to persist initial baseline fingerprint: " ++ e)
      | .ok _ =>
        .ok ((env.annotate annotationBaselineFingerprint fp).markFalse conditionBaselineDrift
          "BaselineInSync" ("Baseline fingerprint recorded (" ++ fp ++ ")"),false)
    else if previous = fp then
      .ok (env.markFalse conditionBaselineDrift "BaselineInSync"
        ("Preview matches baseline configuration (" ++ fp ++ ")"),false)
    else if toLower (driftPolicy env) = "sync" then syncBaseline op ans env previous fp
    else
      .ok (env.markTrue conditionBaselineDrift "BaselineUpdated"
        ("Baseline configuration changed (" ++ previous ++ " -> " ++ fp ++
          "); set divergedev.com/drift-policy=sync to auto-refresh"),false)

def failDeploy {α : Type} (env : Environment) (err : String) : Step α :=
  failStage env "ServicesReady" "DeployFailed" err

/-- The comparison with the baseline that precedes a deployment. -/
def driftStage : Step (Environment × Bool) :=
  if baselineFingerprint env ≠ "" then
    match reconcileBaselineDrift op ans env with
    | .error e => failDeploy env e
    | .ok r => pure r
  else pure (env,false)

def deployStage (synced : Bool) : Step Environment :=
  if op.deployer = true ∧ synced = false then
    match ans.deploy with
    | .error e => failDeploy env e
    | .ok _ => pure (env.markTrue "ServicesReady" "ServicesDeployed" "Services deployed successfully")
  else pure (env.markTrue "ServicesReady" "ServicesDeployed" "Services deployed successfully")

/-- The first comparison comes after the deployment, and its errors are only logged. -/
def firstFingerprint (deployed : Environment) : Environment :=
  if baselineFingerprint env = "" then
    match reconcileBaselineDrift op ans deployed with
    | .error _ => deployed
    | .ok r => r.1
  else deployed

def reconcileDeploy : Step Environment := do
  let (checked,synced) ← driftStage op ans env
  let deployed ← deployStage op ans checked synced
  pure (firstFingerprint op ans env deployed)

/-- The time an environment may be idle; half an hour where nothing else is said. -/
def idleThreshold : ℤ :=
  ((parseDuration ( env.annotation annotationHibernateAfter)).filter (0 < ·)).getD
    (30 * 60 * second)

def idleSince : ℤ :=
  match (parseRFC3339 ( env.annotation annotationLastTrafficAt)).filter (· ≠ zeroTime) with
  | some t => t
  | none =>
    if env.creationTimestamp ≠ zeroTime then env.creationTimestamp
    else env.status.createdAt.getD zeroTime

/-- `ShouldHibernateIdleEnvironment`, with no other time of the last traffic. -/
def shouldHibernateIdleEnvironment (now : ℤ) : Bool :=
  env.status.phase == .running && idleSince env != zeroTime &&
    decide (idleSince env < now) && decide (idleThreshold env ≤ now - idleSince env)

/-- An idle environment is hibernated; a failure is only logged. -/
def idleStage : Environment :=
  if shouldHibernateIdleEnvironment env ans.now && !env.hibernated then
    match ans.hibernateIdle with
    | .ok _ => env.hibernate
    | .error _ => env
  else env

/-- How the stages of a run end: with a patch of the status, or with the deletion of the expired
object and the error of that call. -/
inductive Ending
  | patched (p : Patch)
  | deleted (env : Environment) (err : Option String)
  deriving DecidableEq

/-- `reconcileLifecycle`, and the patch of the status that follows it. -/
def reconcileLifecycle : Ending :=
  if expired ans.now env then
    .deleted (setTimestamps ans.now env)
      (match ans.deleteExpired with
        | .error e => some ("failed to delete expired environment: " ++ e)
        | .ok _ => none)
  else
    .patched
      { env := idleStage ans (setTimestamps ans.now env)
        requeueAfter := ((expiryTime ans.now env).map (· - ans.now)).getD 0 }

end

variable (op : Operator) (ans : Answers) (tans : TeardownAnswers) (env : Environment)

def earlyStages : Step Environment := reconcileProvisioning op ans env >>= reconcileDeploy op ans

def endStages : Except Patch Environment → Ending
  | .error p => .patched p
  | .ok deployed =>
    reconcileLifecycle ans (deployed.setPhase (derivePhase deployed.status.conditions))

inductive ReconcileEnd
  | tornDown (e : TeardownEnd)
  | finalizerAdded (err : Option String)
  | ended (e : Ending)
  deriving DecidableEq

/-- `Reconcile` of an object that exists: the provider calls that succeeded, and the end. -/
def reconcile : List ProviderCall × ReconcileEnd :=
  if env.deleting then
    let r := handleTeardown op tans env
    (r.1,.tornDown r.2)
  else if environmentFinalizer ∉ env.finalizers then
    ([],.finalizerAdded (match ans.addFinalizer with
      | .error e => some ("failed to add finalizer: " ++ e)
      | .ok _ => none))
  else
    let r := ending (earlyStages op ans env) []
    (r.2,.ended (endStages ans r.1))

/-- The run asks the API server to delete the object. -/
def ReconcileEnd.requestsDeletion : ReconcileEnd → Bool
  | .ended (.deleted _ _) => true
  | _ => false

/-- The error that a run returns; a failed patch of the status comes first. -/
def ReconcileEnd.err : ReconcileEnd → Option String
  | .tornDown (.blocked errs) => some ("\n".intercalate errs)
  | .tornDown (.updateFailed e) => some e
  | .tornDown _ => none
  | .finalizerAdded e => e
  | .ended (.patched p) =>
    match ans.patchStatus with
    | .error e => some ("failed to update status: " ++ e)
    | .ok _ => p.err
  | .ended (.deleted _ e) => e

/-- The object that is stored after a run. Annotations are written when they change, the status
at the end. -/
def ReconcileEnd.stored : ReconcileEnd → Environment
  | .tornDown e => e.stored env
  | .finalizerAdded none => { env with finalizers := env.finalizers ++ [environmentFinalizer] }
  | .finalizerAdded (some _) => env
  | .ended (.patched p) =>
    match ans.patchStatus with
    | .ok _ => p.env
    | .error _ => { env with annotations := p.env.annotations }
  | .ended (.deleted env' none) =>
    { env with
      annotations := env'.annotations
      deletionTimestamp := some (storedTime ans.now) }
  | .ended (.deleted env' (some _)) => { env with annotations := env'.annotations }

end Diverge.Environments
