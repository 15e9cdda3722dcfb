import Diverge.Environments.Quota
import Diverge.Program.Rules

/-! The provisioning stages of an environment's reconcile. Each returns the object in hand changed, or
ends the run; the answers of the API server and the providers are given, and provider calls that
succeed are recorded. -/
namespace Diverge.Environments
open Text Tasks Program

/-- The database provider that a call goes to: the operator's own, or one from the registry. -/
inductive DatabaseChoice
  | operator
  | named (name : String)
  deriving DecidableEq

/-- A provider call that succeeded. Feature providers go by their type. -/
inductive ProviderCall
  | provisionAsync (protocol target : String)
  | teardownAsync (protocol target : String)
  | provisionDatabase (provider : DatabaseChoice)
  | teardownDatabase (provider : DatabaseChoice)
  | provisionFeatures (provider : String) (overrides : List (String × String))
  | teardownFeatures (provider : String)
  deriving DecidableEq

/-- The configuration of the reconciler. `quote` is the verb `%q`. -/
structure Operator where
  quantities : Quantities
  quote : String → String
  asyncProvisioner : Bool
  /-- The type of its feature provider. -/
  featureProvider : Option String
  featureRegistered : String → Bool
  /-- Its database provider, if any, and whether that is the default or noop one. -/
  databaseProvider : Option Bool
  databaseRegistered : String → Bool
  deployer : Bool

structure DatabaseResult where
  ready : Bool
  setupSQL : String := ""
  setupSQLExecuted : Bool := false
  envVars : List (String × String) := []
  deriving DecidableEq

structure FeatureResult where
  configMapName : String := ""
  envVars : List (String × String) := []
  message : String := ""
  deriving DecidableEq

/-- How a hook fails: it is still running, it ran and failed, or something else went wrong. -/
inductive HookError
  | inProgress (message : String)
  | failed (message : String)
  | other (message : String)
  deriving DecidableEq

def HookError.message : HookError → String
  | .inProgress m | .failed m | .other m => m

/-- The namespace object, as the quota check reads it. -/
inductive NamespaceAnswer
  | absent
  | failed (err : String)
  | found (annotations : List (String × String))
  deriving DecidableEq

/-- What the API server and the providers answer in one run. -/
structure Answers where
  now : ℤ
  addFinalizer : Except String Unit := .ok ()
  ensureNamespace : Except String Unit := .ok ()
  quotaNamespace : NamespaceAnswer := .absent
  listed : Except String (List Environment) := .ok []
  claim : Except String Unit := .ok ()
  hibernateVictims : Except String Unit := .ok ()
  createDatabase : String → Except String Unit := fun _ => .ok ()
  provisionDatabase : Except String (Option DatabaseResult) := .ok none
  runSetupSQL : Except HookError Unit := .ok ()
  ensureDatabaseEnvSecret : Except String Unit := .ok ()
  runMigrations : Except HookError Unit := .ok ()
  route : Except String Unit := .ok ()
  /-- The answer for each route, by its place in the list. -/
  provisionAsync : ℕ → AsyncRouteSpec → Except String (List (String × String)) := fun _ _ => .ok []
  ensureBannerConfigMap : Except String Unit := .ok ()
  createFeatures : String → Except String Unit := fun _ => .ok ()
  provisionFeatures : Except String (Option FeatureResult) := .ok none
  fingerprint : Except String String := .ok ""
  persistFingerprint : Except String Unit := .ok ()
  deploy : Except String Unit := .ok ()
  deleteExpired : Except String Unit := .ok ()
  hibernateIdle : Except String Unit := .ok ()
  patchStatus : Except String Unit := .ok ()

structure Patch where
  env : Environment
  err : Option String := none
  requeueAfter : ℤ := 0
  deriving DecidableEq

/-- A stage of a run. One that does not return ends the run with a patch of the status. -/
abbrev Step := Prog (List ProviderCall) Patch

def record (call : ProviderCall) : Step Unit := modify (· ++ [call])

section
variable (env : Environment) (kind reason message : String)

def Environment.markTrue : Environment := env.setCondition ⟨kind,"True",reason,message⟩

def Environment.markFalse : Environment := env.setCondition ⟨kind,"False",reason,message⟩

/-- A failed stage: its condition is set and the run ends with its error. -/
def failStage {α : Type} : Step α :=
  throw ⟨env.markFalse kind reason message,some message,0⟩

def stopStage {α : Type} (requeueAfter : ℤ) : Step α :=
  throw ⟨env.markFalse kind reason message,none,requeueAfter⟩

end

section
variable (op : Operator) (ans : Answers) (env : Environment)

def foreignRef (ref : SecretRef) : Bool := ref.ns != "" && ref.ns != env.ns

/-- Cross-namespace references to secrets are refused. -/
def checkSecretRefs : Step Unit :=
  if (env.spec.envFrom ++ env.spec.deploy.envFrom).any (foreignRef env) then
    stopStage env "SecretRefValid" "CrossNamespaceRef" "cross-namespace SecretRef not allowed" 0
  else pure ()

def namespaceStage : Step Environment :=
  match ans.ensureNamespace with
  | .error e => failStage env "NamespaceReady" "NamespaceProvisionFailed" e
  | .ok _ => pure (env.markTrue "NamespaceReady" "NamespaceProvisioned" "Namespace is ready")

/-- The calls that follow an admission: the claim on the namespace, then the victims. -/
def carryOut (d : Decision) : Except String Unit :=
  match d with
  | .admitted victims => do
    if env.admitted = false ∨ victims ≠ [] then ans.claim
    if victims ≠ [] then ans.hibernateVictims
  | _ => .ok ()

def reconcileNamespaceQuota : Step Environment :=
  match ans.quotaNamespace with
  | .absent => pure env
  | .failed e => throw ⟨env,some e,0⟩
  | .found annotations =>
    let limits := quotaLimits annotations
    if limits.unset = true ∨ env.hibernated = true then
      pure (env.afterQuota (quotaDecision op.quantities limits env []))
    else
      match ans.listed with
      | .error e => throw ⟨env,some e,0⟩
      | .ok items =>
        let d := quotaDecision op.quantities limits env items
        if d.isRejected then throw ⟨env.afterQuota d,none,0⟩
        else
          match carryOut ans env d with
          | .error e => throw ⟨env,some e,0⟩
          | .ok _ => pure (env.afterQuota d)

def allowedEnvDatabaseProviders : List String := ["cnpg","fresh","snapshot","schema","noop","none"]

/-- The provider that the annotation or the mode asks for. -/
def databaseCandidate : Except String (Option String) :=
  let explicit := trimSpace ( env.annotation annotationDatabaseProvider)
  let mode := trimSpace env.spec.database.mode
  if explicit ≠ "" then
    if explicit ∈ allowedEnvDatabaseProviders then .ok (some explicit)
    else .error ("unsupported database provider annotation " ++ op.quote explicit)
  else if mode ∈ ["snapshot","cnpg","fresh"] ∧ op.databaseProvider.getD true = true then
    .ok (some mode)
  else .ok none

def createDatabaseProvider (create : String → Except String Unit) (name : String) :
    Except String DatabaseChoice :=
  if op.databaseRegistered name then
    match create name with
    | .ok _ => .ok (.named name)
    | .error e => .error ("failed to create database provider " ++ op.quote name ++ ": " ++ e)
  else .error ("database provider " ++ op.quote name ++ " is not registered")

/-- The choice of a database provider; `create` answers for the registry. -/
def resolveDatabaseProvider (create : String → Except String Unit) (forTeardown : Bool) :
    Except String DatabaseChoice :=
  let recorded := trimSpace env.status.databaseProvider
  if forTeardown ∧ recorded ≠ "" ∧ op.databaseRegistered recorded then
    match create recorded with
    | .ok _ => .ok (.named recorded)
    | .error e =>
      .error ("failed to create recorded database provider " ++ op.quote recorded ++ ": " ++ e)
  else do
    let candidate ← databaseCandidate op env
    if recorded ≠ "" then
      if candidate.any (· != recorded) then
        .error ("cannot change database provider from " ++ op.quote recorded ++ " to " ++
          op.quote (candidate.getD "") ++ " after provisioning")
      else createDatabaseProvider op create recorded
    else
      match candidate with
      | some name => createDatabaseProvider op create name
      | none => .ok .operator

/-- The operator may have no database provider. -/
def DatabaseChoice.present : DatabaseChoice → Bool
  | .operator => op.databaseProvider.isSome
  | .named _ => true

/-- The resolved provider is recorded in the status before it is called. -/
def recordDatabaseProvider (choice : DatabaseChoice) : Environment :=
  match choice with
  | .named name =>
    if env.status.databaseProvider = "" then
      { env with status := { env.status with databaseProvider := name } }
    else env
  | .operator => env

def failDatabase {α : Type} (env : Environment) (err : String) : Step α :=
  failStage env "DatabaseReady" "DatabaseProvisionFailed" err

def provisionDatabase : Step (Environment × Option DatabaseResult) :=
  match resolveDatabaseProvider op env ans.createDatabase false with
  | .error e => failDatabase env e
  | .ok choice =>
    if choice.present op then
      match ans.provisionDatabase with
      | .error e => failDatabase (recordDatabaseProvider env choice) e
      | .ok result => do
        record (.provisionDatabase choice)
        pure (recordDatabaseProvider env choice,result)
    else pure (env,none)

def setupSQLNeeded (result : DatabaseResult) : Bool :=
  result.setupSQL != "" && !result.setupSQLExecuted

def setupStage (result : DatabaseResult) : Step Unit :=
  if setupSQLNeeded result then
    match ans.runSetupSQL with
    | .ok _ => pure ()
    | .error (.inProgress _) =>
      stopStage env "DatabaseReady" "DatabaseSetupRunning" "SetupSQL job is running" (2 * second)
    | .error e => failStage env "DatabaseReady" "DatabaseSetupFailed" e.message
  else pure ()

def isBranchingMode : Bool :=
  env.spec.database.mode ∈ ["snapshot","cnpg","fresh"] ||
    env.annotation annotationDatabaseProvider != ""

def secretStage (result : DatabaseResult) : Step Unit :=
  if (env.spec.database.connectionRef = "" ∨ isBranchingMode env = true) ∧
      (result.envVars ≠ [] ∨ env.spec.database.mode = "schema") then
    match ans.ensureDatabaseEnvSecret with
    | .ok _ => pure ()
    | .error e => failStage env "DatabaseReady" "DatabaseSecretProvisionFailed" e
  else pure ()

def migrates : Bool := env.spec.database.atlas.isSome || env.spec.database.migrationJob.isSome

/-- Migrations block the run unless the spec says otherwise. -/
def migrationBlocks : Bool :=
  ((env.spec.database.atlas.bind (·.blocking)).or
    (env.spec.database.migrationJob.bind (·.blocking))).getD true

/-- A migration that has not succeeded ends the run when it blocks. -/
def unmigrated (reason message : String) (phase : EnvironmentPhase) (err : Option String)
    (requeueAfter : ℤ) : Step Environment :=
  let marked := env.markFalse "MigrationReady" reason message
  if migrationBlocks env then throw ⟨marked.setPhase phase,err,requeueAfter⟩
  else pure marked

def migrationStage : Step Environment :=
  if migrates env then
    match ans.runMigrations with
    | .ok _ =>
      pure (env.markTrue "MigrationReady" "MigrationSucceeded" "Migrations applied successfully")
    | .error (.inProgress m) => unmigrated env "MigrationRunning" m .migrating none (3 * second)
    | .error (.failed m) => unmigrated env "MigrationFailed" m .failed (some m) 0
    | .error (.other m) => unmigrated env "MigrationError" m .failed (some m) 0
  else pure env

/-- What follows when the provider has answered: the setup, the secret and the migrations of a
database that is ready. -/
def settleDatabase (result : Option DatabaseResult) : Step Environment :=
  match result.filter (·.ready) with
  | none =>
    pure (env.markFalse "DatabaseReady" "DatabaseProvisioning" "Database is provisioning")
  | some result => do
    setupStage ans env result
    let ready := env.markTrue "DatabaseReady" "DatabaseProvisioned" "Database is ready"
    secretStage ans ready result
    migrationStage ans ready

def databaseStage : Step Environment := do
  let (env,result) ← provisionDatabase op ans env
  settleDatabase ans env result

def routingStage : Step Environment :=
  match ans.route with
  | .error e => failStage env "RoutingReady" "RoutingProvisionFailed" e
  | .ok _ => pure (env.markTrue "RoutingReady" "RoutingProvisioned" "Routing is ready")

def blockedEnvVars : List String :=
  ["KUBERNETES_SERVICE_HOST","KUBERNETES_SERVICE_PORT","KUBECONFIG","HOME","PATH","LD_PRELOAD",
    "LD_LIBRARY_PATH","DYLD_INSERT_LIBRARIES","PYTHONPATH","NODE_PATH","RUBYLIB","PERL5LIB",
    "CLASSPATH","GEM_HOME","GOPATH","NODE_OPTIONS","JAVA_TOOL_OPTIONS"]

/-- The first blocked name of a mapping is its error. -/
def validateEnvVarMapping : List (String × String) → Option String
  | [] => none
  | (k,v) :: rest =>
    if k ∈ blockedEnvVars then
      some ("env var key " ++ op.quote k ++ " is restricted and cannot be used in mapping")
    else if v ∈ blockedEnvVars then
      some ("env var " ++ op.quote v ++ " is restricted and cannot be overridden")
    else validateEnvVarMapping rest

/-- One variable added to the ones collected; another value of its name is a collision. -/
def addVar (vars : List (String × String)) (kv : String × String) :
    Except String (List (String × String)) :=
  match vars.lookup kv.1 with
  | none => .ok (vars ++ [kv])
  | some v => if v = kv.2 then .ok vars else .error kv.1

/-- The variables of all routes, route by route and sorted by name; the error is the name of a
collision. -/
def mergeVars (results : List (List (String × String))) : Except String (List (String × String)) :=
  (results.flatMap fun vars => vars.mergeSort fun a b => decide (a.1 ≤ b.1)).foldlM addVar []

/-- The routes with their answers; all are asked, side by side. -/
def asyncAnswers : List (AsyncRouteSpec × Except String (List (String × String))) :=
  env.spec.routing.asyncRoutes.mapIdx fun i route => (route,ans.provisionAsync i route)

/-- The routes that were provisioned, whatever became of the others. -/
def recordAsync : Step Unit :=
  modify (· ++ (asyncAnswers ans env).filterMap fun
    | (route,.ok _) => some (.provisionAsync route.protocol route.target)
    | (_,.error _) => none)

/-- The answers of all routes, or the error of one. -/
def asyncResults : Except String (List (List (String × String))) :=
  (asyncAnswers ans env).mapM fun
    | (_,.ok vars) => .ok vars
    | (route,.error e) =>
      .error ("async provision failed for " ++ route.protocol ++ "/" ++ route.target ++ ": " ++ e)

def asyncNeeded : Bool :=
  env.spec.routing.asyncRoutes != [] && op.asyncProvisioner &&
    !isStatusConditionTrue env.status.conditions "AsyncRoutingReady"

def asyncStage : Step Environment :=
  if asyncNeeded op env then
    match env.spec.routing.asyncRoutes.findSome? fun route =>
        validateEnvVarMapping op route.envVarMapping with
    | some e => stopStage env "AsyncRoutingReady" "EnvVarConflict" e 0
    | none => do
      recordAsync ans env
      match asyncResults ans env with
      | .error e => failStage env "AsyncRoutingReady" "AsyncProvisionFailed" e
      | .ok results =>
        match mergeVars results with
        | .error k =>
          stopStage env "AsyncRoutingReady" "EnvVarConflict"
            ("env var collision for " ++ op.quote k) 0
        | .ok vars =>
          pure ({ env with status := { env.status with asyncEnvVars := vars } }.markTrue
            "AsyncRoutingReady" "AsyncProvisioned"
            (formatInt env.spec.routing.asyncRoutes.length ++ " async routes provisioned"))
  else pure env

/-- A banner that fails does not end the run. -/
def bannerStage : Environment :=
  if env.spec.routing.bannerEnabled then
    match ans.ensureBannerConfigMap with
    | .error e => env.markFalse "BannerReady" "BannerProvisionFailed" e
    | .ok _ => env.markTrue "BannerReady" "BannerProvisioned" "Preview banner ConfigMap is ready"
  else env

def featureProviderName : String :=
  let provider := (env.spec.features.map (·.provider)).getD ""
  if provider = "" then "configmap" else provider

/-- The type of the feature provider that serves an environment. -/
def getFeatureProvider (create : String → Except String Unit) : Except String String :=
  let name := featureProviderName env
  if op.featureProvider = some name then .ok name
  else if op.featureRegistered name then (create name).map fun _ => name
  else
    match op.featureProvider with
    | some provider => .ok provider
    | none => .error ("feature provider " ++ op.quote name ++ " not registered")

def featuresRecorded (features : FeatureSpec) : Bool :=
  isStatusConditionTrue env.status.conditions "FeaturesReady" &&
    (env.status.featureConfigMap != "" || env.status.featureEnvVars != [] ||
      features.overrides == [])

def FeatureResult.store (result : FeatureResult) : Environment :=
  { env with
    status :=
      { env.status with
        featureConfigMap := result.configMapName
        featureEnvVars := result.envVars } }

def featureStage : Step Environment :=
  match env.spec.features with
  | none => pure env
  | some features =>
    if featuresRecorded env features then pure env
    else
      match getFeatureProvider op env ans.createFeatures with
      | .error e => failStage env "FeaturesReady" "FeatureProviderNotFound" e
      | .ok provider =>
        match ans.provisionFeatures with
        | .error e => failStage env "FeaturesReady" "FeatureProvisionFailed" e
        | .ok result => do
          record (.provisionFeatures provider features.overrides)
          let message := (result.map (·.message)).getD ""
          pure ((result.elim env (·.store env)).markTrue "FeaturesReady" "FeaturesProvisioned"
            (if message = "" then "Features ready" else message))

end

def reconcileProvisioning (op : Operator) (ans : Answers) (env : Environment) :
    Step Environment := do
  checkSecretRefs env
  let env ← namespaceStage ans env
  let env ← reconcileNamespaceQuota op ans env
  let env ← databaseStage op ans env
  let env ← routingStage ans env
  let env ← asyncStage op ans env
  featureStage op ans (bannerStage ans env)

end Diverge.Environments
