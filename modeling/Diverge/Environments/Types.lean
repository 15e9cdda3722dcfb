import Diverge.Tasks.Types

/-! Preview environments and preview groups as the API server stores them, with the fields the
controllers read. Times are in nanoseconds since the Unix epoch; the server keeps whole seconds. -/
namespace Diverge.Environments
open Tasks

/-- `time.Duration`, in nanoseconds. -/
abbrev Duration := Int64

/-- `EnvironmentPhase`; `unset` is the empty phase of a new object, and `expired` is a phase that
is read but never written. -/
inductive EnvironmentPhase
  | unset
  | pending
  | deploying
  | migrating
  | running
  | failed
  | terminating
  | expired
  deriving DecidableEq

structure SecretRef where
  name : String
  ns : String := ""
  deriving DecidableEq

structure EnvironmentDeploy where
  ns : String := ""
  changedServices : List String := []
  envFrom : List SecretRef := []
  deriving DecidableEq

structure AsyncRouteSpec where
  protocol : String
  target : String
  envVarMapping : List (String × String) := []
  deriving DecidableEq

structure EnvironmentRouting where
  asyncRoutes : List AsyncRouteSpec := []
  bannerEnabled : Bool := false
  deriving DecidableEq

/-- What the controller reads of `AtlasSpec` and of `MigrationJobSpec`. -/
structure MigrationSpec where
  blocking : Option Bool := none
  deriving DecidableEq

structure EnvironmentDatabase where
  mode : String := ""
  connectionRef : String := ""
  atlas : Option MigrationSpec := none
  migrationJob : Option MigrationSpec := none
  deriving DecidableEq

structure FeatureSpec where
  provider : String := ""
  overrides : List (String × String) := []
  deriving DecidableEq

/-- The resource requests of a service configuration. -/
structure ResourceOverride where
  cpuRequest : String := ""
  memoryRequest : String := ""
  deriving DecidableEq

structure EnvironmentLifecycle where
  ttl : Option Duration := none
  deriving DecidableEq

structure EnvironmentSpec where
  deploy : EnvironmentDeploy := {}
  routing : EnvironmentRouting := {}
  database : EnvironmentDatabase := {}
  lifecycle : EnvironmentLifecycle := {}
  features : Option FeatureSpec := none
  resources : Option ResourceOverride := none
  envFrom : List SecretRef := []
  deriving DecidableEq

structure EnvironmentStatus where
  phase : EnvironmentPhase := .unset
  services : List String := []
  databaseProvider : String := ""
  createdAt : Option ℤ := none
  expiresAt : Option ℤ := none
  conditions : List Condition := []
  asyncEnvVars : List (String × String) := []
  featureConfigMap : String := ""
  featureEnvVars : List (String × String) := []
  deriving DecidableEq

structure Environment where
  name : String
  ns : String
  annotations : List (String × String) := []
  finalizers : List String := []
  creationTimestamp : ℤ := 0
  deletionTimestamp : Option ℤ := none
  spec : EnvironmentSpec := {}
  status : EnvironmentStatus := {}
  deriving DecidableEq

structure PreviewGroupLifecycle where
  ttl : Option Duration := none
  deriving DecidableEq

structure PreviewGroup where
  name : String
  lifecycle : Option PreviewGroupLifecycle := none
  createdAt : Option ℤ := none
  deriving DecidableEq

def environmentFinalizer : String := "divergedev.com/environment-protection"

def annotationHibernated : String := "divergedev.com/hibernated"

def annotationLastTrafficAt : String := "divergedev.com/last-traffic-at"

def annotationDatabaseProvider : String := "divergedev.com/database-provider"

def Environment.annotation (env : Environment) (key : String) : String :=
  (env.annotations.lookup key).getD ""

def Environment.hibernated (env : Environment) : Bool :=
  env.annotation annotationHibernated == "true"

def Environment.deleting (env : Environment) : Bool := env.deletionTimestamp.isSome

def findStatusCondition (conditions : List Condition) (kind : String) : Option Condition :=
  conditions.find? fun c => c.kind == kind

def isStatusConditionTrue (conditions : List Condition) (kind : String) : Bool :=
  (findStatusCondition conditions kind).any fun c => c.status == "True"

lemma findStatusCondition_setCondition_self (conditions : List Condition) (c : Condition) :
    findStatusCondition (Tasks.setCondition conditions c) c.kind = some c := by
  unfold findStatusCondition Tasks.setCondition
  split_ifs with hany
  · induction conditions with
    | nil => cases hany
    | cons d ds ih =>
      by_cases hkind : d.kind = c.kind
      · simp [hkind]
      · rw [List.map_cons,if_neg hkind,List.find?_cons_of_neg (by simpa using hkind)]
        exact ih (by simpa [hkind] using hany)
  · rw [List.find?_append,List.find?_eq_none.mpr]
    · simp
    · simpa using hany

def Environment.setCondition (env : Environment) (c : Condition) : Environment :=
  { env with status := { env.status with conditions := Tasks.setCondition env.status.conditions c } }

def Environment.setPhase (env : Environment) (phase : EnvironmentPhase) : Environment :=
  { env with status := { env.status with phase := phase } }

def conditionBaselineDrift : String := "BaselineDriftDetected"

/-- The loop of `derivePhase`. -/
def phaseOf (allReady : Bool) : List Condition → EnvironmentPhase
  | [] => if allReady then .running else .deploying
  | c :: cs =>
    if c.kind = conditionBaselineDrift then phaseOf allReady cs
    else if c.status = "False" then
      if c.kind = "MigrationReady" ∧ c.reason = "MigrationRunning" then phaseOf false cs else .failed
    else if c.status = "True" then phaseOf allReady cs
    else phaseOf false cs

def derivePhase (conditions : List Condition) : EnvironmentPhase :=
  if conditions = [] then .pending else phaseOf true conditions

end Diverge.Environments
