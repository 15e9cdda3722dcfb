import Diverge.Environments.Types
import Diverge.Queue.Eviction
import Diverge.Text.Decimal
import Diverge.Text.Strings
import Diverge.Text.Times

/-! The namespace quota: the limits in the annotations of a namespace, what counts against them,
and the decision of `reconcileNamespaceQuota` about one environment. Costs are exact. -/
namespace Diverge.Environments
open Text Tasks Diverge.Queue

/-- `hibernate-oldest` is the policy unless another is named. -/
inductive QuotaPolicy
  | hibernateOldest
  | reject
  deriving DecidableEq

/-- The limits of a namespace; a count of zero is no limit, and a limit on the cost is positive. -/
structure QuotaLimits where
  maxActive : ℕ := 0
  maxCNPG : ℕ := 0
  maxHourlyCost : Option Number := none
  policy : QuotaPolicy := .hibernateOldest
  cost_pos : ∀ n ∈ maxHourlyCost, Number.lt (.finite 0) n = true := by simp
  deriving DecidableEq

def readLimit (raw : String) : ℕ := ((parseInt (trimSpace raw)).getD 0).toNat

def readCostLimit (raw : String) : Option Number :=
  (parseFloat (trimPrefix (trimSpace raw) "$")).filter (Number.lt (.finite 0))

def readPolicy (raw : String) : QuotaPolicy :=
  if toLower (trimSpace raw) = "reject" then .reject else .hibernateOldest

/-- The limits in the annotations of a namespace. -/
def quotaLimits (annotations : List (String × String)) : QuotaLimits :=
  let annotation key := (annotations.lookup key).getD ""
  { maxActive := readLimit ( annotation "divergedev.com/max-active-environments")
    maxCNPG := readLimit ( annotation "divergedev.com/max-cnpg-clusters")
    maxHourlyCost := readCostLimit ( annotation "divergedev.com/max-hourly-cost-usd")
    policy := readPolicy ( annotation "divergedev.com/quota-exceed-policy")
    cost_pos := fun _ hn => (Option.filter_eq_some_iff.mp hn).2 }

def QuotaLimits.unset (limits : QuotaLimits) : Bool :=
  limits.maxActive == 0 && limits.maxCNPG == 0 && limits.maxHourlyCost.isNone

/-- A database mode or provider that runs on a cluster of its own. -/
def isCNPG (name : String) : Bool := ["cnpg","fresh","snapshot"].contains (toLower (trimSpace name))

def usesCNPGCluster (env : Environment) : Bool :=
  isCNPG env.spec.database.mode || isCNPG ( env.annotation annotationDatabaseProvider) ||
    isCNPG env.status.databaseProvider

@[irreducible] def environmentLRUTimestamp (env : Environment) : ℤ :=
  match parseRFC3339 (trimSpace ( env.annotation annotationLastTrafficAt)) with
  | some t => t
  | none =>
    if env.creationTimestamp ≠ zeroTime then env.creationTimestamp
    else env.status.createdAt.getD zeroTime

/-- What `resource.ParseQuantity` makes of a CPU request, in cores, and of a memory request, in
bytes. -/
structure Quantities where
  cores : String → Option ℚ
  bytes : String → Option ℤ

def noQuantities : Quantities := ⟨fun _ => none,fun _ => none⟩

section
variable (q : Quantities)

section
variable (spec : EnvironmentSpec)

/-- The request of a resource, where there is one and it is positive. -/
def requested (field : ResourceOverride → String) (amount : String → Option ℚ) (default : ℚ) : ℚ :=
  match spec.resources.map field with
  | none => default
  | some raw => if raw = "" then default else ((amount raw).filter (0 < ·)).getD default

def cpuCores : ℚ := requested spec ResourceOverride.cpuRequest q.cores (1 / 4)

def memoryGiB : ℚ :=
  requested spec ResourceOverride.memoryRequest
    (fun raw => (q.bytes raw).map fun (b : ℤ) => (b : ℚ) / 1024 ^ 3) (1 / 2)

/-- The price of a number of services and their database, by the default rate card. -/
def hourlyPrice (services : ℕ) : ℚ :=
  (max 1 (max spec.deploy.changedServices.length services) : ℕ) *
      (cpuCores q spec * (4 / 100) + memoryGiB q spec * (4 / 1000)) +
    if spec.database.mode ≠ "" ∧ spec.database.mode ≠ "none" then 1 / 100 else 0

end

variable (env : Environment)

def activeHourlyUSD : ℚ := hourlyPrice q env.spec env.status.services.length

/-- `EstimateEnvironmentCost(env, now, DefaultCostRateCard()).HourlyUSD`. -/
def hourlyUSD : ℚ :=
  if activeHourlyUSD q env < 0 ∨ env.hibernated = true then 0 else activeHourlyUSD q env

lemma hourlyUSD_nonneg : 0 ≤ hourlyUSD q env := by
  rw [hourlyUSD]
  split_ifs with h
  · exact le_refl 0
  · exact not_lt.mp fun hlt => h (.inl hlt)

end

/-- The phases and deletions that take an environment out of every count. -/
def counts (env : Environment) : Bool :=
  !env.deleting && !([.failed,.expired,.terminating].contains env.status.phase)

def countedOthers (env : Environment) (items : List Environment) : List Environment :=
  items.filter fun item => item.name != env.name && counts item

def otherCNPGCount (env : Environment) (items : List Environment) : ℕ :=
  (countedOthers env items).countP usesCNPGCluster

/-- Least recently used first, then by name. -/
def usedBefore (x y : Environment) : Bool :=
  decide (environmentLRUTimestamp x < environmentLRUTimestamp y) ||
    decide (environmentLRUTimestamp x = environmentLRUTimestamp y) && decide (x.name ≤ y.name)

def otherActive (env : Environment) (items : List Environment) : List Environment :=
  ((countedOthers env items).filter fun item => !item.hibernated).mergeSort usedBefore

section
variable (q : Quantities) (limits : QuotaLimits)

/-- The total cost is above the limit, with the tolerance of the code. -/
def costExceeds (total : ℚ) : Bool :=
  limits.maxHourlyCost.any fun n => Number.lt n (.finite (total - 1 / 10 ^ 9))

def totalCost (env : Environment) (others : List Environment) : ℚ :=
  (others.map (hourlyUSD q)).sum + hourlyUSD q env

def exceedsQuota (env : Environment) (others : List Environment) : Option String :=
  if 0 < limits.maxActive ∧ limits.maxActive < others.length + 1 then
    some ("namespace " ++ env.ns ++ " quota exceeded: active environments " ++
      formatInt (others.length + 1) ++ " exceeds max-active-environments=" ++
      formatInt limits.maxActive)
  else if costExceeds limits (totalCost q env others) then
    some ("namespace " ++ env.ns ++ " quota exceeded: hourly cost $" ++
      formatFixed .halfEven 3 (totalCost q env others) ++ "/hr exceeds max-hourly-cost-usd=$" ++
      (match limits.maxHourlyCost with
        | some (.finite m) => formatFixed .halfEven 3 m
        | _ => "+Inf") ++ "/hr")
  else none

/-- What the quota check comes to. -/
inductive Decision
  /-- No limit is set. -/
  | skipped
  | hibernated
  | rejected (reason message : String)
  /-- The environment is within the quota once the victims hibernate. -/
  | admitted (victims : List Environment)
  deriving DecidableEq

def quotaExceeded (message : String) : Decision := .rejected "NamespaceQuotaExceeded" message

def makeRoom (env : Environment) (others : List Environment) : Decision :=
  match limits.policy with
  | .reject =>
    match exceedsQuota q limits env others with
    | some message => quotaExceeded message
    | none => .admitted []
  | .hibernateOldest =>
    match evict (fun rest => (exceedsQuota q limits env rest).isNone) others with
    | some r => .admitted r.1
    | none => quotaExceeded ((exceedsQuota q limits env []).getD "")

def cnpgExceeded (env : Environment) (items : List Environment) : Bool :=
  decide (0 < limits.maxCNPG) && usesCNPGCluster env &&
    decide (limits.maxCNPG < otherCNPGCount env items + 1)

/-- The decision of `reconcileNamespaceQuota` about an environment, given the list of its
namespace. -/
def quotaDecision (env : Environment) (items : List Environment) : Decision :=
  if limits.unset then .skipped
  else if env.hibernated then .hibernated
  else if cnpgExceeded limits env items then
    .rejected "MaxCNPGClustersExceeded" ("namespace " ++ env.ns ++
      " quota exceeded: max-cnpg-clusters=" ++ formatInt limits.maxCNPG)
  else makeRoom q limits env (otherActive env items)

end

def conditionQuotaReady : String := "QuotaReady"

def Decision.condition : Decision → Option Condition
  | .skipped => none
  | .hibernated => some ⟨conditionQuotaReady,"True","Hibernated","Environment is hibernated"⟩
  | .rejected reason message => some ⟨conditionQuotaReady,"False",reason,message⟩
  | .admitted _ => some ⟨conditionQuotaReady,"True","WithinQuota",
      "Namespace FinOps and concurrency quotas satisfied"⟩

def Decision.isRejected : Decision → Bool
  | .rejected _ _ => true
  | _ => false

def Decision.victims : Decision → List Environment
  | .admitted victims => victims
  | _ => []

/-- The environment after its quota check; a rejected one gets its phase at once. -/
def Environment.afterQuota (env : Environment) (d : Decision) : Environment :=
  let checked := d.condition.elim env env.setCondition
  if d.isRejected then checked.setPhase (derivePhase checked.status.conditions) else checked

/-- The patch of `hibernateEnvironment`. -/
def Environment.hibernate (env : Environment) : Environment :=
  { env with annotations := editAnnotation env.annotations (annotationHibernated,some "true") }

/-- `QuotaReady` is `True` for the reason `WithinQuota`. -/
def Environment.admitted (env : Environment) : Bool :=
  (findStatusCondition env.status.conditions conditionQuotaReady).any fun c =>
    c.status == "True" && c.reason == "WithinQuota"

section
variable (annotations : List (String × String))

lemma lookup_filter_ne {key edited : String} (h : key ≠ edited) :
    (annotations.filter fun a => a.1 != edited).lookup key = annotations.lookup key := by
  induction annotations with
  | nil => rfl
  | cons a rest ih =>
    obtain ⟨k,v⟩ := a
    by_cases hk : k = edited
    · subst hk
      rw [List.filter_cons_of_neg (by simp),ih,List.lookup_cons,beq_eq_false_iff_ne.mpr h]
    · rw [List.filter_cons_of_pos (by simpa using hk),List.lookup_cons,List.lookup_cons,ih]

lemma lookup_filter_self (edited : String) :
    (annotations.filter fun a => a.1 != edited).lookup edited = none := by
  rw [List.lookup_eq_none_iff]
  intro a ha
  have hne := (List.mem_filter.mp ha).2
  rwa [bne_comm] at hne

variable (env : Environment)

@[simp] lemma hibernate_name : env.hibernate.name = env.name := rfl
@[simp] lemma hibernate_status : env.hibernate.status = env.status := rfl
@[simp] lemma hibernate_spec : env.hibernate.spec = env.spec := rfl
@[simp] lemma hibernate_creationTimestamp : env.hibernate.creationTimestamp = env.creationTimestamp := rfl
@[simp] lemma hibernate_deleting : env.hibernate.deleting = env.deleting := rfl

lemma hibernate_annotation {key : String} (h : key ≠ annotationHibernated) :
    env.hibernate.annotation key = env.annotation key := by
  simp only [ Environment.annotation,Environment.hibernate, editAnnotation,List.lookup_append,
    lookup_filter_ne _ h]
  simp [List.lookup_cons,beq_eq_false_iff_ne.mpr h]

@[simp] lemma hibernate_hibernated : env.hibernate.hibernated = true := by
  simp [Environment.hibernated, Environment.annotation,Environment.hibernate, editAnnotation,
    List.lookup_append,lookup_filter_self]

@[simp] lemma hibernate_counts : counts env.hibernate = counts env := rfl

@[simp] lemma hibernate_usesCNPGCluster : usesCNPGCluster env.hibernate = usesCNPGCluster env := by
  rw [usesCNPGCluster,usesCNPGCluster, hibernate_annotation env (by decide),hibernate_spec,
    hibernate_status]

@[simp] lemma hibernate_lru : environmentLRUTimestamp env.hibernate = environmentLRUTimestamp env := by
  rw [environmentLRUTimestamp,environmentLRUTimestamp, hibernate_annotation env (by decide),
    hibernate_status,hibernate_creationTimestamp]

@[simp] lemma hibernate_activeHourlyUSD (q : Quantities) :
    activeHourlyUSD q env.hibernate = activeHourlyUSD q env := by
  rw [activeHourlyUSD,hibernate_spec,hibernate_status,← activeHourlyUSD]

end

variable (env : Environment) (d : Decision)

lemma afterQuota_eq : ∃ conditions phase, env.afterQuota d =
      { env with status := { env.status with conditions := conditions, phase := phase } } := by
  rw [Environment.afterQuota]
  cases d.condition <;> split_ifs <;> exact ⟨_,_,rfl⟩

lemma afterQuota_phase (h : d.isRejected = false) : (env.afterQuota d).status.phase = env.status.phase := by
  rw [Environment.afterQuota,h]
  cases d.condition <;> rfl

@[simp] lemma afterQuota_name : (env.afterQuota d).name = env.name := by
  obtain ⟨cs,p,h⟩ := afterQuota_eq env d
  rw [h]

@[simp] lemma afterQuota_hibernated : (env.afterQuota d).hibernated = env.hibernated := by
  obtain ⟨cs,p,h⟩ := afterQuota_eq env d
  rw [h]
  rfl

@[simp] lemma afterQuota_usesCNPGCluster : usesCNPGCluster (env.afterQuota d) = usesCNPGCluster env := by
  obtain ⟨cs,p,h⟩ := afterQuota_eq env d
  simp only [h,usesCNPGCluster, Environment.annotation]

@[simp] lemma afterQuota_lru : environmentLRUTimestamp (env.afterQuota d) = environmentLRUTimestamp env := by
  obtain ⟨cs,p,h⟩ := afterQuota_eq env d
  simp only [h,environmentLRUTimestamp, Environment.annotation]

@[simp] lemma afterQuota_activeHourlyUSD (q : Quantities) :
    activeHourlyUSD q (env.afterQuota d) = activeHourlyUSD q env := by
  obtain ⟨cs,p,h⟩ := afterQuota_eq env d
  simp only [h,activeHourlyUSD]

lemma afterQuota_counts (h : d.isRejected = false) : counts (env.afterQuota d) = counts env := by
  have hphase := afterQuota_phase env d h
  obtain ⟨cs,p,he⟩ := afterQuota_eq env d
  rw [counts,counts,hphase,he]
  rfl

end Diverge.Environments
