import Diverge.Environments.Eviction

/-! Rejections by the namespace quota over histories of creations and reconciles: whether an
environment that was admitted is turned away because of environments that never were. -/
namespace Diverge.Environments
open Text Tasks Diverge.Queue Transition

/-- The phase that a reconcile writes after its quota check. -/
inductive PhaseWrite
  | kept
  | migrating
  | failed
  | derived
  deriving DecidableEq

/-- What the stages after the quota check write to the status, with the hibernation of an idle
environment. -/
structure LaterStages where
  conditions : List Condition := []
  phase : PhaseWrite := .derived
  services : List String := []
  databaseProvider : String := ""
  idle : Bool := false
  deriving DecidableEq

def Environment.finish (env : Environment) (later : LaterStages) : Environment :=
  let conditions := (later.conditions.filter (·.kind != conditionQuotaReady)).foldl
    Tasks.setCondition env.status.conditions
  let written :=
    { env with
      status :=
        { env.status with
          conditions := conditions
          phase :=
            match later.phase with
            | .kept => env.status.phase
            | .migrating => .migrating
            | .failed => .failed
            | .derived => derivePhase conditions
          services := later.services
          databaseProvider :=
            if env.status.databaseProvider = "" then later.databaseProvider
            else env.status.databaseProvider } }
  if later.idle then written.hibernate else written

/-- The environments of a namespace, and the names of those that were admitted since they were
created. -/
structure Tenancy where
  items : List Environment
  everAdmitted : List String := []
  deriving DecidableEq

inductive Event
  | create (env : Environment)
  | reconcile (name : String) (later : LaterStages)
  deriving DecidableEq

section
variable (q : Quantities) (limits : QuotaLimits)

/-- A rejected environment ends its reconcile; any other goes through the later stages. -/
def Environment.reconciled (name : String) (d : Decision) (later : LaterStages)
    (item : Environment) : Environment :=
  let decided := item.decided name d
  if item.name = name ∧ d.isRejected = false then decided.finish later else decided

def Tenancy.step (s : Tenancy) : Event → Tenancy
  | .create env =>
    if env.name ∈ s.items.map Environment.name then s
    else { s with items := s.items ++ [{ env with status := {} }] }
  | .reconcile name later =>
    match s.items.find? fun item => item.name == name with
    | none => s
    | some env =>
      let d := quotaDecision q limits env s.items
      { items := s.items.map (Environment.reconciled name d later)
        everAdmitted :=
          match d with
          | .admitted _ => name :: s.everAdmitted
          | _ => s.everAdmitted }

def Tenancy.incumbents (s : Tenancy) : List Environment :=
  s.items.filter fun item => s.everAdmitted.contains item.name

/-- The quota check of an environment among some environments sets `QuotaReady` to `False`. -/
def turnsAway (env : Environment) (items : List Environment) : Bool :=
  (quotaDecision q limits env items).condition.any fun c => c.status == "False"

/-- A reconcile does not turn away an environment that was admitted unless those that were
admitted suffice for it. -/
def SparesIncumbent (s : Tenancy) : Event → Prop
  | .create _ => True
  | .reconcile name _ =>
    ∀ env ∈ s.items.find? (fun item => item.name == name), name ∈ s.everAdmitted →
      turnsAway q limits env s.items = true → turnsAway q limits env s.incumbents = true

/-- The limits hold for an environment and the others that count. -/
structure Fits (env : Environment) (items : List Environment) : Prop where
  cnpg : 0 < limits.maxCNPG → usesCNPGCluster env = true →
    otherCNPGCount env items + 1 ≤ limits.maxCNPG
  active : limits.policy = .reject → 0 < limits.maxActive →
    (otherActive env items).length + 1 ≤ limits.maxActive
  cost : ∀ m, limits.maxHourlyCost = some (.finite m) →
    hourlyUSD q env + (if limits.policy = .reject then
      ((otherActive env items).map (hourlyUSD q)).sum else 0) ≤ m + 1 / 10 ^ 9

/-- At a reconcile of an environment that was admitted and is not hibernated, the limits hold for
all, or they do not even hold for those that were admitted. -/
def RoomOrFull (s : Tenancy) : Event → Prop
  | .create _ => True
  | .reconcile name _ =>
    ∀ env ∈ s.items.find? (fun item => item.name == name), name ∈ s.everAdmitted →
      env.hibernated = false → Fits q limits env s.items ∨ ¬ Fits q limits env s.incumbents

end

section
variable {q : Quantities} {limits : QuotaLimits} {env : Environment} {items : List Environment}

lemma turnsAway_iff : turnsAway q limits env items = true ↔
    (quotaDecision q limits env items).isRejected = true := by
  rw [turnsAway]
  cases quotaDecision q limits env items <;> simp [Decision.condition,Decision.isRejected]

lemma costExceeds_iff (total : ℚ) : costExceeds limits total = true ↔
    ¬ ∀ m, limits.maxHourlyCost = some (.finite m) → total ≤ m + 1 / 10 ^ 9 := by
  rw [costExceeds]
  cases hm : limits.maxHourlyCost with
  | none => simp
  | some n =>
    cases n with
    | finite m =>
      simp only [Option.any_some,Number.lt,decide_eq_true_eq,Option.some.injEq,Number.finite.injEq,
        forall_eq',not_le,lt_sub_iff_add_lt]
    | inf negative =>
      cases negative with
      | false => simp [Number.lt]
      | true => exact absurd (limits.cost_pos _ hm) (by simp [Number.lt])
    | nan => simp [Number.lt]

variable (others : List Environment)

lemma exceedsQuota_isSome_iff : (exceedsQuota q limits env others).isSome = true ↔
      (0 < limits.maxActive ∧ limits.maxActive < others.length + 1) ∨
        costExceeds limits (totalCost q env others) = true := by
  rw [exceedsQuota]
  split_ifs with hactive hcost
  · exact ⟨fun _ => .inl hactive,fun _ => rfl⟩
  · simp only [Option.isSome_some,hcost,or_true]
  · simp only [Option.isSome_none,Bool.false_eq_true,hactive,hcost,or_self]

lemma evict_eq_none_iff : evict (fun rest => (exceedsQuota q limits env rest).isNone) others = none ↔
      costExceeds limits (hourlyUSD q env) = true := by
  have halone : totalCost q env [] = hourlyUSD q env := by simp [totalCost]
  rw [evict_eq_none]
  constructor
  · intro h
    have hnil := h [] List.nil_suffix
    rw [Option.isNone_eq_false_iff,exceedsQuota_isSome_iff,halone] at hnil
    rcases hnil with ⟨hpos,hlt⟩ | hcost
    · exact absurd hlt (not_lt.mpr hpos)
    · exact hcost
  · intro h rest _
    rw [Option.isNone_eq_false_iff,exceedsQuota_isSome_iff]
    refine .inr ?_
    by_contra hc
    have hle : hourlyUSD q env ≤ totalCost q env rest := by
      have hnil := sum_cost_le (q := q) (List.nil_sublist rest)
      rw [totalCost]
      simp only [List.map_nil,List.sum_nil] at hnil
      linarith
    exact absurd h (by rw [costExceeds_mono hle (Bool.not_eq_true _ ▸ hc)]; simp)

lemma makeRoom_of_reject (hp : limits.policy = .reject) (others : List Environment) :
    (makeRoom q limits env others).isRejected = (exceedsQuota q limits env others).isSome := by
  simp only [makeRoom,hp]
  cases exceedsQuota q limits env others <;> rfl

lemma makeRoom_of_hibernateOldest (hp : limits.policy = .hibernateOldest)
    (others : List Environment) : (makeRoom q limits env others).isRejected =
      (evict (fun rest => (exceedsQuota q limits env rest).isNone) others).isNone := by
  simp only [makeRoom,hp]
  cases evict (fun rest => (exceedsQuota q limits env rest).isNone) others <;> rfl

lemma makeRoom_rejected_iff : (makeRoom q limits env others).isRejected = true ↔
      ¬ ((limits.policy = .reject → 0 < limits.maxActive → others.length + 1 ≤ limits.maxActive) ∧
        ∀ m, limits.maxHourlyCost = some (.finite m) →
          hourlyUSD q env + (if limits.policy = .reject then (others.map (hourlyUSD q)).sum else 0) ≤
            m + 1 / 10 ^ 9) := by
  cases hp : limits.policy with
  | reject =>
    rw [makeRoom_of_reject hp,exceedsQuota_isSome_iff,costExceeds_iff,totalCost,
      add_comm (List.sum _)]
    simp only [if_true,forall_true_left,not_and_or,Classical.not_imp,not_le,Nat.lt_succ_iff]
  | hibernateOldest =>
    rw [makeRoom_of_hibernateOldest hp,Option.isNone_iff_eq_none,evict_eq_none_iff,costExceeds_iff]
    simp

theorem turnsAway_iff_not_fits (env : Environment) (items : List Environment) :
    turnsAway q limits env items = true ↔ env.hibernated = false ∧ ¬ Fits q limits env items := by
  rw [turnsAway_iff,quotaDecision]
  by_cases hunset : limits.unset = true
  · rw [if_pos hunset]
    simp only [QuotaLimits.unset,Bool.and_eq_true,beq_iff_eq,Option.isNone_iff_eq_none] at hunset
    obtain ⟨⟨ha,hc⟩,hm⟩ := hunset
    have hfits : Fits q limits env items :=
      ⟨fun h => absurd h (by omega),fun _ h => absurd h (by omega),fun m h => by simp [hm] at h⟩
    simp [Decision.isRejected,hfits]
  rw [if_neg hunset]
  cases hh : env.hibernated with
  | true => simp [Decision.isRejected]
  | false =>
    rw [if_neg Bool.false_ne_true]
    by_cases hc : cnpgExceeded limits env items = true
    · rw [if_pos hc]
      simp only [cnpgExceeded,Bool.and_eq_true,decide_eq_true_eq] at hc
      have hnot : ¬ Fits q limits env items := fun h => by
        have := h.cnpg hc.1.1 hc.1.2
        omega
      simp [Decision.isRejected,hnot]
    · rw [if_neg hc,makeRoom_rejected_iff]
      have hcnpg : 0 < limits.maxCNPG → usesCNPGCluster env = true →
          otherCNPGCount env items + 1 ≤ limits.maxCNPG := by
        intro hpos huses
        by_contra hlt
        exact hc (by simp [cnpgExceeded,hpos,huses]; omega)
      rw [eq_self_iff_true,true_and,not_iff_not]
      exact ⟨fun h => ⟨hcnpg,h.1,h.2⟩,fun h => ⟨h.active,h.cost⟩⟩

/-- Over every history of creations and reconciles, no reconcile of an environment that was
admitted turns it away because of environments that never were, exactly when at each the limits
hold for all or already fail for those that were admitted. -/
theorem incumbents_spared_iff (annotations : List (String × String)) (s : Tenancy)
    (events : List Event) : EveryStep (Tenancy.step q (quotaLimits annotations))
        (SparesIncumbent q (quotaLimits annotations)) s events ↔
      EveryStep (Tenancy.step q (quotaLimits annotations))
        (RoomOrFull q (quotaLimits annotations)) s events := by
  refine everyStep_congr (fun s e => ?_) s events
  cases e with
  | create env => exact Iff.rfl
  | reconcile name later =>
    refine forall₂_congr fun env _ => imp_congr_right fun _ => ?_
    rw [turnsAway_iff_not_fits,turnsAway_iff_not_fits]
    tauto

end

def incumbent : Environment where
  name := "web"
  ns := "team"
  status :=
    { phase := .running
      conditions := ((Decision.admitted []).condition).toList }

def oneOrReject : List (String × String) :=
  [("divergedev.com/max-active-environments","1"),("divergedev.com/quota-exceed-policy","reject")]

/-- A newcomer is created, and the next reconcile of the admitted environment turns it away. -/
theorem newcomer_evicts_incumbent : incumbent.admitted = true ∧
    ¬ EveryStep (Tenancy.step noQuantities (quotaLimits oneOrReject))
      (SparesIncumbent noQuantities (quotaLimits oneOrReject)) ⟨[incumbent],["web"]⟩
      [.create { name := "api", ns := "team" },.reconcile "web" {}] := by
  refine ⟨by decide,fun h => ?_⟩
  have hweb := h.2.1 incumbent (by decide +kernel) (by decide) (by decide +kernel)
  exact absurd hweb (by decide +kernel)

end Diverge.Environments
