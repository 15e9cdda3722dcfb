import Diverge.Environments.Quota
import Diverge.Transition.Runs

/-! Quota reconciles under the policy `hibernate-oldest`, in any order: who is left active. -/
namespace Diverge.Environments
open Text Diverge.Queue Transition

/-- What a decision about the environment of a name makes of each environment: that one gets its
condition, and the victims hibernate. -/
def Environment.decided (name : String) (d : Decision) (item : Environment) : Environment :=
  if item.name = name then item.afterQuota d
  else if item.name ∈ d.victims.map Environment.name then item.hibernate
  else item

/-- A quota reconcile of one environment. -/
def quotaReconcile (q : Quantities) (limits : QuotaLimits) (items : List Environment)
    (name : String) : List Environment :=
  match items.find? fun item => item.name == name with
  | none => items
  | some env => items.map (Environment.decided name (quotaDecision q limits env items))

def isActive (env : Environment) : Bool := counts env && !env.hibernated

def active (items : List Environment) : List Environment := items.filter isActive

def activeNames (items : List Environment) : List String := (active items).map Environment.name

/-- The members with fewer than `m` members used after them. -/
def mostRecent (m : ℕ) (envs : List Environment) : List Environment :=
  envs.filter fun x =>
    envs.countP (fun y => environmentLRUTimestamp x < environmentLRUTimestamp y) < m

/-- The limit on active environments decides: the policy hibernates the oldest, and the other limits
hold with room for everyone. -/
structure Contest (q : Quantities) (limits : QuotaLimits) (items : List Environment) : Prop where
  limit : 1 ≤ limits.maxActive
  policy : limits.policy = .hibernateOldest
  names : (items.map Environment.name).Nodup
  times : ((active items).map environmentLRUTimestamp).Nodup
  cnpg : ∀ env ∈ active items, cnpgExceeded limits env items = false
  cost : costExceeds limits ((active items).map (hourlyUSD q)).sum = false

def Settled (q : Quantities) (limits : QuotaLimits) (items : List Environment) : Prop :=
  ∀ env ∈ active items, (quotaDecision q limits env items).victims = []

lemma usedBefore_trans (x y z : Environment) (hxy : usedBefore x y = true)
    (hyz : usedBefore y z = true) : usedBefore x z = true := by
  simp only [usedBefore,Bool.or_eq_true,Bool.and_eq_true,decide_eq_true_eq] at *
  rcases hxy with hxy | ⟨hxy,hn⟩ <;> rcases hyz with hyz | ⟨hyz,hn'⟩
  · exact .inl (hxy.trans hyz)
  · exact .inl (hyz ▸ hxy)
  · exact .inl (hxy ▸ hyz)
  · exact .inr ⟨hxy.trans hyz,hn.trans hn'⟩

lemma usedBefore_total (x y : Environment) : (usedBefore x y || usedBefore y x) = true := by
  simp only [usedBefore,Bool.or_eq_true,Bool.and_eq_true,decide_eq_true_eq]
  rcases lt_trichotomy (environmentLRUTimestamp x) (environmentLRUTimestamp y) with h | h | h
  · exact .inl (.inl h)
  · rcases le_total x.name y.name with hn | hn
    · exact .inl (.inr ⟨h,hn⟩)
    · exact .inr (.inr ⟨h.symm,hn⟩)
  · exact .inr (.inl h)

section
variable {env : Environment} {items : List Environment}

lemma mem_active : env ∈ active items ↔ env ∈ items ∧ counts env = true ∧ env.hibernated = false := by
  simp [active,isActive]

lemma otherActive_perm (env : Environment) (items : List Environment) :
    (otherActive env items).Perm ((active items).filter fun item => item.name != env.name) := by
  refine (List.mergeSort_perm _ _).trans (List.Perm.of_eq ?_)
  rw [countedOthers,active,List.filter_filter,List.filter_filter]
  refine List.filter_congr fun x _ => ?_
  simp only [isActive]
  cases counts x <;> cases x.hibernated <;> simp

lemma active_perm (hnames : (items.map Environment.name).Nodup) (henv : env ∈ active items) :
    (active items).Perm (env :: otherActive env items) := by
  have hnd : ((active items).map Environment.name).Nodup :=
    hnames.sublist (List.filter_sublist.map _)
  obtain ⟨xs,ys,hxy⟩ := List.append_of_mem henv
  have hother : ∀ x ∈ xs ++ ys, x.name ≠ env.name := by
    intro x hx hname
    rw [hxy,List.map_append,List.map_cons,List.nodup_middle,List.nodup_cons] at hnd
    rw [← List.map_append] at hnd
    exact hnd.1 (List.mem_map.mpr ⟨x,hx,hname⟩)
  have hfilter : ((active items).filter fun item => item.name != env.name) = xs ++ ys := by
    rw [hxy,List.filter_append,List.filter_cons_of_neg (by simp),← List.filter_append]
    exact List.filter_eq_self.mpr fun x hx => by simpa using hother x hx
  have hperm := otherActive_perm env items
  rw [hfilter] at hperm
  rw [hxy]
  exact List.perm_middle.trans (hperm.symm.cons env)

lemma otherActive_sorted (hnames : (items.map Environment.name).Nodup)
    (htimes : ((active items).map environmentLRUTimestamp).Nodup) (henv : env ∈ active items) :
    (otherActive env items).Pairwise fun x y => environmentLRUTimestamp x < environmentLRUTimestamp y := by
  have hperm := active_perm hnames henv
  have hnd : ((otherActive env items).map environmentLRUTimestamp).Nodup :=
    ((hperm.map environmentLRUTimestamp).nodup_iff.mp htimes).of_cons
  have hsorted : (otherActive env items).Pairwise fun x y => usedBefore x y = true :=
    List.pairwise_mergeSort usedBefore_trans usedBefore_total _
  rw [List.nodup_iff_pairwise_ne,List.pairwise_map] at hnd
  refine (hsorted.and hnd).imp ?_
  rintro x y ⟨hle,hne⟩
  simp only [usedBefore,Bool.or_eq_true,Bool.and_eq_true,decide_eq_true_eq] at hle
  rcases hle with hlt | ⟨heq,-⟩
  · exact hlt
  · exact absurd heq hne

end

section
variable {name : String} {d : Decision} (item : Environment)

@[simp] lemma decided_name : (item.decided name d).name = item.name := by
  rw [Environment.decided]
  split_ifs <;> simp

lemma decided_counts (hd : d.isRejected = false) : counts (item.decided name d) = counts item := by
  rw [Environment.decided]
  split_ifs <;> simp [afterQuota_counts _ _ hd]

@[simp] lemma decided_usesCNPGCluster : usesCNPGCluster (item.decided name d) = usesCNPGCluster item := by
  rw [Environment.decided]
  split_ifs <;> simp

@[simp] lemma decided_lru : environmentLRUTimestamp (item.decided name d) = environmentLRUTimestamp item := by
  rw [Environment.decided]
  split_ifs <;> simp

@[simp] lemma decided_activeHourlyUSD (q : Quantities) :
    activeHourlyUSD q (item.decided name d) = activeHourlyUSD q item := by
  rw [Environment.decided]
  split_ifs <;> simp

def evicts (name : String) (d : Decision) (n : String) : Bool :=
  n != name && (d.victims.map Environment.name).contains n

lemma decided_hibernated :
    (item.decided name d).hibernated = (item.hibernated || evicts name d item.name) := by
  rw [Environment.decided,evicts]
  split_ifs with hname hvictim
  · simp [hname]
  · simp [hname,hvictim]
  · simp [hvictim]

lemma decided_active (hd : d.isRejected = false) :
    isActive (item.decided name d) = (isActive item && !evicts name d item.name) := by
  rw [isActive,isActive,decided_counts item hd,decided_hibernated]
  cases counts item <;> cases item.hibernated <;> simp

lemma active_decided (hd : d.isRejected = false) (items : List Environment) :
    active (items.map (Environment.decided name d)) =
      ((active items).filter fun item => !evicts name d item.name).map
        (Environment.decided name d) := by
  rw [active,List.filter_map,active,List.filter_filter]
  congr 1
  refine List.filter_congr fun item _ => ?_
  rw [Function.comp_apply,decided_active item hd,Bool.and_comm]

lemma activeNames_decided (hd : d.isRejected = false) (items : List Environment) :
    activeNames (items.map (Environment.decided name d)) =
      (activeNames items).filter fun n => !evicts name d n := by
  rw [activeNames,active_decided hd,activeNames,List.filter_map,List.map_map]
  exact List.map_congr_left fun item _ => decided_name item

variable {q : Quantities} {limits : QuotaLimits} {items : List Environment} {env : Environment}

lemma costExceeds_mono {a b : ℚ} (hab : a ≤ b) (h : costExceeds limits b = false) :
    costExceeds limits a = false := by
  rw [costExceeds] at h ⊢
  cases hm : limits.maxHourlyCost with
  | none => rfl
  | some n =>
    rw [hm] at h
    cases n with
    | finite m =>
      simp only [Option.any_some,Number.lt,decide_eq_false_iff_not,not_lt] at h ⊢
      linarith
    | inf negative => exact h
    | nan => rfl

lemma sum_cost_le {xs ys : List Environment} (h : xs.Sublist ys) :
    (xs.map (hourlyUSD q)).sum ≤ (ys.map (hourlyUSD q)).sum := by
  refine (h.map _).sum_le_sum fun c hc => ?_
  obtain ⟨x,-,rfl⟩ := List.mem_map.mp hc
  exact hourlyUSD_nonneg q x

theorem Contest.decision (hc : Contest q limits items) (henv : env ∈ active items) :
    quotaDecision q limits env items =
      .admitted ((otherActive env items).take ((active items).length - limits.maxActive)) := by
  have hpos := hc.limit
  have hperm := active_perm hc.names henv
  have hlen : (active items).length = (otherActive env items).length + 1 := hperm.length_eq
  have hunset : limits.unset = false := by
    rw [QuotaLimits.unset,beq_eq_false_iff_ne.mpr (by omega)]
    rfl
  have hfits : ∀ rest, rest <:+ otherActive env items →
      ((exceedsQuota q limits env rest).isNone = true ↔ rest.length ≤ limits.maxActive - 1) := by
    intro rest hrest
    have hsum : totalCost q env rest ≤ ((active items).map (hourlyUSD q)).sum := by
      rw [totalCost,(hperm.map (hourlyUSD q)).sum_eq,List.map_cons,List.sum_cons,add_comm]
      exact add_le_add_right (sum_cost_le hrest.sublist) _
    by_cases h : 0 < limits.maxActive ∧ limits.maxActive < rest.length + 1
    · rw [exceedsQuota,if_pos h]
      simp only [Option.isNone_some,Bool.false_eq_true,false_iff]
      omega
    · rw [exceedsQuota,if_neg h,costExceeds_mono hsum hc.cost,if_neg Bool.false_ne_true]
      simp only [Option.isNone_none,true_iff]
      omega
  rw [quotaDecision,hunset,(mem_active.mp henv).2.2,hc.cnpg env henv]
  simp only [Bool.false_eq_true,if_false,makeRoom,hc.policy]
  rw [evict_of_length hfits,hlen]
  have hsub : (otherActive env items).length - (limits.maxActive - 1) =
      (otherActive env items).length + 1 - limits.maxActive := by omega
  rw [hsub]

lemma otherCNPGCount_decided (hd : d.isRejected = false) (env : Environment) (items : List Environment) :
    otherCNPGCount (env.decided name d) (items.map (Environment.decided name d)) =
      otherCNPGCount env items := by
  rw [otherCNPGCount,otherCNPGCount,countedOthers,List.filter_map,List.countP_map,countedOthers]
  have hp : (fun item => item.name != (env.decided name d).name && counts item) ∘
      Environment.decided name d = fun item => item.name != env.name && counts item := by
    funext item
    simp [decided_counts item hd]
  have hq : usesCNPGCluster ∘ Environment.decided name d = usesCNPGCluster := by
    funext item
    rw [Function.comp_apply,decided_usesCNPGCluster]
  rw [hp,hq]

lemma Contest.decided (hc : Contest q limits items) (hd : d.isRejected = false) :
    Contest q limits (items.map (Environment.decided name d)) where
  limit := hc.limit
  policy := hc.policy
  names := by
    rw [List.map_map]
    exact (List.map_congr_left (fun item _ => decided_name item) ▸ hc.names :)
  times := by
    rw [active_decided hd,List.map_map]
    have heq : environmentLRUTimestamp ∘ Environment.decided name d = environmentLRUTimestamp := by
      funext item
      simp
    rw [heq]
    exact hc.times.sublist (List.filter_sublist.map _)
  cnpg := by
    intro env' henv'
    rw [active_decided hd] at henv'
    obtain ⟨x,hx,rfl⟩ := List.mem_map.mp henv'
    have hold := hc.cnpg x (List.mem_filter.mp hx).1
    rwa [cnpgExceeded,decided_usesCNPGCluster,otherCNPGCount_decided hd,← cnpgExceeded]
  cost := by
    refine costExceeds_mono ?_ hc.cost
    rw [active_decided hd,List.map_map]
    have heq : ∀ x ∈ (active items).filter fun item => !evicts name d item.name,
        (hourlyUSD q ∘ Environment.decided name d) x = hourlyUSD q x := by
      intro x hx
      obtain ⟨hx,hev⟩ := List.mem_filter.mp hx
      have hnot : (x.decided name d).hibernated = x.hibernated := by
        rw [decided_hibernated,(Bool.not_eq_true' _).mp hev,Bool.or_false]
      rw [Function.comp_apply,hourlyUSD,hourlyUSD,hnot,decided_activeHourlyUSD]
    rw [List.map_congr_left heq]
    exact sum_cost_le List.filter_sublist

lemma quotaReconcile_eq (hnames : (items.map Environment.name).Nodup) (henv : env ∈ items) :
    quotaReconcile q limits items env.name =
      items.map (Environment.decided env.name (quotaDecision q limits env items)) := by
  have hfind : (items.find? fun item => item.name == env.name) = some env := by
    cases h : items.find? fun item => item.name == env.name with
    | none => exact absurd (List.find?_eq_none.mp h env henv) (by simp)
    | some x =>
      have hx : x.name = env.name := by simpa using List.find?_some h
      rw [List.inj_on_of_nodup_map hnames (List.mem_of_find?_eq_some h) henv hx]
  rw [quotaReconcile,hfind]

lemma Contest.hibernated_decision (hc : Contest q limits items) (hh : env.hibernated = true) :
    quotaDecision q limits env items = .hibernated := by
  have hpos := hc.limit
  rw [quotaDecision,QuotaLimits.unset,beq_eq_false_iff_ne.mpr (by omega),hh]
  rfl

lemma Contest.decision_spec (hc : Contest q limits items) (henv : env ∈ items)
    (hcounts : counts env = true) : (quotaDecision q limits env items).isRejected = false ∧
      ((active items).length ≤ limits.maxActive →
        (quotaDecision q limits env items).victims = []) := by
  cases hh : env.hibernated with
  | true => rw [hc.hibernated_decision hh]; exact ⟨rfl,fun _ => rfl⟩
  | false =>
    rw [hc.decision (mem_active.mpr ⟨henv,hcounts,hh⟩)]
    refine ⟨rfl,fun hle => ?_⟩
    rw [Nat.sub_eq_zero_of_le hle]
    rfl

def Tracked (items : List Environment) (order : List String) : Prop :=
  ∀ n ∈ order, ∃ env ∈ items, env.name = n ∧ counts env = true

section
variable (hc : Contest q limits items)
include hc

lemma Contest.tracked (henv : env ∈ items)
    (hcounts : counts env = true) {order : List String} (ht : Tracked items order) :
    Tracked (quotaReconcile q limits items env.name) order := by
  intro n hn
  obtain ⟨x,hx,rfl,hxc⟩ := ht n hn
  rw [quotaReconcile_eq hc.names henv]
  refine ⟨_,List.mem_map_of_mem hx,decided_name x,?_⟩
  rw [decided_counts x (hc.decision_spec henv hcounts).1,hxc]

lemma Contest.step (henv : env ∈ items)
    (hcounts : counts env = true) : Contest q limits (quotaReconcile q limits items env.name) := by
  rw [quotaReconcile_eq hc.names henv]
  exact hc.decided (hc.decision_spec henv hcounts).1

lemma Contest.step_within (henv : env ∈ items)
    (hcounts : counts env = true) (hle : (active items).length ≤ limits.maxActive) :
    activeNames (quotaReconcile q limits items env.name) = activeNames items := by
  obtain ⟨hrej,hvict⟩ := hc.decision_spec henv hcounts
  rw [quotaReconcile_eq hc.names henv,activeNames_decided hrej]
  refine List.filter_eq_self.mpr fun n _ => ?_
  rw [evicts,hvict hle]
  simp

lemma Contest.step_surplus (henv : env ∈ active items) :
    (activeNames (quotaReconcile q limits items env.name)).Perm (env.name :: ((otherActive env items).drop
        ((active items).length - limits.maxActive)).map Environment.name) := by
  obtain ⟨hmem,hcounts,-⟩ := mem_active.mp henv
  have hperm := (active_perm hc.names henv).map Environment.name
  have hnd : (env.name :: (otherActive env items).map Environment.name).Nodup :=
    hperm.nodup_iff.mp (hc.names.sublist (List.filter_sublist.map _))
  rw [quotaReconcile_eq hc.names hmem,activeNames_decided (hc.decision_spec hmem hcounts).1,
    hc.decision henv]
  generalize (active items).length - limits.maxActive = k
  refine (hperm.filter _).trans (List.Perm.of_eq ?_)
  rw [List.map_cons,List.filter_cons_of_pos (by simp [evicts])]
  congr 1
  have hsplit := congrArg (List.map Environment.name) (List.take_append_drop k (otherActive env items))
  rw [← hsplit] at hnd ⊢
  obtain ⟨hne,hnd⟩ := List.nodup_cons.mp hnd
  rw [List.map_append] at hne hnd ⊢
  rw [List.filter_append]
  have hgone : ((((otherActive env items).take k).map Environment.name).filter fun n =>
      !evicts env.name (.admitted ((otherActive env items).take k)) n) = [] := by
    refine List.filter_eq_nil_iff.mpr fun n hn => ?_
    have hnn : n ≠ env.name := fun h => hne (List.mem_append_left _ (h ▸ hn))
    simpa [evicts,Decision.victims,hnn] using hn
  have hstay : ((((otherActive env items).drop k).map Environment.name).filter fun n =>
      !evicts env.name (.admitted ((otherActive env items).take k)) n) =
      ((otherActive env items).drop k).map Environment.name := by
    refine List.filter_eq_self.mpr fun n hn => ?_
    have hnt : n ∉ ((otherActive env items).take k).map Environment.name :=
      fun h => (List.disjoint_of_nodup_append hnd) h hn
    rw [evicts,Decision.victims,List.contains_eq_mem,decide_eq_false hnt,Bool.and_false]
    rfl
  rw [hgone,hstay,List.nil_append]

end

variable {m : ℕ} {xs : List Environment} {x : Environment}

lemma mem_mostRecent : x ∈ mostRecent m xs ↔ x ∈ xs ∧
      xs.countP (fun y => environmentLRUTimestamp x < environmentLRUTimestamp y) < m := by
  rw [mostRecent,List.mem_filter,decide_eq_true_eq]

lemma mostRecent_of_length (h : xs.length ≤ m) : mostRecent m xs = xs := by
  refine List.filter_eq_self.mpr fun x hx => decide_eq_true ?_
  have hlt := countP_lt_countP (r := fun _ => true)
    (p := fun y => decide (environmentLRUTimestamp x < environmentLRUTimestamp y))
    (fun _ _ => rfl) hx (by simp) rfl
  rw [List.countP_true] at hlt
  omega

lemma mem_drop_iff_mostRecent (hc : Contest q limits items) (henv : env ∈ active items)
    (hsurplus : limits.maxActive < (active items).length)
    (hrecent : env ∈ mostRecent limits.maxActive (active items)) (hx : x ∈ otherActive env items) :
    x ∈ (otherActive env items).drop ((active items).length - limits.maxActive) ↔
      x ∈ mostRecent limits.maxActive (active items) := by
  have hperm := active_perm hc.names henv
  have hlen : (active items).length = (otherActive env items).length + 1 := hperm.length_eq
  have hpos := hc.limit
  have hxa : x ∈ active items := hperm.mem_iff.mpr (List.mem_cons_of_mem _ hx)
  have hne : environmentLRUTimestamp x ≠ environmentLRUTimestamp env := by
    have hnd := (hperm.map environmentLRUTimestamp).nodup_iff.mp hc.times
    rw [List.map_cons,List.nodup_cons] at hnd
    exact fun h => hnd.1 (h ▸ List.mem_map_of_mem hx)
  have hcount : (active items).countP
      (fun y => environmentLRUTimestamp x < environmentLRUTimestamp y) =
      (otherActive env items).countP
        (fun y => environmentLRUTimestamp x < environmentLRUTimestamp y) +
      if environmentLRUTimestamp x < environmentLRUTimestamp env then 1 else 0 := by
    rw [hperm.countP_eq,List.countP_cons]
    simp
  rw [mem_drop_iff_countP environmentLRUTimestamp (otherActive_sorted hc.names hc.times henv) hx,
    mem_mostRecent,hcount]
  by_cases hlt : environmentLRUTimestamp x < environmentLRUTimestamp env
  · rw [if_pos hlt]
    simp only [hxa,true_and]
    omega
  · have hgt := lt_of_le_of_ne (not_lt.mp hlt) hne.symm
    have hmore := countP_lt_countP
      (p := fun y => decide (environmentLRUTimestamp x < environmentLRUTimestamp y))
      (r := fun y => decide (environmentLRUTimestamp env < environmentLRUTimestamp y))
      (fun y hy => decide_eq_true (hgt.trans (of_decide_eq_true hy))) hxa (by simp)
      (decide_eq_true hgt)
    have hfew := (mem_mostRecent.mp hrecent).2
    rw [if_neg hlt] at hcount ⊢
    simp only [hxa,true_and]
    omega

lemma Contest.run_within {order : List String} :
    ∀ {items : List Environment}, Contest q limits items → Tracked items order →
      (active items).length ≤ limits.maxActive →
      activeNames (run (quotaReconcile q limits) items order) = activeNames items := by
  induction order with
  | nil => exact fun _ _ _ => rfl
  | cons n rest ih =>
    intro items hc ht hle
    obtain ⟨env,henv,rfl,hcounts⟩ := ht n (by simp)
    have hsame := hc.step_within henv hcounts hle
    have hlen : (active (quotaReconcile q limits items env.name)).length =
        (active items).length := by
      simpa [activeNames] using congrArg List.length hsame
    rw [run_cons,ih (hc.step henv hcounts)
      (hc.tracked henv hcounts fun m hm => ht m (List.mem_cons_of_mem _ hm)) (hlen ▸ hle),hsame]

end

def pair : List Environment :=
  [{ name := "old", ns := "team", creationTimestamp := 1 },
    { name := "new", ns := "team", creationTimestamp := 2 }]

def oneActive : QuotaLimits := { maxActive := 1 }

lemma pair_contest : Contest noQuantities oneActive pair where
  limit := by decide
  policy := rfl
  names := by decide
  times := by decide +kernel
  cnpg := by decide +kernel
  cost := by decide +kernel

end Diverge.Environments
