import Diverge.Environments.Eviction
import Diverge.Environments.Provisioning

/-! The namespace quota: whom an admission hibernates, and what it leaves active. A run that admits
makes its claim on the namespace and then hibernates its victims one by one; each of these calls may
fail. -/
namespace Diverge.Environments
open Text Diverge.Queue

section

/-- The answers to the claim and to the hibernation of each victim. -/
structure QuotaCalls where
  claim : Except String Unit := .ok ()
  hibernate : Environment → Except String Unit := fun _ => .ok ()

/-- The environments of a namespace after some of them were hibernated. -/
def hibernateNamed (names : List String) (items : List Environment) : List Environment :=
  items.map fun item => if item.name ∈ names then item.hibernate else item

/-- The loop over the victims; the first failure ends it. -/
def hibernateEach (calls : QuotaCalls) : List Environment → List Environment → Except String Unit × List Environment
  | [],items => (.ok (),items)
  | victim :: victims,items =>
    match calls.hibernate victim with
    | .error e => (.error ("failed to hibernate oldest environment " ++ victim.name ++ " for quota: " ++ e),items)
    | .ok _ => hibernateEach calls victims (hibernateNamed [victim.name] items)

variable (q : Quantities) (limits : QuotaLimits) (calls : QuotaCalls) (env : Environment)
  (items : List Environment)

/-- An environment that was admitted before claims the namespace only for its victims. -/
def quotaClaim (victims : List Environment) : Except String Unit :=
  if env.admitted = false ∨ victims ≠ [] then
    calls.claim.mapError fun e => "failed to record namespace quota admission claim for " ++ env.name ++ ": " ++ e
  else .ok ()

/-- `reconcileNamespaceQuota`, once the limits and the environments of the namespace were read. -/
def quotaRun : Except String Environment × List Environment :=
  match quotaDecision q limits env items with
  | .admitted victims =>
    match quotaClaim calls env victims with
    | .error e => (.error e,items)
    | .ok _ =>
      ((hibernateEach calls victims items).1.map fun _ => env.afterQuota (.admitted victims),
        (hibernateEach calls victims items).2)
  | d => (.ok (env.afterQuota d),items)

/-- The environment and some others are within the limits; the cost has a tolerance. -/
structure Within (others : List Environment) : Prop where
  count : 0 < limits.maxActive → others.length + 1 ≤ limits.maxActive
  cost : ∀ limit, limits.maxHourlyCost = some (.finite limit) → totalCost q env others ≤ limit + 1 / 1000000000

/-- The first of the other active environments hibernate, no fewer would do, and those that stay fit
in with the one admitted. -/
structure Admission (items' : List Environment) : Prop where
  fits : Within q limits env (otherActive env items')
  oldest : ∃ n, items' = hibernateNamed (((otherActive env items).take n).map Environment.name) items ∧
    otherActive env items' = (otherActive env items).drop n ∧
    ∀ k < n, ¬Within q limits env ((otherActive env items).drop k)

end

section
variable {q : Quantities} {limits : QuotaLimits} {env : Environment} {items others : List Environment}

lemma exceedsQuota_isNone_iff : (exceedsQuota q limits env others).isNone = true ↔ Within q limits env others := by
  have htolerance : (1 : ℚ) / 10 ^ 9 = 1 / 1000000000 := by norm_num
  have hcost : costExceeds limits (totalCost q env others) = false ↔
      ∀ limit, limits.maxHourlyCost = some (.finite limit) → totalCost q env others ≤ limit + 1 / 1000000000 := by
    unfold costExceeds
    have hpos := limits.cost_pos
    cases hmax : limits.maxHourlyCost with
    | none => simp
    | some n =>
      have hn := hpos n hmax
      cases n with
      | finite limit =>
        simp only [Option.any_some,Number.lt,decide_eq_false_iff_not,not_lt,htolerance,Option.some.injEq,
          Number.finite.injEq,forall_eq']
        constructor
        · intro h
          linarith
        · intro h
          linarith
      | inf negative =>
        cases negative with
        | true => cases hn
        | false => simp [Number.lt]
      | nan => cases hn
  unfold exceedsQuota
  split_ifs with hcount hexceeds
  · refine iff_of_false (by simp) fun h => ?_
    have hlen := h.count hcount.1
    omega
  · refine iff_of_false (by simp) fun h => ?_
    rw [hcost.mpr h.cost] at hexceeds
    cases hexceeds
  · refine iff_of_true rfl ⟨fun hpos => by omega,hcost.mp ((Bool.not_eq_true _).mp hexceeds)⟩

lemma admitted_spec {victims : List Environment} (h : quotaDecision q limits env items = .admitted victims) :
    victims = (otherActive env items).take victims.length ∧
      Within q limits env ((otherActive env items).drop victims.length) ∧
      ∀ k < victims.length, ¬Within q limits env ((otherActive env items).drop k) := by
  unfold quotaDecision at h
  split_ifs at h
  unfold makeRoom at h
  cases hpolicy : limits.policy with
  | reject =>
    simp only [hpolicy] at h
    cases hexceeds : exceedsQuota q limits env (otherActive env items) with
    | some message => simp [hexceeds,quotaExceeded] at h
    | none =>
      simp only [hexceeds] at h
      cases h
      refine ⟨rfl,exceedsQuota_isNone_iff.mp ?_,fun k hk => absurd hk (Nat.not_lt_zero k)⟩
      rw [List.length_nil,List.drop_zero,hexceeds]
      rfl
  | hibernateOldest =>
    simp only [hpolicy] at h
    cases hevict : evict (fun rest => (exceedsQuota q limits env rest).isNone) (otherActive env items) with
    | none => simp [hevict,quotaExceeded] at h
    | some r =>
      simp only [hevict] at h
      cases h
      obtain ⟨happ,hfits⟩ := evict_spec hevict
      have hdrop : (otherActive env items).drop r.1.length = r.2 := by rw [happ,List.drop_left]
      refine ⟨by rw [happ,List.take_left],?_,fun k hk hfit => ?_⟩
      · rw [hdrop]
        exact exceedsQuota_isNone_iff.mp hfits
      · have hno := evict_minimal hevict k hk
        rw [exceedsQuota_isNone_iff.mpr hfit] at hno
        cases hno

lemma reject_no_victims (q : Quantities) (env : Environment) (items : List Environment)
    (hpolicy : limits.policy = .reject) : (quotaDecision q limits env items).victims = [] := by
  unfold quotaDecision makeRoom
  split_ifs
  · rfl
  · rfl
  · rfl
  · rw [hpolicy]
    dsimp only
    split <;> rfl

variable {calls : QuotaCalls} {victims : List Environment}

lemma hibernateNamed_nil (items : List Environment) : hibernateNamed [] items = items := by
  simp [hibernateNamed]

lemma hibernateNamed_cons {name : String} {names : List String} (h : name ∉ names) (items : List Environment) :
    hibernateNamed names (hibernateNamed [name] items) = hibernateNamed (name :: names) items := by
  unfold hibernateNamed
  rw [List.map_map]
  refine List.map_congr_left fun item _ => ?_
  by_cases hname : item.name = name
  · simp [hname,h]
  · simp [hname]

lemma hibernateEach_spec (calls : QuotaCalls) (hnodup : (victims.map Environment.name).Nodup) (items : List Environment) :
    ∃ n, (hibernateEach calls victims items).2 =
        hibernateNamed ((victims.take n).map Environment.name) items ∧
      ((hibernateEach calls victims items).1 = .ok () → n = victims.length) := by
  induction victims generalizing items with
  | nil => exact ⟨0,by simp [hibernateEach,hibernateNamed_nil],fun _ => rfl⟩
  | cons victim victims ih =>
    rw [List.map_cons,List.nodup_cons] at hnodup
    unfold hibernateEach
    cases calls.hibernate victim with
    | error e => exact ⟨0,by simp [hibernateNamed_nil],fun h => by cases h⟩
    | ok u =>
      obtain ⟨n,hitems,hall⟩ := ih hnodup.2 (hibernateNamed [victim.name] items)
      have hnot : victim.name ∉ (victims.take n).map Environment.name := fun hmem =>
        hnodup.1 ((List.take_sublist n victims).map Environment.name |>.subset hmem)
      refine ⟨n + 1,?_,fun h => by rw [hall h,List.length_cons]⟩
      rw [List.take_succ_cons,List.map_cons]
      exact hitems.trans (hibernateNamed_cons hnot items)

def activeOthers (env : Environment) (items : List Environment) : List Environment :=
  (countedOthers env items).filter fun item => !item.hibernated

lemma activeOthers_hibernateNamed (names : List String) : activeOthers env (hibernateNamed names items) =
      (activeOthers env items).filter fun item => !names.contains item.name := by
  unfold activeOthers countedOthers hibernateNamed
  rw [List.filter_map,List.filter_map,List.filter_filter,List.filter_filter,List.filter_filter]
  have hsame : (items.filter fun item => !names.contains item.name && !item.hibernated &&
      (item.name != env.name && counts item)).map
        (fun item => if item.name ∈ names then item.hibernate else item) =
      items.filter fun item => !names.contains item.name && !item.hibernated &&
        (item.name != env.name && counts item) := by
    conv_rhs => rw [← List.map_id (items.filter _)]
    refine List.map_congr_left fun item hitem => ?_
    have hnot : item.name ∉ names := by
      have hkept := (List.mem_filter.mp hitem).2
      rw [Bool.and_eq_true,Bool.and_eq_true] at hkept
      simpa using hkept.1.1
    rw [if_neg hnot,id]
  rw [← hsame]
  congr 1
  refine List.filter_congr fun item _ => ?_
  by_cases hname : item.name ∈ names
  · simp [hname]
  · simp [hname]

variable (hnames : (items.map Environment.name).Nodup)

include hnames in
lemma otherActive_names_nodup : ((otherActive env items).map Environment.name).Nodup := by
  refine ((otherActive_perm env items).map Environment.name).nodup_iff.mpr ?_
  exact hnames.sublist ((List.filter_sublist.trans List.filter_sublist).map _)

lemma otherActive_pairwise (env : Environment) (items : List Environment) :
    (otherActive env items).Pairwise fun x y => usedBefore x y = true :=
  List.pairwise_mergeSort usedBefore_trans usedBefore_total _

include hnames in
lemma otherActive_hibernateNamed (names : List String) : otherActive env (hibernateNamed names items) =
      (otherActive env items).filter fun item => !names.contains item.name := by
  have hperm : (otherActive env (hibernateNamed names items)).Perm
      ((otherActive env items).filter fun item => !names.contains item.name) := by
    have hleft : (otherActive env (hibernateNamed names items)).Perm (activeOthers env (hibernateNamed names items)) :=
      List.mergeSort_perm _ _
    have hright : (otherActive env items).Perm (activeOthers env items) := List.mergeSort_perm _ _
    rw [activeOthers_hibernateNamed] at hleft
    exact hleft.trans (hright.filter _).symm
  refine List.Perm.eq_of_pairwise ?_ (otherActive_pairwise env _) ((otherActive_pairwise env items).filter _) hperm
  intro x y hx hy hxy hyx
  have hmem : x ∈ otherActive env items := List.mem_of_mem_filter (hperm.mem_iff.mp hx)
  have hname : x.name = y.name := by
    simp only [usedBefore,Bool.or_eq_true,Bool.and_eq_true,decide_eq_true_eq] at hxy hyx
    rcases hxy with hxy | ⟨htime,hxy⟩
    · rcases hyx with hyx | ⟨hyx,-⟩
      · exact absurd (hxy.trans hyx) (lt_irrefl _)
      · exact absurd (hyx ▸ hxy) (lt_irrefl _)
    · rcases hyx with hyx | ⟨-,hyx⟩
      · exact absurd (htime ▸ hyx) (lt_irrefl _)
      · exact le_antisymm hxy hyx
  exact List.inj_on_of_nodup_map (otherActive_names_nodup hnames) hmem (List.mem_of_mem_filter hy) hname

lemma filter_take_names {xs : List Environment} (hnodup : (xs.map Environment.name).Nodup) (n : ℕ) :
    (xs.filter fun item => !((xs.take n).map Environment.name).contains item.name) = xs.drop n := by
  have hsplit : xs = xs.take n ++ xs.drop n := (List.take_append_drop n xs).symm
  have hapart : ∀ y ∈ xs.drop n, y.name ∉ (xs.take n).map Environment.name := by
    intro y hy hmem
    rw [hsplit,List.map_append] at hnodup
    exact List.disjoint_of_nodup_append hnodup hmem (List.mem_map_of_mem hy)
  have hfilter (p : Environment → Bool) : xs.filter p = (xs.take n).filter p ++ (xs.drop n).filter p := by
    rw [← List.filter_append,← hsplit]
  rw [hfilter,List.filter_eq_nil_iff.mpr,List.filter_eq_self.mpr,List.nil_append]
  · intro y hy
    rw [Bool.not_eq_true',← Bool.not_eq_true,List.contains_iff_mem]
    exact hapart y hy
  · intro y hy
    rw [Bool.not_eq_true',Bool.not_eq_false,List.contains_iff_mem]
    exact List.mem_map_of_mem hy

end

section
variable (q : Quantities) (limits : QuotaLimits) (calls : QuotaCalls) (env : Environment)
  {items : List Environment}

lemma afterQuota_admitted (victims : List Environment) :
    (env.afterQuota (.admitted victims)).admitted = true := by
  unfold Environment.admitted
  rw [show (env.afterQuota (.admitted victims)).status.conditions =
    Tasks.setCondition env.status.conditions ⟨conditionQuotaReady,"True","WithinQuota",
      "Namespace FinOps and concurrency quotas satisfied"⟩ from rfl]
  rw [findStatusCondition_setCondition_self env.status.conditions ⟨conditionQuotaReady,"True","WithinQuota",
    "Namespace FinOps and concurrency quotas satisfied"⟩]
  rfl

/-- A run that admits an environment leaves it and the others within the limits, at the cost of the fewest of
them, least recently used first; one that rejects it hibernates nobody, and neither does any run under the
policy that rejects. -/
theorem quota_admission_correct (hnames : (items.map Environment.name).Nodup) :
    (∀ victims env' items', quotaDecision q limits env items = .admitted victims →
      quotaRun q limits calls env items = (.ok env',items') →
        env'.admitted = true ∧ Admission q limits env items items') ∧
    ((quotaDecision q limits env items).isRejected = true → (quotaRun q limits calls env items).2 = items) ∧
    (limits.policy = .reject → (quotaRun q limits calls env items).2 = items) := by
  refine ⟨fun victims env' items' hadmits hrun => ?_,fun hreject => ?_,fun hpolicy => ?_⟩
  · obtain ⟨htake,hfits,hleast⟩ := admitted_spec hadmits
    have hnodup : (victims.map Environment.name).Nodup := by
      rw [htake]
      exact (otherActive_names_nodup hnames).sublist ((List.take_sublist _ _).map _)
    obtain ⟨n,hitems,hall⟩ := hibernateEach_spec calls hnodup items
    unfold quotaRun at hrun
    rw [hadmits] at hrun
    dsimp only at hrun
    split at hrun
    · cases hrun
    · cases hdone : (hibernateEach calls victims items).1 with
      | error e => simp [hdone,Except.map] at hrun
      | ok u =>
        rw [hdone] at hrun
        cases hrun
        have hn := hall hdone
        rw [hn,List.take_length] at hitems
        have hleft : otherActive env (hibernateEach calls victims items).2 =
            (otherActive env items).drop victims.length := by
          rw [hitems,otherActive_hibernateNamed hnames]
          conv_lhs => rw [htake]
          exact filter_take_names (otherActive_names_nodup hnames) _
        refine ⟨afterQuota_admitted env victims,by rwa [hleft],victims.length,?_,hleft,hleast⟩
        rw [hitems,← htake]
  · unfold quotaRun
    cases hd : quotaDecision q limits env items with
    | admitted victims => simp [hd,Decision.isRejected] at hreject
    | skipped | hibernated | rejected reason message => rfl
  · have hnone := reject_no_victims q env items hpolicy
    unfold quotaRun
    cases hd : quotaDecision q limits env items with
    | admitted victims =>
      rw [hd] at hnone
      cases hnone
      dsimp only
      split <;> rfl
    | skipped | hibernated | rejected reason message => rfl

theorem newcomer_admitted_correctly : (pair.map Environment.name).Nodup ∧
    (∀ victims env' items', quotaDecision noQuantities oneActive { name := "new", ns := "team-a" } pair =
        .admitted victims →
      quotaRun noQuantities oneActive {} { name := "new", ns := "team-a" } pair = (.ok env',items') →
        env'.admitted = true ∧ Admission noQuantities oneActive { name := "new", ns := "team-a" } pair items') ∧
    ((quotaDecision noQuantities oneActive { name := "new", ns := "team-a" } pair).isRejected = true →
      (quotaRun noQuantities oneActive {} { name := "new", ns := "team-a" } pair).2 = pair) ∧
    (oneActive.policy = .reject → (quotaRun noQuantities oneActive {} { name := "new", ns := "team-a" } pair).2 = pair) :=
  ⟨by decide,quota_admission_correct noQuantities oneActive {} { name := "new", ns := "team-a" } (by decide)⟩

end

open Program

variable {op : Operator} {ans : Answers} {calls : QuotaCalls} {env env' : Environment} {items : List Environment}
  {annotations : List (String × String)}

lemma carryOut_admitted {victims : List Environment} (hclaim : ans.claim = calls.claim.mapError fun e =>
      "failed to record namespace quota admission claim for " ++ env.name ++ ": " ++ e)
    (hvictims : ans.hibernateVictims = (hibernateEach calls victims items).1) :
    carryOut ans env (.admitted victims) =
      (quotaClaim calls env victims).bind fun _ => (hibernateEach calls victims items).1 := by
  unfold carryOut quotaClaim
  rw [hclaim,hvictims]
  by_cases hnil : victims = []
  · subst hnil
    by_cases hadmitted : env.admitted = false
    · cases calls.claim <;> simp [hadmitted,hibernateEach,Except.mapError,Except.bind,bind,pure,Except.pure]
    · simp [hadmitted,hibernateEach,Except.bind,pure,Except.pure]
  · cases calls.claim <;> simp [hnil,Except.mapError,Except.bind,bind]

/-- The quota stage of a reconcile is the run over the environments that it lists. -/
theorem reconcileNamespaceQuota_run (hns : ans.quotaNamespace = .found annotations) (hlisted : ans.listed = .ok items)
    (hset : (quotaLimits annotations).unset = false) (hawake : env.hibernated = false)
    (hclaim : ans.claim = calls.claim.mapError fun e =>
      "failed to record namespace quota admission claim for " ++ env.name ++ ": " ++ e)
    (hvictims : ∀ victims, quotaDecision op.quantities (quotaLimits annotations) env items = .admitted victims →
      ans.hibernateVictims = (hibernateEach calls victims items).1) (log : List ProviderCall) :
    ending (reconcileNamespaceQuota op ans env) log = (.ok env',log) ↔
      (quotaDecision op.quantities (quotaLimits annotations) env items).isRejected = false ∧
        (quotaRun op.quantities (quotaLimits annotations) calls env items).1 = .ok env' := by
  have hread : ¬((quotaLimits annotations).unset = true ∨ env.hibernated = true) := by simp [hset,hawake]
  unfold reconcileNamespaceQuota
  rw [hns]
  dsimp only
  rw [if_neg hread,hlisted]
  dsimp only
  unfold quotaRun
  cases hd : quotaDecision op.quantities (quotaLimits annotations) env items with
  | skipped | hibernated => simp [Decision.isRejected,carryOut,eq_comm]
  | rejected reason message => simp [Decision.isRejected]
  | admitted victims =>
    rw [carryOut_admitted hclaim (hvictims victims hd)]
    cases hclaimed : quotaClaim calls env victims with
    | error e => simp [hclaimed,Decision.isRejected,Except.bind]
    | ok u =>
      cases hdone : (hibernateEach calls victims items).1 with
      | error e => simp [hclaimed,hdone,Decision.isRejected,Except.bind,Except.map]
      | ok u => simp [hclaimed,hdone,Decision.isRejected,Except.bind,Except.map,eq_comm]

end Diverge.Environments
