import Diverge.Environments.Histories

/-! Whether an edit of the routes or the features of an environment takes effect with the next
reconcile that returns no error. -/
namespace Diverge.Environments
open Program Transition

section

def SameVars (vars vars' : List (String × String)) : Prop := ∀ name, vars.lookup name = vars'.lookup name

variable (op : Operator) (ans : Answers) (env : Environment)

def producedVars : List (String × String) := if op.asyncProvisioner then asyncVars ans env else []

/-- The type of the feature provider that serves the current spec. -/
def currentFeatureProvider : Option String :=
  let name := featureProviderName env
  if op.featureProvider = some name ∨ op.featureRegistered name = true then some name
  else op.featureProvider

/-- The overrides that a call provisions a provider with. -/
def overridesFor (provider : String) : ProviderCall → Option (List (String × String))
  | .provisionFeatures p overrides => if p = provider then some overrides else none
  | _ => none

/-- The overrides that a provider was provisioned with last. -/
def lastOverrides (calls : List ProviderCall) (provider : String) : Option (List (String × String)) :=
  (calls.filterMap (overridesFor provider)).getLast?

/-- The current features have been provisioned; without any, none are recorded. -/
def FeaturesInEffect (status : EnvironmentStatus) (calls : List ProviderCall) : Prop :=
  match env.spec.features with
  | none => status.featureConfigMap = "" ∧ status.featureEnvVars = []
  | some features => ∃ provider, currentFeatureProvider op env = some provider ∧
      lastOverrides calls provider = some features.overrides

/-- The current spec has a route or a feature provider. -/
def Resource.Current : Resource → Prop
  | .async p t => ∃ route ∈ env.spec.routing.asyncRoutes, route.protocol = p ∧ route.target = t
  | .features f => currentFeatureProvider op env = some f

/-- The results of the current spec are recorded and provisioned, and nothing else is. -/
structure InEffect (status : EnvironmentStatus) (calls : List ProviderCall) : Prop where
  async : SameVars status.asyncEnvVars (producedVars op ans env)
  features : FeaturesInEffect op env status calls
  stale : ∀ k : Resource, k.forgotten calls = true → k.Current op env

/-- A run gets to the end of its stages. -/
structure GetsThrough : Prop where
  live : env.deleting = false
  finalizer : environmentFinalizer ∈ env.finalizers
  stages : Unhindered op ans env

/-- The edit of an object takes effect: its results are already those of the current spec, or a
run that gets through makes them so. -/
structure TakesEffect (calls : List ProviderCall) : Prop where
  async : SameVars env.status.asyncEnvVars (producedVars op ans env) ∨
    GetsThrough op ans env ∧ asyncNeeded op env = true ∧ expired ans.now env = false
  features : FeaturesInEffect op env env.status calls ∨
    GetsThrough op ans env ∧ ∃ features ∈ env.spec.features, featuresRecorded env features = false
  stale : ∀ k : Resource, k.forgotten calls = true → k.Current op env

end

section
variable {acc vars out : List (String × String)}

lemma Consistent.lookup_iff (h : Consistent vars) {k v : String} : vars.lookup k = some v ↔ (k,v) ∈ vars := by
  constructor
  · intro hl
    obtain ⟨l₁,l₂,rfl,-⟩ := List.lookup_eq_some_iff.mp hl
    simp
  · intro hmem
    cases hl : vars.lookup k with
    | none => exact absurd (List.lookup_eq_none_iff.mp hl (k,v) hmem) (by simp)
    | some w =>
      obtain ⟨l₁,l₂,rfl,-⟩ := List.lookup_eq_some_iff.mp hl
      exact congrArg some (h (k,w) (by simp) (k,v) hmem rfl)

lemma sameVars_of_mem (h : Consistent vars) (hmem : ∀ x, x ∈ out ↔ x ∈ vars) : SameVars out vars := by
  have hout : Consistent out := (consistent_congr hmem).mpr h
  intro k
  ext v
  rw [hout.lookup_iff,h.lookup_iff,hmem]

lemma mem_addVar {kv : String × String} (h : addVar acc kv = .ok out) (x : String × String) :
    x ∈ out ↔ x ∈ acc ∨ x = kv := by
  unfold addVar at h
  cases hl : acc.lookup kv.1 with
  | none =>
    rw [hl] at h
    simp [← Except.ok.inj h]
  | some v =>
    rw [hl] at h
    dsimp only at h
    split_ifs at h with hv
    obtain ⟨l₁,l₂,rfl,-⟩ := List.lookup_eq_some_iff.mp hl
    subst hv
    rw [← Except.ok.inj h]
    simp only [List.mem_append,List.mem_cons]
    tauto

lemma mem_foldlM_addVar (h : vars.foldlM addVar acc = .ok out) (x : String × String) :
    x ∈ out ↔ x ∈ acc ∨ x ∈ vars := by
  induction vars generalizing acc with
  | nil =>
    rw [← Except.ok.inj h]
    simp
  | cons kv rest ih =>
    rw [List.foldlM_cons] at h
    cases hadd : addVar acc kv with
    | error e =>
      rw [hadd] at h
      cases h
    | ok acc' =>
      rw [hadd] at h
      rw [ih h,mem_addVar hadd,List.mem_cons,or_assoc]

lemma mergeVars_sameVars {results : List (List (String × String))} (h : mergeVars results = .ok out) :
    SameVars out results.flatten := by
  refine sameVars_of_mem ((mergeVars_iff results).mp ⟨out,h⟩) fun x => ?_
  rw [mem_foldlM_addVar h]
  simp

end

section
variable {op : Operator} {ans : Answers} {tans : TeardownAnswers} {env : Environment}

/-- What a reconcile without an error has done to the results of an object. -/
inductive Outcome (op : Operator) (ans : Answers) (env env' : Environment) (l : List ProviderCall) :
    Prop
  /-- The run tore down, or it ended before the features. -/
  | early (h : ¬GetsThrough op ans env) (same : SameResults env env')
      (calls : ∀ c ∈ l, ∀ provider overrides, c ≠ .provisionFeatures provider overrides)
  /-- The run asked for the deletion of the object and left its status. -/
  | expired (h : GetsThrough op ans env) (hexp : expired ans.now env = true)
      (same : SameResults env env')
      (calls : ∃ features, RunCalls op ans env l features ∧ FeatureCalls op ans env features)
  | stored (h : GetsThrough op ans env) (hexp : Environments.expired ans.now env = false)
      (done : Completed op ans env env' l)

lemma idleStage_sameResults : SameResults env (idleStage ans env) := by
  unfold idleStage
  split_ifs
  · cases ans.hibernateIdle with
    | ok _ | error e => exact ⟨rfl,rfl,rfl⟩
  · exact ⟨rfl,rfl,rfl⟩

lemma runCalls_nil_features {l : List ProviderCall} (h : RunCalls op ans env l []) :
    ∀ c ∈ l, ∀ provider overrides, c ≠ .provisionFeatures provider overrides := by
  obtain ⟨before,rfl,hbefore⟩ := h
  rintro c hc provider overrides rfl
  rw [List.append_nil] at hc
  rcases hbefore _ hc with ⟨choice,h,-⟩ | ⟨route,-,h⟩ <;> cases h

lemma reconcile_of_deleting (h : env.deleting = true) : reconcile op ans tans env =
      ((handleTeardown op tans env).1,.tornDown (handleTeardown op tans env).2) := by
  simp only [reconcile,h,if_true]

lemma reconcile_of_live (h : env.deleting = false) (hfin : environmentFinalizer ∈ env.finalizers) :
    reconcile op ans tans env = ((ending (earlyStages op ans env) []).2,
        .ended (endStages ans (ending (earlyStages op ans env) []).1)) := by
  simp only [reconcile,h,hfin,not_true_eq_false,if_false,Bool.false_eq_true]

lemma reconcile_without_finalizer (h : env.deleting = false) (hfin : environmentFinalizer ∉ env.finalizers) :
    ∃ err, reconcile op ans tans env = ([],.finalizerAdded err) := by
  simp only [reconcile,h,hfin,not_false_eq_true,if_true,if_false,Bool.false_eq_true]
  exact ⟨_,rfl⟩

lemma patched_err {p : Patch} (h : (ReconcileEnd.ended (.patched p)).err ans = none) :
    p.err = none ∧ (ReconcileEnd.ended (.patched p)).stored ans env = p.env := by
  unfold ReconcileEnd.err at h
  cases hpatch : ans.patchStatus with
  | error e => simp [hpatch] at h
  | ok _ =>
    simp only [hpatch] at h
    exact ⟨h,by simp only [ReconcileEnd.stored,hpatch]⟩

lemma lifecycle_outcome {deployed : Environment} {l : List ProviderCall} (h : GetsThrough op ans env)
    (hlife : SameLife env deployed) (hdone : Completed op ans env deployed l)
    (herr : (ReconcileEnd.ended (endStages ans (.ok deployed))).err ans = none) :
    Outcome op ans env ((ReconcileEnd.ended (endStages ans (.ok deployed))).stored ans env) l := by
  have hexp : expired ans.now (deployed.setPhase (derivePhase deployed.status.conditions)) =
      expired ans.now env := expired_sameLife (hlife.trans ⟨rfl,rfl⟩)
  simp only [endStages,reconcileLifecycle,hexp] at herr ⊢
  cases hcase : expired ans.now env with
  | true =>
    simp only [hcase,if_true] at herr ⊢
    refine .expired h hcase ?_ hdone.calls
    cases hdelete : ans.deleteExpired with
    | error e =>
      rw [hdelete] at herr
      cases herr
    | ok _ => exact ⟨rfl,rfl,rfl⟩
  | false =>
    simp only [hcase,if_false,Bool.false_eq_true] at herr ⊢
    rw [(patched_err herr).2]
    have hset : SameResults deployed (setTimestamps ans.now
        (deployed.setPhase (derivePhase deployed.status.conditions))) := ⟨rfl,rfl,rfl⟩
    have hsame := hset.trans (@idleStage_sameResults ans _)
    refine .stored h hcase ⟨hdone.calls,?_,fun hnone => ?_⟩
    · rw [hsame.vars]
      exact hdone.vars
    · rw [hsame.configMap,hsame.featureVars]
      exact hdone.featureless hnone

theorem reconcile_outcome (hapi : ans.ApiSucceeds)
    (herr : (reconcile op ans tans env).2.err ans = none) :
    Outcome op ans env ((reconcile op ans tans env).2.stored ans env)
      (reconcile op ans tans env).1 := by
  cases hdel : env.deleting with
  | true =>
    rw [reconcile_of_deleting hdel]
    refine .early (fun h => ?_) ?_ fun c hc provider overrides => ?_
    · rw [h.live] at hdel
      cases hdel
    · change SameResults env ((handleTeardown op tans env).2.stored env)
      cases (handleTeardown op tans env).2 <;> exact ⟨rfl,rfl,rfl⟩
    · rcases mem_handleTeardown_calls hc with ⟨-,_,-,rfl⟩ | ⟨_,-,-,rfl⟩ | ⟨_,-,rfl⟩ <;>
        exact ProviderCall.noConfusion
  | false =>
    by_cases hfin : environmentFinalizer ∈ env.finalizers
    · rw [reconcile_of_live hdel hfin] at herr ⊢
      by_cases hun : Unhindered op ans env
      · obtain ⟨deployed,l,hend,hlife⟩ := (earlyStages_returns hapi).returns hun []
        rcases (@earlyStages_logs op ans env).ends with ⟨a,l',hend',hdone⟩ | ⟨p,l',hend',-⟩
        · rw [hend] at hend' herr ⊢
          obtain ⟨ha,rfl⟩ := Prod.mk.inj hend'
          obtain rfl := Except.ok.inj ha
          exact lifecycle_outcome ⟨hdel,hfin,hun⟩ hlife hdone herr
        · rw [hend] at hend'
          cases hend'
      · obtain ⟨p,l,hend⟩ := (earlyStages_returns hapi).exits hun []
        rcases (@earlyStages_logs op ans env).ends with ⟨a,l',hend',-⟩ | ⟨p',l',hend',hstop⟩
        · rw [hend] at hend'
          cases hend'
        · rw [hend] at hend' herr ⊢
          obtain ⟨hp,rfl⟩ := Prod.mk.inj hend'
          obtain rfl := Except.error.inj hp
          obtain ⟨hnone,hstored⟩ := @patched_err ans env _ herr
          obtain ⟨features,hcalls,hfeatures⟩ := hstop.calls
          have hnil : features = [] := by
            by_contra hne
            have := (hfeatures hne).2
            rw [hnone] at this
            cases this
          subst hnil
          refine .early (fun h => hun h.stages) ?_ (runCalls_nil_features hcalls)
          exact hstored ▸ hstop.results hnone
    · obtain ⟨err,hr⟩ := @reconcile_without_finalizer op ans tans env hdel hfin
      rw [hr]
      refine .early (fun h => hfin h.finalizer) ?_ fun c hc => absurd hc List.not_mem_nil
      cases err <;> exact ⟨rfl,rfl,rfl⟩

variable {env' : Environment} {calls l : List ProviderCall}

lemma currentFeatureProvider_of_get {create : String → Except String Unit} {provider : String}
    (h : getFeatureProvider op env create = .ok provider) :
    currentFeatureProvider op env = some provider := by
  unfold getFeatureProvider at h
  unfold currentFeatureProvider
  dsimp only at h ⊢
  split_ifs at h with hown hreg
  · rw [if_pos (.inl hown),Except.ok.inj h]
  · rw [if_pos (.inr hreg)]
    cases hcreate : create (featureProviderName env) with
    | error e =>
      rw [hcreate] at h
      cases h
    | ok _ =>
      rw [hcreate] at h
      exact congrArg some (Except.ok.inj h)
  · rw [if_neg (by simp [hown,hreg])]
    cases hop : op.featureProvider with
    | none =>
      rw [hop] at h
      cases h
    | some name =>
      rw [hop] at h
      exact congrArg some (Except.ok.inj h)

lemma async_effect (h : Outcome op ans env env' l) :
    SameVars env'.status.asyncEnvVars (producedVars op ans env) ↔
      SameVars env.status.asyncEnvVars (producedVars op ans env) ∨
        GetsThrough op ans env ∧ asyncNeeded op env = true ∧ expired ans.now env = false := by
  cases h with
  | early hnot same _ =>
    rw [same.vars,or_iff_left fun h => hnot h.1]
  | expired _ hexp same _ =>
    rw [same.vars,or_iff_left fun h => by simp [hexp] at h]
  | stored hthrough hexp done =>
    have hvars := done.vars
    unfold StoredVars at hvars
    cases hneeded : asyncNeeded op env with
    | false =>
      rw [hneeded,if_neg Bool.false_ne_true] at hvars
      rw [hvars,or_iff_left fun h => by simp at h]
    | true =>
      rw [hneeded,if_pos rfl] at hvars
      have hop : op.asyncProvisioner = true := by
        simp only [asyncNeeded,Bool.and_eq_true] at hneeded
        exact hneeded.1.2
      refine iff_of_true ?_ (.inr ⟨hthrough,rfl,hexp⟩)
      rw [producedVars,if_pos hop,asyncVars,List.flatMap_def]
      exact mergeVars_sameVars hvars

lemma lastOverrides_append (hl : ∀ c ∈ l, ∀ provider overrides, c ≠ .provisionFeatures provider overrides)
    (provider : String) : lastOverrides (calls ++ l) provider = lastOverrides calls provider := by
  have hnil : l.filterMap (overridesFor provider) = [] := by
    refine List.filterMap_eq_nil_iff.mpr fun c hc => ?_
    cases c with
    | provisionFeatures p o => exact absurd rfl (hl _ hc p o)
    | _ => rfl
  rw [lastOverrides,List.filterMap_append,hnil,List.append_nil,lastOverrides]

lemma lastOverrides_concat (provider : String) (overrides : List (String × String)) :
    lastOverrides (calls ++ [.provisionFeatures provider overrides]) provider = some overrides := by
  rw [lastOverrides,List.filterMap_append]
  simp [overridesFor]

lemma featuresInEffect_same (hsame : env.spec.features = none →
      env'.status.featureConfigMap = env.status.featureConfigMap ∧
      env'.status.featureEnvVars = env.status.featureEnvVars)
    (hl : ∀ c ∈ l, ∀ provider overrides, c ≠ .provisionFeatures provider overrides) :
    FeaturesInEffect op env env'.status (calls ++ l) ↔ FeaturesInEffect op env env.status calls := by
  unfold FeaturesInEffect
  cases hf : env.spec.features with
  | none =>
    dsimp only
    rw [(hsame hf).1,(hsame hf).2]
  | some features => simp only [lastOverrides_append hl]

lemma features_effect_through (hthrough : GetsThrough op ans env)
    (hsame : env.spec.features = none → env'.status.featureConfigMap = env.status.featureConfigMap ∧
      env'.status.featureEnvVars = env.status.featureEnvVars)
    (hcalls : ∃ features, RunCalls op ans env l features ∧ FeatureCalls op ans env features) :
    FeaturesInEffect op env env'.status (calls ++ l) ↔ FeaturesInEffect op env env.status calls ∨
        GetsThrough op ans env ∧
          ∃ features ∈ env.spec.features, featuresRecorded env features = false := by
  obtain ⟨features,hrun,hfeatures⟩ := hcalls
  by_cases hnew : ∃ features ∈ env.spec.features, featuresRecorded env features = false
  · refine iff_of_true ?_ (.inr ⟨hthrough,hnew⟩)
    obtain ⟨f,hf,hrec⟩ := hnew
    rw [Option.mem_def] at hf
    obtain ⟨before,rfl,-⟩ := hrun
    simp only [FeatureCalls,hf,hrec,if_false,Bool.false_eq_true] at hfeatures
    obtain ⟨provider,hget,rfl⟩ := hfeatures
    simp only [FeaturesInEffect,hf]
    refine ⟨provider,currentFeatureProvider_of_get hget,?_⟩
    rw [← List.append_assoc]
    exact lastOverrides_concat provider f.overrides
  · have hnil : features = [] := by
      unfold FeatureCalls at hfeatures
      cases hf : env.spec.features with
      | none =>
        rw [hf] at hfeatures
        exact hfeatures
      | some f =>
        rw [hf] at hfeatures
        dsimp only at hfeatures
        split_ifs at hfeatures with hrec
        · exact hfeatures
        · exact absurd ⟨f,hf,Bool.eq_false_iff.mpr hrec⟩ hnew
    subst hnil
    rw [or_iff_left fun h => hnew h.2]
    exact featuresInEffect_same hsame (runCalls_nil_features hrun)

lemma features_effect (h : Outcome op ans env env' l) :
    FeaturesInEffect op env env'.status (calls ++ l) ↔ FeaturesInEffect op env env.status calls ∨
        GetsThrough op ans env ∧
          ∃ features ∈ env.spec.features, featuresRecorded env features = false := by
  cases h with
  | early hnot same hl =>
    rw [or_iff_left fun h => hnot h.1]
    exact featuresInEffect_same (fun _ => ⟨same.configMap,same.featureVars⟩) hl
  | expired hthrough _ same hcalls =>
    exact features_effect_through hthrough (fun _ => ⟨same.configMap,same.featureVars⟩) hcalls
  | stored hthrough _ done => exact features_effect_through hthrough done.featureless done.calls

lemma stale_effect :
    (∀ k : Resource, k.forgotten (calls ++ (reconcile op ans tans env).1) = true → k.Current op env) ↔
      ∀ k : Resource, k.forgotten calls = true → k.Current op env := by
  have hcurrent : ∀ (k : Resource), ∀ c ∈ (reconcile op ans tans env).1,
      k.provisionedBy c = true ∨ k.tornDownBy c = true → k.Current op env := by
    intro k c hc hk
    rcases reconcile_calls hc with ⟨-,⟨-,route,hroute,rfl⟩ | ⟨_,-,-,rfl⟩ | ⟨f,hget,rfl⟩⟩ |
      ⟨-,⟨_,rfl,-⟩ | ⟨route,hroute,rfl⟩ | ⟨f,o,rfl,hget⟩⟩ <;>
      cases k <;> simp [Resource.provisionedBy,Resource.tornDownBy] at hk
    · exact ⟨route,hroute,hk.1.symm,hk.2.symm⟩
    · exact hk ▸ currentFeatureProvider_of_get hget
    · exact ⟨route,hroute,hk.1.symm,hk.2.symm⟩
    · exact hk ▸ currentFeatureProvider_of_get hget
  refine forall_congr' fun k => ?_
  rw [Resource.forgotten,Resource.forgotten,pending_append,Bool.or_eq_true,Bool.and_eq_true]
  constructor
  · intro h hcalls
    cases htorn : (reconcile op ans tans env).1.any k.tornDownBy with
    | true =>
      obtain ⟨c,hc,hk⟩ := List.any_eq_true.mp htorn
      exact hcurrent k c hc (.inr hk)
    | false => exact h (.inr ⟨hcalls,by simp [htorn]⟩)
  · rintro h (hnew | ⟨hcalls,-⟩)
    · by_contra hk
      rw [pending_eq_false _ _ _ fun c hc => ?_] at hnew
      · cases hnew
      · exact Bool.eq_false_iff.mpr fun hp => hk (hcurrent k c hc (.inl hp))
    · exact h hcalls

end

/-- After a reconcile without an error the current routes and features are in effect exactly when
they already were, or when the run gets through and does not take them for provisioned. -/
theorem edit_in_effect_iff (op : Operator) (created : Environment) (history : List LedgerAction)
    (ans : Answers) (tans : TeardownAnswers) (env : Environment)
    (hstored : (run (Ledger.step op) ⟨some created,[]⟩ history).stored = some env)
    (hapi : ans.ApiSucceeds) (herr : (reconcile op ans tans env).2.err ans = none) :
    InEffect op ans env ((reconcile op ans tans env).2.stored ans env).status
      (run (Ledger.step op) ⟨some created,[]⟩ (history ++ [.reconcile ans tans])).calls ↔
    TakesEffect op ans env (run (Ledger.step op) ⟨some created,[]⟩ history).calls := by
  have hcalls : (run (Ledger.step op) ⟨some created,[]⟩ (history ++ [.reconcile ans tans])).calls =
      (run (Ledger.step op) ⟨some created,[]⟩ history).calls ++ (reconcile op ans tans env).1 := by
    rw [run_append,run_cons,run_nil]
    simp only [Ledger.step,hstored]
  have hout := reconcile_outcome hapi herr
  rw [hcalls]
  constructor
  · rintro ⟨hasync,hfeatures,hstale⟩
    exact ⟨(async_effect hout).mp hasync,(features_effect hout).mp hfeatures,stale_effect.mp hstale⟩
  · rintro ⟨hasync,hfeatures,hstale⟩
    exact ⟨(async_effect hout).mpr hasync,(features_effect hout).mpr hfeatures,
      stale_effect.mpr hstale⟩

def topicAnswers : Answers where
  now := 0
  provisionAsync := fun _ route => .ok [("TOPIC",route.target)]

def retarget : List LedgerAction :=
  [.reconcile topicAnswers { now := 0 },
    .edit [] { routing := { asyncRoutes := [{ protocol := "kafka", target := "payments" }] } }]

theorem first_run_in_effect :
    (reconcile asyncOperator { now := 0 } { now := 0 } routed).2.err { now := 0 } = none ∧
    InEffect asyncOperator { now := 0 } routed
      ((reconcile asyncOperator { now := 0 } { now := 0 } routed).2.stored { now := 0 } routed).status
      (run (Ledger.step asyncOperator) ⟨some routed,[]⟩
        ([] ++ [.reconcile { now := 0 } { now := 0 }])).calls := by
  have herr : (reconcile asyncOperator { now := 0 } { now := 0 } routed).2.err { now := 0 } = none := by
    decide +kernel
  refine ⟨herr,(edit_in_effect_iff asyncOperator routed [] { now := 0 } { now := 0 } routed rfl
    (answers_apiSucceed _ _ _) herr).mpr ⟨.inl fun _ => rfl,.inl ⟨rfl,rfl⟩,fun k hk => ?_⟩⟩
  cases hk

/-- The variables of a route stay when its target is changed. -/
theorem retargeted_route_stale : topicAnswers.ApiSucceeds ∧
    (run (Ledger.step asyncOperator) ⟨some routed,[]⟩ retarget).stored =
      some (routedAfter retarget) ∧
    (reconcile asyncOperator topicAnswers { now := 0 } (routedAfter retarget)).2.err topicAnswers =
      none ∧
    ¬ InEffect asyncOperator topicAnswers (routedAfter retarget)
      ((reconcile asyncOperator topicAnswers { now := 0 } (routedAfter retarget)).2.stored
        topicAnswers (routedAfter retarget)).status
      (run (Ledger.step asyncOperator) ⟨some routed,[]⟩
        (retarget ++ [.reconcile topicAnswers { now := 0 }])).calls := by
  refine ⟨answers_apiSucceed _ _ _,by decide +kernel,by decide +kernel,fun h => ?_⟩
  have hvars : (((reconcile asyncOperator topicAnswers { now := 0 } (routedAfter retarget)).2.stored
      topicAnswers (routedAfter retarget)).status.asyncEnvVars.lookup "TOPIC",
      (producedVars asyncOperator topicAnswers (routedAfter retarget)).lookup "TOPIC") =
      (some "orders",some "payments") := by decide +kernel
  obtain ⟨hold,hnew⟩ := Prod.mk.inj hvars
  have heq := h.async "TOPIC"
  rw [hold,hnew] at heq
  exact absurd heq (by decide)

end Diverge.Environments
