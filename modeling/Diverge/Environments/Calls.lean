import Diverge.Environments.Expiry
import Diverge.Program.Logs

/-! The provider calls that the stages of a reconcile make, and what they leave of the object,
whatever the answers are. -/
namespace Diverge.Environments
open Program

section
variable {α β : Type} {P : ProviderCall → Prop} {env env' : Environment}

/-- A stage whose provider calls all have a property; where it ends the run, the object is only
marked. -/
def Calling (P : ProviderCall → Prop) (env : Environment) (m : Step α) (R : α → Prop) : Prop :=
  Logs m (fun a l => (∀ c ∈ l, P c) ∧ R a) fun p l => (∀ c ∈ l, P c) ∧ Marked env p.env

namespace Calling

variable {m : Step α} {R : α → Prop}

lemma pure {a : α} (h : R a) : Calling P env (pure a) R :=
  Logs.pure ⟨fun _ hc => absurd hc List.not_mem_nil,h⟩

lemma throw {p : Patch} (h : Marked env p.env) : Calling P env (throw p : Step α) R :=
  Logs.throw ⟨fun _ hc => absurd hc List.not_mem_nil,h⟩

lemma record {c : ProviderCall} (h : P c) : Calling P env (record c) fun _ => True :=
  Logs.append ⟨fun d hd => by rwa [List.mem_singleton.mp hd],trivial⟩

variable {f : α → Step β} {Q : β → List ProviderCall → Prop} {X : Patch → List ProviderCall → Prop}

lemma logs (hm : Calling P env m R) (hX : ∀ p l, (∀ c ∈ l, P c) → Marked env p.env → X p l)
    (hf : ∀ a l, (∀ c ∈ l, P c) → R a →
      Logs (f a) (fun b l' => Q b (l ++ l')) fun p l' => X p (l ++ l')) : Logs (m >>= f) Q X :=
  Logs.bind hm (fun p l h => hX p l h.1 h.2) fun a l h => hf a l h.1 h.2

lemma silent (hm : Calling (fun _ => False) env m R)
    (hX : ∀ p, Marked env p.env → X p []) (hf : ∀ a, R a → Logs (f a) Q X) : Logs (m >>= f) Q X := by
  refine hm.logs (fun p l hl hp => ?_) fun a l hl ha => ?_
  · rw [List.eq_nil_iff_forall_not_mem.mpr hl]
    exact hX p hp
  · rw [List.eq_nil_iff_forall_not_mem.mpr hl]
    exact hf a ha

theorem bind {R' : β → Prop} (hm : Calling P env m R)
    (hf : ∀ a, R a → Calling P env (f a) R') : Calling P env (m >>= f) R' := by
  refine hm.logs (fun _ _ hl hp => ⟨hl,hp⟩) fun a l hl ha => ?_
  exact Logs.mono (hf a ha)
    (fun _ _ h => ⟨List.forall_mem_append.mpr ⟨hl,h.1⟩,h.2⟩)
    fun _ _ h => ⟨List.forall_mem_append.mpr ⟨hl,h.1⟩,h.2⟩

end Calling

variable {op : Operator} {ans : Answers}

lemma checkSecretRefs_calling : Calling P env (checkSecretRefs env) fun _ => True := by
  unfold checkSecretRefs
  split_ifs
  · exact .throw ((Marked.refl env).setCondition _ (by simp [laterKinds]))
  · exact .pure trivial

lemma namespaceStage_calling : Calling P env (namespaceStage ans env) (MarkedOnly env) := by
  unfold namespaceStage
  cases ans.ensureNamespace with
  | error e => exact .throw ((Marked.refl env).setCondition _ (by simp [laterKinds]))
  | ok _ => exact .pure ⟨(Marked.refl env).setCondition _ (by decide),rfl⟩

lemma reconcileNamespaceQuota_calling (h : MarkedOnly env env') :
    Calling P env (reconcileNamespaceQuota op ans env') (MarkedOnly env) := by
  have hafter : ∀ d, MarkedOnly env (env'.afterQuota d) := fun d =>
    ⟨h.1.afterQuota d,(afterQuota_databaseProvider d).trans h.2⟩
  unfold reconcileNamespaceQuota
  cases ans.quotaNamespace with
  | absent => exact .pure h
  | failed e => exact .throw h.1
  | found annotations =>
    dsimp only
    split_ifs
    · exact .pure (hafter (quotaDecision op.quantities (quotaLimits annotations) env' []))
    · cases ans.listed with
      | error e => exact .throw h.1
      | ok items =>
        dsimp only
        generalize quotaDecision op.quantities (quotaLimits annotations) env' items = d
        split_ifs
        · exact .throw (hafter d).1
        · cases carryOut ans env' d with
          | error e => exact .throw h.1
          | ok _ => exact .pure (hafter d)

variable (h : Marked env env')
include h

lemma setupStage_calling (result : DatabaseResult) :
    Calling P env (setupStage ans env' result) fun _ => True := by
  unfold setupStage
  split_ifs
  · cases ans.runSetupSQL with
    | ok _ => exact .pure trivial
    | error e => cases e <;> exact .throw (h.setCondition _ (by simp [laterKinds]))
  · exact .pure trivial

lemma secretStage_calling (result : DatabaseResult) :
    Calling P env (secretStage ans env' result) fun _ => True := by
  unfold secretStage
  split_ifs
  · cases ans.ensureDatabaseEnvSecret with
    | ok _ => exact .pure trivial
    | error e => exact .throw (h.setCondition _ (by simp [laterKinds]))
  · exact .pure trivial

lemma migrationStage_calling : Calling P env (migrationStage ans env') (Marked env) := by
  have hunmigrated : ∀ reason message phase err requeueAfter,
      Calling P env (unmigrated env' reason message phase err requeueAfter) (Marked env) := by
    intro reason message phase err requeueAfter
    unfold unmigrated
    dsimp only
    split_ifs
    · exact .throw ((h.setCondition _ (by simp [laterKinds])).setPhase _)
    · exact .pure (h.setCondition _ (by simp [laterKinds]))
  unfold migrationStage
  split_ifs
  · cases ans.runMigrations with
    | ok _ => exact .pure (h.setCondition _ (by simp [laterKinds]))
    | error e => cases e <;> exact hunmigrated _ _ _ _ _
  · exact .pure h

lemma settleDatabase_calling (result : Option DatabaseResult) :
    Calling P env (settleDatabase ans env' result) (Marked env) := by
  unfold settleDatabase
  cases result.filter (·.ready) with
  | none => exact .pure (h.setCondition _ (by simp [laterKinds]))
  | some r =>
    have hready : Marked env
        (env'.markTrue "DatabaseReady" "DatabaseProvisioned" "Database is ready") :=
      h.setCondition _ (by simp [laterKinds])
    exact (setupStage_calling h r).bind fun _ _ => (secretStage_calling hready r).bind fun _ _ =>
      migrationStage_calling hready

lemma routingStage_calling : Calling P env (routingStage ans env') (Marked env) := by
  unfold routingStage
  cases ans.route with
  | error e => exact .throw (h.setCondition _ (by simp [laterKinds]))
  | ok _ => exact .pure (h.setCondition _ (by simp [laterKinds]))

end

section
variable (op : Operator) (ans : Answers) (env : Environment)

/-- A call of the database provider that is resolved for an environment. -/
def DatabaseCall (c : ProviderCall) : Prop :=
  ∃ choice, c = .provisionDatabase choice ∧ choice.present op = true ∧
    resolveDatabaseProvider op env ans.createDatabase false = .ok choice

def AsyncCall (c : ProviderCall) : Prop :=
  ∃ route ∈ env.spec.routing.asyncRoutes, c = .provisionAsync route.protocol route.target

def StoredVars (vars : List (String × String)) : Prop :=
  if asyncNeeded op env then
    mergeVars ((asyncAnswers ans env).map fun a => a.2.toOption.getD []) = .ok vars
  else vars = env.status.asyncEnvVars

/-- The calls that the features of an environment lead to. -/
def FeatureCalls (l : List ProviderCall) : Prop :=
  match env.spec.features with
  | none => l = []
  | some features =>
    if featuresRecorded env features then l = []
    else
      ∃ provider, getFeatureProvider op env ans.createFeatures = .ok provider ∧
        l = [.provisionFeatures provider features.overrides]

end

/-- The results that are recorded for the routes and the features do not differ. -/
structure SameResults (env env' : Environment) : Prop where
  vars : env'.status.asyncEnvVars = env.status.asyncEnvVars
  configMap : env'.status.featureConfigMap = env.status.featureConfigMap
  featureVars : env'.status.featureEnvVars = env.status.featureEnvVars

section
variable {op : Operator} {ans : Answers} {env env' env'' : Environment}

lemma SameResults.trans (h : SameResults env env') (h' : SameResults env' env'') : SameResults env env'' :=
  ⟨h'.vars.trans h.vars,h'.configMap.trans h.configMap,h'.featureVars.trans h.featureVars⟩

lemma Marked.sameResults (h : Marked env env') : SameResults env env' := by
  obtain ⟨cs,p,db,rfl,-⟩ := h
  exact ⟨rfl,rfl,rfl⟩

lemma resolveDatabaseProvider_marked (h : MarkedOnly env env')
    (create : String → Except String Unit) (forTeardown : Bool) :
    resolveDatabaseProvider op env' create forTeardown =
      resolveDatabaseProvider op env create forTeardown := by
  obtain ⟨⟨cs,p,db,rfl,-⟩,hdb⟩ := h
  obtain rfl : db = env.status.databaseProvider := hdb
  rfl

lemma provisionDatabase_calling (h : MarkedOnly env env') :
    Calling (DatabaseCall op ans env) env (provisionDatabase op ans env') fun r => Marked env r.1 := by
  unfold provisionDatabase
  rw [resolveDatabaseProvider_marked h]
  cases hres : resolveDatabaseProvider op env ans.createDatabase false with
  | error e => exact .throw (h.1.setCondition _ (by simp [laterKinds]))
  | ok choice =>
    have hrecord : Marked env (recordDatabaseProvider env' choice) :=
      h.1.recordDatabaseProvider choice
    dsimp only
    split_ifs with hpresent
    · cases ans.provisionDatabase with
      | error e => exact .throw (hrecord.setCondition _ (by simp [laterKinds]))
      | ok result =>
        exact (Calling.record ⟨choice,rfl,hpresent,hres⟩).bind fun _ _ => .pure hrecord
    · exact .pure h.1

lemma databaseStage_calling (h : MarkedOnly env env') :
    Calling (DatabaseCall op ans env) env (databaseStage op ans env') (Marked env) :=
  (provisionDatabase_calling h).bind fun r hr => settleDatabase_calling hr r.2

lemma asyncStage_logs : Logs (asyncStage op ans env)
      (fun a l => (∀ c ∈ l, AsyncCall env c) ∧ AsyncMarked env a ∧
        StoredVars op ans env a.status.asyncEnvVars)
      fun p l => (∀ c ∈ l, AsyncCall env c) ∧ SameResults env p.env := by
  have hnil : ∀ c ∈ ([] : List ProviderCall), AsyncCall env c :=
    fun _ hc => absurd hc List.not_mem_nil
  unfold asyncStage
  split_ifs with hneeded
  · cases env.spec.routing.asyncRoutes.findSome? fun route =>
        validateEnvVarMapping op route.envVarMapping with
    | some e => exact .throw ⟨hnil,⟨rfl,rfl,rfl⟩⟩
    | none =>
      refine Logs.bind (Logs.append (Q := fun _ l => ∀ c ∈ l, AsyncCall env c)
        (X := fun _ _ => False) ?_) (fun _ _ => False.elim) fun _ l hl => ?_
      · intro c hc
        obtain ⟨⟨route,r⟩,hmem,hsome⟩ := List.mem_filterMap.mp hc
        obtain ⟨i,hi,hroute⟩ := List.mem_mapIdx.mp hmem
        have hin : route ∈ env.spec.routing.asyncRoutes := by
          rw [← (Prod.mk.inj hroute).1]
          exact List.getElem_mem hi
        cases r with
        | error e => cases hsome
        | ok vars => exact ⟨route,hin,(Option.some.inj hsome).symm⟩
      · have hl' : ∀ c ∈ l ++ [], AsyncCall env c := by simpa using hl
        by_cases hall : ∀ a ∈ asyncAnswers ans env, ∃ vars, a.2 = .ok vars
        · rw [asyncResults_ok hall]
          dsimp only
          cases hm : mergeVars ((asyncAnswers ans env).map fun a => a.2.toOption.getD []) with
          | error k => exact .throw ⟨hl',⟨rfl,rfl,rfl⟩⟩
          | ok vars =>
            refine .pure ⟨hl',AsyncMarked.store vars _ rfl,?_⟩
            rw [StoredVars,if_pos hneeded]
            exact hm
        · obtain ⟨e,he⟩ := asyncResults_error hall
          rw [he]
          exact .throw ⟨hl',⟨rfl,rfl,rfl⟩⟩
  · refine .pure ⟨hnil,⟨_,_,rfl,rfl⟩,?_⟩
    rw [StoredVars,if_neg hneeded]

lemma featureStage_logs : Logs (featureStage op ans env)
      (fun a l => FeatureCalls op ans env l ∧ a.status.asyncEnvVars = env.status.asyncEnvVars ∧
        (env.spec.features = none → SameResults env a))
      fun p l => l = [] ∧ p.err.isSome = true := by
  unfold featureStage FeatureCalls
  cases env.spec.features with
  | none => exact .pure ⟨rfl,rfl,fun _ => ⟨rfl,rfl,rfl⟩⟩
  | some features =>
    dsimp only
    split_ifs with hrecorded
    · exact .pure ⟨rfl,rfl,fun h => by cases h⟩
    · cases getFeatureProvider op env ans.createFeatures with
      | error e => exact .throw ⟨rfl,rfl⟩
      | ok provider =>
        cases ans.provisionFeatures with
        | error e => exact .throw ⟨rfl,rfl⟩
        | ok result =>
          refine Logs.bind (Logs.append (Q := fun _ l =>
            l = [.provisionFeatures provider features.overrides]) (X := fun _ _ => False) rfl)
            (fun _ _ => False.elim) ?_
          rintro _ l rfl
          refine .pure ⟨⟨provider,rfl,rfl⟩,?_,fun h => by cases h⟩
          cases result <;> rfl

/-- A comparison with the baseline that succeeds keeps the results. -/
def KeepsResults (env : Environment) (x : Except String (Environment × Bool)) : Prop :=
  ∀ r, x = .ok r → SameResults env r.1

lemma keepsResults_error (e : String) : KeepsResults env (.error e) := fun _ h => nomatch h

lemma keepsResults_ok {synced : Bool} (h : SameResults env env') :
    KeepsResults env (.ok (env',synced)) := fun _ hr => Except.ok.inj hr ▸ h

lemma keepsResults_bind {γ : Type} {x : Except String γ} {f : γ → Except String (Environment × Bool)}
    (h : ∀ a, KeepsResults env (f a)) : KeepsResults env (x >>= f) := by
  cases x with
  | error e => exact keepsResults_error e
  | ok a => exact h a

lemma syncBaseline_keepsResults (previous fp : String) :
    KeepsResults env (syncBaseline op ans env previous fp) := by
  unfold syncBaseline
  refine iteInduction (fun _ => keepsResults_bind fun _ => ?_) fun _ => ?_
  all_goals
    cases ans.persistFingerprint with
    | error e => exact keepsResults_error _
    | ok _ => exact keepsResults_ok ⟨rfl,rfl,rfl⟩

lemma reconcileBaselineDrift_keepsResults : KeepsResults env (reconcileBaselineDrift op ans env) := by
  unfold reconcileBaselineDrift
  refine iteInduction (fun _ => keepsResults_ok ⟨rfl,rfl,rfl⟩) fun _ => keepsResults_bind fun fp => ?_
  refine iteInduction (fun _ => keepsResults_ok ⟨rfl,rfl,rfl⟩) fun _ => ?_
  refine iteInduction (fun _ => ?_) fun _ => ?_
  · cases ans.persistFingerprint with
    | error e => exact keepsResults_error _
    | ok _ => exact keepsResults_ok ⟨rfl,rfl,rfl⟩
  · refine iteInduction (fun _ => keepsResults_ok ⟨rfl,rfl,rfl⟩) fun _ => ?_
    exact iteInduction (fun _ => syncBaseline_keepsResults _ _)
      fun _ => keepsResults_ok ⟨rfl,rfl,rfl⟩

lemma reconcileDeploy_logs : Logs (reconcileDeploy op ans env) (fun a l => l = [] ∧ SameResults env a)
      fun p l => l = [] ∧ p.err.isSome = true := by
  have hdrift : Logs (driftStage op ans env) (fun r l => l = [] ∧ SameResults env r.1)
      fun p l => l = [] ∧ p.err.isSome = true := by
    unfold driftStage
    split_ifs
    · have hkeeps := @reconcileBaselineDrift_keepsResults op ans env
      cases hr : reconcileBaselineDrift op ans env with
      | error e => exact .throw ⟨rfl,rfl⟩
      | ok r => exact .pure ⟨rfl,hkeeps r hr⟩
    · exact .pure ⟨rfl,⟨rfl,rfl,rfl⟩⟩
  have hdeploy : ∀ checked synced, Logs (deployStage op ans checked synced)
      (fun a l => l = [] ∧ SameResults checked a) fun p l => l = [] ∧ p.err.isSome = true := by
    intro checked synced
    unfold deployStage
    split_ifs
    · cases ans.deploy with
      | error e => exact .throw ⟨rfl,rfl⟩
      | ok _ => exact .pure ⟨rfl,⟨rfl,rfl,rfl⟩⟩
    · exact .pure ⟨rfl,⟨rfl,rfl,rfl⟩⟩
  have hfirst : ∀ deployed, SameResults deployed (firstFingerprint op ans env deployed) := by
    intro deployed
    have hkeeps := @reconcileBaselineDrift_keepsResults op ans deployed
    unfold firstFingerprint
    split_ifs
    · cases hr : reconcileBaselineDrift op ans deployed with
      | error e => exact ⟨rfl,rfl,rfl⟩
      | ok r => exact hkeeps r hr
    · exact ⟨rfl,rfl,rfl⟩
  refine hdrift.bind (fun _ _ h => h) ?_
  rintro ⟨checked,synced⟩ l ⟨rfl,hchecked⟩
  refine (hdeploy checked synced).bind (fun _ _ h => h) ?_
  rintro deployed l ⟨rfl,hdeployed⟩
  exact .pure ⟨rfl,hchecked.trans (hdeployed.trans (hfirst deployed))⟩

end

variable (op : Operator) (ans : Answers) (env : Environment)

/-- The calls of a run: for the database and the routes first, then for the features. -/
def RunCalls (l features : List ProviderCall) : Prop :=
  ∃ before, l = before ++ features ∧
    ∀ c ∈ before, DatabaseCall op ans env c ∨ AsyncCall env c

/-- What a run has done when it gets through its early stages. -/
structure Completed (a : Environment) (l : List ProviderCall) : Prop where
  calls : ∃ features, RunCalls op ans env l features ∧ FeatureCalls op ans env features
  vars : StoredVars op ans env a.status.asyncEnvVars
  featureless : env.spec.features = none →
    a.status.featureConfigMap = env.status.featureConfigMap ∧
    a.status.featureEnvVars = env.status.featureEnvVars

/-- What a run has done when one of its early stages ends it. -/
structure Stopped (p : Patch) (l : List ProviderCall) : Prop where
  calls : ∃ features, RunCalls op ans env l features ∧
    (features ≠ [] → FeatureCalls op ans env features ∧ p.err.isSome = true)
  results : p.err = none → SameResults env p.env

variable {op ans env} {env' : Environment} {l : List ProviderCall}

lemma Stopped.marked {p : Patch} (h : Marked env p.env) (hl : ∀ c ∈ l, DatabaseCall op ans env c) :
    Stopped op ans env p l where
  calls := ⟨[],⟨l,by simp,fun c hc => .inl (hl c hc)⟩,fun h => absurd rfl h⟩
  results := fun _ => h.sameResults

lemma storedVars_marked (h : Marked env env') (vars : List (String × String)) :
    StoredVars op ans env' vars ↔ StoredVars op ans env vars := by
  obtain ⟨cs,p,db,rfl,hc⟩ := h
  unfold StoredVars asyncNeeded
  rw [hc _ (by simp [laterKinds])]
  exact Iff.rfl

lemma featureCalls_congr (hspec : env'.spec = env.spec)
    (hcond : isStatusConditionTrue env'.status.conditions "FeaturesReady" =
      isStatusConditionTrue env.status.conditions "FeaturesReady")
    (hmap : env'.status.featureConfigMap = env.status.featureConfigMap)
    (hvars : env'.status.featureEnvVars = env.status.featureEnvVars) :
    FeatureCalls op ans env' l ↔ FeatureCalls op ans env l := by
  unfold FeatureCalls featuresRecorded getFeatureProvider featureProviderName
  rw [hspec,hcond,hmap,hvars]

lemma featureCalls_marked (h : Marked env env') : FeatureCalls op ans env' l ↔ FeatureCalls op ans env l := by
  obtain ⟨cs,p,db,rfl,hc⟩ := h
  exact featureCalls_congr rfl (hc _ (by simp [laterKinds])) rfl rfl

lemma featureCalls_asyncMarked (h : AsyncMarked env env') :
    FeatureCalls op ans env' l ↔ FeatureCalls op ans env l := by
  obtain ⟨cs,vars,rfl,hc⟩ := h
  exact featureCalls_congr rfl hc rfl rfl

lemma AsyncMarked.featureResults (h : AsyncMarked env env') :
    env'.status.featureConfigMap = env.status.featureConfigMap ∧
    env'.status.featureEnvVars = env.status.featureEnvVars := by
  obtain ⟨cs,vars,rfl,-⟩ := h
  exact ⟨rfl,rfl⟩

lemma asyncStage_featureStage_logs (h : Marked env env') (hl : ∀ c ∈ l, DatabaseCall op ans env c) :
    Logs (asyncStage op ans env' >>= fun env₅ => featureStage op ans (bannerStage ans env₅))
      (fun a l' => Completed op ans env a (l ++ l')) fun p l' => Stopped op ans env p (l ++ l') := by
  have hspec : env'.spec = env.spec := h.sameLife.1
  have hbefore : ∀ l₂ : List ProviderCall, (∀ c ∈ l₂, AsyncCall env' c) →
      ∀ c ∈ l ++ l₂, DatabaseCall op ans env c ∨ AsyncCall env c := by
    intro l₂ hl₂ c hc
    rcases List.mem_append.mp hc with hc | hc
    · exact .inl (hl c hc)
    · obtain ⟨route,hroute,rfl⟩ := hl₂ c hc
      exact .inr ⟨route,hspec ▸ hroute,rfl⟩
  refine asyncStage_logs.bind ?_ ?_
  · rintro p l₂ ⟨hl₂,hsame⟩
    exact ⟨⟨[],⟨l ++ l₂,by simp,hbefore l₂ hl₂⟩,fun h => absurd rfl h⟩,
      fun _ => h.sameResults.trans hsame⟩
  · rintro env₅ l₂ ⟨hl₂,hmark,hvars⟩
    have hbanner : Marked env₅ (bannerStage ans env₅) := bannerStage_marked
    refine featureStage_logs.mono ?_ ?_
    · rintro a l₃ ⟨hf,hv,hnone⟩
      refine ⟨⟨l₃,⟨l ++ l₂,by simp,hbefore l₂ hl₂⟩,?_⟩,?_,fun hfeatures => ?_⟩
      · exact (featureCalls_marked h).mp
          ((featureCalls_asyncMarked hmark).mp ((featureCalls_marked hbanner).mp hf))
      · rw [hv,hbanner.sameResults.vars]
        exact (storedVars_marked h _).mp hvars
      · have hsame := hbanner.sameResults.trans (hnone (by
          rw [hbanner.sameLife.1,hmark.sameLife.1,hspec]
          exact hfeatures))
        rw [hsame.configMap,hsame.featureVars,hmark.featureResults.1,hmark.featureResults.2]
        exact ⟨h.sameResults.configMap,h.sameResults.featureVars⟩
    · rintro p l₃ ⟨rfl,herr⟩
      refine ⟨⟨[],⟨l ++ l₂,by simp,hbefore l₂ hl₂⟩,fun h => absurd rfl h⟩,fun hnone => ?_⟩
      rw [hnone] at herr
      cases herr

theorem earlyStages_logs :
    Logs (earlyStages op ans env) (Completed op ans env) (Stopped op ans env) := by
  have hnone : ∀ p : Patch, Marked env p.env → Stopped op ans env p [] :=
    fun p hp => .marked hp fun _ hc => absurd hc List.not_mem_nil
  refine Logs.bind (Q := Completed op ans env) ?_ (fun _ _ h => h) ?_
  · refine checkSecretRefs_calling.silent hnone fun _ _ => ?_
    refine namespaceStage_calling.silent hnone fun env₁ h₁ => ?_
    refine (reconcileNamespaceQuota_calling h₁).silent hnone fun env₂ h₂ => ?_
    refine (databaseStage_calling h₂).logs (fun p l hl hp => .marked hp hl) fun env₃ l hl h₃ => ?_
    refine (routingStage_calling h₃).silent (fun p hp => ?_) fun env₄ h₄ => ?_
    · exact .marked hp (by simpa using hl)
    · exact asyncStage_featureStage_logs h₄ hl
  · intro a l hdone
    obtain ⟨features,hcalls,hfeatures⟩ := hdone.calls
    refine reconcileDeploy_logs.mono ?_ ?_
    · rintro b _ ⟨rfl,hsame⟩
      rw [List.append_nil]
      refine ⟨hdone.calls,?_,fun hnone => ?_⟩
      · rw [hsame.vars]
        exact hdone.vars
      · rw [hsame.configMap,hsame.featureVars]
        exact hdone.featureless hnone
    · rintro p _ ⟨rfl,herr⟩
      rw [List.append_nil]
      refine ⟨⟨features,hcalls,fun _ => ⟨hfeatures,herr⟩⟩,fun hnone => ?_⟩
      rw [hnone] at herr
      cases herr

lemma FeatureCalls.provisions (h : FeatureCalls op ans env l) {c : ProviderCall} (hc : c ∈ l) :
    ∃ provider overrides, c = .provisionFeatures provider overrides ∧
      getFeatureProvider op env ans.createFeatures = .ok provider := by
  unfold FeatureCalls at h
  cases hf : env.spec.features with
  | none =>
    rw [hf] at h
    rw [h] at hc
    exact absurd hc List.not_mem_nil
  | some features =>
    rw [hf] at h
    dsimp only at h
    split_ifs at h
    · rw [h] at hc
      exact absurd hc List.not_mem_nil
    · obtain ⟨provider,hget,rfl⟩ := h
      exact ⟨provider,features.overrides,List.mem_singleton.mp hc,hget⟩

/-- A call that a run of an environment makes for its database, a route or its features. -/
def RunCall (op : Operator) (ans : Answers) (env : Environment) (c : ProviderCall) : Prop :=
  DatabaseCall op ans env c ∨ AsyncCall env c ∨
    ∃ provider overrides, c = .provisionFeatures provider overrides ∧
      getFeatureProvider op env ans.createFeatures = .ok provider

lemma RunCalls.runCall {features : List ProviderCall} (h : RunCalls op ans env l features)
    (hf : features ≠ [] → FeatureCalls op ans env features) {c : ProviderCall} (hc : c ∈ l) :
    RunCall op ans env c := by
  obtain ⟨before,rfl,hbefore⟩ := h
  rcases List.mem_append.mp hc with hc | hc
  · exact (hbefore c hc).imp_right .inl
  · exact .inr (.inr ((hf (List.ne_nil_of_mem hc)).provisions hc))

theorem reconcile_calls {tans : TeardownAnswers} {c : ProviderCall}
    (hc : c ∈ (reconcile op ans tans env).1) : env.deleting = true ∧ TeardownCall op tans env c ∨
    env.deleting = false ∧ RunCall op ans env c := by
  unfold reconcile at hc
  cases hdel : env.deleting with
  | true =>
    simp only [hdel,if_true] at hc
    exact .inl ⟨rfl,mem_handleTeardown_calls hc⟩
  | false =>
    simp only [hdel,if_false,Bool.false_eq_true] at hc
    refine .inr ⟨rfl,?_⟩
    by_cases hfin : environmentFinalizer ∈ env.finalizers
    · simp only [hfin,not_true_eq_false,if_false] at hc
      rcases (@earlyStages_logs op ans env).ends with ⟨a,l,hend,hdone⟩ | ⟨p,l,hend,hstop⟩
      · rw [hend] at hc
        obtain ⟨features,hcalls,hfeatures⟩ := hdone.calls
        exact hcalls.runCall (fun _ => hfeatures) hc
      · rw [hend] at hc
        obtain ⟨features,hcalls,hfeatures⟩ := hstop.calls
        exact hcalls.runCall (fun h => (hfeatures h).1) hc
    · simp only [hfin,not_false_eq_true,if_true] at hc
      exact absurd hc List.not_mem_nil

end Diverge.Environments
