import Diverge.Environments.Reconcile
import Diverge.Environments.Rejection

/-! When a reconcile gets through its stages, and so to the TTL of its environment: a stage passes
exactly under a condition on the object that the run reads and on the answers it gets. -/
namespace Diverge.Environments
open Tasks Program

section
variable {env env' env'' : Environment}

lemma findStatusCondition_setCondition_of_ne {c : Condition} {kind : String} (h : c.kind ≠ kind)
    (conditions : List Condition) : findStatusCondition (Tasks.setCondition conditions c) kind =
      findStatusCondition conditions kind := by
  have hmap : ∀ ds : List Condition,
      (ds.map fun d => if d.kind = c.kind then c else d).find? (fun d => d.kind == kind) =
        ds.find? fun d => d.kind == kind := by
    intro ds
    induction ds with
    | nil => rfl
    | cons d rest ih =>
      by_cases hd : d.kind = c.kind
      · simp [hd,h,ih]
      · simp [hd,List.find?_cons,ih]
  unfold Tasks.setCondition findStatusCondition
  split_ifs
  · exact hmap conditions
  · simp [h]

def laterKinds : List String := ["AsyncRoutingReady","FeaturesReady"]

/-- Only conditions, the phase and the recorded database provider differ, and the conditions that
later stages read do not. -/
def Marked (env env' : Environment) : Prop :=
  ∃ conditions phase databaseProvider,
    env' =
      { env with
        status :=
          { env.status with
            conditions := conditions
            phase := phase
            databaseProvider := databaseProvider } } ∧
    ∀ kind ∈ laterKinds,
      isStatusConditionTrue conditions kind = isStatusConditionTrue env.status.conditions kind

/-- The recorded database provider does not differ either. -/
def MarkedOnly (env env' : Environment) : Prop :=
  Marked env env' ∧ env'.status.databaseProvider = env.status.databaseProvider

namespace Marked

lemma refl (env : Environment) : Marked env env := ⟨_,_,_,rfl,fun _ _ => rfl⟩

variable (h : Marked env env')
include h

lemma trans (h' : Marked env' env'') : Marked env env'' := by
  obtain ⟨cs,p,db,rfl,hc⟩ := h
  obtain ⟨cs',p',db',rfl,hc'⟩ := h'
  exact ⟨cs',p',db',rfl,fun kind hk => (hc' kind hk).trans (hc kind hk)⟩

lemma setCondition (c : Condition) (hc : c.kind ∉ laterKinds) : Marked env (env'.setCondition c) := by
  refine h.trans ⟨_,_,_,rfl,fun kind hk => ?_⟩
  have hne : c.kind ≠ kind := fun he => hc (he ▸ hk)
  rw [isStatusConditionTrue,findStatusCondition_setCondition_of_ne hne,isStatusConditionTrue]

lemma setPhase (phase : EnvironmentPhase) : Marked env (env'.setPhase phase) :=
  h.trans ⟨_,_,_,rfl,fun _ _ => rfl⟩

lemma afterQuota (d : Decision) : Marked env (env'.afterQuota d) := by
  have hcond : Marked env (d.condition.elim env' env'.setCondition) := by
    cases d with
    | skipped => exact h
    | hibernated | rejected _ _ | admitted _ =>
      refine h.setCondition _ ?_
      change conditionQuotaReady ∉ laterKinds
      decide
  unfold Environment.afterQuota
  dsimp only
  split_ifs
  · exact hcond.setPhase _
  · exact hcond

lemma recordDatabaseProvider (choice : DatabaseChoice) : Marked env (recordDatabaseProvider env' choice) := by
  cases choice with
  | operator => exact h
  | named name =>
    unfold Environments.recordDatabaseProvider
    dsimp only
    split_ifs
    · exact h.trans ⟨_,_,_,rfl,fun _ _ => rfl⟩
    · exact h

end Marked

end

section
variable (op : Operator) (ans : Answers) (env : Environment)

/-- The calls that a run makes itself succeed. -/
structure Answers.ApiSucceeds : Prop where
  ensureNamespace : ans.ensureNamespace = .ok ()
  quotaNamespace : ∀ e, ans.quotaNamespace ≠ .failed e
  listed : ∃ items, ans.listed = .ok items
  claim : ans.claim = .ok ()
  hibernateVictims : ans.hibernateVictims = .ok ()
  ensureDatabaseEnvSecret : ans.ensureDatabaseEnvSecret = .ok ()
  fingerprint : ∃ fp, ans.fingerprint = .ok fp
  persistFingerprint : ans.persistFingerprint = .ok ()

def RefsPass : Prop :=
  ∀ ref ∈ env.spec.envFrom ++ env.spec.deploy.envFrom, ref.ns = "" ∨ ref.ns = env.ns

/-- The namespace has no limits, the environment is hibernated, or the limits hold for it. -/
def QuotaPasses : Prop :=
  ∀ annotations, ans.quotaNamespace = .found annotations → env.hibernated = false →
    ∀ items, ans.listed = .ok items → Fits op.quantities (quotaLimits annotations) env items

/-- Its database is set up and migrated as far as the run waits for it. -/
def DatabaseSetUp (result : DatabaseResult) : Prop :=
  result.ready = true →
    (setupSQLNeeded result = true → ans.runSetupSQL = .ok ()) ∧
    (migrates env = true → migrationBlocks env = true → ans.runMigrations = .ok ())

/-- The database provider is found, and what it provisions is set up. -/
def DatabasePasses : Prop :=
  ∃ choice, resolveDatabaseProvider op env ans.createDatabase false = .ok choice ∧
    (choice.present op = true →
      ∃ result, ans.provisionDatabase = .ok result ∧ ∀ r ∈ result, DatabaseSetUp ans env r)

def asyncVars : List (String × String) :=
  (asyncAnswers ans env).flatMap fun a => a.2.toOption.getD []

def Consistent (vars : List (String × String)) : Prop :=
  ∀ x ∈ vars, ∀ y ∈ vars, x.1 = y.1 → x.2 = y.2

/-- The routes need no provisioning, or are valid and provisioned without a collision. -/
def AsyncPasses : Prop :=
  asyncNeeded op env = true →
    (∀ route ∈ env.spec.routing.asyncRoutes, ∀ kv ∈ route.envVarMapping,
      kv.1 ∉ blockedEnvVars ∧ kv.2 ∉ blockedEnvVars) ∧
    (∀ a ∈ asyncAnswers ans env, ∃ vars, a.2 = .ok vars) ∧ Consistent (asyncVars ans env)

/-- The features need no provisioning, or their provider is found and provisions them. -/
def FeaturesPass : Prop :=
  ∀ features ∈ env.spec.features, featuresRecorded env features = false →
    (∃ provider, getFeatureProvider op env ans.createFeatures = .ok provider) ∧
    ∃ result, ans.provisionFeatures = .ok result

/-- No stage before the end of the deployment ends a run. -/
structure Unhindered : Prop where
  refs : RefsPass env
  quota : QuotaPasses op ans env
  database : DatabasePasses op ans env
  route : ans.route = .ok ()
  async : AsyncPasses op ans env
  features : FeaturesPass op ans env
  deploy : op.deployer = true → ans.deploy = .ok ()

end

section
variable {vars acc : List (String × String)} {ans : Answers} {env : Environment}

lemma consistent_congr {xs ys : List (String × String)} (h : ∀ x, x ∈ xs ↔ x ∈ ys) :
    Consistent xs ↔ Consistent ys := by
  simp only [Consistent,h]

lemma consistent_nil : Consistent [] := fun _ h => absurd h List.not_mem_nil

lemma Consistent.concat (h : Consistent acc) {kv : String × String}
    (hfresh : ∀ x ∈ acc, x.1 ≠ kv.1) : Consistent (acc ++ [kv]) := by
  intro x hx y hy he
  rcases List.mem_append.mp hx with hx | hx <;> rcases List.mem_append.mp hy with hy | hy
  · exact h x hx y hy he
  · rw [List.mem_singleton.mp hy] at he
    exact absurd he (hfresh x hx)
  · rw [List.mem_singleton.mp hx] at he
    exact absurd he.symm (hfresh y hy)
  · rw [List.mem_singleton.mp hx,List.mem_singleton.mp hy]

lemma foldlM_addVar_iff (h : Consistent acc) :
    (∃ out, vars.foldlM addVar acc = .ok out) ↔ Consistent (acc ++ vars) := by
  induction vars generalizing acc with
  | nil =>
    rw [List.append_nil]
    exact ⟨fun _ => h,fun _ => ⟨acc,rfl⟩⟩
  | cons kv rest ih =>
    rw [List.foldlM_cons]
    cases hl : acc.lookup kv.1 with
    | none =>
      have hfresh : ∀ x ∈ acc, x.1 ≠ kv.1 := by
        intro x hx he
        have := List.lookup_eq_none_iff.mp hl x hx
        simp [he] at this
      have hadd : addVar acc kv = .ok (acc ++ [kv]) := by simp only [addVar,hl]
      rw [hadd]
      change (∃ out, rest.foldlM addVar (acc ++ [kv]) = .ok out) ↔ _
      rw [ih (h.concat hfresh),List.append_assoc]
      rfl
    | some v =>
      obtain ⟨l₁,l₂,rfl,-⟩ := List.lookup_eq_some_iff.mp hl
      by_cases hv : v = kv.2
      · subst hv
        have hadd : addVar (l₁ ++ kv :: l₂) kv = .ok (l₁ ++ kv :: l₂) := by
          simp only [addVar,hl,if_true]
        rw [hadd]
        change (∃ out, rest.foldlM addVar (l₁ ++ kv :: l₂) = .ok out) ↔ _
        rw [ih h]
        refine consistent_congr fun x => ?_
        simp only [List.mem_append,List.mem_cons]
        tauto
      · have hadd : addVar (l₁ ++ (kv.1,v) :: l₂) kv = .error kv.1 := by
          simp only [addVar,hl,hv,if_false]
        rw [hadd]
        refine ⟨?_,fun hc => ?_⟩
        · rintro ⟨_,hout⟩
          cases hout
        · exact absurd (hc (kv.1,v) (by simp) kv (by simp) rfl) hv

lemma mergeVars_iff (results : List (List (String × String))) :
    (∃ out, mergeVars results = .ok out) ↔ Consistent results.flatten := by
  rw [mergeVars,foldlM_addVar_iff consistent_nil]
  refine consistent_congr fun x => ?_
  simp

lemma asyncResults_ok (h : ∀ a ∈ asyncAnswers ans env, ∃ vars, a.2 = .ok vars) :
    asyncResults ans env = .ok ((asyncAnswers ans env).map fun a => a.2.toOption.getD []) := by
  unfold asyncResults
  generalize asyncAnswers ans env = answers at h ⊢
  induction answers with
  | nil => rfl
  | cons a rest ih =>
    obtain ⟨route,r⟩ := a
    obtain ⟨vars,rfl⟩ := h (route,r) (by simp)
    rw [List.mapM_cons,ih fun b hb => h b (by simp [hb])]
    rfl

lemma asyncResults_error (h : ¬∀ a ∈ asyncAnswers ans env, ∃ vars, a.2 = .ok vars) :
    ∃ e, asyncResults ans env = .error e := by
  unfold asyncResults
  generalize asyncAnswers ans env = answers at h ⊢
  induction answers with
  | nil => exact absurd (fun _ ha => absurd ha List.not_mem_nil) h
  | cons a rest ih =>
    obtain ⟨route,r⟩ := a
    rw [List.mapM_cons]
    cases r with
    | error e => exact ⟨_,rfl⟩
    | ok vars =>
      have hrest : ¬∀ a ∈ rest, ∃ vars, a.2 = .ok vars := by
        intro hall
        refine h fun b hb => ?_
        rcases List.mem_cons.mp hb with rfl | hb
        · exact ⟨vars,rfl⟩
        · exact hall b hb
      obtain ⟨e,he⟩ := ih hrest
      rw [he]
      exact ⟨e,rfl⟩

end

section
variable {op : Operator} {ans : Answers} {env env' : Environment}

lemma checkSecretRefs_returns : Returns (checkSecretRefs env) (RefsPass env) fun _ => True := by
  unfold checkSecretRefs
  refine (Returns.ite (C := False) (D := True) (fun _ => .throw _) fun _ => .pure trivial).of_iff ?_
  simp only [imp_false,implies_true,and_true,RefsPass,List.any_eq_true,foreignRef,
    Bool.and_eq_true,bne_iff_ne,not_exists,not_and,not_not]
  exact forall₂_congr fun ref _ => Decidable.or_iff_not_imp_left.symm

lemma namespaceStage_returns (h : ans.ensureNamespace = .ok ()) :
    Returns (namespaceStage ans env) True (MarkedOnly env) := by
  simp only [namespaceStage,h]
  exact .pure ⟨(Marked.refl env).setCondition _ (by decide),rfl⟩

lemma fits_marked (h : MarkedOnly env env') (q : Quantities) (limits : QuotaLimits)
    (items : List Environment) : Fits q limits env' items ↔ Fits q limits env items := by
  obtain ⟨⟨cs,p,db,rfl,-⟩,hdb⟩ := h
  obtain rfl : db = env.status.databaseProvider := hdb
  exact ⟨fun h => ⟨h.cnpg,h.active,h.cost⟩,fun h => ⟨h.cnpg,h.active,h.cost⟩⟩

lemma carryOut_ok (h : ans.ApiSucceeds) (d : Decision) : carryOut ans env d = .ok () := by
  cases d with
  | skipped | hibernated | rejected _ _ => rfl
  | admitted victims =>
    simp only [carryOut,h.claim,h.hibernateVictims]
    split_ifs <;> rfl

lemma afterQuota_databaseProvider (d : Decision) :
    (env.afterQuota d).status.databaseProvider = env.status.databaseProvider := by
  obtain ⟨cs,p,h⟩ := afterQuota_eq env d
  rw [h]

lemma reconcileNamespaceQuota_returns (h : ans.ApiSucceeds) :
    Returns (reconcileNamespaceQuota op ans env) (QuotaPasses op ans env) (MarkedOnly env) := by
  have hafter : ∀ d, MarkedOnly env (env.afterQuota d) :=
    fun d => ⟨(Marked.refl env).afterQuota d,afterQuota_databaseProvider d⟩
  obtain ⟨items,hitems⟩ := h.listed
  unfold reconcileNamespaceQuota QuotaPasses
  cases hns : ans.quotaNamespace with
  | absent => exact (Returns.pure ⟨Marked.refl env,rfl⟩).of_iff (by simp)
  | failed e => exact absurd hns (h.quotaNamespace e)
  | found annotations =>
    simp only [hitems,NamespaceAnswer.found.injEq,Except.ok.injEq,forall_eq']
    generalize quotaLimits annotations = limits
    have hpass : (env.hibernated = false → Fits op.quantities limits env items) ↔
        (quotaDecision op.quantities limits env items).isRejected = false := by
      rw [← Bool.not_eq_true (Decision.isRejected _),← turnsAway_iff,turnsAway_iff_not_fits,not_and,
        not_not]
    rw [hpass]
    split_ifs with hskip hreject
    · refine (Returns.pure (hafter _)).of_iff (iff_of_true trivial ?_)
      rcases hskip with hunset | hhib
      · simp [quotaDecision,hunset,Decision.isRejected]
      · unfold quotaDecision
        split_ifs <;> rfl
    · exact (Returns.throw _).of_iff (by simp [hreject])
    · simp only [carryOut_ok h]
      exact (Returns.pure (hafter _)).of_iff (by simpa using hreject)

lemma setupStage_returns (result : DatabaseResult) : Returns (setupStage ans env result)
      (setupSQLNeeded result = true → ans.runSetupSQL = .ok ()) fun _ => True := by
  unfold setupStage
  cases setupSQLNeeded result with
  | false => exact (Returns.pure trivial).of_iff (by simp)
  | true =>
    cases ans.runSetupSQL with
    | ok _ => exact (Returns.pure trivial).of_iff (by simp)
    | error e => cases e <;> exact (Returns.throw _).of_iff (by simp)

lemma secretStage_returns (h : ans.ApiSucceeds) (result : DatabaseResult) :
    Returns (secretStage ans env result) True fun _ => True := by
  simp only [secretStage,h.ensureDatabaseEnvSecret]
  split_ifs <;> exact .pure trivial

lemma unmigrated_returns (reason message : String) (phase : EnvironmentPhase)
    (err : Option String) (requeueAfter : ℤ) :
    Returns (unmigrated env reason message phase err requeueAfter) (migrationBlocks env = false)
      (Marked env) := by
  unfold unmigrated
  cases migrationBlocks env with
  | false => exact (Returns.pure ((Marked.refl env).setCondition _ (by simp [laterKinds]))).of_iff (by simp)
  | true => exact (Returns.throw _).of_iff (by simp)

lemma migrationStage_returns : Returns (migrationStage ans env)
      (migrates env = true → migrationBlocks env = true → ans.runMigrations = .ok ()) (Marked env) := by
  unfold migrationStage
  cases migrates env with
  | false => exact (Returns.pure (Marked.refl env)).of_iff (by simp)
  | true =>
    cases ans.runMigrations with
    | ok _ =>
      exact (Returns.pure ((Marked.refl env).setCondition _ (by simp [laterKinds]))).of_iff (by simp)
    | error e => cases e <;> exact (unmigrated_returns _ _ _ _ _).of_iff (by simp)

lemma settleDatabase_returns (h : ans.ApiSucceeds) (hm : Marked env env') (result : Option DatabaseResult) :
    Returns (settleDatabase ans env' result) (∀ r ∈ result, DatabaseSetUp ans env r) (Marked env) := by
  unfold settleDatabase
  cases result with
  | none => exact (Returns.pure (hm.setCondition _ (by simp [laterKinds]))).of_iff (by simp)
  | some r =>
    cases hready : r.ready with
    | false =>
      simp only [Option.filter_some,hready,if_false,Bool.false_eq_true]
      exact (Returns.pure (hm.setCondition _ (by simp [laterKinds]))).of_iff
        (by simp [DatabaseSetUp,hready])
    | true =>
      simp only [Option.filter_some,hready,if_true]
      have hset : Marked env (env'.markTrue "DatabaseReady" "DatabaseProvisioned" "Database is ready") :=
        hm.setCondition _ (by simp [laterKinds])
      refine ((setupStage_returns r).bind fun _ _ => (secretStage_returns h r).after fun _ _ =>
        migrationStage_returns.mono fun _ => hset.trans).of_iff ?_
      obtain ⟨cs,p,db,rfl,-⟩ := hm
      simp only [Option.mem_some_iff,forall_eq',DatabaseSetUp,hready,forall_const]
      exact Iff.rfl

lemma databaseStage_returns (h : ans.ApiSucceeds) :
    Returns (databaseStage op ans env) (DatabasePasses op ans env) (Marked env) := by
  unfold databaseStage provisionDatabase DatabasePasses
  cases hres : resolveDatabaseProvider op env ans.createDatabase false with
  | error e => exact (Returns.throw_bind _ _).of_iff (by simp)
  | ok choice =>
    have hrecord := (Marked.refl env).recordDatabaseProvider choice
    simp only [Except.ok.injEq,exists_eq_left']
    cases hpresent : choice.present op with
    | false =>
      refine (Returns.after (.pure (Q := fun r => r = (env,none)) rfl) fun r hr => ?_).of_iff
        (by simp : (∀ r ∈ (none : Option DatabaseResult), DatabaseSetUp ans env r) ↔ _)
      subst hr
      exact settleDatabase_returns h (Marked.refl env) none
    | true =>
      cases ans.provisionDatabase with
      | error e => exact (Returns.throw_bind _ _).of_iff (by simp)
      | ok result =>
        refine (Returns.after (Returns.after (.modify _) fun _ _ =>
          .pure (Q := fun r => r = (recordDatabaseProvider env choice,result)) rfl)
          fun r hr => ?_).of_iff
            (by simp : (∀ r ∈ result, DatabaseSetUp ans env r) ↔ _)
        subst hr
        exact settleDatabase_returns h hrecord result

lemma routingStage_returns : Returns (routingStage ans env) (ans.route = .ok ()) (Marked env) := by
  unfold routingStage
  cases ans.route with
  | error e => exact (Returns.throw _).of_iff (by simp)
  | ok _ =>
    exact (Returns.pure ((Marked.refl env).setCondition _ (by simp [laterKinds]))).of_iff (by simp)

lemma validateEnvVarMapping_eq_none_iff (mapping : List (String × String)) :
    validateEnvVarMapping op mapping = none ↔
      ∀ kv ∈ mapping, kv.1 ∉ blockedEnvVars ∧ kv.2 ∉ blockedEnvVars := by
  induction mapping with
  | nil => simp [validateEnvVarMapping]
  | cons kv rest ih =>
    obtain ⟨k,v⟩ := kv
    rw [validateEnvVarMapping,List.forall_mem_cons]
    split_ifs with hk hv
    · simp [hk]
    · simp [hv]
    · rw [ih]
      simp [hk,hv]

/-- Only the variables of the routes and their condition differ. -/
def AsyncMarked (env env' : Environment) : Prop :=
  ∃ conditions vars,
    env' = { env with status := { env.status with conditions := conditions, asyncEnvVars := vars } } ∧
    isStatusConditionTrue conditions "FeaturesReady" =
      isStatusConditionTrue env.status.conditions "FeaturesReady"

lemma AsyncMarked.store (vars : List (String × String)) (c : Condition) (h : c.kind = "AsyncRoutingReady") :
    AsyncMarked env ({ env with status := { env.status with asyncEnvVars := vars } }.setCondition c) := by
  refine ⟨_,_,rfl,?_⟩
  have hne : c.kind ≠ "FeaturesReady" := by
    rw [h]
    decide
  rw [isStatusConditionTrue,findStatusCondition_setCondition_of_ne hne,isStatusConditionTrue]

lemma mergeVars_asyncVars_iff :
    (∃ vars, mergeVars ((asyncAnswers ans env).map fun a => a.2.toOption.getD []) = .ok vars) ↔
      Consistent (asyncVars ans env) := by
  rw [mergeVars_iff,asyncVars,List.flatMap_def]

lemma asyncStage_returns : Returns (asyncStage op ans env) (AsyncPasses op ans env) (AsyncMarked env) := by
  unfold asyncStage AsyncPasses
  cases asyncNeeded op env with
  | false => exact (Returns.pure ⟨_,_,rfl,rfl⟩).of_iff (by simp)
  | true =>
    simp only [if_true,forall_const,← @validateEnvVarMapping_eq_none_iff op]
    rw [← List.findSome?_eq_none_iff]
    cases env.spec.routing.asyncRoutes.findSome? fun route =>
        validateEnvVarMapping op route.envVarMapping with
    | some e => exact (Returns.throw _).of_iff (by simp)
    | none =>
      refine Returns.after (.modify _) fun _ _ => ?_
      by_cases hall : ∀ a ∈ asyncAnswers ans env, ∃ vars, a.2 = .ok vars
      · rw [asyncResults_ok hall,← mergeVars_asyncVars_iff]
        dsimp only
        cases mergeVars ((asyncAnswers ans env).map fun a => a.2.toOption.getD []) with
        | error k => exact (Returns.throw _).of_iff (by simp)
        | ok vars => exact (Returns.pure (AsyncMarked.store vars _ rfl)).of_iff (by simpa using hall)
      · obtain ⟨e,he⟩ := asyncResults_error hall
        rw [he]
        exact (Returns.throw _).of_iff (iff_of_false not_false fun h => hall h.2.1)

def SameLife (env env' : Environment) : Prop :=
  env'.spec = env.spec ∧ env'.status.createdAt = env.status.createdAt

lemma featureStage_returns : Returns (featureStage op ans env) (FeaturesPass op ans env) (SameLife env) := by
  unfold featureStage FeaturesPass
  cases env.spec.features with
  | none => exact (Returns.pure ⟨rfl,rfl⟩).of_iff (by simp)
  | some features =>
    simp only [Option.mem_some_iff,forall_eq']
    cases featuresRecorded env features with
    | true => exact (Returns.pure ⟨rfl,rfl⟩).of_iff (by simp)
    | false =>
      cases getFeatureProvider op env ans.createFeatures with
      | error e => exact (Returns.throw _).of_iff (by simp)
      | ok provider =>
        cases ans.provisionFeatures with
        | error e => exact (Returns.throw _).of_iff (by simp)
        | ok result =>
          refine (Returns.after (.modify _) fun _ _ => .pure ?_).of_iff (by simp)
          cases result with
          | none | some r => exact ⟨rfl,rfl⟩

lemma SameLife.trans {env'' : Environment} (h : SameLife env env') (h' : SameLife env' env'') :
    SameLife env env'' := ⟨h'.1.trans h.1,h'.2.trans h.2⟩

lemma Marked.sameLife (h : Marked env env') : SameLife env env' := by
  obtain ⟨cs,p,db,rfl,-⟩ := h
  exact ⟨rfl,rfl⟩

lemma AsyncMarked.sameLife (h : AsyncMarked env env') : SameLife env env' := by
  obtain ⟨cs,vars,rfl,-⟩ := h
  exact ⟨rfl,rfl⟩

lemma quotaPasses_marked (h : MarkedOnly env env') : QuotaPasses op ans env' ↔ QuotaPasses op ans env := by
  unfold QuotaPasses
  simp only [fits_marked h]
  obtain ⟨⟨cs,p,db,rfl,-⟩,-⟩ := h
  exact Iff.rfl

lemma databasePasses_marked (h : MarkedOnly env env') :
    DatabasePasses op ans env' ↔ DatabasePasses op ans env := by
  obtain ⟨⟨cs,p,db,rfl,-⟩,hdb⟩ := h
  obtain rfl : db = env.status.databaseProvider := hdb
  exact Iff.rfl

lemma asyncPasses_marked (h : Marked env env') : AsyncPasses op ans env' ↔ AsyncPasses op ans env := by
  obtain ⟨cs,p,db,rfl,hc⟩ := h
  unfold AsyncPasses asyncNeeded
  rw [hc _ (by simp [laterKinds])]
  exact Iff.rfl

lemma featuresPass_congr (hspec : env'.spec = env.spec)
    (hcond : isStatusConditionTrue env'.status.conditions "FeaturesReady" =
      isStatusConditionTrue env.status.conditions "FeaturesReady")
    (hmap : env'.status.featureConfigMap = env.status.featureConfigMap)
    (hvars : env'.status.featureEnvVars = env.status.featureEnvVars) :
    FeaturesPass op ans env' ↔ FeaturesPass op ans env := by
  unfold FeaturesPass featuresRecorded getFeatureProvider featureProviderName
  rw [hspec,hcond,hmap,hvars]

lemma MarkedOnly.trans {env'' : Environment} (h : MarkedOnly env env')
    (h' : MarkedOnly env' env'') : MarkedOnly env env'' := ⟨h.1.trans h'.1,h'.2.trans h.2⟩

lemma bannerStage_marked : Marked env (bannerStage ans env) := by
  unfold bannerStage
  split_ifs
  · cases ans.ensureBannerConfigMap with
    | error e | ok _ => exact (Marked.refl env).setCondition _ (by simp [laterKinds])
  · exact Marked.refl env

lemma featuresPass_marked (h : Marked env env') : FeaturesPass op ans env' ↔ FeaturesPass op ans env := by
  obtain ⟨cs,p,db,rfl,hc⟩ := h
  exact featuresPass_congr rfl (hc _ (by simp [laterKinds])) rfl rfl

lemma featuresPass_asyncMarked (h : AsyncMarked env env') :
    FeaturesPass op ans env' ↔ FeaturesPass op ans env := by
  obtain ⟨cs,vars,rfl,hc⟩ := h
  exact featuresPass_congr rfl hc rfl rfl

section
variable (h : ans.ApiSucceeds)
include h

theorem reconcileProvisioning_returns : Returns (reconcileProvisioning op ans env)
      (RefsPass env ∧ QuotaPasses op ans env ∧ DatabasePasses op ans env ∧ ans.route = .ok () ∧
        AsyncPasses op ans env ∧ FeaturesPass op ans env) (SameLife env) := by
  refine checkSecretRefs_returns.bind fun _ _ => ?_
  refine (namespaceStage_returns h.ensureNamespace).after fun env₁ h₁ => ?_
  refine ((reconcileNamespaceQuota_returns h).of_iff (quotaPasses_marked h₁)).bind fun env₂ h₂ => ?_
  have h₂ : MarkedOnly env env₂ := h₁.trans h₂
  refine ((databaseStage_returns h).of_iff (databasePasses_marked h₂)).bind fun env₃ h₃ => ?_
  refine routingStage_returns.bind fun env₄ h₄ => ?_
  have h₄ : Marked env env₄ := h₂.1.trans (h₃.trans h₄)
  refine (asyncStage_returns.of_iff (asyncPasses_marked h₄)).bind fun env₅ h₅ => ?_
  have hpass : FeaturesPass op ans (bannerStage ans env₅) ↔ FeaturesPass op ans env :=
    (featuresPass_marked bannerStage_marked).trans
      ((featuresPass_asyncMarked h₅).trans (featuresPass_marked h₄))
  exact (featureStage_returns.of_iff hpass).mono fun _ =>
    (h₄.sameLife.trans (h₅.sameLife.trans bannerStage_marked.sameLife)).trans

lemma syncBaseline_cases (previous fp : String) :
    (∃ env', syncBaseline op ans env previous fp = .ok (env',true) ∧ SameLife env env' ∧
      (op.deployer = true → ans.deploy = .ok ())) ∨
    (∃ e, syncBaseline op ans env previous fp = .error e ∧ op.deployer = true ∧ ans.deploy ≠ .ok ()) := by
  unfold syncBaseline
  rw [h.persistFingerprint]
  cases hdeployer : op.deployer with
  | false => exact .inl ⟨_,rfl,⟨rfl,rfl⟩,by simp⟩
  | true =>
    cases hdeploy : ans.deploy with
    | error e => exact .inr ⟨e,rfl,rfl,by simp⟩
    | ok _ => exact .inl ⟨_,rfl,⟨rfl,rfl⟩,by simp⟩

lemma reconcileBaselineDrift_cases :
    (∃ env' synced, reconcileBaselineDrift op ans env = .ok (env',synced) ∧ SameLife env env' ∧
      (synced = true → op.deployer = true → ans.deploy = .ok ())) ∨
    (∃ e, reconcileBaselineDrift op ans env = .error e ∧ op.deployer = true ∧ ans.deploy ≠ .ok ()) := by
  obtain ⟨fp,hfp⟩ := h.fingerprint
  simp only [reconcileBaselineDrift,hfp,h.persistFingerprint,bind,Except.bind]
  split_ifs
  case pos | pos | pos | pos => exact .inl ⟨_,_,rfl,⟨rfl,rfl⟩,by simp⟩
  case pos =>
    rcases @syncBaseline_cases op ans env h (baselineFingerprint env) fp with
      ⟨env',heq,hlife,hdeploy⟩ | hfailed
    · exact .inl ⟨env',true,heq,hlife,fun _ => hdeploy⟩
    · exact .inr hfailed
  case neg => exact .inl ⟨_,_,rfl,⟨rfl,rfl⟩,by simp⟩

lemma driftStage_returns : ∃ C : Prop, Returns (driftStage op ans env) C (fun r => SameLife env r.1 ∧
      (r.2 = true → op.deployer = true → ans.deploy = .ok ())) ∧
      (¬C → op.deployer = true ∧ ans.deploy ≠ .ok ()) := by
  unfold driftStage
  split_ifs
  · rcases @reconcileBaselineDrift_cases op ans env h with
      ⟨env',synced,heq,hlife,hdeploy⟩ | ⟨e,heq,hfailed⟩
    · rw [heq]
      exact ⟨True,.pure ⟨hlife,hdeploy⟩,fun h => absurd trivial h⟩
    · rw [heq]
      exact ⟨False,.throw _,fun _ => hfailed⟩
  · exact ⟨True,.pure ⟨⟨rfl,rfl⟩,by simp⟩,fun h => absurd trivial h⟩

lemma firstFingerprint_sameLife : SameLife env' (firstFingerprint op ans env env') := by
  unfold firstFingerprint
  split_ifs
  · rcases @reconcileBaselineDrift_cases op ans env' h with ⟨_,_,heq,hlife,_⟩ | ⟨e,heq,_⟩
    · rw [heq]
      exact hlife
    · rw [heq]
      exact ⟨rfl,rfl⟩
  · exact ⟨rfl,rfl⟩

omit h in
lemma deployStage_returns (synced : Bool)
    (hsynced : synced = true → op.deployer = true → ans.deploy = .ok ()) :
    Returns (deployStage op ans env synced) (op.deployer = true → ans.deploy = .ok ()) (SameLife env) := by
  unfold deployStage
  split_ifs with h
  · rw [h.1]
    cases ans.deploy with
    | error e => exact (Returns.throw _).of_iff (by simp)
    | ok _ => exact (Returns.pure ⟨rfl,rfl⟩).of_iff (by simp)
  · refine (Returns.pure ⟨rfl,rfl⟩).of_iff (iff_of_true trivial fun hd => ?_)
    cases synced with
    | false => exact absurd ⟨hd,rfl⟩ h
    | true => exact hsynced rfl hd

theorem reconcileDeploy_returns :
    Returns (reconcileDeploy op ans env) (op.deployer = true → ans.deploy = .ok ())
      (SameLife env) := by
  obtain ⟨C,hdrift,hfailed⟩ := @driftStage_returns op ans env h
  refine (hdrift.bind (D := op.deployer = true → ans.deploy = .ok ()) fun r hr => ?_).of_iff ?_
  · obtain ⟨checked,synced⟩ := r
    refine ((deployStage_returns synced hr.2).bind (D := True) fun deployed hlife =>
      .pure (hr.1.trans (hlife.trans (firstFingerprint_sameLife h)))).of_iff (by simp)
  · refine ⟨fun h => h.2,fun h => ⟨?_,h⟩⟩
    by_contra hC
    exact (hfailed hC).2 (h (hfailed hC).1)

omit h in
lemma expired_sameLife (h : SameLife env env') : expired ans.now env' = expired ans.now env := by
  unfold expired expiryTime createdAt
  rw [h.1,h.2]

lemma earlyStages_returns : Returns (earlyStages op ans env) (Unhindered op ans env) (SameLife env) := by
  refine ((reconcileProvisioning_returns h).bind fun provisioned hlife =>
    (reconcileDeploy_returns h).mono fun _ => hlife.trans).of_iff ?_
  constructor
  · rintro ⟨⟨hrefs,hquota,hdb,hroute,hasync,hfeatures⟩,hdeploy⟩
    exact ⟨hrefs,hquota,hdb,hroute,hasync,hfeatures,hdeploy⟩
  · rintro ⟨hrefs,hquota,hdb,hroute,hasync,hfeatures,hdeploy⟩
    exact ⟨⟨hrefs,hquota,hdb,hroute,hasync,hfeatures⟩,hdeploy⟩

end

lemma reconcileLifecycle_requestsDeletion :
    (ReconcileEnd.ended (reconcileLifecycle ans env)).requestsDeletion = expired ans.now env := by
  unfold reconcileLifecycle
  cases expired ans.now env <;> rfl

/-- A reconcile of an expired environment requests its deletion exactly when no stage before the
TTL check ends the run. -/
theorem expiry_requests_deletion_iff (op : Operator) (ans : Answers) (tans : TeardownAnswers)
    (env : Environment) (hapi : ans.ApiSucceeds) (hfin : environmentFinalizer ∈ env.finalizers)
    (hdel : env.deleting = false) (t : ℤ) (ttl : Duration) (hcreated : env.status.createdAt = some t)
    (httl : env.spec.lifecycle.ttl = some ttl) (hpast : t + ttl.toInt < ans.now) :
    (reconcile op ans tans env).2.requestsDeletion = true ↔ Unhindered op ans env := by
  have hexpired : expired ans.now env = true := by
    simp [expired,expiryTime,createdAt,hcreated,httl,hpast]
  have hstages := @earlyStages_returns op ans env hapi
  simp only [reconcile,hdel,hfin,not_true_eq_false,if_false,Bool.false_eq_true]
  by_cases hun : Unhindered op ans env
  · obtain ⟨deployed,calls,hend,hlife⟩ := hstages.returns hun []
    rw [hend,iff_true_right hun]
    change (ReconcileEnd.ended (reconcileLifecycle ans _)).requestsDeletion = true
    rw [reconcileLifecycle_requestsDeletion,← hexpired]
    exact expired_sameLife (hlife.trans ⟨rfl,rfl⟩)
  · obtain ⟨p,calls,hend⟩ := hstages.exits hun []
    rw [hend,iff_false_right hun]
    exact Bool.false_ne_true

end

def shortLived : Environment where
  name := "preview"
  ns := "team"
  finalizers := [environmentFinalizer]
  spec := { lifecycle := { ttl := some (.ofInt (3600 * second)) } }
  status := { createdAt := some 0 }

lemma answers_apiSucceed (now : ℤ) (route : Except String Unit)
    (async : ℕ → AsyncRouteSpec → Except String (List (String × String))) :
    Answers.ApiSucceeds { now := now, route := route, provisionAsync := async } where
  ensureNamespace := rfl
  quotaNamespace := fun _ => NamespaceAnswer.noConfusion
  listed := ⟨[],rfl⟩
  claim := rfl
  hibernateVictims := rfl
  ensureDatabaseEnvSecret := rfl
  fingerprint := ⟨"",rfl⟩
  persistFingerprint := rfl

theorem shortLived_deletion_requested :
    (reconcile plainOperator { now := 7200 * second } { now := 7200 * second }
      shortLived).2.requestsDeletion = true :=
  (expiry_requests_deletion_iff plainOperator { now := 7200 * second } { now := 7200 * second }
    shortLived (answers_apiSucceed _ _ _) (by decide) rfl 0 (.ofInt (3600 * second)) rfl rfl
    (by decide)).mpr
    { refs := by simp [RefsPass,shortLived]
      quota := fun _ h => by cases h
      database := ⟨.operator,rfl,fun h => by cases h⟩
      route := rfl
      async := fun h => by cases h
      features := fun _ h => by cases h
      deploy := fun _ => rfl }

/-- A router that fails keeps an expired environment alive. -/
theorem router_error_defers_expiry :
    Answers.ApiSucceeds { now := 7200 * second, route := .error "refused" } ∧
    environmentFinalizer ∈ shortLived.finalizers ∧ shortLived.deleting = false ∧
    shortLived.status.createdAt = some 0 ∧
    shortLived.spec.lifecycle.ttl = some (.ofInt (3600 * second)) ∧
    0 + Int64.toInt (.ofInt (3600 * second)) < 7200 * second ∧
    (reconcile plainOperator { now := 7200 * second, route := .error "refused" }
      { now := 7200 * second } shortLived).2.requestsDeletion = false :=
  ⟨answers_apiSucceed _ _ _,by decide,rfl,rfl,rfl,by decide,by decide⟩

end Diverge.Environments
