import Diverge.Auth.RoundTrip
import Diverge.Tasks.Admission
import Diverge.Tasks.History
import Diverge.TokenStore.Faults

/-! Whether the token of an active task stays the stored one. Every reconciliation verifies the stored
token and compares what it states with the spec; a token that cannot be read, does not verify or
states another budget is minted anew. -/
namespace Diverge.Tasks
open Text Kube Program TokenStore Auth Hmac Transition

/-- A spec that its token states as it is: the budget is below a cent or within a millionth of whole
cents, and no capability has an empty part between commas. -/
def Restated (spec : AgentTaskSpec) : Prop :=
  (specCost spec < 1/100 ∨ ∃ cents : ℤ, |(cents : ℚ) / 100 - specCost spec| ≤ 1/1000000) ∧
    ∀ capability ∈ spec.capabilities, "" ∉ split ',' capability

lemma stated_close_iff {claims : Claims} (h : 0 ≤ claims.maxCostUSD) :
    |claims.stated.maxCostUSD - claims.maxCostUSD| ≤ 1/1000000 ↔
      claims.maxCostUSD < 1/100 ∨ ∃ cents : ℤ, |(cents : ℚ) / 100 - claims.maxCostUSD| ≤ 1/1000000 := by
  have hsquare : (10 : ℚ) ^ 2 = 100 := by norm_num
  simp only [Claims.stated]
  split_ifs with hzero hsmall
  · have hcost : claims.maxCostUSD = 0 := le_antisymm hzero h
    rw [hcost,sub_self,abs_zero]
    norm_num
  · refine iff_of_true ?_ (.inl hsmall)
    rw [sub_self,abs_zero]
    norm_num
  · rw [or_iff_right hsmall]
    constructor
    · intro hclose
      refine ⟨Rounding.halfEven.nearest (claims.maxCostUSD * 10 ^ 2),?_⟩
      rwa [Rounding.roundTo,hsquare] at hclose
    · rintro ⟨cents,hcents⟩
      have hnear := Rounding.halfEven.abs_roundTo_sub_le 2 claims.maxCostUSD cents
      rw [hsquare] at hnear
      exact hnear.trans hcents

lemma specCost_of_admitted {quote : String → String} {task : AgentTask} (h : validateAgentTask quote task = []) :
    0 ≤ specCost task.spec ∧ ∃ k, (specCost task.spec).den ∣ 10 ^ k := by
  obtain ⟨-,hempty | ⟨q,hq,hpos⟩⟩ := budgets_of_admitted h
  · have hzero : specCost task.spec = 0 := by
      rw [specCost,hempty,parseFloat_empty]
    rw [hzero]
    exact ⟨le_rfl,0,by simp⟩
  · have hcost : specCost task.spec = q := by rw [specCost,hq]
    rw [hcost]
    exact ⟨hpos.le,parseFloat_den hq⟩

lemma reread_taskTools : reread taskTools = some taskTools := by
  rw [reread_eq_self_iff]
  decide

variable {κ σ : Type} [Scheme κ σ] {r : Reconciler κ σ} {p : MacaroonProvider κ} {env : Surroundings}
  {task : AgentTask} {s : System}

lemma serialize_ne_nil (written : σ → String) (token : Macaroon σ) : token.serialize written ≠ [] := by
  have hopen : utf8 "\x7b\"id\":" ≠ [] := by decide
  simp [Macaroon.serialize,hopen]

def System.asked (s : System) (claims : Claims) : System := { s with trace := s.trace ++ [.mint claims] }

lemma mints_asked (claims : Claims) : (s.asked claims).mints = s.mints + 1 := by
  simp [System.asked,System.mints,Effect.isMint]

lemma mintAndSaveToken_spec (hminter : r.tokenMinter = some p) :
    (ending (r.mintAndSaveToken env task) s).2.mints = s.mints + 1 ∧
      ((ending (r.mintAndSaveToken env task) s).1 = .ok (.ok ()) →
        ∃ token, p.mint env.nonce (taskClaims env task) = .ok token ∧
          Represents r.sum256 (ending (r.mintAndSaveToken env task) s).2.secrets.objects (utf8 task.name)
            (utf8 task.ns) (.active (token.serialize r.written))) := by
  have hasked : ending (emit (.mint (taskClaims env task)) : Step PUnit) s =
      (.ok ⟨⟩,s.asked (taskClaims env task)) := rfl
  unfold Reconciler.mintAndSaveToken
  rw [hminter]
  dsimp only
  rw [ending_bind_ok hasked]
  cases hmint : p.mint env.nonce (taskClaims env task) with
  | error e =>
    rw [ending_pure]
    exact ⟨mints_asked _,by simp⟩
  | ok token =>
    have hsave : ending (onSecrets (saveToken r.sum256 (utf8 task.name) (utf8 task.ns)
        (token.serialize r.written)) : Step _) (s.asked (taskClaims env task)) = (.ok _,_) := rfl
    dsimp only
    rw [ending_bind_ok hsave]
    rcases hanswer : saveToken r.sum256 (utf8 task.name) (utf8 task.ns) (token.serialize r.written)
      (s.asked (taskClaims env task)).secrets with ⟨e | ⟨⟩,w⟩
    · exact ⟨mints_asked _,by simp⟩
    · exact ⟨mints_asked _,fun _ => ⟨token,rfl,saveToken_ok hanswer⟩⟩

variable [DecidableEq σ] {token : Macaroon σ}

lemma ensureActiveTokenMatchesSpec_spec (hminter : r.tokenMinter = some p) {text : Bytes}
    (hactive : Represents r.sum256 s.secrets.objects (utf8 task.name) (utf8 task.ns) (.active text))
    (hne : text ≠ []) {states : Prop}
    (hstates : states ↔ ∃ mac claims, p.verifyAndExtract r.unmarshal env.now text = .ok (mac,claims) ∧
      claims.maxTokens = task.spec.budgetTokens ∧ |claims.maxCostUSD - specCost task.spec| ≤ 1/1000000) :
    (readsPass s.secrets.script = true ∧ states →
      (ending (r.ensureActiveTokenMatchesSpec env task) s).2.mints = s.mints ∧
        (ending (r.ensureActiveTokenMatchesSpec env task) s).2.secrets.objects = s.secrets.objects) ∧
    (¬(readsPass s.secrets.script = true ∧ states) →
      (ending (r.ensureActiveTokenMatchesSpec env task) s).2.mints = s.mints + 1) := by
  obtain ⟨hobjects,hpass,hfail⟩ := getToken_active hactive hne
  have hread : ending (onSecrets (getToken r.sum256 false (utf8 task.name) (utf8 task.ns)) : Step _) s =
    (.ok (getToken r.sum256 false (utf8 task.name) (utf8 task.ns) s.secrets).1,
      { s with secrets := (getToken r.sum256 false (utf8 task.name) (utf8 task.ns) s.secrets).2 }) := rfl
  have hmints (w : World) : (ending (r.mintAndSaveToken env task) { s with secrets := w }).2.mints = s.mints + 1 :=
    (mintAndSaveToken_spec hminter).1
  unfold Reconciler.ensureActiveTokenMatchesSpec
  rw [hminter]
  dsimp only
  rw [ending_bind_ok hread]
  cases hscript : readsPass s.secrets.script with
  | false =>
    obtain ⟨e,he⟩ := hfail hscript
    rw [he]
    exact ⟨by simp,fun _ => hmints _⟩
  | true =>
    rw [hpass hscript]
    dsimp only
    cases hverify : p.verifyAndExtract r.unmarshal env.now text with
    | error e =>
      have hnot : ¬states := by
        rw [hstates,hverify]
        simp
      exact ⟨fun h => absurd h.2 hnot,fun _ => hmints _⟩
    | ok pair =>
      obtain ⟨mac,claims⟩ := pair
      dsimp only
      split_ifs with hdiffer
      · have hnot : ¬states := by
          rw [hstates,hverify]
          rintro ⟨_,_,hsame,htokens,hcost⟩
          cases hsame
          exact hdiffer.elim (fun h => h htokens) fun h => h.not_ge hcost
        exact ⟨fun h => absurd h.2 hnot,fun _ => hmints _⟩
      · rw [not_or,not_not,not_lt] at hdiffer
        have hyes : states := hstates.mpr ⟨mac,claims,hverify,hdiffer⟩
        exact ⟨fun _ => ⟨rfl,hobjects⟩,fun h => absurd ⟨rfl,hyes⟩ h⟩

/-- A later look at the token of a task: what others have written to the Secrets meanwhile, and the
faults of the calls. -/
structure Recheck where
  env : Surroundings
  others : (ObjectKey → Option Secret) → ObjectKey → Option Secret
  faults : List Fault

def Reconciler.recheck (r : Reconciler κ σ) (task : AgentTask) (s : System) (look : Recheck) : System :=
  (ending (r.ensureActiveTokenMatchesSpec look.env task)
    { s with secrets := ⟨look.others s.secrets.objects,look.faults⟩ }).2

/-- The token of the task has not expired, and it has been neither revoked nor replaced by others. -/
structure Recheck.Undisturbed (r : Reconciler κ σ) (task : AgentTask) (claims : Claims) (text : Bytes)
    (look : Recheck) : Prop where
  live : ∀ t ∈ claims.expiresAt, look.env.now ≤ t
  active : ∀ objects, Represents r.sum256 objects (utf8 task.name) (utf8 task.ns) (.active text) →
    Represents r.sum256 (look.others objects) (utf8 task.name) (utf8 task.ns) (.active text)

lemma states_iff_restated {r : Reconciler κ σ} {p : MacaroonProvider κ} {env env' : Surroundings} {task : AgentTask}
    {token : Macaroon σ} {quote : String → String} {text : Bytes} (hadmitted : validateAgentTask quote task = [])
    (hmint : p.mint env.nonce (taskClaims env task) = .ok token) (hjson : r.unmarshal text = some token)
    (hnonce : ∀ bytes, env.nonce = .ok bytes → bytes.length = 16) (htokens : task.spec.budgetTokens ≤ maxInt64)
    (hlive : ∀ t ∈ (taskClaims env task).expiresAt, env'.now ≤ t ∧ minInt64 ≤ t ∧ t ≤ maxInt64) :
    Restated task.spec ↔ ∃ mac claims, p.verifyAndExtract r.unmarshal env'.now text = .ok (mac,claims) ∧
      claims.maxTokens = task.spec.budgetTokens ∧ |claims.maxCostUSD - specCost task.spec| ≤ 1/1000000 := by
  obtain ⟨hcost,hdecimal⟩ := specCost_of_admitted hadmitted
  have hpositive := (budgets_of_admitted hadmitted).1
  obtain ⟨-,-,-,nonce,hdrawn,-⟩ := mint_ok hmint
  have hne : nonce ≠ [] := List.ne_nil_of_length_pos (by rw [hnonce nonce hdrawn]; decide)
  rw [hdrawn] at hmint
  cases hmodels : reread task.spec.capabilities with
  | none =>
    obtain ⟨capability,hmem,hempty⟩ := reread_eq_none_iff.mp hmodels
    obtain ⟨e,he⟩ := verify_minted_refused hmint hjson hlive htokens hdecimal (.inr hmodels)
    refine iff_of_false (fun h => h.2 capability hmem hempty) ?_
    rw [he]
    simp
  | some models =>
    have hlists : ∀ capability ∈ task.spec.capabilities, "" ∉ split ',' capability := by
      intro capability hmem hempty
      have hnone := reread_eq_none_iff.mpr ⟨capability,hmem,hempty⟩
      rw [hmodels] at hnone
      cases hnone
    rw [verify_minted hmint hjson hlive htokens hdecimal hne reread_taskTools hmodels,Restated,
      and_iff_left hlists]
    have hclose := @stated_close_iff (taskClaims env task) hcost
    constructor
    · intro h
      exact ⟨_,_,rfl,max_eq_right hpositive,hclose.mpr h⟩
    · rintro ⟨mac,claims,hsame,-,h⟩
      cases hsame
      exact hclose.mp h

/-- After a token has been minted and saved, and as long as it is neither expired nor revoked, the
looks at it leave it and ask for no other exactly when the spec is restated by its token and the reads
of every look go through. -/
theorem token_kept_iff (r : Reconciler κ σ) (p : MacaroonProvider κ) (env : Surroundings) (task : AgentTask)
    (s s' : System) (token : Macaroon σ) (quote : String → String) (looks : List Recheck)
    (hminter : r.tokenMinter = some p) (hadmitted : validateAgentTask quote task = [])
    (htokens : task.spec.budgetTokens ≤ maxInt64)
    (hexpiry : ∀ t ∈ (taskClaims env task).expiresAt, minInt64 ≤ t ∧ t ≤ maxInt64)
    (hnonce : ∀ bytes, env.nonce = .ok bytes → bytes.length = 16)
    (hsaved : ending (r.mintAndSaveToken env task) s = (.ok (.ok ()),s'))
    (hmint : p.mint env.nonce (taskClaims env task) = .ok token)
    (hjson : r.unmarshal (token.serialize r.written) = some token)
    (hlooks : ∀ look ∈ looks, look.Undisturbed r task (taskClaims env task) (token.serialize r.written)) :
    (∀ pre, pre <+: looks →
      view r.sum256 false (utf8 task.name) (utf8 task.ns) (run (r.recheck task) s' pre).secrets =
          .ok (token.serialize r.written) ∧ (run (r.recheck task) s' pre).mints = s'.mints) ↔
      ∀ look ∈ looks, readsPass look.faults = true ∧ Restated task.spec := by
  have hne := serialize_ne_nil r.written token
  have hstart : Represents r.sum256 s'.secrets.objects (utf8 task.name) (utf8 task.ns)
      (.active (token.serialize r.written)) := by
    have hspec := (@mintAndSaveToken_spec κ σ _ r p env task s hminter).2
    rw [hsaved] at hspec
    obtain ⟨token',hmint',hactive⟩ := hspec rfl
    cases hmint.symm.trans hmint'
    exact hactive
  have hstep (c : System) (look : Recheck)
      (hlook : look.Undisturbed r task (taskClaims env task) (token.serialize r.written))
      (hactive : Represents r.sum256 c.secrets.objects (utf8 task.name) (utf8 task.ns)
        (.active (token.serialize r.written))) :=
    @ensureActiveTokenMatchesSpec_spec κ σ _ r p look.env task
      { c with secrets := ⟨look.others c.secrets.objects,look.faults⟩ } _ hminter _ (hlook.active _ hactive) hne _
      (states_iff_restated hadmitted hmint hjson hnonce htokens fun t ht => ⟨hlook.live t ht,hexpiry t ht⟩)
  rw [← @everyStep_iff_forall System Recheck (r.recheck task) _ s']
  refine reaches_iff_within
    (C := fun _ (look : Recheck) => readsPass look.faults = true ∧ Restated task.spec)
    (P := fun c : System => view r.sum256 false (utf8 task.name) (utf8 task.ns) c.secrets =
      .ok (token.serialize r.written) ∧ c.mints = s'.mints)
    (D := fun _ (look : Recheck) => look.Undisturbed r task (taskClaims env task) (token.serialize r.written))
    (I := fun c : System => Represents r.sum256 c.secrets.objects (utf8 task.name) (utf8 task.ns)
      (.active (token.serialize r.written)) ∧ c.mints = s'.mints) ?_ ?_ ?_ (everyStep_of_forall hlooks s')
    ⟨hstart,rfl⟩
  · intro c look hlook hkeeps ⟨hactive,hmints⟩
    obtain ⟨hsame,hobjects⟩ := (hstep c look hlook hactive).1 hkeeps
    refine ⟨?_,hsame.trans hmints⟩
    rw [Reconciler.recheck,hobjects]
    exact hlook.active _ hactive
  · intro c ⟨hactive,hmints⟩
    exact ⟨((views_of_represents hactive).1 _ rfl hne).1,hmints⟩
  · intro c look hlook ⟨hactive,hmints⟩ hmisses ⟨_,hsame⟩
    have hasked := (hstep c look hlook hactive).2 hmisses
    have hmore : c.mints + 1 = s'.mints := hasked.symm.trans hsame
    omega

def budgetedTask (budgetUSD : String) : AgentTask :=
  { name := "fix-login"
    ns := "team-a"
    spec :=
      { objective := "fix the login page"
        repositoryURL := "https://host/app.git"
        baseBranch := "main"
        timeoutSeconds := 600
        budgetUSD := budgetUSD
        budgetTokens := 1000
        capabilities := ["small"] } }

def surroundingsAt (now : ℤ) (b : UInt8) : Surroundings :=
  { calm with clock := now * second, nonce := .ok (List.replicate 16 b) }

def budgetedToken (budgetUSD : String) (now : ℤ) (b : UInt8) : Macaroon Key :=
  let caveats := mintCaveats (taskClaims (surroundingsAt now b) (budgetedTask budgetUSD)) (List.replicate 16 b)
  ⟨"fix-login","diverge-cluster",caveats,signatureOf Key.secret "fix-login" caveats⟩

/-- A reconciler that reads the tokens of the first and of the second minute. -/
def budgetedReconciler (budgetUSD : String) : Reconciler Key Key :=
  { sampleDeployment.reconciler with
    unmarshal := decoderOf [budgetedToken budgetUSD 0 1,budgetedToken budgetUSD 60 2] }

def firstSave (budgetUSD : String) : Except Result (Except String Unit) × System :=
  ending ((budgetedReconciler budgetUSD).mintAndSaveToken (surroundingsAt 0 1) (budgetedTask budgetUSD))
    (systemOf (budgetedTask budgetUSD))

def minuteLater : Recheck := ⟨surroundingsAt 60 2,id,[]⟩

/-- A budget of whole cents keeps its token. -/
theorem five_dollars_kept :
    Restated (budgetedTask "5.00").spec ∧ ∀ pre, pre <+: [minuteLater,minuteLater] →
      view sampleSum256 false (utf8 "fix-login") (utf8 "team-a")
          (run ((budgetedReconciler "5.00").recheck (budgetedTask "5.00")) (firstSave "5.00").2 pre).secrets =
          .ok ((budgetedToken "5.00" 0 1).serialize Key.text) ∧
        (run ((budgetedReconciler "5.00").recheck (budgetedTask "5.00")) (firstSave "5.00").2 pre).mints =
          (firstSave "5.00").2.mints := by
  have hcost : specCost (budgetedTask "5.00").spec = 5 := by decide +kernel
  have hspec : Restated (budgetedTask "5.00").spec := by
    refine ⟨.inr ⟨500,?_⟩,by decide⟩
    rw [hcost]
    norm_num
  refine ⟨hspec,?_⟩
  refine (token_kept_iff (budgetedReconciler "5.00") secretProvider (surroundingsAt 0 1) (budgetedTask "5.00")
    (systemOf (budgetedTask "5.00")) (firstSave "5.00").2 (budgetedToken "5.00" 0 1) id [minuteLater,minuteLater]
    rfl (by decide +kernel) (by decide) (by decide) ?_ (Prod.ext (by decide +kernel) rfl) rfl (by decide +kernel) ?_).mpr ?_
  · rintro bytes ⟨⟩
    rfl
  · have hlook : minuteLater.Undisturbed (budgetedReconciler "5.00") (budgetedTask "5.00")
        (taskClaims (surroundingsAt 0 1) (budgetedTask "5.00"))
        ((budgetedToken "5.00" 0 1).serialize Key.text) := ⟨by decide,fun _ h => h⟩
    intro look hmem
    rw [List.mem_pair,or_self_iff] at hmem
    rw [hmem]
    exact hlook
  · intro look hmem
    rw [List.mem_pair,or_self_iff] at hmem
    rw [hmem]
    exact ⟨rfl,hspec⟩

/-- A budget of half a cent is stated rounded, and the token is replaced a minute later. -/
theorem half_cent_reminted : validateAgentTask id (budgetedTask "5.005") = [] ∧
      (firstSave "5.005").1 = .ok (.ok ()) ∧
      view sampleSum256 false (utf8 "fix-login") (utf8 "team-a") (firstSave "5.005").2.secrets =
        .ok ((budgetedToken "5.005" 0 1).serialize Key.text) ∧
      (∀ t ∈ (taskClaims (surroundingsAt 0 1) (budgetedTask "5.005")).expiresAt, minuteLater.env.now ≤ t) ∧
      view sampleSum256 false (utf8 "fix-login") (utf8 "team-a")
          ((budgetedReconciler "5.005").recheck (budgetedTask "5.005") (firstSave "5.005").2 minuteLater).secrets =
        .ok ((budgetedToken "5.005" 60 2).serialize Key.text) ∧
      (budgetedToken "5.005" 60 2).serialize Key.text ≠ (budgetedToken "5.005" 0 1).serialize Key.text := by
  refine ⟨by decide +kernel,by decide +kernel,by decide +kernel,by decide,by decide +kernel,by decide +kernel⟩

end Diverge.Tasks
