import Diverge.Auth.Verification

/-! What a minted token says when it is verified. The loop over the minted caveats is followed from
caveat to caveat; lists come back as they were minted when they survive being joined with commas. -/
namespace Diverge.Auth
open Text Hmac

/-- `Unix` of an instant in nanoseconds. -/
def unixSeconds (instant : ℤ) : ℤ := instant / 10 ^ 9

/-- A claim set as a token states it: amounts that are not positive are absent, and costs from one
cent on are rounded to cents. -/
def Claims.stated (claims : Claims) : Claims :=
  { claims with
    maxCostUSD :=
      if claims.maxCostUSD ≤ 0 then 0
      else if claims.maxCostUSD < 1/100 then claims.maxCostUSD
      else Rounding.halfEven.roundTo 2 claims.maxCostUSD
    maxTokens := max 0 claims.maxTokens }

/-- A list as it comes back from the caveat it is joined in. -/
def reread (items : List String) : Option (List String) :=
  if items = [] then some []
  else if join "," items = "" ∨ "" ∈ split ',' (join "," items) then none
  else some (split ',' (join "," items))

lemma reread_eq_self_iff {items : List String} :
    reread items = some items ↔ ∀ item ∈ items, item ≠ "" ∧ ',' ∉ item.toList := by
  unfold reread
  split_ifs with hnil hempty
  · simp [hnil]
  · refine iff_of_false (by simp) fun hclean => ?_
    have hsplit := (split_join hnil).mpr fun item hitem => (hclean item hitem).2
    rw [hsplit] at hempty
    rcases hempty with hjoin | hmem
    · rw [hjoin] at hsplit
      have hone : "" ∈ items := hsplit ▸ by decide
      exact (hclean "" hone).1 rfl
    · exact (hclean "" hmem).1 rfl
  · rw [Option.some.injEq,split_join hnil]
    refine ⟨fun hcomma item hitem => ⟨?_,hcomma item hitem⟩,fun hclean item hitem => (hclean item hitem).2⟩
    rintro rfl
    rw [(split_join hnil).mpr hcomma] at hempty
    exact hempty (.inr hitem)

lemma reread_eq_none_iff {items : List String} :
    reread items = none ↔ ∃ item ∈ items, "" ∈ split ',' item := by
  unfold reread
  split_ifs with hnil hempty
  · simp [hnil]
  · refine iff_of_true rfl ?_
    rw [← List.mem_flatMap,← split_join_parts hnil]
    rcases hempty with hjoin | hmem
    · rw [hjoin]
      decide
    · exact hmem
  · refine iff_of_false (by simp) ?_
    rw [← List.mem_flatMap,← split_join_parts hnil]
    exact fun hmem => hempty (.inr hmem)

section
variable {κ σ : Type} [Scheme κ σ] {now : ℤ} {tokenID : String}

/-- The loop passes a part of the caveats from one state to another, whatever the signature is and
whatever follows. -/
def Passes (now : ℤ) (tokenID : String) (cs : List Caveat) (st st' : Extract κ) : Prop :=
  ∀ (i : ℕ) (sig : κ) (rest : List Caveat), ∃ (j : ℕ) (sig' : κ), caveatLoop now tokenID i (cs ++ rest) { st with sig := sig } =
    caveatLoop now tokenID j rest { st' with sig := sig' }

def Stops (now : ℤ) (tokenID : String) (cs : List Caveat) (st : Extract κ) : Prop :=
  ∀ (i : ℕ) (sig : κ) (rest : List Caveat), ∃ e, caveatLoop now tokenID i (cs ++ rest) { st with sig := sig } = .error e

lemma Passes.nil (st : Extract κ) : Passes now tokenID [] st st := fun i sig _ => ⟨i,sig,rfl⟩

lemma Passes.same {st st' : Extract κ} (h : st' = st) : Passes now tokenID [] st st' := by
  rw [h]
  exact .nil st

variable {cs ds : List Caveat} {c : Caveat} {k : ℕ}

lemma Passes.append {st mid st' : Extract κ} (h : Passes now tokenID cs st mid)
    (h' : Passes now tokenID ds mid st') : Passes now tokenID (cs ++ ds) st st' := by
  intro i sig rest
  obtain ⟨j,sig',hj⟩ := h i sig (ds ++ rest)
  obtain ⟨k,sig'',hk⟩ := h' j sig' rest
  exact ⟨k,sig'',by rw [List.append_assoc,hj,hk]⟩

lemma Passes.stops {st mid : Extract κ} (h : Passes now tokenID cs st mid)
    (h' : Stops now tokenID ds mid) : Stops now tokenID (cs ++ ds) st := by
  intro i sig rest
  obtain ⟨j,sig',hj⟩ := h i sig (ds ++ rest)
  obtain ⟨e,he⟩ := h' j sig' rest
  exact ⟨e,by rw [List.append_assoc,hj,he]⟩

lemma Stops.append {cs : List Caveat} {st : Extract κ} (h : Stops now tokenID cs st) (ds : List Caveat) :
    Stops now tokenID (cs ++ ds) st := by
  intro i sig rest
  obtain ⟨e,he⟩ := h i sig (ds ++ rest)
  exact ⟨e,by rw [List.append_assoc,he]⟩

lemma Passes.single {st st' : Extract κ}
    (h : ∀ (i : ℕ) (sig : κ), checkCaveat now tokenID i c { st with sig := sig } = .ok { st' with sig := sig }) :
    Passes now tokenID [c] st st' := by
  intro i sig rest
  refine ⟨i + 1,Scheme.computeHMAC sig (serializeCaveatCanonical c),?_⟩
  rw [List.singleton_append,caveatLoop,caveatStep,h]
  rfl

lemma Stops.single {st : Extract κ} {e : TokenError}
    (h : ∀ (i : ℕ) (sig : κ), checkCaveat now tokenID i c { st with sig := sig } = .error e) :
    Stops now tokenID [c] st := by
  intro i sig rest
  exact ⟨e,by rw [List.singleton_append,caveatLoop,caveatStep,h]; rfl⟩

variable {st : Extract κ} (claims : Claims)

lemma passes_repo (hfresh : st.claims.repoURL = "") :
    Passes now tokenID (if claims.repoURL ≠ "" then [⟨"repo",opEqual,claims.repoURL⟩] else []) st
      { st with claims := { st.claims with repoURL := claims.repoURL } } := by
  split_ifs with hset
  · refine .single fun i sig => ?_
    simp only [checkCaveat,repoCaveat]
    rw [if_neg (by simp [hset]),if_neg (by simp [hfresh])]
  · rw [not_not.mp hset,← hfresh]
    exact .nil st

lemma passes_branch (hfresh : st.claims.branch = "") :
    Passes now tokenID (if claims.branch ≠ "" then [⟨"branch",opEqual,claims.branch⟩] else []) st
      { st with claims := { st.claims with branch := claims.branch } } := by
  split_ifs with hset
  · refine .single fun i sig => ?_
    simp only [checkCaveat,branchCaveat]
    rw [if_neg (by simp [hset]),if_neg (by simp [hfresh])]
  · rw [not_not.mp hset,← hfresh]
    exact .nil st

lemma passes_expiry (hfresh : st.claims.expiresAt = none)
    (hlive : ∀ t ∈ claims.expiresAt, now ≤ t ∧ minInt64 ≤ t ∧ t ≤ maxInt64) : Passes now tokenID
      (claims.expiresAt.elim [] fun t => [⟨"expires_at",opBefore,formatInt t⟩]) st
      { st with claims := { st.claims with expiresAt := claims.expiresAt } } := by
  cases hexp : claims.expiresAt with
  | none =>
    have hsame : { st with claims := { st.claims with expiresAt := none } } = st := by rw [← hfresh]
    exact .same hsame
  | some t =>
    obtain ⟨hnow,hmin,hmax⟩ := hlive t hexp
    refine .single fun i sig => ?_
    simp only [checkCaveat,expiresAtCaveat,parseInt_formatInt hmin hmax]
    rw [if_neg (by simp),if_neg (by omega),if_pos (by simp [hfresh])]

lemma passes_cost (hfresh : st.claims.maxCostUSD = 0) (hflag : st.hasMaxCostUSD = false)
    (hdecimal : claims.maxCostUSD.den ∣ 10 ^ k) : Passes now tokenID (if 0 < claims.maxCostUSD then
        [⟨"max_cost_usd",opLessThan,
          if claims.maxCostUSD < 1/100 then formatExact claims.maxCostUSD
          else formatFixed .halfEven 2 claims.maxCostUSD⟩]
        else []) st
      { st with
        hasMaxCostUSD := decide (0 < claims.maxCostUSD)
        claims := { st.claims with maxCostUSD := claims.stated.maxCostUSD } } := by
  split_ifs with hpos hsmall
  · have hstated : claims.stated.maxCostUSD = claims.maxCostUSD := by
      simp only [Claims.stated,hpos.not_ge,hsmall,if_false,if_true]
    refine .single fun i sig => ?_
    simp only [checkCaveat,maxCostUSDCaveat,parseFloat_formatExact hpos (by linarith) hdecimal]
    rw [if_neg (by simp),if_neg hpos.not_ge,if_pos (.inl hflag),hstated]
    simp [hpos]
  · have hstated : claims.stated.maxCostUSD = Rounding.halfEven.roundTo 2 claims.maxCostUSD := by
      simp only [Claims.stated,hpos.not_ge,hsmall,if_false]
    have hround : (0 : ℚ) < Rounding.halfEven.roundTo 2 claims.maxCostUSD := by
      have hcent := Rounding.halfEven.le_roundTo (k := 2) (q := claims.maxCostUSD) (n := 1) (by norm_num; linarith)
      refine lt_of_lt_of_le ?_ hcent
      norm_num
    refine .single fun i sig => ?_
    simp only [checkCaveat,maxCostUSDCaveat,parseFloat_formatFixed .halfEven (k := 2) (by decide) hpos.le]
    rw [if_neg (by simp),if_neg hround.not_ge,if_pos (.inl hflag),hstated]
    simp [hpos]
  · have hstated : claims.stated.maxCostUSD = 0 := by simp [Claims.stated,not_lt.mp hpos]
    rw [hstated,decide_eq_false hpos,← hfresh,← hflag]
    exact .nil st

lemma passes_tokens (hfresh : st.claims.maxTokens = 0) (hflag : st.hasMaxTokens = false)
    (hmax : claims.maxTokens ≤ maxInt64) : Passes now tokenID
      (if 0 < claims.maxTokens then [⟨"max_tokens",opLessThan,formatInt claims.maxTokens⟩] else []) st
      { st with
        hasMaxTokens := decide (0 < claims.maxTokens)
        claims := { st.claims with maxTokens := claims.stated.maxTokens } } := by
  have hstated : claims.stated.maxTokens = max 0 claims.maxTokens := rfl
  split_ifs with hpos
  · have hmin : minInt64 ≤ claims.maxTokens := le_trans (by decide) hpos.le
    refine .single fun i sig => ?_
    simp only [checkCaveat,maxTokensCaveat,parseInt_formatInt hmin hmax]
    rw [if_neg (by simp),if_neg hpos.not_ge,if_pos (.inl hflag),hstated,max_eq_right hpos.le]
    simp [hpos]
  · rw [hstated,max_eq_left (not_lt.mp hpos),decide_eq_false hpos,← hfresh,← hflag]
    exact .nil st

lemma passes_tools (hfresh : st.claims.allowedTools = []) (hflag : st.hasAllowedTools = false)
    {tools : List String} (hread : reread claims.allowedTools = some tools) : Passes now tokenID
      (if claims.allowedTools ≠ [] then [⟨"allowed_tools",opGlob,join "," claims.allowedTools⟩] else []) st
      { st with
        hasAllowedTools := decide (claims.allowedTools ≠ [])
        claims := { st.claims with allowedTools := tools } } := by
  unfold reread at hread
  by_cases hnil : claims.allowedTools = []
  · rw [if_pos hnil] at hread
    cases hread
    rw [if_neg (not_not.mpr hnil),decide_eq_false (not_not.mpr hnil),← hfresh,← hflag]
    exact .nil st
  · rw [if_neg hnil] at hread
    split_ifs at hread with hbad
    cases hread
    rw [not_or] at hbad
    rw [if_pos hnil,decide_eq_true hnil]
    refine .single fun i sig => ?_
    simp only [checkCaveat,allowedToolsCaveat]
    rw [if_neg (by simp [hbad.1]),if_neg hbad.2,if_pos hflag]

lemma stops_tools (hread : reread claims.allowedTools = none) : Stops now tokenID
      (if claims.allowedTools ≠ [] then [⟨"allowed_tools",opGlob,join "," claims.allowedTools⟩] else [])
      st := by
  unfold reread at hread
  by_cases hnil : claims.allowedTools = []
  · simp [hnil] at hread
  · rw [if_neg hnil] at hread
    rw [if_pos hnil]
    split_ifs at hread with hbad
    by_cases hjoin : join "," claims.allowedTools = ""
    · refine .single (e := .caveatFailed (.invalid "allowed_tools")) fun i sig => ?_
      simp only [checkCaveat,allowedToolsCaveat]
      rw [if_pos (.inr hjoin)]
    · refine .single (e := .caveatFailed .emptyPattern) fun i sig => ?_
      simp only [checkCaveat,allowedToolsCaveat]
      rw [if_neg (by simp [hjoin]),if_pos (hbad.resolve_left hjoin)]

lemma passes_models (hfresh : st.claims.allowedModels = []) (hflag : st.hasAllowedModels = false)
    {models : List String} (hread : reread claims.allowedModels = some models) : Passes now tokenID
      (if claims.allowedModels ≠ [] then [⟨"allowed_models",opIn,join "," claims.allowedModels⟩] else []) st
      { st with
        hasAllowedModels := decide (claims.allowedModels ≠ [])
        claims := { st.claims with allowedModels := models } } := by
  unfold reread at hread
  by_cases hnil : claims.allowedModels = []
  · rw [if_pos hnil] at hread
    cases hread
    rw [if_neg (not_not.mpr hnil),decide_eq_false (not_not.mpr hnil),← hfresh,← hflag]
    exact .nil st
  · rw [if_neg hnil] at hread
    split_ifs at hread with hbad
    cases hread
    rw [not_or] at hbad
    rw [if_pos hnil,decide_eq_true hnil]
    refine .single fun i sig => ?_
    simp only [checkCaveat,allowedModelsCaveat]
    rw [if_neg (by simp [hbad.1]),if_neg hbad.2,if_pos hflag]

lemma stops_models (hread : reread claims.allowedModels = none) : Stops now tokenID
      (if claims.allowedModels ≠ [] then [⟨"allowed_models",opIn,join "," claims.allowedModels⟩] else [])
      st := by
  unfold reread at hread
  by_cases hnil : claims.allowedModels = []
  · simp [hnil] at hread
  · rw [if_neg hnil] at hread
    rw [if_pos hnil]
    split_ifs at hread with hbad
    by_cases hjoin : join "," claims.allowedModels = ""
    · refine .single (e := .caveatFailed (.invalid "allowed_models")) fun i sig => ?_
      simp only [checkCaveat,allowedModelsCaveat]
      rw [if_pos (.inr hjoin)]
    · refine .single (e := .caveatFailed .emptyModel) fun i sig => ?_
      simp only [checkCaveat,allowedModelsCaveat]
      rw [if_neg (by simp [hjoin]),if_pos (hbad.resolve_left hjoin)]

variable {nonce : List UInt8}

lemma passes_nonce (hne : nonce ≠ []) : Passes now tokenID [⟨"nonce",opEqual,hexText nonce⟩] st st := by
  refine .single fun i sig => ?_
  have htext : hexText nonce ≠ "" := by
    obtain ⟨b,bytes,rfl⟩ := List.exists_cons_of_ne_nil hne
    intro h
    have htoList := congrArg String.toList h
    simp [hexText] at htoList
  simp only [checkCaveat,nonceCaveat]
  rw [if_neg (by simp [htext])]

def Claims.withoutLists (claims : Claims) : Claims :=
  { claims.stated with allowedTools := [],allowedModels := [],tokensConsumed := 0 }

def Claims.beforeLists (claims : Claims) (sig : κ) : Extract κ :=
  { sig := sig
    claims := claims.withoutLists
    hasTaskID := true
    hasNamespace := true
    hasMaxCostUSD := decide (0 < claims.maxCostUSD)
    hasMaxTokens := decide (0 < claims.maxTokens) }

def listCaveats (claims : Claims) (nonce : List UInt8) : List Caveat :=
  ((if claims.allowedTools ≠ [] then [⟨"allowed_tools",opGlob,join "," claims.allowedTools⟩] else []) ++
    (if claims.allowedModels ≠ [] then [⟨"allowed_models",opIn,join "," claims.allowedModels⟩] else [])) ++
    [⟨"nonce",opEqual,hexText nonce⟩]

lemma loop_first (rootKey : κ) (htask : claims.taskID ≠ "") (hns : claims.ns ≠ "") :
    ∃ sig : κ, ∀ rest, caveatLoop now claims.taskID 0
      (⟨"task_id",opEqual,claims.taskID⟩ :: ⟨"namespace",opEqual,claims.ns⟩ :: rest)
      (.start rootKey claims.taskID) = caveatLoop now claims.taskID 2 rest
        ⟨sig,{ taskID := claims.taskID, ns := claims.ns },true,true,false,false,false,false⟩ := by
  let sig := Scheme.computeHMAC (Scheme.computeHMAC rootKey claims.taskID)
    (serializeCaveatCanonical ⟨"task_id",opEqual,claims.taskID⟩)
  refine ⟨Scheme.computeHMAC sig (serializeCaveatCanonical ⟨"namespace",opEqual,claims.ns⟩),fun rest => ?_⟩
  simp only [caveatLoop,caveatStep,checkCaveat,taskIDCaveat]
  rw [if_neg (by simp [htask])]
  simp only [Except.bind,namespaceCaveat]
  rw [if_neg (by simp [hns]),if_neg (by simp [Extract.start])]
  rfl

lemma loop_before_lists (rootKey : κ) (nonce : List UInt8) (htask : claims.taskID ≠ "") (hns : claims.ns ≠ "")
    (hlive : ∀ t ∈ claims.expiresAt, now ≤ t ∧ minInt64 ≤ t ∧ t ≤ maxInt64)
    (hmax : claims.maxTokens ≤ maxInt64) (hdecimal : claims.maxCostUSD.den ∣ 10 ^ k) :
    ∃ i sig, caveatLoop now claims.taskID 0 (mintCaveats claims nonce) (.start rootKey claims.taskID) =
      caveatLoop now claims.taskID i (listCaveats claims nonce) (claims.beforeLists sig) := by
  have hlimits : Passes now claims.taskID _
      ⟨rootKey,{ taskID := claims.taskID, ns := claims.ns },true,true,false,false,false,false⟩
      (claims.beforeLists rootKey) :=
    ((((passes_repo claims rfl).append (passes_branch claims rfl)).append (passes_expiry claims rfl hlive)).append
      (passes_cost claims rfl rfl hdecimal)).append (passes_tokens claims rfl rfl hmax)
  obtain ⟨sig,hfirst⟩ := @loop_first κ σ _ now claims rootKey htask hns
  obtain ⟨i,sig',h⟩ := hlimits 2 sig (listCaveats claims nonce)
  refine ⟨i,sig',Eq.trans ?_ h⟩
  rw [← hfirst]
  simp only [mintCaveats,claimCaveats,listCaveats,List.append_assoc,List.cons_append,List.nil_append]
  cases claims.expiresAt with
  | none | some t => rfl

lemma loop_lists (hne : nonce ≠ []) {tools models : List String}
    (htools : reread claims.allowedTools = some tools) (hmodels : reread claims.allowedModels = some models)
    (i : ℕ) (sig : κ) :
    ∃ st, caveatLoop now tokenID i (listCaveats claims nonce) (claims.beforeLists sig) = .ok st ∧
      st.claims = { claims.withoutLists with allowedTools := tools,allowedModels := models } := by
  have hlists : Passes now tokenID (listCaveats claims nonce) (claims.beforeLists sig) _ :=
    ((passes_tools claims rfl rfl htools).append (passes_models claims rfl rfl hmodels)).append (passes_nonce hne)
  obtain ⟨j,sig',h⟩ := hlists i sig []
  rw [List.append_nil] at h
  exact ⟨_,h,rfl⟩

lemma loop_lists_stops
    (hread : reread claims.allowedTools = none ∨ reread claims.allowedModels = none) (i : ℕ) (sig : κ) :
    ∃ e, caveatLoop now tokenID i (listCaveats claims nonce) (claims.beforeLists sig) = .error e := by
  have hstops : Stops now tokenID (listCaveats claims nonce) (claims.beforeLists sig) := by
    cases htools : reread claims.allowedTools with
    | none => exact ((stops_tools claims htools).append _).append _
    | some tools =>
      have hmodels := hread.resolve_left (by simp [htools])
      exact ((passes_tools claims rfl rfl htools).stops (stops_models claims hmodels)).append _
  obtain ⟨e,he⟩ := hstops i sig []
  rw [List.append_nil] at he
  exact ⟨e,he⟩

end

variable {κ σ : Type} [Scheme κ σ] [DecidableEq σ]

section
variable {p : MacaroonProvider κ} {unmarshal : List UInt8 → Option (Macaroon σ)} {claims : Claims}
  {nonce raw : List UInt8} {now : ℤ} {token : Macaroon σ}

lemma verify_minted (hmint : p.mint (.ok nonce) claims = .ok token) (hjson : unmarshal raw = some token)
    (hlive : ∀ t ∈ claims.expiresAt, now ≤ t ∧ minInt64 ≤ t ∧ t ≤ maxInt64) (hmax : claims.maxTokens ≤ maxInt64)
    (hdecimal : ∃ k, claims.maxCostUSD.den ∣ 10 ^ k) (hne : nonce ≠ []) {tools models : List String}
    (htools : reread claims.allowedTools = some tools) (hmodels : reread claims.allowedModels = some models) :
    p.verifyAndExtract unmarshal now raw =
      .ok (token,{ claims.withoutLists with allowedTools := tools,allowedModels := models }) := by
  obtain ⟨hkey,htask,hns,bytes,hbytes,rfl⟩ := mint_ok hmint
  cases hbytes
  obtain ⟨k,hdecimal⟩ := hdecimal
  obtain ⟨i,sig,hloop⟩ := loop_before_lists claims p.rootKey nonce htask hns hlive hmax hdecimal
  obtain ⟨st,hst,hread⟩ := loop_lists claims hne htools hmodels i sig
  have hsig := caveatLoop_sig (hloop.trans hst)
  obtain ⟨htaskID,hnamespace,-,-⟩ := caveatLoop_mintCaveats (hloop.trans hst)
  refine verifyAndExtract_ok_iff.mpr ⟨hkey,hjson,verifyMacaroon_ok_iff.mpr ⟨htask,st,hloop.trans hst,?_⟩⟩
  exact ⟨congrArg Scheme.encodeHex hsig,htaskID,hnamespace,hread⟩

lemma verify_minted_refused (hmint : p.mint (.ok nonce) claims = .ok token) (hjson : unmarshal raw = some token)
    (hlive : ∀ t ∈ claims.expiresAt, now ≤ t ∧ minInt64 ≤ t ∧ t ≤ maxInt64) (hmax : claims.maxTokens ≤ maxInt64)
    (hdecimal : ∃ k, claims.maxCostUSD.den ∣ 10 ^ k)
    (hread : reread claims.allowedTools = none ∨ reread claims.allowedModels = none) :
    ∃ e, p.verifyAndExtract unmarshal now raw = .error e := by
  obtain ⟨-,htask,hns,bytes,hbytes,rfl⟩ := mint_ok hmint
  cases hbytes
  obtain ⟨k,hdecimal⟩ := hdecimal
  obtain ⟨i,sig,hloop⟩ := loop_before_lists claims p.rootKey nonce htask hns hlive hmax hdecimal
  obtain ⟨e,he⟩ := loop_lists_stops claims hread i sig
  cases hverify : p.verifyAndExtract unmarshal now raw with
  | error e => exact ⟨e,rfl⟩
  | ok pair =>
    obtain ⟨mac,verified⟩ := pair
    obtain ⟨-,hmac,hok⟩ := verifyAndExtract_ok_iff.mp hverify
    cases hjson.symm.trans hmac
    obtain ⟨-,st,hst,-⟩ := verifyMacaroon_ok_iff.mp hok
    rw [hloop,he] at hst
    cases hst

end

def loginClaims (tools : List String) : Claims where
  taskID := "fix-login"
  ns := "team-a"
  branch := "main"
  allowedTools := tools
  maxCostUSD := 5/2
  maxTokens := 1000
  expiresAt := some 1700000000

def mintedToken (claims : Claims) : Macaroon Key :=
  ⟨claims.taskID,"diverge-cluster",mintCaveats claims (List.replicate 16 0),
    signatureOf Key.secret claims.taskID (mintCaveats claims (List.replicate 16 0))⟩

end Diverge.Auth
