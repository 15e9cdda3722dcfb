import Diverge.Auth.Bearer
import Diverge.Auth.Verification
import Diverge.Order.Least

/-! The limits that are extracted from a token against the limits that its caveats state. -/
namespace Diverge.Auth
open Text Hmac Diverge.Order

section

def stated {α : Type} (key : String) (read : String → Option α) (cs : List Caveat) : List α :=
  cs.filterMap fun c => if c.key = key then read c.value else none

/-- An amount in dollars. -/
def parseCost (s : String) : Option ℚ :=
  (parseFloat s).bind fun n =>
    match n with
    | .finite q => some q
    | _ => none

def expiries (cs : List Caveat) : List ℤ := stated "expires_at" parseInt cs

def tokenLimits (cs : List Caveat) : List ℤ := stated "max_tokens" parseInt cs

def costLimits (cs : List Caveat) : List ℚ := stated "max_cost_usd" parseCost cs

variable {α : Type} {key : String} {read : String → Option α} {c : Caveat} {cs : List Caveat}

lemma stated_concat_of_ne (h : c.key ≠ key) : stated key read (cs ++ [c]) = stated key read cs := by
  simp [stated,h]

lemma stated_concat {x : α} (h : c.key = key) (hx : read c.value = some x) :
    stated key read (cs ++ [c]) = stated key read cs ++ [x] := by
  simp [stated,h,hx]

lemma stated_perm {cs ds : List Caveat} (h : cs.Perm ds) : (stated key read cs).Perm (stated key read ds) := h.filterMap _

end

section
variable {κ σ : Type} [Scheme κ σ]

def pickExpiry (best : Option ℤ) (unixSec : ℤ) : Option ℤ := if best.all (expiresBefore unixSec) then some unixSec else best

def SameText (key : String) (c : Caveat) (before after : String) : Prop :=
  (c.key = key → c.value ≠ "" ∧ (before = "" ∨ before = c.value) ∧ after = c.value) ∧ (c.key ≠ key → after = before)

def Limits {α : Type} [Zero α] [LinearOrder α] (key : String) (read : String → Option α) (c : Caveat)
    (before after : Bool × α) : Prop :=
  (c.key = key → ∃ x, read c.value = some x ∧ 0 < x ∧
    after = if before.1 = false ∨ x < before.2 then (true,x) else before) ∧
  (c.key ≠ key → after = before)

/-- What an accepted caveat does to the limits and to the texts of the claims. -/
structure Effects (i : ℕ) (c : Caveat) (st st' : Extract κ) : Prop where
  expiry : c.key = "expires_at" →
    ∃ e, parseInt c.value = some e ∧ st'.claims.expiresAt = pickExpiry st.claims.expiresAt e
  expirySame : c.key ≠ "expires_at" → st'.claims.expiresAt = st.claims.expiresAt
  tokens : Limits "max_tokens" parseInt c (st.hasMaxTokens,st.claims.maxTokens) (st'.hasMaxTokens,st'.claims.maxTokens)
  cost : Limits "max_cost_usd" parseCost c (st.hasMaxCostUSD,st.claims.maxCostUSD)
    (st'.hasMaxCostUSD,st'.claims.maxCostUSD)
  repo : SameText "repo" c st.claims.repoURL st'.claims.repoURL
  branch : SameText "branch" c st.claims.branch st'.claims.branch
  ns : SameText "namespace" c st.claims.ns st'.claims.ns
  hasNamespace : c.key = "namespace" → (st.hasNamespace = false → i = 1) ∧ st'.hasNamespace = true
  hasNamespaceSame : c.key ≠ "namespace" → st'.hasNamespace = st.hasNamespace

lemma checkCaveat_effects {now : ℤ} {tokenID : String} {i : ℕ} {c : Caveat} {st st' : Extract κ}
    (h : checkCaveat now tokenID i c st = .ok st') : Effects i c st st' := by
  unfold checkCaveat at h
  split at h <;> rename_i hk
  · unfold taskIDCaveat at h
    split_ifs at h with hc
    cases h
    constructor <;> simp [hk,SameText,Limits]
  · unfold namespaceCaveat at h
    split_ifs at h with hc hd
    cases h
    constructor <;> simp_all [SameText,Limits]
    tauto
  · unfold repoCaveat at h
    split_ifs at h with hc hd
    cases h
    constructor <;> simp_all [SameText,Limits]
    tauto
  · unfold branchCaveat at h
    split_ifs at h with hc hd
    cases h
    constructor <;> simp_all [SameText,Limits]
    tauto
  · unfold expiresAtCaveat at h
    split_ifs at h with hc
    split at h
    · contradiction
    · split_ifs at h
      all_goals
        cases h
        constructor <;> simp_all [SameText,Limits,pickExpiry]
  · unfold allowedToolsCaveat at h
    simp only at h
    split_ifs at h with hc
    all_goals
      cases h
      constructor <;> simp [hk,SameText,Limits]
  · unfold allowedModelsCaveat at h
    simp only at h
    split_ifs at h with hc
    all_goals
      cases h
      constructor <;> simp [hk,SameText,Limits]
  · unfold maxCostUSDCaveat at h
    split_ifs at h with hc
    split at h
    · contradiction
    · split_ifs at h
      all_goals
        cases h
        constructor <;> simp_all [SameText,Limits,parseCost]
    · contradiction
  · unfold maxTokensCaveat at h
    split_ifs at h with hc
    split at h
    · contradiction
    · split_ifs at h
      all_goals
        cases h
        constructor <;> simp_all [SameText,Limits]
  · unfold nonceCaveat at h
    split_ifs at h with hc
    cases h
    constructor <;> simp [hk,SameText,Limits]
  · contradiction

end

def zeroTime : ℤ := -62135596800

def Wraps (unixSec : ℤ) : Prop := 9223371974719179007 < unixSec

instance (unixSec : ℤ) : Decidable (Wraps unixSec) := inferInstanceAs (Decidable (_ < _))

/-- What the claims say about the expiry: a zero time says nothing. -/
def Claims.expiry (claims : Claims) : Option ℤ := claims.expiresAt.filter fun t => decide (t ≠ zeroTime)

/-- The order of the times is that of their Unix seconds, and the first of them is not the zero time. -/
def ExpiryOrdered (es : List ℤ) : Prop :=
  ((∀ e ∈ es, ¬Wraps e) ∨ ∀ e ∈ es, Wraps e) ∧ (zeroTime ∈ es → ∃ e ∈ es, e < zeroTime)

lemma ExpiryOrdered.perm {es ds : List ℤ} (h : ExpiryOrdered es) (hperm : es.Perm ds) : ExpiryOrdered ds := by
  obtain ⟨hsame,hzero⟩ := h
  refine ⟨?_,fun hmem => ?_⟩
  · exact hsame.imp (fun h e he => h e (hperm.mem_iff.mpr he)) fun h e he => h e (hperm.mem_iff.mpr he)
  · obtain ⟨e,he,hlt⟩ := hzero (hperm.mem_iff.mpr hmem)
    exact ⟨e,hperm.mem_iff.mp he,hlt⟩

lemma internalSeconds_cases {e : ℤ} (hmin : minInt64 ≤ e) (hmax : e ≤ maxInt64) :
    (¬Wraps e ∧ internalSeconds e = e + 62135596800) ∨
    (Wraps e ∧ internalSeconds e = e + 62135596800 - 18446744073709551616) := by
  unfold minInt64 at hmin
  unfold maxInt64 at hmax
  by_cases h : Wraps e
  · refine .inr ⟨h,?_⟩
    unfold Wraps at h
    rw [internalSeconds,int64,Int.bmod]
    split_ifs <;> omega
  · refine .inl ⟨h,?_⟩
    unfold Wraps at h
    rw [internalSeconds,int64,Int.bmod]
    split_ifs <;> omega

lemma foldl_pickExpiry {es : List ℤ} (hne : es ≠ []) : ∃ m, es.foldl pickExpiry none = some m ∧ m ∈ es ∧
      (∀ e ∈ es, internalSeconds e < 0 → internalSeconds m ≤ internalSeconds e) ∧
      ((∀ e ∈ es, internalSeconds e ≠ 0) → ∀ e ∈ es, internalSeconds m ≤ internalSeconds e) := by
  induction es using List.reverseRecOn with
  | nil => exact absurd rfl hne
  | append_singleton es x ih =>
    rw [List.foldl_append,List.foldl_cons,List.foldl_nil]
    by_cases hnil : es = []
    · subst hnil
      exact ⟨x,rfl,by simp,by simp,by simp⟩
    obtain ⟨m,hm,hmem,hneg,hleast⟩ := ih hnil
    simp only [List.forall_mem_append,List.forall_mem_singleton]
    by_cases hpick : internalSeconds m = 0 ∨ internalSeconds x < internalSeconds m
    · refine ⟨x,?_,by simp,⟨fun e he hlt => ?_,fun _ => le_rfl⟩,fun hzero => ⟨fun e he => ?_,le_rfl⟩⟩
      · rw [hm,pickExpiry,if_pos (by simpa [expiresBefore] using hpick)]
      · have hle := hneg e he hlt
        omega
      · have hle := hleast hzero.1 e he
        have hm0 := hzero.1 m hmem
        omega
    · refine ⟨m,?_,by simp [hmem],⟨hneg,fun _ => ?_⟩,fun hzero => ⟨hleast hzero.1,?_⟩⟩
      · rw [hm,pickExpiry,if_neg (by simpa [expiresBefore] using hpick)]
      · omega
      · omega

lemma least_expiry_iff {es : List ℤ} (hrange : ∀ e ∈ es, minInt64 ≤ e ∧ e ≤ maxInt64) :
    Least es ((es.foldl pickExpiry none).filter fun t => decide (t ≠ zeroTime)) ↔ ExpiryOrdered es := by
  by_cases hnil : es = []
  · subst hnil
    exact iff_of_true rfl ⟨.inl (by simp),by simp⟩
  obtain ⟨m,hm,hmem,hneg,hleast⟩ := foldl_pickExpiry hnil
  have hcases := fun e he => internalSeconds_cases (hrange e he).1 (hrange e he).2
  unfold minInt64 maxInt64 at hrange
  unfold Wraps at hcases
  rw [hm]
  constructor
  · intro h
    have hm0 : m ≠ zeroTime := by
      rintro rfl
      exact hnil h
    rw [Option.filter_some,decide_eq_true hm0] at h
    obtain ⟨-,hle⟩ := h
    refine ⟨?_,fun hzero => ⟨m,hmem,lt_of_le_of_ne (hle _ hzero) hm0⟩⟩
    by_contra hmixed
    simp only [not_or,not_forall] at hmixed
    obtain ⟨⟨e,he,hwraps⟩,d,hd,hplain⟩ := hmixed
    -- a time that wraps counts less than any other, so the loop ends with one
    have hlast := hneg e he
    have hbound := hle d hd
    have hrange_e := hrange e he
    have hrange_m := hrange m hmem
    unfold Wraps at hwraps hplain
    rcases hcases e he with h | h <;> rcases hcases m hmem with h' | h' <;> omega
  · rintro ⟨hsame,hzero⟩
    unfold zeroTime at hzero
    have hfirst : m ≠ -62135596800 ∧ ∀ e ∈ es, m ≤ e := by
      rcases hsame with hplain | hwraps
      · have hcount : ∀ e ∈ es, internalSeconds e = e + 62135596800 := fun e he =>
          ((hcases e he).resolve_right fun h => hplain e he h.1).2
        by_cases hmem0 : -62135596800 ∈ es
        · obtain ⟨d,hd,hlt⟩ := hzero hmem0
          have hd' := hcount d hd
          have hm' := hcount m hmem
          have hbelow := hneg d hd (by omega)
          refine ⟨by omega,fun e he => ?_⟩
          have he' := hcount e he
          have hcompare := hneg e he
          omega
        · have hnone : ∀ e ∈ es, internalSeconds e ≠ 0 := by
            intro e he h0
            have hcount_e := hcount e he
            exact hmem0 ((show e = -62135596800 by omega) ▸ he)
          refine ⟨fun h => hmem0 (h ▸ hmem),fun e he => ?_⟩
          have hcompare := hleast hnone e he
          have he' := hcount e he
          have hm' := hcount m hmem
          omega
      · have hcount : ∀ e ∈ es, internalSeconds e = e + 62135596800 - 18446744073709551616 := fun e he =>
          ((hcases e he).resolve_left fun h => h.1 (hwraps e he)).2
        have hm' := hcount m hmem
        have hwraps_m := hwraps m hmem
        unfold Wraps at hwraps_m
        refine ⟨by omega,fun e he => ?_⟩
        have he' := hcount e he
        have hrange_e := hrange e he
        have hcompare := hneg e he (by omega)
        omega
    rw [Option.filter_some,decide_eq_true (show m ≠ zeroTime from hfirst.1)]
    exact ⟨hmem,hfirst.2⟩

section
variable {κ σ : Type} [Scheme κ σ]

/-- A limit and its flag are those of the values stated, all of them positive. -/
def Reached {α : Type} [Zero α] [LinearOrder α] (xs : List α) (limit : Bool × α) : Prop :=
  Least xs (if limit.1 then some limit.2 else none) ∧ (limit.1 = false → limit.2 = 0) ∧ (limit.1 = true → 0 < limit.2)

variable {seen : List Caveat} {tokenID : String} {st st' : Extract κ}

variable {α : Type} {key : String} {c : Caveat} {now : ℤ}

lemma Reached.step [Zero α] [LinearOrder α] {read : String → Option α} {before after : Bool × α}
    (h : Reached (stated key read seen) before)
    (heffect : Limits key read c before after) : Reached (stated key read (seen ++ [c])) after := by
  by_cases hk : c.key = key
  · obtain ⟨x,hx,hpos,rfl⟩ := heffect.1 hk
    obtain ⟨hleast,hzero,hset⟩ := h
    rw [stated_concat hk hx]
    have hnext := hleast.concat x
    obtain ⟨flag,limit⟩ := before
    cases flag with
    | false =>
      rw [if_pos (.inl rfl)]
      exact ⟨hnext,by simp,fun _ => hpos⟩
    | true =>
      by_cases hlt : x < limit
      · rw [if_pos (.inr hlt)]
        rw [lower,if_pos (by simpa using hlt)] at hnext
        exact ⟨hnext,by simp,fun _ => hpos⟩
      · rw [if_neg (by simpa using hlt)]
        rw [lower,if_neg (by simpa using hlt)] at hnext
        exact ⟨hnext,by simp,fun _ => hset rfl⟩
  · rw [stated_concat_of_ne hk,heffect.2 hk]
    exact h

def present {α : Type} [Zero α] [DecidableEq α] (x : α) : Option α := if x = 0 then none else some x

lemma Reached.least [Zero α] [LinearOrder α] {xs : List α} {flag : Bool} {x : α}
    (h : Reached xs (flag,x)) : Least xs (present x) := by
  obtain ⟨hleast,hzero,hpos⟩ := h
  cases flag with
  | false =>
    rw [present,if_pos (hzero rfl)]
    exact hleast
  | true =>
    rw [present,if_neg (hpos rfl).ne']
    exact hleast

/-- The text is that of every caveat of the key, and empty where there is none. -/
def Shared (key : String) (cs : List Caveat) (text : String) : Prop :=
  (∀ c ∈ cs, c.key = key → text = c.value) ∧ (text ≠ "" ↔ ∃ c ∈ cs, c.key = key)

lemma Shared.step {before after : String}
    (h : Shared key seen before) (heffect : SameText key c before after) : Shared key (seen ++ [c]) after := by
  by_cases hk : c.key = key
  · obtain ⟨hne,hsame,rfl⟩ := heffect.1 hk
    refine ⟨fun d hd hkd => ?_,iff_of_true hne ⟨c,by simp,hk⟩⟩
    rcases List.mem_append.mp hd with hd | hd
    · have hset : before ≠ "" := h.2.mpr ⟨d,hd,hkd⟩
      rw [← hsame.resolve_left hset]
      exact h.1 d hd hkd
    · rw [List.mem_singleton.mp hd]
  · rw [heffect.2 hk]
    refine ⟨fun d hd hkd => ?_,h.2.trans (by simp [hk])⟩
    rcases List.mem_append.mp hd with hd | hd
    · exact h.1 d hd hkd
    · rw [List.mem_singleton.mp hd] at hkd
      exact absurd hkd hk

/-- What the state of the loop says about the caveats seen so far. -/
structure Describes (seen : List Caveat) (st : Extract κ) : Prop where
  expiry : st.claims.expiresAt = (expiries seen).foldl pickExpiry none
  tokens : Reached (tokenLimits seen) (st.hasMaxTokens,st.claims.maxTokens)
  cost : Reached (costLimits seen) (st.hasMaxCostUSD,st.claims.maxCostUSD)
  repo : Shared "repo" seen st.claims.repoURL
  branch : Shared "branch" seen st.claims.branch
  ns : Shared "namespace" seen st.claims.ns
  index : st.hasNamespace = true → ∃ c, seen[1]? = some c ∧ c.key = "namespace"

lemma Describes.start (rootKey : κ) (tokenID : String) : Describes [] (Extract.start rootKey tokenID) where
  expiry := rfl
  tokens := ⟨rfl,fun _ => rfl,fun h => nomatch h⟩
  cost := ⟨rfl,fun _ => rfl,fun h => nomatch h⟩
  repo := ⟨by simp,by simp [Extract.start]⟩
  branch := ⟨by simp,by simp [Extract.start]⟩
  ns := ⟨by simp,by simp [Extract.start]⟩
  index h := nomatch h

lemma Describes.step (h : Describes seen st) (hstep : caveatStep now tokenID seen.length c st = .ok st') :
    Describes (seen ++ [c]) st' := by
  have heffects := checkCaveat_effects hstep
  refine ⟨?_,h.tokens.step heffects.tokens,h.cost.step heffects.cost,h.repo.step heffects.repo,
    h.branch.step heffects.branch,h.ns.step heffects.ns,?_⟩
  · by_cases hk : c.key = "expires_at"
    · obtain ⟨e,he,hexpiry⟩ := heffects.expiry hk
      rw [expiries,stated_concat hk he,List.foldl_append,hexpiry]
      exact congrArg (fun best => pickExpiry best e) h.expiry
    · rw [expiries,stated_concat_of_ne hk,heffects.expirySame hk]
      exact h.expiry
  · intro hset
    have hkeep : st.hasNamespace = true → ∃ d, (seen ++ [c])[1]? = some d ∧ d.key = "namespace" := by
      intro hbefore
      obtain ⟨d,hd,hkey⟩ := h.index hbefore
      refine ⟨d,?_,hkey⟩
      rw [List.getElem?_append_left (List.getElem?_eq_some_iff.mp hd).1]
      exact hd
    by_cases hk : c.key = "namespace"
    · by_cases hbefore : st.hasNamespace = true
      · exact hkeep hbefore
      · have hlen := (heffects.hasNamespace hk).1 ((Bool.not_eq_true _).mp hbefore)
        refine ⟨c,?_,hk⟩
        rw [← hlen,List.getElem?_concat_length]
    · rw [heffects.hasNamespaceSame hk] at hset
      exact hkeep hset

lemma Describes.loop {cs seen : List Caveat}
    (h : Describes seen st) (hloop : caveatLoop now tokenID seen.length cs st = .ok st') :
    Describes (seen ++ cs) st' := by
  induction cs generalizing seen st with
  | nil =>
    cases hloop
    rw [List.append_nil]
    exact h
  | cons c cs ih =>
    obtain ⟨mid,hstep,hrest⟩ := caveatLoop_cons hloop
    have hnext := ih (h.step hstep) (by rwa [List.length_append])
    rwa [List.append_assoc] at hnext

variable [DecidableEq σ]

/-- The limits are the least ones that the caveats state, and the texts are those of every caveat of their key; the
namespace is stated by the second caveat. -/
structure ReadFrom (mac : Macaroon σ) (claims : Claims) : Prop where
  expiry : Least (expiries mac.caveatSeq) claims.expiry
  tokens : Least (tokenLimits mac.caveatSeq) (present claims.maxTokens)
  cost : Least (costLimits mac.caveatSeq) (present claims.maxCostUSD)
  task : claims.taskID = mac.tokenID
  ns : ∃ c, mac.caveatSeq[1]? = some c ∧ c.key = "namespace" ∧ claims.ns = c.value
  repo : Shared "repo" mac.caveatSeq claims.repoURL
  branch : Shared "branch" mac.caveatSeq claims.branch

structure Tightened (before after : Claims) : Prop where
  expiry : NotRaised before.expiry after.expiry
  tokens : NotRaised (present before.maxTokens) (present after.maxTokens)
  cost : NotRaised (present before.maxCostUSD) (present after.maxCostUSD)

structure SameLimits (claims claims' : Claims) : Prop where
  expiry : claims.expiry = claims'.expiry
  tokens : claims.maxTokens = claims'.maxTokens
  cost : claims.maxCostUSD = claims'.maxCostUSD
  repo : claims.repoURL = claims'.repoURL
  branch : claims.branch = claims'.branch

variable {p : MacaroonProvider κ} {unmarshal : List UInt8 → Option (Macaroon σ)} {now : ℤ} {raw : List UInt8}
  {mac : Macaroon σ} {claims : Claims}

lemma extracted (h : p.verifyAndExtract unmarshal now raw = .ok (mac,claims)) :
    claims.expiresAt = (expiries mac.caveatSeq).foldl pickExpiry none ∧
    Least (tokenLimits mac.caveatSeq) (present claims.maxTokens) ∧
    Least (costLimits mac.caveatSeq) (present claims.maxCostUSD) ∧ claims.taskID = mac.tokenID ∧
    (∃ c, mac.caveatSeq[1]? = some c ∧ c.key = "namespace" ∧ claims.ns = c.value) ∧
    Shared "repo" mac.caveatSeq claims.repoURL ∧ Shared "branch" mac.caveatSeq claims.branch := by
  obtain ⟨-,-,hverify⟩ := verifyAndExtract_ok_iff.mp h
  obtain ⟨-,st,hloop,-,-,hns,rfl⟩ := verifyMacaroon_ok_iff.mp hverify
  have hdescribes := (Describes.start p.rootKey mac.tokenID).loop hloop
  rw [List.nil_append] at hdescribes
  obtain ⟨c,hc,hkey⟩ := hdescribes.index hns
  exact ⟨hdescribes.expiry,hdescribes.tokens.least,hdescribes.cost.least,caveatLoop_task rfl hloop,
    ⟨c,hc,hkey,hdescribes.ns.1 c (List.mem_of_getElem? hc) hkey⟩,hdescribes.repo,hdescribes.branch⟩

lemma present_injective {α : Type} [Zero α] [DecidableEq α] {x y : α} (h : present x = present y) : x = y := by
  unfold present at h
  split_ifs at h with hx hy
  · rw [hx,hy]
  · exact Option.some.inj h

lemma Shared.unique {key text text' : String} {cs ds : List Caveat} (hperm : cs.Perm ds) (h : Shared key cs text)
    (h' : Shared key ds text') : text = text' := by
  by_cases hset : ∃ c ∈ cs, c.key = key
  · obtain ⟨c,hc,hk⟩ := hset
    rw [h.1 c hc hk,h'.1 c (hperm.mem_iff.mp hc) hk]
  · have hnone : ¬∃ c ∈ ds, c.key = key := fun ⟨c,hc,hk⟩ => hset ⟨c,hperm.mem_iff.mpr hc,hk⟩
    rw [not_not.mp fun hne => hset (h.2.mp hne),not_not.mp fun hne => hnone (h'.2.mp hne)]

lemma stated_append {α : Type} (key : String) (read : String → Option α) (cs ds : List Caveat) :
    stated key read (cs ++ ds) = stated key read cs ++ stated key read ds := List.filterMap_append

lemma expiries_range {cs : List Caveat} {e : ℤ} (h : e ∈ expiries cs) : minInt64 ≤ e ∧ e ≤ maxInt64 := by
  obtain ⟨c,-,hc⟩ := List.mem_filterMap.mp h
  split_ifs at hc
  exact parseInt_range hc

lemma mem_expiries_of_expiry (h : p.verifyAndExtract unmarshal now raw = .ok (mac,claims)) {e : ℤ}
    (he : e ∈ claims.expiry) : e ∈ expiries mac.caveatSeq := by
  have hset := (Option.filter_eq_some_iff.mp he).1
  rw [(extracted h).1] at hset
  by_cases hnil : expiries mac.caveatSeq = []
  · rw [hnil] at hset
    cases hset
  · obtain ⟨m,hm,hmem,-⟩ := foldl_pickExpiry hnil
    rw [hm] at hset
    cases hset
    exact hmem

/-- The limits of an accepted token are the least ones stated, no attenuation raises one, and the order of the
appended caveats does not matter to them, exactly where the order of the stated expiries is that of their seconds. -/
theorem extracted_limits_iff (p : MacaroonProvider κ) (unmarshal : List UInt8 → Option (Macaroon σ))
    (now now' now'' : ℤ) (raw raw' raw'' : List UInt8) (root att att' : Macaroon σ) (rootClaims claims claims' : Claims)
    (cs ds : List Caveat) (hroot : p.verifyAndExtract unmarshal now raw = .ok (root,rootClaims))
    (hatt : attenuate (κ := κ) root cs = .ok att) (hatt' : attenuate (κ := κ) root ds = .ok att') (hperm : cs.Perm ds)
    (h : p.verifyAndExtract unmarshal now' raw' = .ok (att,claims))
    (h' : p.verifyAndExtract unmarshal now'' raw'' = .ok (att',claims')) :
    ReadFrom att claims ∧ Tightened rootClaims claims ∧ SameLimits claims claims' ↔
      ExpiryOrdered (expiries att.caveatSeq) := by
  obtain ⟨hexpiry,htokens,hcost,htask,hns,hrepo,hbranch⟩ := extracted h
  obtain ⟨hexpiry',htokens',hcost',-,-,hrepo',hbranch'⟩ := extracted h'
  obtain ⟨-,htokens₀,hcost₀,-⟩ := extracted hroot
  obtain ⟨-,hseq⟩ := attenuate_ok hatt
  obtain ⟨-,hseq'⟩ := attenuate_ok hatt'
  have hiff : Least (expiries att.caveatSeq) claims.expiry ↔ ExpiryOrdered (expiries att.caveatSeq) := by
    rw [Claims.expiry,hexpiry]
    exact least_expiry_iff fun e he => expiries_range he
  have hall : att.caveatSeq.Perm att'.caveatSeq := by
    rw [hseq,hseq']
    exact hperm.append_left _
  constructor
  · rintro ⟨hread,-,-⟩
    exact hiff.mp hread.expiry
  · intro hordered
    have hleast := hiff.mpr hordered
    have hleast' : Least (expiries att'.caveatSeq) claims'.expiry := by
      rw [Claims.expiry,hexpiry']
      refine (least_expiry_iff fun e he => expiries_range he).mpr ?_
      exact hordered.perm (stated_perm hall)
    refine ⟨⟨hleast,htokens,hcost,htask,hns,hrepo,hbranch⟩,⟨?_,?_,?_⟩,⟨?_,?_,?_,?_,?_⟩⟩
    · refine hleast.notRaised fun e he => ?_
      rw [expiries,hseq,stated_append]
      exact List.mem_append_left _ (mem_expiries_of_expiry hroot he)
    · refine htokens.notRaised fun n hn => ?_
      rw [tokenLimits,hseq,stated_append]
      exact List.mem_append_left _ (htokens₀.mem hn)
    · refine hcost.notRaised fun q hq => ?_
      rw [costLimits,hseq,stated_append]
      exact List.mem_append_left _ (hcost₀.mem hq)
    · exact hleast.unique (stated_perm hall) hleast'
    · exact present_injective (htokens.unique (stated_perm hall) htokens')
    · exact present_injective (hcost.unique (stated_perm hall) hcost')
    · exact hrepo.unique hall hrepo'
    · exact hbranch.unique hall hbranch'

end

def limitedToken : Macaroon Key :=
  let caveats := mintCaveats { taskID := "fix-login", ns := "team-a", maxTokens := 1000, expiresAt := some 2000000000 } [7]
  ⟨"fix-login","diverge-cluster",caveats,signatureOf Key.secret "fix-login" caveats⟩

def limitedTokenWith (cs : List Caveat) : Macaroon Key :=
  { limitedToken with
    caveatSeq := limitedToken.caveatSeq ++ cs
    signature := chain limitedToken.signature (cs.map serializeCaveatCanonical) }

def expiresAt (unixSec : String) : Caveat := ⟨"expires_at",opBefore,unixSec⟩

def tokensBelow (n : String) : Caveat := ⟨"max_tokens",opLessThan,n⟩

def limitedClaims (tokens expiry : ℤ) : Claims :=
  { taskID := "fix-login", ns := "team-a", maxTokens := tokens, expiresAt := some expiry }

def limitedDecoder (cs ds : List Caveat) : Bytes → Option (Macaroon Key) :=
  decoderOf [limitedToken,limitedTokenWith cs,limitedTokenWith ds]

theorem limits_of_two_orders :
    ReadFrom (limitedTokenWith [tokensBelow "50",expiresAt "1900000000"]) (limitedClaims 50 1900000000) ∧
    Tightened (limitedClaims 1000 2000000000) (limitedClaims 50 1900000000) ∧
    SameLimits (limitedClaims 50 1900000000) (limitedClaims 50 1900000000) :=
  (extracted_limits_iff secretProvider
    (limitedDecoder [tokensBelow "50",expiresAt "1900000000"] [expiresAt "1900000000",tokensBelow "50"])
    1700000000 1700000000 1700000000 (limitedToken.serialize Key.text)
    ((limitedTokenWith [tokensBelow "50",expiresAt "1900000000"]).serialize Key.text)
    ((limitedTokenWith [expiresAt "1900000000",tokensBelow "50"]).serialize Key.text)
    limitedToken (limitedTokenWith [tokensBelow "50",expiresAt "1900000000"])
    (limitedTokenWith [expiresAt "1900000000",tokensBelow "50"]) (limitedClaims 1000 2000000000)
    (limitedClaims 50 1900000000) (limitedClaims 50 1900000000)
    [tokensBelow "50",expiresAt "1900000000"] [expiresAt "1900000000",tokensBelow "50"]
    (by decide +kernel) (by decide +kernel) (by decide +kernel) (List.Perm.swap _ _ _) (by decide +kernel)
    (by decide +kernel)).mpr ⟨.inl (by decide +kernel),by decide +kernel⟩

/-- The last time that 64 bits of Unix seconds can state counts as earlier than every other: appended to a token that
expires in 2033 it becomes the expiry of the token. -/
theorem last_expiry_wins :
    secretProvider.verifyAndExtract (limitedDecoder [expiresAt "9223372036854775807"] []) 1700000000
      (limitedToken.serialize Key.text) = .ok (limitedToken,limitedClaims 1000 2000000000) ∧
    attenuate (κ := Key) limitedToken [expiresAt "9223372036854775807"] =
      .ok (limitedTokenWith [expiresAt "9223372036854775807"]) ∧
    secretProvider.verifyAndExtract (limitedDecoder [expiresAt "9223372036854775807"] []) 1700000000
      ((limitedTokenWith [expiresAt "9223372036854775807"]).serialize Key.text) =
        .ok (limitedTokenWith [expiresAt "9223372036854775807"],limitedClaims 1000 9223372036854775807) ∧
    (limitedClaims 1000 2000000000).expiry = some 2000000000 ∧
    (limitedClaims 1000 9223372036854775807).expiry = some 9223372036854775807 ∧
    2000000000 ∈ expiries (limitedTokenWith [expiresAt "9223372036854775807"]).caveatSeq := by
  refine ⟨?_,?_,?_,?_,?_,?_⟩ <;> decide +kernel

end Diverge.Auth
