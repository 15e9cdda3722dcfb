import Diverge.Auth.Access
import Diverge.Auth.Bearer
import Diverge.Auth.Verification
import Diverge.TokenStore.Views

/-! Revoked tokens after a rotation. Revocations are kept for tasks, not for tokens: the metering
endpoint asks only whether the task is revoked, while authentication also compares the presented
token with the stored one. -/
namespace Diverge.TokenStore
open Text Transition Hmac Auth

section
variable {κ σ : Type} [Scheme κ σ] [DecidableEq σ] (p : MacaroonProvider κ)
  (unmarshal : Bytes → Option (Macaroon σ)) (sum256 : Sum256) (indexOnly : Bool)

/-- A refusal of the metering endpoint. -/
structure MeterRefusal where
  status : ℕ
  reason : String
  deriving DecidableEq

def requestNamespace (claims : Claims) : String := if claims.ns = "" then "default" else claims.ns

/-- The token checks of the metering endpoint: the macaroon, then the task's revocation. -/
def meterTokenCheck (now : ℤ) (w : World) (raw : Bytes) : Except MeterRefusal Claims :=
  match p.verifyAndExtract unmarshal now raw with
  | .error _ => .error ⟨401,"invalid or expired capability token"⟩
  | .ok (_,claims) =>
    match (checkRevoked sum256 indexOnly (utf8 claims.taskID) (utf8 (requestNamespace claims)) w).1 with
    | .error _ => .error ⟨503,"failed to verify token revocation status"⟩
    | .ok true => .error ⟨401,"token revoked"⟩
    | .ok false => .ok claims

inductive AuthFailure
  | verification (e : TokenError)
  | tokenRevoked
  | store (e : StoreError)
  deriving DecidableEq

/-- `Authenticate` on a decoded token; `active` is the optional check that the task is. -/
def authenticate (active : String → String → Bool) (now : ℤ) (w : World) (raw : Bytes) :
    Except AuthFailure UserInfo :=
  match p.verifyAndExtract unmarshal now raw with
  | .error e => .error (.verification e)
  | .ok (mac,claims) =>
    let ns := requestNamespace claims
    match (getToken sum256 indexOnly (utf8 claims.taskID) (utf8 ns) w).1 with
    | .error .tokenRevoked => .error .tokenRevoked
    | .error .tokenNotFound => .error .tokenRevoked
    | .error e => .error (.store e)
    | .ok storedRaw =>
      if matchesStoredRootToken unmarshal mac storedRaw = false then .error .tokenRevoked
      else if active claims.taskID ns = false then .error .tokenRevoked
      else .ok (claimsUser claims)

end

/-- Operations that take a revocation mark away: a new token is saved, or the task is deleted. -/
def StoreOp.Renews (t n : Bytes) : StoreOp → Prop
  | .save t' n' _ => t' = t ∧ n' = n
  | .delete t' n' => t' = t ∧ n' = n
  | _ => False

section
variable {r : Registry} {t n : Bytes}

variable {op : StoreOp} {ops : List StoreOp} {token : Bytes}

lemma Registry.apply_revoked (hr : r.slot t n = .revoked) (hop : ¬op.Renews t n) :
    (r.apply op).slot t n = .revoked := by
  cases op with
  | save t' n' token | delete t' n' =>
    have hne : ¬(t = t' ∧ n = n') := fun h => hop ⟨h.1.symm,h.2.symm⟩
    simp [Registry.apply,hne,hr]
  | revoke t' n' =>
    rw [Registry.apply]
    split_ifs
    · exact hr
    · simp [hr]
  | revokeIndex t' n' =>
    rw [Registry.apply]
    split_ifs
    · simp [hr]
    · exact hr

lemma run_revoked (h : ∀ op ∈ ops, ¬op.Renews t n) :
    ∀ {r : Registry}, r.slot t n = .revoked → (run Registry.apply r ops).slot t n = .revoked := by
  induction ops with
  | nil => exact fun hr => hr
  | cons op ops ih =>
    intro r hr
    exact ih (fun o ho => h o (by simp [ho])) (Registry.apply_revoked hr (h op (by simp)))

lemma Registry.apply_renews (hop : op.Renews t n) : (r.apply op).slot t n ≠ .revoked := by
  cases op with
  | save t' n' token | delete t' n' =>
    obtain ⟨rfl,rfl⟩ := hop
    simp [Registry.apply]
  | revoke t' n' | revokeIndex t' n' => exact hop.elim

lemma Registry.eq_save_of_active (hne : r.slot t n ≠ .active token)
    (h : (r.apply op).slot t n = .active token) : op = .save t n token := by
  cases op with
  | save t' n' token' =>
    by_cases hc : t = t' ∧ n = n'
    · obtain ⟨rfl,rfl⟩ := hc
      simp only [Registry.apply,Registry.set_slot,and_self,if_true,Slot.active.injEq] at h
      rw [h]
    · exact absurd (by simpa [Registry.apply,hc] using h) hne
  | revoke t' n' =>
    rw [Registry.apply] at h
    split_ifs at h
    · exact absurd h hne
    · rw [Registry.set_slot] at h
      split_ifs at h
      exact absurd h hne
  | delete t' n' =>
    rw [Registry.apply,Registry.set_slot] at h
    split_ifs at h
    exact absurd h hne
  | revokeIndex t' n' =>
    rw [Registry.apply] at h
    split_ifs at h
    · rw [Registry.set_slot] at h
      split_ifs at h
      exact absurd h hne
    · exact absurd h hne

lemma mem_of_run_active : ∀ {r : Registry}, r.slot t n ≠ .active token →
      (run Registry.apply r ops).slot t n = .active token → .save t n token ∈ ops := by
  induction ops with
  | nil => exact fun hne h => absurd h hne
  | cons op ops ih =>
    intro r hne h
    by_cases hact : (r.apply op).slot t n = .active token
    · rw [Registry.eq_save_of_active hne hact]
      exact List.mem_cons_self
    · exact List.mem_cons_of_mem _ (ih hact h)

end

lemma nonce_eq_of_begins {c1 c2 : Claims} {n1 n2 : Bytes} {cs : List Caveat}
    (h : mintCaveats c1 n1 <+: mintCaveats c2 n2 ++ cs) : n1 = n2 := by
  have hfront : ∀ (c : Claims) (n : Bytes) (rest : List Caveat),
      (mintCaveats c n ++ rest).takeWhile (fun x => decide (x.key ≠ "nonce")) = claimCaveats c := by
    intro c n rest
    have hall : ∀ x ∈ claimCaveats c, decide (x.key ≠ "nonce") = true := fun x hx =>
      decide_eq_true (mem_claimCaveats hx).2
    rw [mintCaveats,List.append_assoc,List.takeWhile_append_of_pos hall]
    simp
  obtain ⟨rest,hrest⟩ := h
  have hc : claimCaveats c1 = claimCaveats c2 := by
    rw [← hfront c1 n1 rest,← hfront c2 n2 cs,hrest]
  rw [mintCaveats,mintCaveats,hc,List.append_assoc,List.append_assoc] at hrest
  have hx := (List.cons_eq_cons.mp (List.append_cancel_left hrest)).1
  have hv : hexText n1 = hexText n2 := congrArg Caveat.value hx
  exact hexChars_injective (String.ofList_injective hv)

section
variable {κ σ : Type} [Scheme κ σ] [DecidableEq σ] {p : MacaroonProvider κ}
  {unmarshal : Bytes → Option (Macaroon σ)} {sum256 : Sum256}

variable {w : World} {tasks : Set Bytes} {claims : Claims} {root att : Macaroon σ} {cs : List Caveat}

lemma checkRevoked_of_represents (hq : w.script = []) {t n : Bytes} {s : Slot}
    (h : Represents sum256 w.objects t n s) (indexOnly : Bool) :
    (checkRevoked sum256 indexOnly t n w).1 = .ok (decide (s = .revoked)) := by
  obtain ⟨objects,script⟩ := w
  obtain rfl : script = [] := hq
  change Represents sum256 objects t n s at h
  have hmark : indexMark sum256 objects t n = decide (s = .revoked) := by
    cases s with
    | absent | active token | revoked => simpa using h.2.2
  cases indexOnly with
  | true => simp [checkRevoked,isRevokedInIndex_quiet,hmark]
  | false =>
    cases hs : objects (secretKey sum256 t n) with
    | none => simp [checkRevoked,hs,isRevokedInIndex_quiet,hmark]
    | some sec =>
      have hm := matchesTaskLabel_of_owned (h.owned sec hs)
      by_cases hr : isTrue sec.labels labelRevoked = true
      · have hrev : s = .revoked := by
          cases s with
          | absent => simp [h.1] at hs
          | active token =>
            obtain ⟨⟨sec',hs',-,hl,-⟩,-⟩ := h
            rw [hs',Option.some.injEq] at hs
            rw [hs,hr] at hl
            contradiction
          | revoked => rfl
        simp [checkRevoked,hs,hm,hr,hrev]
      · simp [checkRevoked,hs,hm,hr,isRevokedInIndex_quiet,hmark]

lemma meterTokenCheck_ok_iff {r : Registry}
    (hR : Refines sum256 tasks w r) {nonce : Except String Bytes} (hmint : p.mint nonce claims = .ok root)
    (hatt : attenuate (κ := κ) root cs = .ok att) (ht : utf8 claims.taskID ∈ tasks)
    {raw : Bytes} (hraw : unmarshal raw = some att) (indexOnly : Bool) (now : ℤ) (c : Claims) :
    meterTokenCheck p unmarshal sum256 indexOnly now w raw = .ok c ↔
      p.verifyAndExtract unmarshal now raw = .ok (att,c) ∧
        r.slot (utf8 claims.taskID) (utf8 claims.ns) ≠ .revoked := by
  unfold meterTokenCheck
  cases hv : p.verifyAndExtract unmarshal now raw with
  | error e => simp
  | ok pair =>
    obtain ⟨mac,c'⟩ := pair
    obtain ⟨-,hm,hmac⟩ := verifyAndExtract_ok_iff.mp hv
    obtain rfl : att = mac := Option.some.inj (hraw.symm.trans hm)
    obtain ⟨htask,hns⟩ := verifyMacaroon_attenuated hmint hatt hmac
    obtain ⟨-,-,hne,-⟩ := mint_ok hmint
    have hreq : requestNamespace c' = claims.ns := by rw [requestNamespace,hns,if_neg hne]
    have hcheck := checkRevoked_of_represents hR.quiet (hR.slot _ ht (utf8 claims.ns)) indexOnly
    rw [← htask,← hreq] at hcheck
    dsimp only
    rw [hcheck,htask,hreq]
    by_cases hrev : r.slot (utf8 claims.taskID) (utf8 claims.ns) = .revoked
    · simp [hrev]
    · simp [hrev]

/-- A save of a token minted with another nonce. -/
def FreshSaves (p : MacaroonProvider κ) (unmarshal : Bytes → Option (Macaroon σ)) (nonce t n : Bytes)
    (ops : List StoreOp) : Prop :=
  ∀ token, .save t n token ∈ ops → ∃ nonce' claims' minted, nonce' ≠ nonce ∧
    p.mint (.ok nonce') claims' = .ok minted ∧ (decodeMacaroonToken token).bind unmarshal = some minted

lemma authenticate_ne_ok {r : Registry}
    (hR : Refines sum256 tasks w r) {nonce : Bytes} (hmint : p.mint (.ok nonce) claims = .ok root)
    (hatt : attenuate (κ := κ) root cs = .ok att) (ht : utf8 claims.taskID ∈ tasks)
    {raw : Bytes} (hraw : unmarshal raw = some att)
    (hslot : ∀ token, r.slot (utf8 claims.taskID) (utf8 claims.ns) = .active token →
      ∃ nonce' claims' minted, nonce' ≠ nonce ∧ p.mint (.ok nonce') claims' = .ok minted ∧
        (decodeMacaroonToken token).bind unmarshal = some minted)
    (indexOnly : Bool) (active : String → String → Bool) (now : ℤ) (user : UserInfo) :
    authenticate p unmarshal sum256 indexOnly active now w raw ≠ .ok user := by
  obtain ⟨-,-,hne,bytes,hb,rfl⟩ := mint_ok hmint
  cases hb
  obtain ⟨-,hseq⟩ := attenuate_ok hatt
  unfold authenticate
  cases hv : p.verifyAndExtract unmarshal now raw with
  | error e => simp
  | ok pair =>
    obtain ⟨mac,c'⟩ := pair
    obtain ⟨-,hm,hmac⟩ := verifyAndExtract_ok_iff.mp hv
    obtain rfl : att = mac := Option.some.inj (hraw.symm.trans hm)
    obtain ⟨htask,hns⟩ := verifyMacaroon_attenuated hmint hatt hmac
    have hreq : requestNamespace c' = claims.ns := by rw [requestNamespace,hns,if_neg hne]
    have hview : (getToken sum256 indexOnly (utf8 claims.taskID) (utf8 claims.ns) w).1 =
        view sum256 indexOnly (utf8 claims.taskID) (utf8 claims.ns) w := by
      rw [view,← hR.quiet]
    obtain ⟨hserve,hreject⟩ := views_of_represents (hR.slot _ ht (utf8 claims.ns))
    dsimp only
    rw [htask,hreq,hview]
    by_cases hact : ∃ token, r.slot (utf8 claims.taskID) (utf8 claims.ns) = .active token
    · obtain ⟨token,htok⟩ := hact
      obtain ⟨nonce',claims',minted,hfresh,hmint',hdec⟩ := hslot token htok
      have hnil : token ≠ [] := by
        rintro rfl
        exact absurd hdec (by simp [decodeMacaroonToken,trimSpaceBytes,dropLeading])
      obtain ⟨hfull,hindex⟩ := hserve token htok hnil
      have hok : view sum256 indexOnly (utf8 claims.taskID) (utf8 claims.ns) w = .ok token := by
        cases indexOnly
        · exact hfull
        · exact hindex
      obtain ⟨-,-,-,bytes',hb',rfl⟩ := mint_ok hmint'
      cases hb'
      have hmatch : matchesStoredRootToken unmarshal att token = false := by
        rw [matchesStoredRootToken,hdec]
        apply Bool.eq_false_iff.mpr
        intro htrue
        rw [Bool.and_eq_true,List.isPrefixOf_iff_prefix,hseq] at htrue
        exact hfresh (nonce_eq_of_begins htrue.2)
      rw [hok]
      simp [hmatch]
    · obtain ⟨hfull,hindex⟩ := hreject fun token h => hact ⟨token,h⟩
      have hrej : Rejects sum256 indexOnly (utf8 claims.taskID) (utf8 claims.ns) w := by
        cases indexOnly
        · exact hfull
        · exact hindex
      rcases hrej with h | h <;> simp [h]

lemma apply_revocation {before : List StoreOp} {rev : StoreOp} {t n stored : Bytes}
    (hrev : rev = .revoke t n ∨ rev = .revokeIndex t n) (hsaved : lastSaved t n before = some stored) :
    ((run Registry.apply .empty before).apply rev).slot t n = .revoked := by
  have htok := run_token before t n
  have hidx := run_indexed before t n
  rw [hsaved] at htok
  generalize run Registry.apply .empty before = r at htok hidx
  have hne : r.slot t n ≠ .absent := by
    intro habs
    rw [habs] at htok
    contradiction
  rcases hrev with rfl | rfl
  · simp [Registry.apply,hne]
  · simp [Registry.apply,hidx hne]

/-- A revoked token at the two endpoints. Metering refuses it in every later state exactly when
it does not verify anyway or the task's mark is never taken away; authentication refuses it in
every later state, as long as the tokens saved later have other nonces. -/
theorem revoked_token_refused_iff (p : MacaroonProvider κ)
    (unmarshal : Bytes → Option (Macaroon σ)) (sum256 : Sum256) (tasks : Set Bytes)
    (hcf : CollisionFree sum256 tasks) (nonce : Bytes) (claims : Claims) (root att : Macaroon σ)
    (cs : List Caveat) (raw stored : Bytes) (before later : List StoreOp) (rev : StoreOp)
    (hmint : p.mint (.ok nonce) claims = .ok root) (hatt : attenuate (κ := κ) root cs = .ok att)
    (hraw : unmarshal raw = some att) (ht : utf8 claims.taskID ∈ tasks)
    (hbefore : ∀ op ∈ before, op.taskID ∈ tasks) (hlater : ∀ op ∈ later, op.taskID ∈ tasks)
    (hsaved : lastSaved (utf8 claims.taskID) (utf8 claims.ns) before = some stored)
    (hrev : rev = .revoke (utf8 claims.taskID) (utf8 claims.ns) ∨
      rev = .revokeIndex (utf8 claims.taskID) (utf8 claims.ns))
    (indexOnly : Bool) (now : ℤ) :
    ((∀ pre, pre <+: later → ∀ c,
        meterTokenCheck p unmarshal sum256 indexOnly now
          (run (StoreOp.apply sum256) emptyWorld (before ++ rev :: pre)) raw ≠ .ok c) ↔
      (∀ c, p.verifyAndExtract unmarshal now raw ≠ .ok (att,c)) ∨
        ∀ op ∈ later, ¬op.Renews (utf8 claims.taskID) (utf8 claims.ns)) ∧
    (FreshSaves p unmarshal nonce (utf8 claims.taskID) (utf8 claims.ns) later →
      ∀ pre, pre <+: later → ∀ active user,
        authenticate p unmarshal sum256 indexOnly active now
          (run (StoreOp.apply sum256) emptyWorld (before ++ rev :: pre)) raw ≠ .ok user) := by
  have hrevoked := apply_revocation hrev hsaved
  have hrevTask : rev.taskID ∈ tasks := by
    rcases hrev with rfl | rfl <;> exact ht
  have hR : ∀ pre, pre <+: later → Refines sum256 tasks
      (run (StoreOp.apply sum256) emptyWorld (before ++ rev :: pre))
      (run Registry.apply ((run Registry.apply .empty before).apply rev) pre) := by
    intro pre hpre
    have hall : ∀ op ∈ before ++ rev :: pre, op.taskID ∈ tasks := by
      intro op hop
      rcases List.mem_append.mp hop with hop | hop
      · exact hbefore op hop
      · rcases List.mem_cons.mp hop with rfl | hop
        · exact hrevTask
        · exact hlater op (hpre.subset hop)
    simpa only [run_append,run_cons] using run_refines hcf hall
  generalize (run Registry.apply .empty before).apply rev = r0 at hrevoked hR
  constructor
  · constructor
    · intro hrefuse
      by_contra hnot
      obtain ⟨hver,hren⟩ := not_or.mp hnot
      push Not at hver hren
      obtain ⟨c,hc⟩ := hver
      obtain ⟨op,hop,hrenews⟩ := hren
      obtain ⟨pre,post,rfl⟩ := List.append_of_mem hop
      have hpre : pre ++ [op] <+: pre ++ op :: post := ⟨post,by simp⟩
      refine hrefuse (pre ++ [op]) hpre c
        ((meterTokenCheck_ok_iff (hR _ hpre) hmint hatt ht hraw indexOnly now c).mpr ⟨hc,?_⟩)
      rw [run_append,run_cons,run_nil]
      exact Registry.apply_renews hrenews
    · rintro (hver | hren) pre hpre c hok
      · exact hver c
          ((meterTokenCheck_ok_iff (hR pre hpre) hmint hatt ht hraw indexOnly now c).mp hok).1
      · refine ((meterTokenCheck_ok_iff (hR pre hpre) hmint hatt ht hraw indexOnly now c).mp hok).2 ?_
        exact run_revoked (fun op hop => hren op (hpre.subset hop)) hrevoked
  · intro hfresh pre hpre active user
    refine authenticate_ne_ok (hR pre hpre) hmint hatt ht hraw ?_ indexOnly active now user
    intro token htok
    exact hfresh token (hpre.subset (mem_of_run_active (by rw [hrevoked]; simp) htok))

end

def rotationClaims : Claims := { taskID := "fix-login", ns := "team-a" }

def rotationToken (nonce : Bytes) : Macaroon Key :=
  let caveats := mintCaveats rotationClaims nonce
  ⟨"fix-login","diverge-cluster",caveats,signatureOf Key.secret "fix-login" caveats⟩

def narrowedToken : Macaroon Key :=
  let caveats := mintCaveats rotationClaims [1] ++ [⟨"branch",opEqual,"main"⟩]
  ⟨"fix-login","diverge-cluster",caveats,signatureOf Key.secret "fix-login" caveats⟩

def rotationText (nonce : Bytes) : Bytes := (rotationToken nonce).serialize Key.text

def rotationDecoder : Bytes → Option (Macaroon Key) :=
  decoderOf [rotationToken [1],rotationToken [2],narrowedToken]

def rotationOps : List StoreOp :=
  [.save (utf8 "fix-login") (utf8 "team-a") (rotationText [1])] ++
    .revoke (utf8 "fix-login") (utf8 "team-a") ::
    [.save (utf8 "fix-login") (utf8 "team-a") (rotationText [2])]

/-- A narrowed token stays refused: by the metering endpoint while no token is saved after the
revocation, and by authentication also after a new one is. -/
theorem narrowed_token_refused :
    (∀ pre, pre <+: [.revokeIndex (utf8 "fix-login") (utf8 "team-a")] → ∀ c,
      meterTokenCheck secretProvider rotationDecoder sampleSum256 true 0
        (run (StoreOp.apply sampleSum256) emptyWorld (rotationOps.take 1 ++
          .revoke (utf8 "fix-login") (utf8 "team-a") :: pre))
        (narrowedToken.serialize Key.text) ≠ .ok c) ∧
    ∀ pre, pre <+: rotationOps.drop 2 → ∀ active user,
      authenticate secretProvider rotationDecoder sampleSum256 true active 0
        (run (StoreOp.apply sampleSum256) emptyWorld (rotationOps.take 1 ++
          .revoke (utf8 "fix-login") (utf8 "team-a") :: pre))
        (narrowedToken.serialize Key.text) ≠ .ok user := by
  have hsum := sample_collisionFree
  have hspec := fun later (hlater : ∀ op ∈ later, op.taskID ∈ _) =>
    revoked_token_refused_iff secretProvider rotationDecoder sampleSum256 _ hsum [1] rotationClaims
      (rotationToken [1]) narrowedToken [⟨"branch",opEqual,"main"⟩] (narrowedToken.serialize Key.text)
      (rotationText [1]) (rotationOps.take 1) later (.revoke (utf8 "fix-login") (utf8 "team-a"))
      (by decide +kernel) (by decide +kernel) (by decide +kernel) (.inl rfl)
      (by rintro op (_ | ⟨_,⟨⟩⟩); exact .inl rfl) hlater (by decide +kernel) (.inl rfl) true 0
  constructor
  · refine (hspec _ ?_).1.mpr (.inr ?_)
    · rintro op (_ | ⟨_,⟨⟩⟩)
      exact .inl rfl
    · rintro op (_ | ⟨_,⟨⟩⟩)
      exact id
  · refine (hspec _ ?_).2 ?_
    · rintro op (_ | ⟨_,⟨⟩⟩)
      exact .inl rfl
    · rintro token (_ | ⟨_,⟨⟩⟩)
      exact ⟨[2],rotationClaims,rotationToken [2],by decide,by decide +kernel,by decide +kernel⟩

/-- After the rotation the revoked token is metered again; authentication refuses it. -/
theorem revoked_token_metered_again :
    secretProvider.mint (.ok [1]) rotationClaims = .ok (rotationToken [1]) ∧
    secretProvider.mint (.ok [2]) rotationClaims = .ok (rotationToken [2]) ∧
    lastSaved (utf8 "fix-login") (utf8 "team-a") (rotationOps.take 1) = some (rotationText [1]) ∧
    meterTokenCheck secretProvider rotationDecoder sampleSum256 true 0
        (run (StoreOp.apply sampleSum256) emptyWorld (rotationOps.take 2)) (rotationText [1]) =
      .error ⟨401,"token revoked"⟩ ∧
    meterTokenCheck secretProvider rotationDecoder sampleSum256 true 0
        (run (StoreOp.apply sampleSum256) emptyWorld rotationOps) (rotationText [1]) =
      .ok rotationClaims ∧
    authenticate secretProvider rotationDecoder sampleSum256 true (fun _ _ => true) 0
        (run (StoreOp.apply sampleSum256) emptyWorld rotationOps) (rotationText [1]) =
      .error .tokenRevoked := by
  refine ⟨by decide +kernel,by decide +kernel,by decide +kernel,by decide +kernel,
    by decide +kernel,by decide +kernel⟩

end Diverge.TokenStore
