import Diverge.Auth.Evaluation

/-! What `Verify` says about an attenuated token, from what it says about the token and about each
caveat. The serialized token has the texts of the caveats coerced to UTF-8, and the signature is of
the texts as they were. -/
namespace Diverge.Auth.Raw
open Text Hmac

/-- A caveat after it has been written as JSON and read again. -/
def Caveat.coerced (c : Caveat) : Caveat := ⟨coerce c.key,coerce c.op,coerce c.value⟩

/-- `json.Marshal` coerces texts to UTF-8; the signature is hexadecimal. -/
def Macaroon.coerced {σ : Type} (m : Macaroon σ) : Macaroon σ :=
  ⟨coerce m.tokenID,coerce m.location,m.caveatSeq.map Caveat.coerced,m.signature⟩

def Caveat.Valid (c : Caveat) : Prop := ValidUtf8 c.key ∧ ValidUtf8 c.op ∧ ValidUtf8 c.value

instance (c : Caveat) : Decidable c.Valid := inferInstanceAs (Decidable (_ ∧ _))

def Macaroon.Valid {σ : Type} (m : Macaroon σ) : Prop := ValidUtf8 m.tokenID ∧ ∀ c ∈ m.caveatSeq, c.Valid

instance {σ : Type} (m : Macaroon σ) : Decidable m.Valid := inferInstanceAs (Decidable (_ ∧ _))

variable {c : Caveat} {σ : Type} {m : Macaroon σ}

lemma Caveat.coerced_eq (h : c.Valid) : c.coerced = c := by
  obtain ⟨hk,ho,hv⟩ := h
  rw [Caveat.coerced,coerce_of_valid hk,coerce_of_valid ho,coerce_of_valid hv]

lemma asciiText_injective : Function.Injective asciiText := by
  intro a b h
  rw [← String.toList_inj,asciiText_toList,asciiText_toList] at h
  refine List.map_injective_iff.mpr ?_ h
  intro x y hxy
  have hx := x.toNat_lt
  have hy := y.toNat_lt
  have hnat := congrArg Char.toNat hxy
  rw [toNat_charOfNat (by omega),toNat_charOfNat (by omega)] at hnat
  exact UInt8.toNat_inj.mp hnat

lemma Caveat.valid_of_canonical (h : serializeCaveatCanonical c.coerced = serializeCaveatCanonical c) :
    c.Valid := by
  have hlen := congrArg List.length h
  simp only [serializeCaveatCanonical,Caveat.coerced,List.length_append] at hlen
  obtain ⟨hk,hkey⟩ := length_coerce c.key
  obtain ⟨ho,hop⟩ := length_coerce c.op
  obtain ⟨hv,hvalue⟩ := length_coerce c.value
  exact ⟨hkey (by omega),hop (by omega),hvalue (by omega)⟩

lemma Macaroon.valid_of_signedTexts
    (h : signedTexts m.coerced.tokenID m.coerced.caveatSeq = signedTexts m.tokenID m.caveatSeq) : m.Valid := by
  obtain ⟨hid,hcaveats⟩ := List.cons_eq_cons.mp h
  refine ⟨asciiText_injective hid,fun c hc => Caveat.valid_of_canonical ?_⟩
  rw [Macaroon.coerced,List.map_map] at hcaveats
  exact asciiText_injective (List.map_inj_left.mp hcaveats c hc)

lemma Macaroon.coerced_of_valid (h : m.Valid) : m.coerced = { m with location := coerce m.location } := by
  have hcaveats : m.caveatSeq.map Caveat.coerced = m.caveatSeq := by
    conv_rhs => rw [← List.map_id m.caveatSeq]
    exact List.map_congr_left fun c hc => Caveat.coerced_eq (h.2 c hc)
  rw [Macaroon.coerced,coerce_of_valid h.1,hcaveats]

section
variable {κ σ : Type} [Scheme κ σ] {now : ℤ} {required : Claims}

def Holds (now : ℤ) (required : Claims) (cs : List Caveat) : Prop := ∀ c ∈ cs, evaluateCaveat c now required = .ok ()

lemma replay_ok_iff {cs : List Caveat} {st st' : Replay κ} :
    replay now required cs st = .ok st' ↔ Holds now required cs ∧ cs.foldl Replay.advance st = st' := by
  induction cs generalizing st with
  | nil => simp [replay,Holds]
  | cons c cs ih =>
    rw [replay]
    cases heval : evaluateCaveat c now required with
    | error e =>
      refine iff_of_false (by simp [Except.bind]) fun h => ?_
      have hc := h.1 c List.mem_cons_self
      rw [heval] at hc
      cases hc
    | ok u =>
      rw [Except.bind,ih,List.foldl_cons]
      refine and_congr_left fun _ => ?_
      rw [Holds,Holds,List.forall_mem_cons,heval]
      exact (and_iff_right rfl).symm

lemma foldl_advance_sig (cs : List Caveat) (st : Replay κ) :
    (cs.foldl Replay.advance st).sig = chain st.sig (cs.map fun c => asciiText (serializeCaveatCanonical c)) := by
  induction cs generalizing st with
  | nil => rfl
  | cons c cs ih => exact ih (st.advance c)

lemma foldl_advance_flags (cs : List Caveat) (st : Replay κ) :
    ((cs.foldl Replay.advance st).hasTaskID = true ↔
      st.hasTaskID = true ∨ ∃ c ∈ cs, c.key = utf8 "task_id" ∧ c.value ≠ []) ∧
    ((cs.foldl Replay.advance st).hasNamespace = true ↔
      st.hasNamespace = true ∨ ∃ c ∈ cs, c.key = utf8 "namespace" ∧ c.value ≠ []) := by
  induction cs generalizing st with
  | nil => simp
  | cons c cs ih =>
    obtain ⟨htask,hns⟩ := ih (st.advance c)
    rw [List.foldl_cons,htask,hns]
    simp only [Replay.advance,Bool.or_eq_true,Bool.and_eq_true,decide_eq_true_eq,List.exists_mem_cons_iff,or_assoc,
      and_self]

variable {p : MacaroonProvider κ} {m : Macaroon σ}

lemma verifyMacaroon_ok_iff [DecidableEq σ] {mac : Macaroon σ} :
    verifyMacaroon p now required mac = .ok () ↔ Holds now required mac.caveatSeq ∧
      Scheme.encodeHex (chain p.rootKey (signedTexts mac.tokenID mac.caveatSeq)) = mac.signature ∧
      (∃ c ∈ mac.caveatSeq, c.key = utf8 "task_id" ∧ c.value ≠ []) ∧
      ∃ c ∈ mac.caveatSeq, c.key = utf8 "namespace" ∧ c.value ≠ [] := by
  let start : Replay κ := { sig := Scheme.computeHMAC p.rootKey (asciiText mac.tokenID) }
  have hsig := foldl_advance_sig mac.caveatSeq start
  obtain ⟨htask,hns⟩ := foldl_advance_flags mac.caveatSeq start
  rw [or_iff_right Bool.false_ne_true] at htask hns
  rw [verifyMacaroon,← htask,← hns,signedTexts,chain_cons,← hsig]
  by_cases hholds : Holds now required mac.caveatSeq
  · have hpass : replay now required mac.caveatSeq start = .ok (mac.caveatSeq.foldl Replay.advance start) :=
      replay_ok_iff.mpr ⟨hholds,rfl⟩
    rw [hpass,Except.bind]
    split_ifs with h1 h2 h3 <;> simp_all
  · cases hreplay : replay now required mac.caveatSeq start with
    | error e => exact iff_of_false (by simp [Except.bind]) fun h => hholds h.1
    | ok st => exact absurd (replay_ok_iff.mp hreplay).1 hholds

/-- The token is signed for the texts it has in memory, and bound to a task and a namespace. -/
structure Signed (p : MacaroonProvider κ) (m : Macaroon σ) : Prop where
  signature : m.signature = Scheme.encodeHex (chain p.rootKey (signedTexts m.tokenID m.caveatSeq))
  task : ∃ c ∈ m.caveatSeq, c.key = utf8 "task_id" ∧ c.value ≠ []
  ns : ∃ c ∈ m.caveatSeq, c.key = utf8 "namespace" ∧ c.value ≠ []

/-- The signed texts change on the way through JSON and their digests do not. -/
def Collides (p : MacaroonProvider κ) (m : Macaroon σ) : Prop :=
  signedTexts m.coerced.tokenID m.coerced.caveatSeq ≠ signedTexts m.tokenID m.caveatSeq ∧
  chain p.rootKey (signedTexts m.coerced.tokenID m.coerced.caveatSeq) =
    chain p.rootKey (signedTexts m.tokenID m.caveatSeq)

lemma Signed.verify_ok_iff [DecidableEq σ] (h : Signed p m) (hfree : ¬Collides p m) :
    verifyMacaroon p now required m.coerced = .ok () ↔ m.Valid ∧ Holds now required m.caveatSeq := by
  rw [verifyMacaroon_ok_iff]
  constructor
  · rintro ⟨hholds,hsig,-,-⟩
    have hchain := encodeHex_injective (hsig.trans h.signature)
    have hvalid := Macaroon.valid_of_signedTexts (not_not.mp fun hne => hfree ⟨hne,hchain⟩)
    rw [Macaroon.coerced_of_valid hvalid] at hholds
    exact ⟨hvalid,hholds⟩
  · rintro ⟨hvalid,hholds⟩
    rw [Macaroon.coerced_of_valid hvalid]
    exact ⟨hholds,h.signature.symm,h.task,h.ns⟩

lemma Signed.of_mint {nonce : Except String Bytes} {claims : Claims} {token : Macaroon σ}
    (h : mint p nonce claims = .ok token) : minMacaroonRootKeyLen ≤ Scheme.keyLen p.rootKey ∧ Signed p token := by
  unfold mint at h
  split_ifs at h with hkey htask hns
  cases nonce with
  | error e => cases h
  | ok bytes =>
    cases h
    refine ⟨Nat.le_of_not_lt hkey,rfl,⟨⟨utf8 "task_id",utf8 opEqual,claims.taskID⟩,?_,rfl,htask⟩,
      ⟨utf8 "namespace",utf8 opEqual,claims.ns⟩,?_,rfl,hns⟩ <;> simp [mintCaveats]

/-- The token with more caveats, signed for all of them. -/
def Macaroon.extend (p : MacaroonProvider κ) (m : Macaroon σ) (cs : List Caveat) : Macaroon σ :=
  { m with
    caveatSeq := m.caveatSeq ++ cs
    signature := Scheme.encodeHex (chain p.rootKey (signedTexts m.tokenID (m.caveatSeq ++ cs))) }

lemma Signed.extend (h : Signed p m) (cs : List Caveat) : Signed p (m.extend p cs) := by
  obtain ⟨c,hc,htask⟩ := h.task
  obtain ⟨d,hd,hns⟩ := h.ns
  exact ⟨rfl,⟨c,List.mem_append_left _ hc,htask⟩,d,List.mem_append_left _ hd,hns⟩

lemma Signed.attenuate_eq (h : Signed p m) (cs : List Caveat) :
    attenuate (κ := κ) m cs = .ok (m.extend p cs) := by
  have htexts : signedTexts m.tokenID (m.caveatSeq ++ cs) =
      signedTexts m.tokenID m.caveatSeq ++ cs.map fun c => asciiText (serializeCaveatCanonical c) := by
    rw [signedTexts,List.map_append]
    rfl
  rw [attenuate,h.signature,Scheme.decode_encode,Macaroon.extend,htexts,chain_append]

def attenuateAll : Macaroon σ → List (List Caveat) → Except TokenError (Macaroon σ)
  | token,[] => .ok token
  | token,cs :: parts => (attenuate (κ := κ) token cs).bind fun att => attenuateAll att parts

lemma Signed.attenuateAll_eq (h : Signed p m) (parts : List (List Caveat)) :
    attenuateAll (κ := κ) m parts = .ok (m.extend p parts.flatten) := by
  induction parts generalizing m with
  | nil => rw [attenuateAll,Macaroon.extend,List.flatten_nil,List.append_nil,← h.signature]
  | cons cs parts ih =>
    rw [attenuateAll,h.attenuate_eq,Except.bind,ih (h.extend cs),List.flatten_cons]
    simp only [Macaroon.extend,List.append_assoc]

variable [DecidableEq σ]

/-- `Verify` of an attenuated token says what `Verify` of the token and `evaluateCaveat` say. -/
def Compositional (p : MacaroonProvider κ) (marshal : Macaroon σ → Bytes) (unmarshal : Bytes → Option (Macaroon σ))
    (now : ℤ) (required : Claims) (token : Macaroon σ) (cs : List Caveat) : Prop :=
  ∃ att, attenuate (κ := κ) token cs = .ok att ∧
    (∀ parts, parts.flatten = cs → attenuateAll (κ := κ) token parts = .ok att) ∧
    (verify p unmarshal now (marshal att) required = .ok () ↔
      verify p unmarshal now (marshal token) required = .ok () ∧ ∀ c ∈ cs, evaluateCaveat c now required = .ok ())

/-- Verification of minted tokens is compositional where the caveats are text, or the token is none,
or some caveat does not hold anyway. -/
theorem verify_compositional_iff (p : MacaroonProvider κ) (marshal : Macaroon σ → Bytes)
    (unmarshal : Bytes → Option (Macaroon σ)) (now : ℤ) (required : Claims) (nonce : Except String Bytes)
    (claims : Claims) (token : Macaroon σ) (cs : List Caveat) (hmint : mint p nonce claims = .ok token)
    (hjson : ∀ m, m = token ∨ attenuate (κ := κ) token cs = .ok m → unmarshal (marshal m) = some m.coerced)
    (hfree : ∀ m, m = token ∨ attenuate (κ := κ) token cs = .ok m → ¬Collides p m) :
    Compositional p marshal unmarshal now required token cs ↔
      (∀ c ∈ cs, c.Valid) ∨ ¬token.Valid ∨ ∃ c ∈ token.caveatSeq ++ cs, evaluateCaveat c now required ≠ .ok () := by
  obtain ⟨hkey,hsigned⟩ := Signed.of_mint hmint
  have hverify : ∀ m, m = token ∨ attenuate (κ := κ) token cs = .ok m → Signed p m →
      (verify p unmarshal now (marshal m) required = .ok () ↔ m.Valid ∧ Holds now required m.caveatSeq) := by
    intro m hm hs
    rw [verify,if_neg (Nat.not_lt.mpr hkey),hjson m hm]
    exact hs.verify_ok_iff (hfree m hm)
  have hatt := hsigned.attenuate_eq cs
  have hbefore := hverify token (.inl rfl) hsigned
  have hafter := hverify _ (.inr hatt) (hsigned.extend cs)
  have hvalid : (token.extend p cs).Valid ↔ token.Valid ∧ ∀ c ∈ cs, c.Valid := by
    rw [Macaroon.Valid,Macaroon.Valid,Macaroon.extend,List.forall_mem_append,and_assoc]
  have hholds : Holds now required (token.extend p cs).caveatSeq ↔
      Holds now required token.caveatSeq ∧ Holds now required cs := List.forall_mem_append
  have hiff : Compositional p marshal unmarshal now required token cs ↔
      (((token.Valid ∧ ∀ c ∈ cs, c.Valid) ∧ Holds now required token.caveatSeq ∧ Holds now required cs) ↔
        (token.Valid ∧ Holds now required token.caveatSeq) ∧ Holds now required cs) := by
    rw [Compositional,← hvalid,← hholds,← hafter,← hbefore]
    constructor
    · rintro ⟨att,h,-,hcomp⟩
      rw [hatt] at h
      cases h
      exact hcomp
    · intro h
      refine ⟨_,hatt,?_,h⟩
      rintro parts rfl
      exact hsigned.attenuateAll_eq parts
  have hrefused : (∃ c ∈ token.caveatSeq ++ cs, evaluateCaveat c now required ≠ .ok ()) ↔
      ¬(Holds now required token.caveatSeq ∧ Holds now required cs) := by
    rw [← hholds,Holds]
    push Not
    rfl
  rw [hiff,hrefused]
  constructor
  · intro h
    by_cases hboth : token.Valid ∧ Holds now required token.caveatSeq ∧ Holds now required cs
    · exact .inl (h.mpr ⟨⟨hboth.1,hboth.2.1⟩,hboth.2.2⟩).1.2
    · exact .inr (not_and_or.mp hboth)
  · rintro h
    constructor
    · rintro ⟨⟨htoken,-⟩,hroot,hcs⟩
      exact ⟨⟨htoken,hroot⟩,hcs⟩
    · rintro ⟨⟨htoken,hroot⟩,hcs⟩
      rcases h with hvalid | hinvalid | hrefuse
      · exact ⟨⟨htoken,hvalid⟩,hroot,hcs⟩
      · exact absurd htoken hinvalid
      · exact absurd ⟨hroot,hcs⟩ hrefuse

end

def taskClaims : Claims := { taskID := utf8 "fix-login", ns := utf8 "team-a" }

def taskToken : Macaroon Key :=
  ⟨utf8 "fix-login",utf8 "diverge-cluster",mintCaveats taskClaims [7],
    chain Key.secret (signedTexts (utf8 "fix-login") (mintCaveats taskClaims [7]))⟩

def nonceOf (value : Bytes) : Caveat := ⟨utf8 "nonce",utf8 "=",value⟩

/-- The serialized texts of the token and of its attenuation, told apart by a number. -/
def written (m : Macaroon Key) : Bytes := [UInt8.ofNat m.caveatSeq.length]

def readBack (cs : List Caveat) (raw : Bytes) : Option (Macaroon Key) :=
  [taskToken,taskToken.extend secretProvider cs].find? (fun m => written m == raw) |>.map Macaroon.coerced

lemma secret_not_collides (m : Macaroon Key) : ¬Collides secretProvider m :=
  fun h => h.1 (Key.chain_secret_injective _ _ h.2)

theorem verify_compositional_of_text :
    Compositional secretProvider written (readBack [nonceOf (utf8 "é")]) 0 taskClaims taskToken [nonceOf (utf8 "é")] :=
  (verify_compositional_iff secretProvider written (readBack [nonceOf (utf8 "é")]) 0 taskClaims (.ok [7]) taskClaims
    taskToken [nonceOf (utf8 "é")] rfl
    (by
      rintro m (rfl | hm)
      · decide +kernel
      · rw [show attenuate (κ := Key) taskToken [nonceOf (utf8 "é")] =
          .ok (taskToken.extend secretProvider [nonceOf (utf8 "é")]) from by decide +kernel] at hm
        cases hm
        decide +kernel)
    fun m _ => secret_not_collides m).mpr (.inl (by decide +kernel))

/-- A caveat that holds makes a token that is refused: its byte is no text, so the serialized token
has another text than the one that was signed. -/
theorem attenuation_by_invalid_text : mint secretProvider (.ok [7]) taskClaims = .ok taskToken ∧
    attenuate (κ := Key) taskToken [nonceOf [0xff]] = .ok (taskToken.extend secretProvider [nonceOf [0xff]]) ∧
    readBack [nonceOf [0xff]] (written taskToken) = some taskToken.coerced ∧
    readBack [nonceOf [0xff]] (written (taskToken.extend secretProvider [nonceOf [0xff]])) =
      some (taskToken.extend secretProvider [nonceOf [0xff]]).coerced ∧
    verify secretProvider (readBack [nonceOf [0xff]]) 0 (written taskToken) taskClaims = .ok () ∧
    evaluateCaveat (nonceOf [0xff]) 0 taskClaims = .ok () ∧
    verify secretProvider (readBack [nonceOf [0xff]]) 0
      (written (taskToken.extend secretProvider [nonceOf [0xff]])) taskClaims = .error .invalidSignature := by
  refine ⟨?_,?_,?_,?_,?_,?_,?_⟩ <;> decide +kernel

end Diverge.Auth.Raw
