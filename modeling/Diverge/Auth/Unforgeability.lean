import Diverge.Auth.Bearer
import Diverge.Auth.Verification

/-! Unforgeability of macaroons in the symbolic model. The adversary holds minted tokens, may prolong
them, hash under any key it knows and write tokens field by field. The canonical text is injective on
the caveats the verifier accepts: each key fixes its operator and contains no separator. -/
namespace Diverge.Auth
open Text Hmac

lemma caveatOp_no_colon {key op : String} (h : caveatOp key = some op) : ':' ∉ key.toList := by
  unfold caveatOp at h
  split at h
  all_goals first | decide | contradiction

lemma toList_serializeCaveatCanonical (c : Caveat) :
    (serializeCaveatCanonical c).toList = c.key.toList ++ ':' :: (c.op ++ ":" ++ c.value).toList := by
  simp [serializeCaveatCanonical]

theorem Caveat.Recognized.eq_of_serialize {c d : Caveat} (hc : c.Recognized) (hd : d.Recognized)
    (h : serializeCaveatCanonical c = serializeCaveatCanonical d) : c = d := by
  have hl := congrArg String.toList h
  rw [toList_serializeCaveatCanonical,toList_serializeCaveatCanonical] at hl
  obtain ⟨hk,hrest⟩ := append_separator_inj (caveatOp_no_colon hc) (caveatOp_no_colon hd) hl
  have hkey : c.key = d.key := String.toList_injective hk
  have hop : c.op = d.op := by
    have hcd := hc.symm.trans ((congrArg caveatOp hkey).trans hd)
    exact Option.some.inj hcd
  have hvalue : c.value = d.value := by
    rw [hop] at hrest
    apply String.toList_injective
    simpa using hrest
  cases c
  cases d
  simp_all

lemma isPrefix_of_serialize {cs ds : List Caveat} (hc : ∀ c ∈ cs, c.Recognized) (hd : ∀ d ∈ ds, d.Recognized)
    (h : cs.map serializeCaveatCanonical <+: ds.map serializeCaveatCanonical) : cs <+: ds := by
  induction cs generalizing ds with
  | nil => exact List.nil_prefix
  | cons c cs ih =>
    cases ds with
    | nil => simp at h
    | cons d ds =>
      rw [List.map_cons,List.map_cons,List.cons_prefix_cons] at h
      have hcd := (hc c (by simp)).eq_of_serialize (hd d (by simp)) h.1
      rw [hcd,List.cons_prefix_cons]
      exact ⟨rfl,ih (fun e he => hc e (by simp [he])) (fun e he => hd e (by simp [he])) h.2⟩

lemma mintCaveats_recognized (claims : Claims) (nonce : List UInt8) :
    ∀ c ∈ mintCaveats claims nonce, c.Recognized := by
  intro c hc
  rcases List.mem_append.mp hc with hc | hc
  · exact (mem_claimCaveats hc).1
  · rw [List.mem_singleton.mp hc]
    rfl

/-- The keys an adversary can compute from public ones and the signatures of issued tokens. -/
inductive Knows (issued : Set (Macaroon Key)) : Key → Prop
  | pub (bytes : String) : Knows issued (.pub bytes)
  | signature {m : Macaroon Key} (h : m ∈ issued) : Knows issued m.signature
  | hmac {k : Key} (data : String) (h : Knows issued k) : Knows issued (Scheme.computeHMAC k data)

/-- The tokens an adversary can write. -/
inductive Builds (issued : Set (Macaroon Key)) : Macaroon Key → Prop
  | issued {m : Macaroon Key} (h : m ∈ issued) : Builds issued m
  | attenuate {m m' : Macaroon Key} (cs : List Caveat) (h : Builds issued m)
      (ha : attenuate (κ := Key) m cs = .ok m') : Builds issued m'
  | serialize (tokenID location : String) (caveats : List Caveat) {sig : Key}
      (h : Knows issued sig) : Builds issued ⟨tokenID,location,caveats,sig⟩

variable {issued : Set (Macaroon Key)} {m : Macaroon Key} {claims : Claims}

lemma Knows.chain (texts : List String) :
    ∀ {k : Key}, Knows issued k → Knows issued (Hmac.chain k texts) := by
  induction texts with
  | nil => exact fun h => h
  | cons t ts ih => exact fun h => ih (h.hmac t)

lemma Builds.knows_signature (h : Builds issued m) : Knows issued m.signature := by
  induction h with
  | issued h => exact .signature h
  | @attenuate m m' cs _ ha ih =>
    cases ha
    exact ih.chain _
  | serialize _ _ _ h => exact h

def signedTexts (m : Macaroon Key) : List String :=
  m.tokenID :: m.caveatSeq.map serializeCaveatCanonical

lemma Knows.derivable (hsig : ∀ m ∈ issued, m.signature = Hmac.chain .secret (signedTexts m)) {k : Key}
    (h : Knows issued k) : Key.Derivable (signedTexts '' issued) k := by
  induction h with
  | pub bytes => exact .pub bytes
  | @signature m hm =>
    rw [hsig m hm]
    exact .digest ⟨m,hm,rfl⟩
  | hmac data _ ih => exact .mac data ih

lemma mint_signature {nonce : Except String (List UInt8)} (h : secretProvider.mint nonce claims = .ok m) :
    m.signature = Hmac.chain .secret (signedTexts m) ∧ ∀ c ∈ m.caveatSeq, c.Recognized := by
  obtain ⟨-,-,-,bytes,-,rfl⟩ := mint_ok h
  exact ⟨rfl,mintCaveats_recognized claims bytes⟩

lemma verifyMacaroon_signature {now : ℤ} {mac : Macaroon Key}
    (h : secretProvider.verifyMacaroon now mac = .ok claims) :
    mac.signature = Hmac.chain .secret (signedTexts mac) ∧ ∀ c ∈ mac.caveatSeq, c.Recognized := by
  obtain ⟨-,st,hloop,hsig,-,-,-⟩ := verifyMacaroon_ok_iff.mp h
  refine ⟨?_,caveatLoop_ops hloop⟩
  rw [← hsig,caveatLoop_sig hloop]
  rfl

/-- Macaroons cannot be forged: whatever bytes an adversary that saw the issued tokens presents,
if they are accepted, then some issued token has the same id and its caveats, field by field,
begin the accepted list; and no other accepted token has the accepted canonical texts. -/
theorem accepted_extends_issued (issued : Set (Macaroon Key))
    (unmarshal : List UInt8 → Option (Macaroon Key)) (now : ℤ) (raw : List UInt8)
    (mac : Macaroon Key) (claims : Claims)
    (hissued : ∀ m ∈ issued, ∃ nonce minted, secretProvider.mint nonce minted = .ok m)
    (hadv : ∀ m, unmarshal raw = some m → Builds issued m)
    (hacc : secretProvider.verifyAndExtract unmarshal now raw = .ok (mac,claims)) :
    (∃ m ∈ issued, m.tokenID = mac.tokenID ∧ m.caveatSeq <+: mac.caveatSeq) ∧
      ∀ raw' now' mac' claims',
        secretProvider.verifyAndExtract unmarshal now' raw' = .ok (mac',claims') →
        mac'.caveatSeq.map serializeCaveatCanonical = mac.caveatSeq.map serializeCaveatCanonical →
        mac'.caveatSeq = mac.caveatSeq := by
  obtain ⟨-,hraw,hv⟩ := verifyAndExtract_ok_iff.mp hacc
  obtain ⟨hsig,hrec⟩ := verifyMacaroon_signature hv
  constructor
  · have hsigned : ∀ m ∈ issued, m.signature = Hmac.chain .secret (signedTexts m) := by
      intro m hm
      obtain ⟨nonce,minted,h⟩ := hissued m hm
      exact (mint_signature h).1
    have hder := (hadv mac hraw).knows_signature.derivable hsigned
    obtain ⟨texts,⟨m,hm,rfl⟩,hpre⟩ := hder.exists_known_prefix _ hsig
    obtain ⟨hid,hcaveats⟩ := List.cons_prefix_cons.mp hpre
    obtain ⟨nonce,minted,h⟩ := hissued m hm
    exact ⟨m,hm,hid,isPrefix_of_serialize (mint_signature h).2 hrec hcaveats⟩
  · intro raw' now' mac' claims' hacc' htexts
    obtain ⟨-,-,hv'⟩ := verifyAndExtract_ok_iff.mp hacc'
    have hrec' := (verifyMacaroon_signature hv').2
    have hpre := isPrefix_of_serialize hrec' hrec (htexts ▸ List.prefix_rfl)
    exact hpre.eq_of_length (by simpa using congrArg List.length htexts)

def loginToken : Macaroon Key :=
  let caveats := mintCaveats { taskID := "fix-login", ns := "team-a" } [7]
  ⟨"fix-login","diverge-cluster",caveats,signatureOf Key.secret "fix-login" caveats⟩

def branchToken : Macaroon Key :=
  let caveat : Caveat := ⟨"branch",opEqual,"a:=:b"⟩
  { loginToken with
    caveatSeq := loginToken.caveatSeq ++ [caveat]
    signature := .mac loginToken.signature (serializeCaveatCanonical caveat) }

theorem branchToken_extends_issued :
    (∃ m ∈ ({loginToken} : Set (Macaroon Key)), m.tokenID = branchToken.tokenID ∧
      m.caveatSeq <+: branchToken.caveatSeq) ∧ ∀ raw' now' mac' claims',
        secretProvider.verifyAndExtract (decoderOf [branchToken]) now' raw' = .ok (mac',claims') →
        mac'.caveatSeq.map serializeCaveatCanonical =
          branchToken.caveatSeq.map serializeCaveatCanonical →
        mac'.caveatSeq = branchToken.caveatSeq := by
  refine accepted_extends_issued {loginToken} (decoderOf [branchToken]) 0
    (branchToken.serialize Key.text) branchToken
    { taskID := "fix-login", ns := "team-a", branch := "a:=:b" } ?_ ?_ (by decide +kernel)
  · rintro m rfl
    exact ⟨.ok [7],{ taskID := "fix-login", ns := "team-a" },by decide +kernel⟩
  · intro m hm
    obtain rfl : branchToken = m := List.mem_singleton.mp (List.mem_of_find?_eq_some hm) |>.symm
    exact .attenuate [⟨"branch",opEqual,"a:=:b"⟩] (.issued rfl) rfl

end Diverge.Auth
