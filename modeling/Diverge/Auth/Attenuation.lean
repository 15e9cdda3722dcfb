import Diverge.Auth.Bearer
import Diverge.Auth.Verification
import Diverge.Auth.Access
import Diverge.Glob.Covering

/-! Attenuation against what a token may do. The narrowing step of `allowed_tools` keeps a new pattern
when an old one matches its text. Where every kept pattern is also covered by one of the minted token,
no sequence of caveats widens the token. -/
namespace Diverge.Auth
open Text Glob Hmac

/-- The pattern is malformed, or a granted one covers it, or all tools of the server are granted and
it cannot take a separator. -/
def Inside (granted : List String) (pattern : String) : Prop :=
  ∀ q, parse pattern.toList = some q → ∃ e ∈ granted,
    (∃ p, parse e.toList = some p ∧ Covers p q) ∨ (e = "diverge_*" ∧ ∀ t ∈ q, t.SlashFree)

variable {rest : List Char} {granted : List String}

lemma matches_allTools {name : String}
    (hname : name.toList = "diverge_".toList ++ rest) (hfree : ∀ c ∈ name.toList, c ≠ '/') :
    Matches "diverge_*" name := by
  have hp : parse "diverge_*".toList = some ("diverge_".toList.map glyph ++ [.star]) := by decide
  refine (matches_iff _ _).mpr ⟨_,hp,?_⟩
  have hrest : matchTerms [.star] rest = true :=
    (matchTerms_star [] rest).mpr ⟨rest,[],by simp,fun c hc => hfree c (by simp [hname,hc]),rfl⟩
  rw [hname]
  exact hrest

theorem Inside.sound {pattern name : String}
    (h : Inside granted pattern) (hname : name.toList = "diverge_".toList ++ rest)
    (hm : Matches pattern name) : ∃ e ∈ granted, Matches e name := by
  obtain ⟨q,hq,hqm⟩ := (matches_iff _ _).mp hm
  obtain ⟨e,he,⟨p,hp,hc⟩ | ⟨rfl,hfree⟩⟩ := h q hq
  · exact ⟨e,he,(matches_iff _ _).mpr ⟨p,hp,hc.sound _ hqm⟩⟩
  · exact ⟨_,he,matches_allTools hname (matchTerms_slashFree hfree _ hqm)⟩

theorem Inside.of_text {e pattern : String} (he : e ∈ granted)
    (hplain : '[' ∉ e.toList ∧ '\\' ∉ e.toList ∧ '?' ∉ e.toList)
    (hnew : '[' ∉ pattern.toList ∧ '\\' ∉ pattern.toList) (hm : Matches e pattern) :
    Inside granted pattern := by
  intro q hq
  have hpe := parse_glyphs e.toList hplain.1 hplain.2.1
  obtain ⟨p,hp,hpm⟩ := (matches_iff _ _).mp hm
  have hpq := parse_glyphs pattern.toList hnew.1 hnew.2
  rw [hpe] at hp
  rw [hpq] at hq
  cases hp
  cases hq
  exact ⟨e,he,.inl ⟨_,hpe,Covers.of_text hplain.2.2 hpm⟩⟩

section
variable {κ σ : Type} [Scheme κ σ]

/-- Along the loop from a state, every tool pattern a caveat leaves in force is inside the
granted ones. -/
def StepsInside (now : ℤ) (tokenID : String) (granted : List String) :
    ℕ → List Caveat → Extract κ → Prop
  | _,[],_ => True
  | i,c :: cs,st =>
    (c.key = "allowed_tools" → ∀ np ∈ keptTools c st, Inside granted np) ∧
      ∀ st', caveatStep now tokenID i c st = .ok st' → StepsInside now tokenID granted (i+1) cs st'

/-- From the state that the minted caveats lead to, every appended `allowed_tools` caveat leaves only
patterns inside those of the minted token. -/
def AttenuatesInside (p : MacaroonProvider κ) (now : ℤ) (root : Macaroon σ) (cs : List Caveat) :
    Prop :=
  ∀ st, caveatLoop now root.tokenID 0 root.caveatSeq (.start p.rootKey root.tokenID) = .ok st →
    StepsInside now root.tokenID (grantedTools st.claims) root.caveatSeq.length cs st

/-- Every server tool of the state's patterns is a tool of the granted ones. -/
def ToolsWithin (granted : List String) (st : Extract κ) : Prop :=
  ∀ (name : String) (rest : List Char), name.toList = "diverge_".toList ++ rest →
    (∃ np ∈ grantedTools st.claims, Matches np name) → ∃ e ∈ granted, Matches e name

variable {now : ℤ} {tokenID : String} {granted : List String}

lemma caveatStep_toolsWithin {i : ℕ} {c : Caveat} {st st' : Extract κ}
    (hin : c.key = "allowed_tools" → ∀ np ∈ keptTools c st, Inside granted np)
    (hw : ToolsWithin granted st) (h : caveatStep now tokenID i c st = .ok st') :
    ToolsWithin granted st' := by
  have ha := caveatStep_accepted h
  by_cases hk : c.key = "allowed_tools"
  · obtain ⟨htools,hne⟩ := ha.kept hk
    rintro name rest hname ⟨np,hnp,hm⟩
    rw [grantedTools,if_neg (htools ▸ hne),htools] at hnp
    exact (hin hk np hnp).sound hname hm
  · intro name rest hname hm
    rw [grantedTools,ha.tools hk] at hm
    exact hw name rest hname hm

lemma caveatLoop_toolsWithin : ∀ {cs : List Caveat} {i : ℕ} {st st' : Extract κ},
      StepsInside now tokenID granted i cs st → ToolsWithin granted st →
      caveatLoop now tokenID i cs st = .ok st' → ToolsWithin granted st' := by
  intro cs
  induction cs with
  | nil =>
    intro i st st' _ hw h
    cases h
    exact hw
  | cons c cs ih =>
    intro i st st' hin hw h
    obtain ⟨mid,hs,hrest⟩ := caveatLoop_cons h
    exact ih (hin.2 mid hs) (caveatStep_toolsWithin hin.1 hw hs) hrest

/-- Attenuation never widens a token whose kept patterns stay inside the minted ones: whatever
the caveats, a request that the attenuated token may make, the minted token may make. -/
theorem attenuation_never_widens [DecidableEq σ] (p : MacaroonProvider κ)
    (unmarshal : List UInt8 → Option (Macaroon σ)) (now : ℤ)
    (nonce : Except String (List UInt8)) (claims : Claims) (root att : Macaroon σ)
    (cs : List Caveat) (rawRoot rawAtt : List UInt8) (attClaims : Claims)
    (verb ns resource denialMsg : String)
    (hmint : p.mint nonce claims = .ok root) (hatt : attenuate (κ := κ) root cs = .ok att)
    (hroot : unmarshal rawRoot = some root)
    (hacc : p.verifyAndExtract unmarshal now rawAtt = .ok (att,attClaims))
    (hin : AttenuatesInside p now root cs)
    (hperm : authorizeMacaroon (claimsUser attClaims) verb ns resource denialMsg = .ok ()) :
    ∃ rootClaims, p.verifyAndExtract unmarshal now rawRoot = .ok (root,rootClaims) ∧
      authorizeMacaroon (claimsUser rootClaims) verb ns resource denialMsg = .ok () := by
  obtain ⟨hkey,hid,hns,bytes,rfl,rfl⟩ := mint_ok hmint
  obtain ⟨hattID,hattSeq⟩ := attenuate_ok hatt
  obtain ⟨-,-,hv⟩ := verifyAndExtract_ok_iff.mp hacc
  obtain ⟨-,st,hloop,-,-,-,rfl⟩ := verifyMacaroon_ok_iff.mp hv
  rw [hattSeq,hattID] at hloop
  obtain ⟨mid,hmid,hrest⟩ := caveatLoop_append _ hloop
  rw [Nat.zero_add] at hrest
  obtain ⟨hhas,hhasNs,hmidNs,hmidEq⟩ := caveatLoop_mintCaveats hmid
  refine ⟨mid.claims,verifyAndExtract_ok_iff.mpr ⟨hkey,hroot,verifyMacaroon_ok_iff.mpr
    ⟨hid,mid,hmid,?_,hhas,hhasNs,rfl⟩⟩,?_⟩
  · rw [caveatLoop_sig hmid]
    rfl
  · have hwithin : ToolsWithin (grantedTools mid.claims) st :=
      caveatLoop_toolsWithin (hin mid hmid) (fun _ _ _ hm => hm) hrest
    obtain ⟨hverb,hne,hnsEq,htools⟩ := (authorizeMacaroon_claimsUser _ _ _ _ _).mp hperm
    rw [caveatLoop_ns hmidNs hrest] at hnsEq
    refine (authorizeMacaroon_claimsUser _ _ _ _ _).mpr ⟨hverb,hne,hnsEq,?_⟩
    obtain ⟨np,hnp,name,hname,hm⟩ := (toolAllowed_iff _ _ _).mp htools
    obtain ⟨tail,htail⟩ := mem_candidateTools hname
    obtain ⟨e,he,hme⟩ := hwithin name tail htail ⟨np,hnp,hm⟩
    exact (toolAllowed_iff _ _ _).mpr ⟨e,he,name,hname,hme⟩

end

def environmentClaims : Claims :=
  { taskID := "fix-login", ns := "team-a", allowedTools := ["diverge_*_environment*"] }

def environmentToken : Macaroon Key :=
  let caveats := mintCaveats environmentClaims [7]
  ⟨"fix-login","diverge-cluster",caveats,signatureOf Key.secret "fix-login" caveats⟩

/-- The token after `Attenuate` with one more list of tool patterns. -/
def environmentTokenWith (tools : String) : Macaroon Key :=
  let caveat : Caveat := ⟨"allowed_tools",opGlob,tools⟩
  { environmentToken with
    caveatSeq := environmentToken.caveatSeq ++ [caveat]
    signature := .mac environmentToken.signature (serializeCaveatCanonical caveat) }

def twoTokens (tools : String) : Bytes → Option (Macaroon Key) :=
  decoderOf [environmentToken,environmentTokenWith tools]

lemma environmentToken_tools :
    (caveatLoop 0 "fix-login" 0 environmentToken.caveatSeq (.start Key.secret "fix-login")).map
      (fun st => (st.hasAllowedTools,st.claims.allowedTools)) = .ok (true,["diverge_*_environment*"]) := by
  decide +kernel

lemma environmentToken_attenuatesInside : AttenuatesInside secretProvider 0 environmentToken
      [⟨"allowed_tools",opGlob,"diverge_get_environment"⟩] := by
  intro st hst
  have htools := environmentToken_tools
  change caveatLoop 0 "fix-login" 0 environmentToken.caveatSeq (.start Key.secret "fix-login") = _ at hst
  rw [hst] at htools
  obtain ⟨hflag,hpatterns⟩ := Prod.mk.inj (Except.ok.inj htools)
  have hgranted : grantedTools st.claims = ["diverge_*_environment*"] := by
    rw [grantedTools,hpatterns]
    rfl
  refine ⟨fun _ np hnp => ?_,fun _ _ => trivial⟩
  have hkept : keptTools ⟨"allowed_tools",opGlob,"diverge_get_environment"⟩ st =
      ["diverge_get_environment"] := by
    rw [keptTools,hflag,hpatterns]
    decide
  rw [hkept,List.mem_singleton] at hnp
  subst hnp
  rw [hgranted]
  exact .of_text (List.mem_singleton.mpr rfl) (by decide) (by decide) (by decide)

/-- The same token narrowed to one tool keeps that tool, and the minted token has it too. -/
theorem attenuation_never_widens_get :
    authorizeMacaroon
        (claimsUser { environmentClaims with allowedTools := ["diverge_get_environment"] })
        "get" "team-a" "environments" "permission denied" = .ok () ∧
      ∃ rootClaims,
        secretProvider.verifyAndExtract (twoTokens "diverge_get_environment") 0
            (environmentToken.serialize Key.text) =
          .ok (environmentToken,rootClaims) ∧
        authorizeMacaroon (claimsUser rootClaims) "get" "team-a" "environments"
          "permission denied" = .ok () :=
  ⟨by decide +kernel,
    attenuation_never_widens secretProvider (twoTokens "diverge_get_environment") 0 (.ok [7])
      environmentClaims environmentToken (environmentTokenWith "diverge_get_environment")
      [⟨"allowed_tools",opGlob,"diverge_get_environment"⟩] (environmentToken.serialize Key.text)
      ((environmentTokenWith "diverge_get_environment").serialize Key.text)
      { environmentClaims with allowedTools := ["diverge_get_environment"] } "get" "team-a"
      "environments" "permission denied" (by decide +kernel) (by decide +kernel) (by decide +kernel)
      (by decide +kernel) environmentToken_attenuatesInside (by decide +kernel)⟩

/-- A class hidden in the text of a kept pattern: a token for environment tools, attenuated, may
delete preview groups. -/
theorem attenuation_widens_by_class :
    secretProvider.mint (.ok [7]) environmentClaims = .ok environmentToken ∧
    attenuate (κ := Key) environmentToken [⟨"allowed_tools",opGlob,"diverge_*[_environment]*"⟩] =
      .ok (environmentTokenWith "diverge_*[_environment]*") ∧
    ∃ attClaims rootClaims,
      secretProvider.verifyAndExtract (twoTokens "diverge_*[_environment]*") 0
          ((environmentTokenWith "diverge_*[_environment]*").serialize Key.text) =
        .ok (environmentTokenWith "diverge_*[_environment]*",attClaims) ∧
      secretProvider.verifyAndExtract (twoTokens "diverge_*[_environment]*") 0
          (environmentToken.serialize Key.text) =
        .ok (environmentToken,rootClaims) ∧
      authorizeMacaroon (claimsUser attClaims) "delete" "team-a" "previewgroups"
        "permission denied" = .ok () ∧
      authorizeMacaroon (claimsUser rootClaims) "delete" "team-a" "previewgroups"
        "permission denied" ≠ .ok () := by
  refine ⟨by decide +kernel,by decide +kernel,
    { environmentClaims with allowedTools := ["diverge_*[_environment]*"] },environmentClaims,
    by decide +kernel,by decide +kernel,by decide +kernel,by decide +kernel⟩

end Diverge.Auth
