import Diverge.Auth.Types
import Diverge.Auth.Models

/-! Minting, attenuation and verification of macaroons. The verifier replays the signature chain
while it folds the caveats into the effective claims, and compares the signature at the end. -/
namespace Diverge.Auth
open Text Glob Hmac

structure MacaroonProvider (κ : Type) where
  rootKey : κ

def minMacaroonRootKeyLen : ℕ := 32

def claimCaveats (claims : Claims) : List Caveat :=
  [⟨"task_id",opEqual,claims.taskID⟩,⟨"namespace",opEqual,claims.ns⟩] ++
  (if claims.repoURL ≠ "" then [⟨"repo",opEqual,claims.repoURL⟩] else []) ++
  (if claims.branch ≠ "" then [⟨"branch",opEqual,claims.branch⟩] else []) ++
  (match claims.expiresAt with
    | some t => [⟨"expires_at",opBefore,formatInt t⟩]
    | none => []) ++
  (if 0 < claims.maxCostUSD then
    [⟨"max_cost_usd",opLessThan,
      if claims.maxCostUSD < 1/100 then formatExact claims.maxCostUSD
      else formatFixed .halfEven 2 claims.maxCostUSD⟩]
    else []) ++
  (if 0 < claims.maxTokens then [⟨"max_tokens",opLessThan,formatInt claims.maxTokens⟩] else []) ++
  (if claims.allowedTools ≠ [] then [⟨"allowed_tools",opGlob,join "," claims.allowedTools⟩] else []) ++
  (if claims.allowedModels ≠ [] then [⟨"allowed_models",opIn,join "," claims.allowedModels⟩] else [])

def mintCaveats (claims : Claims) (nonce : List UInt8) : List Caveat :=
  claimCaveats claims ++ [⟨"nonce",opEqual,hexText nonce⟩]

section
variable {κ σ : Type} [Scheme κ σ]

def signatureOf (rootKey : κ) (tokenID : String) (caveats : List Caveat) : κ :=
  chain (Scheme.computeHMAC rootKey tokenID) (caveats.map serializeCaveatCanonical)

/-- `Mint`; the random nonce, or the failure to draw one, is an argument. -/
def MacaroonProvider.mint (p : MacaroonProvider κ) (nonce : Except String (List UInt8))
    (claims : Claims) : Except String (Macaroon σ) :=
  if Scheme.keyLen p.rootKey < minMacaroonRootKeyLen then
    .error "macaroon root key must be at least 32 bytes"
  else if claims.taskID = "" then .error "claims must specify TaskID"
  else if claims.ns = "" then .error "claims must specify Namespace"
  else
    match nonce with
    | .error e => .error ("generate nonce: " ++ e)
    | .ok bytes =>
      let caveats := mintCaveats claims bytes
      .ok
        { tokenID := claims.taskID
          location := "diverge-cluster"
          caveatSeq := caveats
          signature := Scheme.encodeHex (signatureOf p.rootKey claims.taskID caveats) }

/-- `Attenuate`: the holder prolongs the chain from the written signature alone. -/
def attenuate (token : Macaroon σ) (caveats : List Caveat) : Except TokenError (Macaroon σ) :=
  match Scheme.decodeHex (κ := κ) token.signature with
  | none => .error .malformedToken
  | some sig =>
    .ok
      { token with
        caveatSeq := token.caveatSeq ++ caveats
        signature := Scheme.encodeHex (chain sig (caveats.map serializeCaveatCanonical)) }

/-- What the verification loop carries from caveat to caveat. -/
structure Extract (κ : Type) where
  sig : κ
  claims : Claims
  hasTaskID : Bool := false
  hasNamespace : Bool := false
  hasAllowedTools : Bool := false
  hasAllowedModels : Bool := false
  hasMaxCostUSD : Bool := false
  hasMaxTokens : Bool := false

def taskIDCaveat (tokenID : String) (i : ℕ) (c : Caveat) (st : Extract κ) :
    Except TokenError (Extract κ) :=
  if c.op ≠ opEqual ∨ c.value = "" ∨ c.value ≠ tokenID ∨ (st.hasTaskID = false ∧ i ≠ 0) then
    .error (.caveatFailed (.invalid "task_id"))
  else .ok { st with hasTaskID := true, claims := { st.claims with taskID := c.value } }

/-- The namespace is fixed at mint time, directly after the task id. -/
def namespaceCaveat (i : ℕ) (c : Caveat) (st : Extract κ) : Except TokenError (Extract κ) :=
  if c.op ≠ opEqual ∨ c.value = "" ∨ (st.hasNamespace = false ∧ i ≠ 1) then
    .error (.caveatFailed (.invalid "namespace"))
  else if st.claims.ns ≠ "" ∧ st.claims.ns ≠ c.value then
    .error (.caveatFailed (.conflicting "namespace"))
  else .ok { st with hasNamespace := true, claims := { st.claims with ns := c.value } }

def repoCaveat (c : Caveat) (st : Extract κ) : Except TokenError (Extract κ) :=
  if c.op ≠ opEqual ∨ c.value = "" then .error (.caveatFailed (.invalid "repo"))
  else if st.claims.repoURL ≠ "" ∧ st.claims.repoURL ≠ c.value then
    .error (.caveatFailed (.conflicting "repo"))
  else .ok { st with claims := { st.claims with repoURL := c.value } }

def branchCaveat (c : Caveat) (st : Extract κ) : Except TokenError (Extract κ) :=
  if c.op ≠ opEqual ∨ c.value = "" then .error (.caveatFailed (.invalid "branch"))
  else if st.claims.branch ≠ "" ∧ st.claims.branch ≠ c.value then
    .error (.caveatFailed (.conflicting "branch"))
  else .ok { st with claims := { st.claims with branch := c.value } }

/-- The later of two times is told by the seconds that they count, which wrap around; a time that
counts none is the zero time. -/
def expiresBefore (unixSec t : ℤ) : Bool :=
  decide (internalSeconds t = 0) || decide (internalSeconds unixSec < internalSeconds t)

/-- `now` is the verifier's clock in Unix seconds. -/
def expiresAtCaveat (now : ℤ) (c : Caveat) (st : Extract κ) : Except TokenError (Extract κ) :=
  if c.op ≠ opBefore then .error (.caveatFailed (.invalidOperator c.op "expires_at"))
  else
    match parseInt c.value with
    | none => .error .malformedToken
    | some unixSec =>
      if unixSec < now then .error .tokenExpired
      else if st.claims.expiresAt.all (expiresBefore unixSec) then
        .ok { st with claims := { st.claims with expiresAt := some unixSec } }
      else .ok st

/-- What a later `allowed_tools` caveat keeps: its patterns whose text an earlier one matches, and the
earlier ones themselves. -/
def narrowTools (existing new : List String) : List String :=
  new.filter fun np => existing.any fun e => decide (Matches e np) || np == e

def allowedToolsCaveat (c : Caveat) (st : Extract κ) : Except TokenError (Extract κ) :=
  if c.op ≠ opGlob ∨ c.value = "" then .error (.caveatFailed (.invalid "allowed_tools"))
  else
    let newPatterns := split ',' c.value
    if "" ∈ newPatterns then .error (.caveatFailed .emptyPattern)
    else if st.hasAllowedTools = false then
      .ok { st with hasAllowedTools := true, claims := { st.claims with allowedTools := newPatterns } }
    else
      let narrowed := narrowTools st.claims.allowedTools newPatterns
      if narrowed = [] then .error (.caveatFailed (.disjointTools c.value))
      else .ok { st with claims := { st.claims with allowedTools := narrowed } }

def narrowModels (existing new : List String) : List String :=
  new.filter fun m => existing.any fun e => allowedModelPatternNarrows e m

def allowedModelsCaveat (c : Caveat) (st : Extract κ) : Except TokenError (Extract κ) :=
  if c.op ≠ opIn ∨ c.value = "" then .error (.caveatFailed (.invalid "allowed_models"))
  else
    let newModels := split ',' c.value
    if "" ∈ newModels then .error (.caveatFailed .emptyModel)
    else if st.hasAllowedModels = false then
      .ok { st with hasAllowedModels := true, claims := { st.claims with allowedModels := newModels } }
    else
      let narrowed := narrowModels st.claims.allowedModels newModels
      if narrowed = [] then .error (.caveatFailed (.disjointModels c.value))
      else .ok { st with claims := { st.claims with allowedModels := narrowed } }

def maxCostUSDCaveat (c : Caveat) (st : Extract κ) : Except TokenError (Extract κ) :=
  if c.op ≠ opLessThan then .error (.caveatFailed (.invalidOperator c.op "max_cost_usd"))
  else
    match parseFloat c.value with
    | none => .error .malformedToken
    | some (.finite q) =>
      if q ≤ 0 then .error (.caveatFailed (.nonPositive "max_cost_usd" c.value))
      else if st.hasMaxCostUSD = false ∨ q < st.claims.maxCostUSD then
        .ok { st with hasMaxCostUSD := true, claims := { st.claims with maxCostUSD := q } }
      else .ok st
    | some _ => .error (.caveatFailed (.nonPositive "max_cost_usd" c.value))

def maxTokensCaveat (c : Caveat) (st : Extract κ) : Except TokenError (Extract κ) :=
  if c.op ≠ opLessThan then .error (.caveatFailed (.invalidOperator c.op "max_tokens"))
  else
    match parseInt c.value with
    | none => .error .malformedToken
    | some n =>
      if n ≤ 0 then .error (.caveatFailed (.nonPositive "max_tokens" c.value))
      else if st.hasMaxTokens = false ∨ n < st.claims.maxTokens then
        .ok { st with hasMaxTokens := true, claims := { st.claims with maxTokens := n } }
      else .ok st

def nonceCaveat (c : Caveat) (st : Extract κ) : Except TokenError (Extract κ) :=
  if c.op ≠ opEqual ∨ c.value = "" then .error (.caveatFailed (.invalid "nonce")) else .ok st

/-- The switch over the caveat's key. -/
def checkCaveat (now : ℤ) (tokenID : String) (i : ℕ) (c : Caveat) (st : Extract κ) :
    Except TokenError (Extract κ) :=
  match c.key with
  | "task_id" => taskIDCaveat tokenID i c st
  | "namespace" => namespaceCaveat i c st
  | "repo" => repoCaveat c st
  | "branch" => branchCaveat c st
  | "expires_at" => expiresAtCaveat now c st
  | "allowed_tools" => allowedToolsCaveat c st
  | "allowed_models" => allowedModelsCaveat c st
  | "max_cost_usd" => maxCostUSDCaveat c st
  | "max_tokens" => maxTokensCaveat c st
  | "nonce" => nonceCaveat c st
  | key => .error (.caveatFailed (.unrecognized key))

/-- One iteration: the signature is prolonged before the caveat is looked at. -/
def caveatStep (now : ℤ) (tokenID : String) (i : ℕ) (c : Caveat) (st : Extract κ) :
    Except TokenError (Extract κ) :=
  checkCaveat now tokenID i c
    { st with sig := Scheme.computeHMAC st.sig (serializeCaveatCanonical c) }

def caveatLoop (now : ℤ) (tokenID : String) : ℕ → List Caveat → Extract κ →
    Except TokenError (Extract κ)
  | _,[],st => .ok st
  | i,c :: cs,st => (caveatStep now tokenID i c st).bind (caveatLoop now tokenID (i+1) cs)

def Extract.start (rootKey : κ) (tokenID : String) : Extract κ :=
  { sig := Scheme.computeHMAC rootKey tokenID, claims := { taskID := tokenID } }

/-- `VerifyAndExtract` after the token has been decoded. -/
def MacaroonProvider.verifyMacaroon [DecidableEq σ] (p : MacaroonProvider κ) (now : ℤ)
    (mac : Macaroon σ) : Except TokenError Claims :=
  if mac.tokenID = "" then .error .malformedToken
  else
    (caveatLoop now mac.tokenID 0 mac.caveatSeq (.start p.rootKey mac.tokenID)).bind fun st =>
      if Scheme.encodeHex st.sig ≠ mac.signature then .error .invalidSignature
      else if st.hasTaskID = false then .error (.caveatFailed (.missing "task_id"))
      else if st.hasNamespace = false then .error (.caveatFailed (.missing "namespace"))
      else .ok st.claims

/-- `VerifyAndExtract`; `unmarshal` is `json.Unmarshal` into a macaroon. -/
def MacaroonProvider.verifyAndExtract [DecidableEq σ] (p : MacaroonProvider κ)
    (unmarshal : List UInt8 → Option (Macaroon σ)) (now : ℤ) (raw : List UInt8) :
    Except TokenError (Macaroon σ × Claims) :=
  if Scheme.keyLen p.rootKey < minMacaroonRootKeyLen then .error .invalidSignature
  else
    match unmarshal raw with
    | none => .error .malformedToken
    | some mac => (p.verifyMacaroon now mac).map fun claims => (mac,claims)

end

def secretProvider : MacaroonProvider Key := ⟨.secret⟩

end Diverge.Auth
