import Diverge.Auth.Macaroon
import Diverge.Glob.FileNames

/-! Tokens with their texts as the byte strings they are in memory, where an attenuation may write
bytes that are no text, and the check of a token against required claims, one caveat at a time. -/
namespace Diverge.Auth.Raw
open Text Hmac
open Text.ByteStrings (split join contains trimByte)

structure Caveat where
  key : Bytes
  op : Bytes
  value : Bytes
  deriving DecidableEq

/-- `expiresAt` is in Unix seconds and `none` is the zero time; costs are floating-point numbers. -/
structure Claims where
  taskID : Bytes := []
  ns : Bytes := []
  repoURL : Bytes := []
  branch : Bytes := []
  allowedTools : List Bytes := []
  allowedModels : List Bytes := []
  maxCostUSD : Number := .finite 0
  maxTokens : ℤ := 0
  tokensConsumed : ℤ := 0
  expiresAt : Option ℤ := none
  deriving DecidableEq

structure Macaroon (σ : Type) where
  tokenID : Bytes
  location : Bytes
  caveatSeq : List Caveat
  signature : σ
  deriving DecidableEq

/-- Why a caveat does not hold, with the values that the message quotes. -/
inductive Refusal
  | invalidOperator (op : Bytes) (key : String)
  | mismatch (what : String) (required value : Bytes)
  | noTool (value : Bytes)
  | noModel (value : Bytes)
  | tool (name value : Bytes)
  | model (name : Bytes) (allowed : List Bytes)
  | nonPositive (key : String) (value : Bytes)
  | cost (spent : Number) (limit : ℚ)
  | tokens (consumed limit : ℤ)
  | emptyNonce
  | unrecognized (key : Bytes)
  | missing (key : String)
  deriving DecidableEq

inductive TokenError
  | invalidSignature
  | tokenExpired
  | malformedToken
  | caveatFailed (refusal : Refusal)
  deriving DecidableEq

def star : Bytes := utf8 "*"

/-- `MatchesAllowedModel` with the tier lookup given. -/
def matchesModelWith (tier : Bytes → List Bytes) (inner : Bytes → Bytes → Bool) (pattern model : Bytes) : Bool :=
  let p := ByteStrings.trimSpace pattern
  let m := ByteStrings.trimSpace model
  if p = [] ∨ m = [] then false
  else if p = star ∨ p = m then true
  else
    (tier (ByteStrings.toLower p)).any (fun tp => inner tp (ByteStrings.toLower m)) ||
    (star.isSuffixOf p && !star.isPrefixOf p && (p.dropLast).isPrefixOf m) ||
    (star.isPrefixOf p && star.isSuffixOf p && decide (2 < p.length) && contains m (trimByte p 0x2a)) ||
    Glob.FileNames.matched p m

def tierPatterns (tier : Bytes) : List Bytes := (capabilityTierModelPatterns (asciiText tier)).map utf8

def matchesAllowedModel (pattern model : Bytes) : Bool :=
  matchesModelWith tierPatterns (matchesModelWith (fun _ => []) fun _ _ => false) pattern model

section
variable (c : Caveat)

def refuseUnless (holds : Prop) [Decidable holds] (refusal : Refusal) : Except TokenError Unit :=
  if holds then .ok () else .error (.caveatFailed refusal)

/-- Every caveat is checked with the one operator of its key. -/
def withOperator (op key : String) (check : Except TokenError Unit) : Except TokenError Unit :=
  if c.op ≠ utf8 op then .error (.caveatFailed (.invalidOperator c.op key)) else check

def evaluateTaskID (req : Claims) : Except TokenError Unit :=
  withOperator c opEqual "task_id" (refuseUnless (req.taskID ≠ [] ∧ req.taskID = c.value)
    (.mismatch "task" req.taskID c.value))

/-- A request without a namespace is not held to one. -/
def evaluateNamespace (req : Claims) : Except TokenError Unit :=
  withOperator c opEqual "namespace" (refuseUnless (req.ns = [] ∨ req.ns = c.value)
    (.mismatch "namespace" req.ns c.value))

def evaluateRepo (req : Claims) : Except TokenError Unit :=
  withOperator c opEqual "repo" (refuseUnless (req.repoURL ≠ [] ∧ req.repoURL = c.value)
    (.mismatch "repo" req.repoURL c.value))

def evaluateBranch (req : Claims) : Except TokenError Unit :=
  withOperator c opEqual "branch" (refuseUnless (req.branch ≠ [] ∧ req.branch = c.value)
    (.mismatch "branch" req.branch c.value))

def evaluateExpiresAt (now : ℤ) : Except TokenError Unit :=
  withOperator c opBefore "expires_at" <|
    match parseInt (asciiText c.value) with
    | none => .error .malformedToken
    | some unixSec => if unixSec < now then .error .tokenExpired else .ok ()

/-- The first item that no pattern accepts is the one that is reported. -/
def requireAll (accepts : Bytes → Bytes → Bool) (patterns items : List Bytes) (refusal : Bytes → Refusal) :
    Except TokenError Unit :=
  match items.find? fun item => !patterns.any fun pattern => accepts pattern item with
  | none => .ok ()
  | some item => .error (.caveatFailed (refusal item))

def evaluateAllowedTools (req : Claims) : Except TokenError Unit :=
  withOperator c opGlob "allowed_tools" <|
    if req.allowedTools = [] then .error (.caveatFailed (.noTool c.value))
    else requireAll Glob.FileNames.matched (split 0x2c c.value) req.allowedTools fun tool => .tool tool c.value

def evaluateAllowedModels (req : Claims) : Except TokenError Unit :=
  withOperator c opIn "allowed_models" <|
    if req.allowedModels = [] then .error (.caveatFailed (.noModel c.value))
    else requireAll matchesAllowedModel (split 0x2c c.value) req.allowedModels
      fun model => .model model (split 0x2c c.value)

def evaluateMaxCostUSD (req : Claims) : Except TokenError Unit :=
  withOperator c opLessThan "max_cost_usd" <|
    match parseFloat (asciiText c.value) with
    | none => .error .malformedToken
    | some (.finite limit) =>
      if limit ≤ 0 then .error (.caveatFailed (.nonPositive "max_cost_usd" c.value))
      else refuseUnless (Number.lt (.finite limit) req.maxCostUSD = false) (.cost req.maxCostUSD limit)
    | some _ => .error (.caveatFailed (.nonPositive "max_cost_usd" c.value))

def evaluateMaxTokens (req : Claims) : Except TokenError Unit :=
  withOperator c opLessThan "max_tokens" <|
    match parseInt (asciiText c.value) with
    | none => .error .malformedToken
    | some limit =>
      if limit ≤ 0 then .error (.caveatFailed (.nonPositive "max_tokens" c.value))
      else refuseUnless (req.tokensConsumed ≤ limit) (.tokens req.tokensConsumed limit)

def evaluateNonce : Except TokenError Unit :=
  withOperator c opEqual "nonce" (refuseUnless (c.value ≠ []) .emptyNonce)

/-- The switch over the caveat's key; `now` is the verifier's clock in Unix seconds. -/
def evaluateCaveat (now : ℤ) (req : Claims) : Except TokenError Unit :=
  if c.key = utf8 "task_id" then evaluateTaskID c req
  else if c.key = utf8 "namespace" then evaluateNamespace c req
  else if c.key = utf8 "repo" then evaluateRepo c req
  else if c.key = utf8 "branch" then evaluateBranch c req
  else if c.key = utf8 "expires_at" then evaluateExpiresAt c now
  else if c.key = utf8 "allowed_tools" then evaluateAllowedTools c req
  else if c.key = utf8 "allowed_models" then evaluateAllowedModels c req
  else if c.key = utf8 "max_cost_usd" then evaluateMaxCostUSD c req
  else if c.key = utf8 "max_tokens" then evaluateMaxTokens c req
  else if c.key = utf8 "nonce" then evaluateNonce c
  else .error (.caveatFailed (.unrecognized c.key))

end

/-- `%.2f`, or all decimals of an amount below a cent. -/
def formatCost : Number → String
  | .finite q => if q < 1/100 then formatExact q else formatFixed .halfEven 2 q
  | .inf negative => if negative then "-Inf" else "+Inf"
  | .nan => "NaN"

def mintCaveats (claims : Claims) (nonce : Bytes) : List Caveat :=
  let caveat (key op : String) (value : Bytes) : Caveat := ⟨utf8 key,utf8 op,value⟩
  [caveat "task_id" opEqual claims.taskID,caveat "namespace" opEqual claims.ns] ++
  (if claims.repoURL ≠ [] then [caveat "repo" opEqual claims.repoURL] else []) ++
  (if claims.branch ≠ [] then [caveat "branch" opEqual claims.branch] else []) ++
  (claims.expiresAt.toList.map fun t => caveat "expires_at" opBefore (utf8 (formatInt t))) ++
  (if Number.lt (.finite 0) claims.maxCostUSD then
    [caveat "max_cost_usd" opLessThan (utf8 (formatCost claims.maxCostUSD))] else []) ++
  (if 0 < claims.maxTokens then [caveat "max_tokens" opLessThan (utf8 (formatInt claims.maxTokens))] else []) ++
  (if claims.allowedTools ≠ [] then [caveat "allowed_tools" opGlob (join (utf8 ",") claims.allowedTools)] else []) ++
  (if claims.allowedModels ≠ [] then [caveat "allowed_models" opIn (join (utf8 ",") claims.allowedModels)] else []) ++
  [caveat "nonce" opEqual (hexBytes nonce)]

/-- The canonical bytes of a caveat. Its fields may contain the separator themselves. -/
def serializeCaveatCanonical (c : Caveat) : Bytes := c.key ++ utf8 ":" ++ c.op ++ utf8 ":" ++ c.value

variable {κ σ : Type} [Scheme κ σ]

/-- The texts that the signature of a token is the chain of; in a hashed text a character is a byte. -/
def signedTexts (tokenID : Bytes) (caveats : List Caveat) : List String :=
  asciiText tokenID :: caveats.map fun c => asciiText (serializeCaveatCanonical c)

/-- `Mint`; the random nonce, or the failure to draw one, is an argument. -/
def mint (p : MacaroonProvider κ) (nonce : Except String Bytes) (claims : Claims) : Except String (Macaroon σ) :=
  if Scheme.keyLen p.rootKey < minMacaroonRootKeyLen then .error "macaroon root key must be at least 32 bytes"
  else if claims.taskID = [] then .error "claims must specify TaskID"
  else if claims.ns = [] then .error "claims must specify Namespace"
  else
    match nonce with
    | .error e => .error ("generate nonce: " ++ e)
    | .ok bytes =>
      .ok
        { tokenID := claims.taskID
          location := utf8 "diverge-cluster"
          caveatSeq := mintCaveats claims bytes
          signature := Scheme.encodeHex (chain p.rootKey (signedTexts claims.taskID (mintCaveats claims bytes))) }

/-- `Attenuate`: the holder prolongs the chain from the written signature alone. -/
def attenuate (token : Macaroon σ) (caveats : List Caveat) : Except TokenError (Macaroon σ) :=
  match Scheme.decodeHex (κ := κ) token.signature with
  | none => .error .malformedToken
  | some sig =>
    .ok
      { token with
        caveatSeq := token.caveatSeq ++ caveats
        signature := Scheme.encodeHex (chain sig (caveats.map fun c => asciiText (serializeCaveatCanonical c))) }

/-- What the loop of `Verify` carries from caveat to caveat. -/
structure Replay (κ : Type) where
  sig : κ
  hasTaskID : Bool := false
  hasNamespace : Bool := false

/-- The signature is prolonged and the flags are set before the caveat is evaluated. -/
def Replay.advance (st : Replay κ) (c : Caveat) : Replay κ where
  sig := Scheme.computeHMAC st.sig (asciiText (serializeCaveatCanonical c))
  hasTaskID := st.hasTaskID || (decide (c.key = utf8 "task_id") && decide (c.value ≠ []))
  hasNamespace := st.hasNamespace || (decide (c.key = utf8 "namespace") && decide (c.value ≠ []))

def replay (now : ℤ) (required : Claims) : List Caveat → Replay κ → Except TokenError (Replay κ)
  | [],st => .ok st
  | c :: cs,st => (evaluateCaveat c now required).bind fun _ => replay now required cs (st.advance c)

/-- `Verify` after the token has been decoded. -/
def verifyMacaroon [DecidableEq σ] (p : MacaroonProvider κ) (now : ℤ) (required : Claims) (mac : Macaroon σ) :
    Except TokenError Unit :=
  (replay now required mac.caveatSeq { sig := Scheme.computeHMAC p.rootKey (asciiText mac.tokenID) }).bind fun st =>
    if Scheme.encodeHex st.sig ≠ mac.signature then .error .invalidSignature
    else if st.hasTaskID = false then .error (.caveatFailed (.missing "task_id"))
    else if st.hasNamespace = false then .error (.caveatFailed (.missing "namespace"))
    else .ok ()

/-- `Verify`; `unmarshal` is `json.Unmarshal` into a macaroon. -/
def verify [DecidableEq σ] (p : MacaroonProvider κ) (unmarshal : Bytes → Option (Macaroon σ)) (now : ℤ) (raw : Bytes)
    (required : Claims) : Except TokenError Unit :=
  if Scheme.keyLen p.rootKey < minMacaroonRootKeyLen then .error .invalidSignature
  else
    match unmarshal raw with
    | none => .error .malformedToken
    | some mac => verifyMacaroon p now required mac

end Diverge.Auth.Raw
