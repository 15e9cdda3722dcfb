import Diverge.Text.Base64
import Diverge.Auth.Types

/-! Tokens on the wire: the JSON text of a macaroon, and the bearer forms in which it is sent. -/
namespace Diverge.Auth
open Text Hmac

/-- The byte sequences that `strings.TrimSpace` removes at either end. -/
def spaceRunes : List Bytes :=
  [0x9,0xa,0xb,0xc,0xd,0x20,0x85,0xa0,0x1680,0x2000,0x2001,0x2002,0x2003,0x2004,0x2005,0x2006,0x2007,
    0x2008,0x2009,0x200a,0x2028,0x2029,0x202f,0x205f,0x3000].map
    fun n => String.utf8EncodeChar (Char.ofNat n)

/-- Drop leading occurrences of the given sequences, at most `fuel` of them. -/
def dropLeading (seqs : List Bytes) : ℕ → Bytes → Bytes
  | 0,s => s
  | fuel+1,s =>
    match seqs.find? fun q => q.isPrefixOf s with
    | some q => dropLeading seqs fuel (s.drop q.length)
    | none => s

def trimSpaceBytes (s : Bytes) : Bytes :=
  let front := dropLeading spaceRunes s.length s
  (dropLeading (spaceRunes.map List.reverse) front.length front.reverse).reverse

/-- `decodeMacaroonToken`: JSON as it is, or any base64 form of it. `none` is `ErrMalformedToken`. -/
def decodeMacaroonToken (token : Bytes) : Option Bytes :=
  let trimmed := trimSpaceBytes token
  if trimmed = [] then none
  else if trimmed.head? = some 0x7b then some trimmed
  else
    [Base64.rawStd,Base64.std,Base64.rawURL,Base64.url].findSome? fun enc =>
      (enc.decodeString trimmed).filter fun decoded => decoded.head? == some 0x7b

/-- A byte inside a JSON string, as `json.Marshal` writes it. -/
def jsonByte (b : UInt8) : Bytes :=
  if b = 0x22 ∨ b = 0x5c then [0x5c,b]
  else if b = 0x8 then utf8 "\\b"
  else if b = 0x9 then utf8 "\\t"
  else if b = 0xa then utf8 "\\n"
  else if b = 0xc then utf8 "\\f"
  else if b = 0xd then utf8 "\\r"
  else if b < 0x20 ∨ b = 0x3c ∨ b = 0x3e ∨ b = 0x26 then utf8 "\\u00" ++ hexBytes [b]
  else [b]

/-- The inside of a JSON string; the two line separators beyond ASCII are escaped as well. -/
def jsonBytes : Bytes → Bytes
  | [] => []
  | b :: rest =>
    if b = 0xe2 ∧ rest.take 2 = [0x80,0xa8] then utf8 "\\u2028" ++ jsonBytes (rest.drop 2)
    else if b = 0xe2 ∧ rest.take 2 = [0x80,0xa9] then utf8 "\\u2029" ++ jsonBytes (rest.drop 2)
    else jsonByte b ++ jsonBytes rest
termination_by s => s.length

def jsonString (s : String) : Bytes := 0x22 :: (jsonBytes (utf8 s) ++ [0x22])

def jsonCaveat (c : Caveat) : Bytes :=
  utf8 "\x7b\"key\":" ++ jsonString c.key ++ utf8 ",\"op\":" ++ jsonString c.op ++
    utf8 ",\"value\":" ++ jsonString c.value ++ utf8 "\x7d"

/-- `Serialize`; `written` is the text of a signature. -/
def Macaroon.serialize {σ : Type} (written : σ → String) (m : Macaroon σ) : Bytes :=
  utf8 "\x7b\"id\":" ++ jsonString m.tokenID ++ utf8 ",\"location\":" ++ jsonString m.location ++
    utf8 ",\"caveats\":[" ++ (utf8 ",").intercalate (m.caveatSeq.map jsonCaveat) ++
    utf8 "],\"signature\":" ++ jsonString (written m.signature) ++ utf8 "\x7d"

/-- `json.Unmarshal` on the texts of the given tokens. -/
def decoderOf (tokens : List (Macaroon Key)) (raw : Bytes) : Option (Macaroon Key) :=
  tokens.find? fun m => m.serialize Key.text == raw

/-- The presented token is the stored one or an attenuation of it: the stored caveats begin its own.
-/
def matchesStoredRootToken {σ : Type} (unmarshal : Bytes → Option (Macaroon σ))
    (presented : Macaroon σ) (storedRaw : Bytes) : Bool :=
  match (decodeMacaroonToken storedRaw).bind unmarshal with
  | none => false
  | some stored =>
    stored.tokenID != "" && presented.tokenID == stored.tokenID &&
      stored.caveatSeq.isPrefixOf presented.caveatSeq

end Diverge.Auth
