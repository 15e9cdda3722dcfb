import Diverge.Text.Decimal
import Diverge.Text.Hex
import Diverge.Text.Strings
import Diverge.Hmac.Scheme

/-! Capability tokens of agent tasks: caveats, claims and the macaroon that carries them. -/
namespace Diverge.Auth

/-! The caveat operators. -/

def opEqual : String := "="
def opIn : String := "in"
def opLessThan : String := "<"
def opBefore : String := "before"
def opGlob : String := "glob"

/-- A restriction appended to a token; key, operator and value are whatever the holder wrote. -/
structure Caveat where
  key : String
  op : String
  value : String
  deriving DecidableEq

/-- The authorized attributes of a token. Amounts are exact; `expiresAt` is in Unix seconds and
`none` is the zero time. -/
structure Claims where
  taskID : String := ""
  ns : String := ""
  repoURL : String := ""
  branch : String := ""
  allowedTools : List String := []
  allowedModels : List String := []
  maxCostUSD : ℚ := 0
  maxTokens : ℤ := 0
  tokensConsumed : ℤ := 0
  expiresAt : Option ℤ := none
  deriving DecidableEq

structure Macaroon (σ : Type) where
  tokenID : String
  location : String
  caveatSeq : List Caveat
  signature : σ
  deriving DecidableEq

/-- Why a caveat was refused, with the texts that the message quotes. -/
inductive CaveatFault
  | invalid (key : String)
  | conflicting (key : String)
  | invalidOperator (op key : String)
  | emptyPattern
  | emptyModel
  | disjointTools (value : String)
  | disjointModels (value : String)
  | nonPositive (key value : String)
  | unrecognized (key : String)
  | missing (key : String)
  deriving DecidableEq

inductive TokenError
  | invalidSignature
  | tokenExpired
  | malformedToken
  | caveatFailed (fault : CaveatFault)
  deriving DecidableEq

/-- The canonical text of a caveat. Its fields may contain the separator themselves. -/
def serializeCaveatCanonical (c : Caveat) : String := c.key ++ ":" ++ c.op ++ ":" ++ c.value

end Diverge.Auth
