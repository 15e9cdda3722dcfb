import Diverge.Text.Strings
import Diverge.Glob.Pattern

/-! Model names against the patterns of a token: exact names, capability tiers, prefixes,
substrings and globs. -/
namespace Diverge.Auth
open Text Glob

def capabilityTierModelPatterns (tier : String) : List String :=
  if tier = "fast" then
    ["*flash*","*haiku*","*mini*","gpt-4o*","claude-3-5-sonnet*","claude-3-7-sonnet*",
      "claude-sonnet*","gemini-2.5-*"]
  else if tier = "smart" then
    ["claude-*","gpt-4*","gpt-5*","o1*","o3*","o4*","gemini-*"]
  else if tier = "lite" then ["*lite*","*flash*","*haiku*","*mini*","*nano*"]
  else []

/-- The last three tests: a trailing `*` as a prefix, `*` on both ends as a substring, a glob. -/
def matchesModelShape (pattern model : String) : Bool :=
  (hasSuffix pattern "*" && !hasPrefix pattern "*" && hasPrefix model (trimSuffix pattern "*")) ||
  (hasPrefix pattern "*" && hasSuffix pattern "*" && decide (2 < pattern.length) &&
    contains model (trimChar pattern '*')) ||
  decide (Matches pattern model)

/-- `MatchesAllowedModel` with the tier lookup given. The patterns of a tier name no tier, so
the recursive calls of the source look nothing up. -/
def matchesModelWith (tier : String → List String) (inner : String → String → Bool)
    (pattern model : String) : Bool :=
  let p := trimSpace pattern
  let m := trimSpace model
  if p = "" ∨ m = "" then false
  else if p = "*" ∨ p = m then true
  else (tier (toLower p)).any (fun tp => inner tp (toLower m)) || matchesModelShape p m

def matchesAllowedModel (pattern model : String) : Bool :=
  matchesModelWith capabilityTierModelPatterns
    (matchesModelWith (fun _ => []) fun _ _ => false) pattern model

/-- Whether every model accepted by `candidate` is meant to be accepted by `existing`. -/
def allowedModelPatternNarrows (existing candidate : String) : Bool :=
  let e := trimSpace existing
  let c := trimSpace candidate
  if e = "" ∨ c = "" then false
  else if e = c ∨ e = "*" then true
  else if !containsAny c "*?[\\" then matchesAllowedModel e c
  else
    match cutSuffix e "*",cutSuffix c "*" with
    | some ep,some cp =>
      !containsAny ep "*?[\\" && !containsAny cp "*?[\\" && hasPrefix cp ep
    | _,_ => false

end Diverge.Auth
