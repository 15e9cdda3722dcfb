import Diverge.Environments.Types
import Diverge.Glob.Keys
import Diverge.Kube.Names
import Diverge.Program.Rules

/-! Key prefixes of preview environments in a shared Redis database: the prefix that a route is
given, and the eviction of its keys when the route is torn down. -/
namespace Diverge.Async
open Environments Glob.Keys Kube Text

structure ProvisionResult where
  resolvedTarget : String
  envVars : List (String × String)
  deriving DecidableEq

def resolvedTemplate : String := "\x7b\x7b .ResolvedTarget \x7d\x7d"

def annotationRedisAddr : String := "divergedev.com/redis-addr"

structure RedisProvisioner where
  addr : String := ""
  password : String := ""
  db : ℤ := 0
  deriving DecidableEq

/-- The variables of the operator's process; an unset one reads as the empty string. -/
abbrev Environ := String → String

namespace RedisProvisioner

def resolveAddr (r : RedisProvisioner) (environ : Environ) (env : Environment) : String :=
  if trimSpace ( env.annotation annotationRedisAddr) ≠ "" then
    trimSpace ( env.annotation annotationRedisAddr)
  else if trimSpace r.addr ≠ "" then trimSpace r.addr
  else trimSpace (environ "DIVERGE_REDIS_ADDR")

end RedisProvisioner

def formatRedisKeyPrefix (target envName : String) : String :=
  let trimmedTarget := trimSpace target
  if trimmedTarget = "" ∨ trimmedTarget = "default" then "preview:" ++ envName ++ ":"
  else "preview:" ++ envName ++ ":" ++ trimmedTarget ++ ":"

/-- The characters that `escapeRedisGlob` writes a backslash before. -/
def isGlobChar (c : Char) : Bool := ['*','?','[',']','\\'].contains c

/-- `escapeRedisGlob`: the characters of the text, written again as bytes. -/
def escapeRedisGlob (s : Bytes) : Bytes :=
  (runes s).flatMap fun c =>
    if isGlobChar c then escapeByte :: String.utf8EncodeChar c else String.utf8EncodeChar c

/-- The pattern that `Teardown` scans for. -/
def scanPattern (keyPrefix : Bytes) : Bytes := escapeRedisGlob keyPrefix ++ [starByte]

def missingName : String := "environment with non-empty name is required"

def RedisProvisioner.provision (r : RedisProvisioner) (environ : Environ) (env : Environment)
    (route : AsyncRouteSpec) : Except String ProvisionResult :=
  if trimSpace env.name = "" then .error missingName
  else
    let keyPrefix := formatRedisKeyPrefix route.target env.name
    let addr := r.resolveAddr environ env
    .ok {
      resolvedTarget := keyPrefix
      envVars :=
        if route.envVarMapping = [] then
          [("DIVERGE_REDIS_PREFIX",keyPrefix),("REDIS_KEY_PREFIX",keyPrefix),
            ("REDIS_NAMESPACE",trimSuffix keyPrefix ":")] ++
            (if addr = "" then [] else [("REDIS_ADDR",addr)])
        else
          route.envVarMapping.map fun m =>
            (m.1,if m.2 = resolvedTemplate ∨ m.2 = "" then keyPrefix
              else replaceAll m.2 resolvedTemplate keyPrefix) }

lemma RedisProvisioner.provision_of_name (r : RedisProvisioner) (environ : Environ)
    {env : Environment} (route : AsyncRouteSpec) (h : isDNS1123Subdomain env.name = true) :
    ∃ envVars, r.provision environ env route =
      .ok { resolvedTarget := formatRedisKeyPrefix route.target env.name, envVars := envVars } := by
  unfold provision
  rw [trimSpace_of_subdomain h,if_neg (ne_empty_of_subdomain h)]
  exact ⟨_,rfl⟩

lemma plain_of_not_globChar {c : Char} (hc : isGlobChar c = false) {b : UInt8}
    (hb : b ∈ String.utf8EncodeChar c) : isPlain b = true := by
  by_cases hascii : c.val.toNat < 128
  · rw [encodeChar_of_ascii hascii,List.mem_singleton] at hb
    subst hb
    have hascii' : c.toNat < 128 := hascii
    have hall : ∀ n < 128, isGlobChar (Char.ofNat n) = false → isPlain (UInt8.ofNat n) = true := by
      decide
    exact hall c.toNat hascii' (by rwa [Char.ofNat_toNat])
  · have hbyte := le_of_mem_encodeChar (by omega) hb
    simp only [isPlain,List.contains_eq_mem,List.mem_cons,List.not_mem_nil,or_false,
      Bool.not_eq_true',decide_eq_false_iff_not,not_or]
    refine ⟨?_,?_,?_,?_⟩
    all_goals
      rintro rfl
      revert hbyte
      decide

lemma parseFrom_plains {bytes : Bytes} (h : ∀ b ∈ bytes, isPlain b = true) (pattern : Bytes) :
    parseFrom .top (bytes ++ pattern) = bytes.map .byte ++ parseFrom .top pattern := by
  induction bytes with
  | nil => rfl
  | cons b bytes ih =>
    rw [List.cons_append,parseFrom_plain (h b (by simp)),ih fun c hc => h c (by simp [hc])]
    rfl

lemma encodeChar_of_globChar {c : Char} (hc : isGlobChar c = true) : ∃ b, String.utf8EncodeChar c = [b] := by
  simp only [isGlobChar,List.contains_eq_mem,List.mem_cons,List.not_mem_nil,or_false,
    decide_eq_true_eq] at hc
  rcases hc with rfl | rfl | rfl | rfl | rfl
  all_goals exact ⟨_,rfl⟩

lemma parseFrom_escaped_text (cs : List Char) (pattern : Bytes) :
    parseFrom .top ((cs.flatMap fun c => if isGlobChar c then escapeByte :: String.utf8EncodeChar c
        else String.utf8EncodeChar c) ++ pattern) =
      (encode cs).map .byte ++ parseFrom .top pattern := by
  induction cs with
  | nil => rfl
  | cons c cs ih =>
    rw [List.flatMap_cons,encode_cons,List.map_append,List.append_assoc,List.append_assoc,← ih]
    by_cases hc : isGlobChar c = true
    · obtain ⟨b,hb⟩ := encodeChar_of_globChar hc
      rw [if_pos hc,hb]
      exact parseFrom_escaped b _
    · rw [if_neg hc]
      exact parseFrom_plains (fun b => plain_of_not_globChar (by simpa using hc)) _

lemma scanPattern_matches (keyPrefix key : Bytes) :
    keyMatches (scanPattern keyPrefix) key = true ↔ encode (runes keyPrefix) <+: key := by
  rw [keyMatches,parse,scanPattern,escapeRedisGlob,parseFrom_escaped_text]
  exact matchTerms_stem _ key

lemma scanPattern_utf8 (s : String) (key : Bytes) :
    keyMatches (scanPattern (utf8 s)) key = true ↔ utf8 s <+: key := by
  rw [scanPattern_matches,validUtf8_utf8]

lemma scanPattern_exact_iff (keyPrefix : Bytes) :
    (∀ key, keyMatches (scanPattern keyPrefix) key = true ↔ keyPrefix <+: key) ↔ ValidUtf8 keyPrefix := by
  constructor
  · intro h
    have hread : encode (runes keyPrefix) <+: keyPrefix :=
      (scanPattern_matches keyPrefix keyPrefix).mp ((h keyPrefix).mpr (List.prefix_refl _))
    have hself : keyPrefix <+: encode (runes keyPrefix) :=
      (h _).mp ((scanPattern_matches keyPrefix _).mpr (List.prefix_refl _))
    exact hread.eq_of_length_le hself.length_le
  · intro hvalid key
    rw [scanPattern_matches,hvalid]

section

def namesTarget (target : String) : Bool :=
  decide (trimSpace target ≠ "") && decide (trimSpace target ≠ "default")

def keySuffix (target : String) : List Char :=
  if namesTarget target then (trimSpace target).toList ++ [':'] else []

lemma formatRedisKeyPrefix_toList (target envName : String) : (formatRedisKeyPrefix target envName).toList =
      "preview:".toList ++ (envName.toList ++ ':' :: keySuffix target) := by
  unfold formatRedisKeyPrefix keySuffix namesTarget
  by_cases h1 : trimSpace target = ""
  · simp [h1]
  · by_cases h2 : trimSpace target = "default"
    · simp [h2]
    · simp [h1,h2]

lemma colon_not_mem_name {name : String} (h : isDNS1123Subdomain name = true) : ':' ∉ name.toList := by
  intro hmem
  exact absurd (nameChar_of_subdomain h hmem) (by decide)

lemma exists_common_extension {α : Type} {xs ys : List α} :
    (∃ zs, xs <+: zs ∧ ys <+: zs) ↔ xs <+: ys ∨ ys <+: xs := by
  constructor
  · rintro ⟨zs,hx,hy⟩
    exact List.prefix_or_prefix_of_prefix hx hy
  · rintro (h | h)
    · exact ⟨ys,h,List.prefix_refl _⟩
    · exact ⟨xs,List.prefix_refl _,h⟩

variable {name₁ name₂ : String} (h₁ : isDNS1123Subdomain name₁ = true)
  (h₂ : isDNS1123Subdomain name₂ = true)

include h₁ h₂ in
lemma formatted_prefix_iff (target₁ target₂ : String) :
    utf8 (formatRedisKeyPrefix target₁ name₁) <+: utf8 (formatRedisKeyPrefix target₂ name₂) ↔
      name₁ = name₂ ∧ keySuffix target₁ <+: keySuffix target₂ := by
  rw [utf8_eq_encode,utf8_eq_encode,encode_prefix_iff,formatRedisKeyPrefix_toList,
    formatRedisKeyPrefix_toList,List.prefix_append_right_inj]
  constructor
  · rintro ⟨more,h⟩
    rw [List.append_assoc,List.cons_append] at h
    obtain ⟨hname,hsuffix⟩ := append_separator_inj (colon_not_mem_name h₁) (colon_not_mem_name h₂) h
    exact ⟨String.toList_inj.mp hname,more,hsuffix⟩
  · rintro ⟨rfl,more,h⟩
    exact ⟨more,by rw [List.append_assoc,List.cons_append,h]⟩

/-- The environments' names differ, or both routes have a part of the prefix for themselves and
neither part starts the other. -/
def Separated (name₁ target₁ name₂ target₂ : String) : Prop :=
  name₁ ≠ name₂ ∨
    (namesTarget target₁ = true ∧ namesTarget target₂ = true ∧
      hasPrefix (trimSpace target₂ ++ ":") (trimSpace target₁ ++ ":") = false ∧
      hasPrefix (trimSpace target₁ ++ ":") (trimSpace target₂ ++ ":") = false)

lemma separated_iff (target₁ target₂ : String) : Separated name₁ target₁ name₂ target₂ ↔ ¬(name₁ = name₂ ∧
        (keySuffix target₁ <+: keySuffix target₂ ∨ keySuffix target₂ <+: keySuffix target₁)) := by
  unfold Separated keySuffix
  by_cases hn : name₁ = name₂
  · cases ht1 : namesTarget target₁
    · simp [hn]
    · cases ht2 : namesTarget target₂
      · simp [hn]
      · simp [hn,hasPrefix,← List.isPrefixOf_iff_prefix]
  · simp [hn]

/-- The key spaces of two environments on one database. No key that starts with the prefix given to
a route of the one is matched by the pattern of the other's teardown, and the pattern of a prefix
matches the keys that start with it, when the routes are separated and the prefix is a text. -/
theorem keyspaces_isolated_iff (r : RedisProvisioner) (environ : Environ) (env₁ env₂ : Environment)
    (route₁ route₂ : AsyncRouteSpec) (keyPrefix : Bytes)
    (h₁ : isDNS1123Subdomain env₁.name = true) (h₂ : isDNS1123Subdomain env₂.name = true) :
    (∀ given, r.provision environ env₁ route₁ = .ok given → ∀ key,
        utf8 given.resolvedTarget <+: key →
          keyMatches (scanPattern (utf8 (formatRedisKeyPrefix route₂.target env₂.name))) key = false) ∧
      (∀ key, keyMatches (scanPattern keyPrefix) key = true ↔ keyPrefix <+: key) ↔
    Separated env₁.name route₁.target env₂.name route₂.target ∧ ValidUtf8 keyPrefix := by
  obtain ⟨envVars,hprovision⟩ := r.provision_of_name environ route₁ h₁
  rw [scanPattern_exact_iff,separated_iff,hprovision]
  refine and_congr_left fun _ => ?_
  have hboth : (∃ key, utf8 (formatRedisKeyPrefix route₁.target env₁.name) <+: key ∧
      utf8 (formatRedisKeyPrefix route₂.target env₂.name) <+: key) ↔
      env₁.name = env₂.name ∧ (keySuffix route₁.target <+: keySuffix route₂.target ∨
        keySuffix route₂.target <+: keySuffix route₁.target) := by
    rw [exists_common_extension,formatted_prefix_iff h₁ h₂,formatted_prefix_iff h₂ h₁,
      eq_comm (a := env₂.name),and_or_left]
  rw [← hboth]
  constructor
  · rintro h ⟨key,hone,hother⟩
    have hno := h _ rfl key hone
    rw [(scanPattern_utf8 _ key).mpr hother] at hno
    exact absurd hno (by decide)
  · rintro h given hgiven key hone
    cases hgiven
    exact Bool.eq_false_iff.mpr fun hmatch => h ⟨key,hone,(scanPattern_utf8 _ key).mp hmatch⟩

/-- Environments with two names, and a target with a character of the pattern language. -/
theorem shop_and_cart_isolated :
    isDNS1123Subdomain "shop" = true ∧ isDNS1123Subdomain "cart" = true ∧
      (∀ given, RedisProvisioner.provision {} (fun _ => "") { name := "shop", ns := "team-a" }
          { protocol := "redis", target := "a*" } = .ok given →
        ∀ key, utf8 given.resolvedTarget <+: key →
          keyMatches (scanPattern (utf8 (formatRedisKeyPrefix "b" "cart"))) key = false) ∧
      ∀ key, keyMatches (scanPattern (utf8 "preview:shop:a*:")) key = true ↔
        utf8 "preview:shop:a*:" <+: key :=
  ⟨by decide,by decide,(keyspaces_isolated_iff {} (fun _ => "") { name := "shop", ns := "team-a" }
    { name := "cart", ns := "team-a" } { protocol := "redis", target := "a*" }
    { protocol := "redis", target := "b" } _ (by decide) (by decide)).mpr
      ⟨.inl (by decide),validUtf8_utf8 _⟩⟩

/-- Two namespaces with an environment of one name share their keys. -/
theorem namesake_keys_matched :
    (let env₁ : Environment := { name := "shop", ns := "team-a" }
     let env₂ : Environment := { name := "shop", ns := "team-b" }
     let route : AsyncRouteSpec := { protocol := "redis", target := "cache" }
     (env₁.ns,env₁.name) ≠ (env₂.ns,env₂.name) ∧
       isDNS1123Subdomain env₁.name = true ∧ isDNS1123Subdomain env₂.name = true ∧
       (RedisProvisioner.provision {} (fun _ => "") env₁ route).map ProvisionResult.resolvedTarget =
         .ok "preview:shop:cache:" ∧
       utf8 "preview:shop:cache:" <+: utf8 "preview:shop:cache:cart" ∧
       keyMatches (scanPattern (utf8 (formatRedisKeyPrefix route.target env₂.name)))
         (utf8 "preview:shop:cache:cart") = true) := by
  decide

end

variable {key : Bytes}

end Diverge.Async
