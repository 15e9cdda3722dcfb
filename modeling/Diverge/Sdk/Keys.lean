import Diverge.Text.Strings

/-! The prefixes that the Go, Node and Python libraries put before storage and Redis keys. -/
namespace Diverge.Sdk
open Text

abbrev Variables := String → String

def storagePrefixEnvVars : List String :=
  ["DIVERGE_STORAGE_PREFIX","S3_KEY_PREFIX","AWS_S3_PREFIX","GCS_KEY_PREFIX"]

/-- The second text where the first is empty: Node's `||` and Python's `or`. -/
def orElse (first second : String) : String := if first = "" then second else first

def stripSlashes (s : String) : String := trimChar s '/'

def stripLeadingSlashes (s : String) : String := String.ofList (s.toList.dropWhile (· == '/'))

/-- A text without the white space of a language at its two ends. -/
def stripBy (space : Char → Bool) (s : String) : String :=
  String.ofList ((s.toList.dropWhile space).reverse.dropWhile space).reverse

/-- `String.prototype.trim`: the byte order mark is white space, the next-line character is not. -/
def Node.trim : String → String := stripBy fun c => c.toNat == 0xfeff || (c.toNat != 0x85 && isSpace c)

/-- `str.strip`: the four ASCII separators are white space. -/
def Python.strip : String → String :=
  stripBy fun c => (decide (0x1c ≤ c.toNat) && decide (c.toNat ≤ 0x1f)) || isSpace c

/-- The first storage prefix that a variable gives, from the variables' trimmed values. -/
def explicitStoragePrefix (trimmed : Variables) : List String → String
  | [] => ""
  | envKey :: rest =>
    if trimmed envKey ≠ "" ∧ stripSlashes (trimmed envKey) ≠ "" then stripSlashes (trimmed envKey) ++ "/"
    else explicitStoragePrefix trimmed rest

def previewNamespace (trimmed : Variables) : String :=
  orElse (stripSlashes (trimmed "DIVERGE_NAMESPACE")) (stripSlashes (trimmed "POD_NAMESPACE"))

/-- What the three storage resolvers share: the variables' trimmed values and the name of the
environment decide the prefix. -/
def storagePrefix (trimmed : Variables) (env : String) : String :=
  if explicitStoragePrefix trimmed storagePrefixEnvVars ≠ "" then
    explicitStoragePrefix trimmed storagePrefixEnvVars
  else if env = "" then ""
  else if previewNamespace trimmed = "" then "previews/" ++ env ++ "/"
  else "previews/" ++ previewNamespace trimmed ++ "/" ++ env ++ "/"

def prefixStorageKey (pre key : String) : String :=
  if pre = "" ∨ hasPrefix key pre = true then key
  else if hasPrefix (stripLeadingSlashes key) pre = true then stripLeadingSlashes key
  else pre ++ stripLeadingSlashes key

def withColon (s : String) : String := if hasSuffix s ":" = true then s else s ++ ":"

def redisPrefix (explicit env : String) : String :=
  if explicit ≠ "" then withColon explicit else if env ≠ "" then "preview:" ++ env ++ ":" else ""

def prefixRedisKey (pre key : String) : String :=
  if pre = "" ∨ hasPrefix key pre = true then key else pre ++ key

section
variable (vars : Variables) (ctx : Option String)

def Go.environmentFromContext : String := ctx.getD (vars "DIVERGE_ENV")

def Go.resolveStoragePrefix : String :=
  storagePrefix (fun name => trimSpace (vars name))
    (orElse (stripSlashes (trimSpace (environmentFromContext vars ctx)))
      (stripSlashes (trimSpace (vars "DIVERGE_ENV"))))

def Go.resolveStorageKey (key : String) : String := prefixStorageKey (resolveStoragePrefix vars ctx) key

def Go.resolveRedisPrefix : String :=
  redisPrefix (orElse (trimSpace (vars "DIVERGE_REDIS_PREFIX")) (trimSpace (vars "REDIS_KEY_PREFIX")))
    (orElse (trimSpace (environmentFromContext vars ctx)) (trimSpace (vars "DIVERGE_ENV")))

def Go.resolveRedisKey (key : String) : String := prefixRedisKey (resolveRedisPrefix vars ctx) key

def Node.resolveStoragePrefix : String :=
  storagePrefix (fun name => trim (vars name))
    (stripSlashes (trim (orElse (trim (ctx.getD "")) (vars "DIVERGE_ENV"))))

def Node.resolveStorageKey (key : String) : String := prefixStorageKey (resolveStoragePrefix vars ctx) key

def Node.resolveRedisPrefix : String :=
  redisPrefix (trim (orElse (vars "DIVERGE_REDIS_PREFIX") (vars "REDIS_KEY_PREFIX")))
    (trim (orElse (trim (ctx.getD "")) (vars "DIVERGE_ENV")))

def Node.resolveRedisKey (key : String) : String := prefixRedisKey (resolveRedisPrefix vars ctx) key

def Python.resolveStoragePrefix : String :=
  storagePrefix (fun name => strip (vars name))
    (stripSlashes (orElse (strip (ctx.getD "")) (strip (vars "DIVERGE_ENV"))))

def Python.resolveStorageKey (key : String) : String := prefixStorageKey (resolveStoragePrefix vars ctx) key

def Python.resolveRedisPrefix : String :=
  redisPrefix (orElse (strip (vars "DIVERGE_REDIS_PREFIX")) (strip (vars "REDIS_KEY_PREFIX")))
    (orElse (strip (ctx.getD "")) (strip (vars "DIVERGE_ENV")))

def Python.resolveRedisKey (key : String) : String := prefixRedisKey (resolveRedisPrefix vars ctx) key

/-- The three libraries give a key the same place. -/
def SameKeys (key : String) : Prop :=
  Go.resolveStorageKey vars ctx key = Node.resolveStorageKey vars ctx key ∧
    Go.resolveStorageKey vars ctx key = Python.resolveStorageKey vars ctx key ∧
    Go.resolveRedisKey vars ctx key = Node.resolveRedisKey vars ctx key ∧
    Go.resolveRedisKey vars ctx key = Python.resolveRedisKey vars ctx key

/-- A second resolution leaves a key as the first one made it. -/
def Idempotent (resolve : String → String) : Prop := ∀ key, resolve (resolve key) = resolve key

def Ascii (s : String) : Prop := ∀ c ∈ s.toList, c.toNat < 128

/-- Python trims a text as the other two do: no ASCII separator ends what they leave of it. -/
def Unseparated (s : String) : Prop := Python.strip s = trimSpace s

end

variable {s : String} {trimmed : Variables}

lemma stripBy_congr {p q : Char → Bool} (h : ∀ c ∈ s.toList, p c = q c) : stripBy p s = stripBy q s := by
  have hdrop : ∀ cs : List Char, (∀ c ∈ cs, p c = q c) → cs.dropWhile p = cs.dropWhile q := by
    intro cs hcs
    induction cs with
    | nil => rfl
    | cons c cs ih =>
      have hrest := ih fun d hd => hcs d (List.mem_cons_of_mem c hd)
      simp only [List.dropWhile_cons,hcs c List.mem_cons_self,hrest]
  rw [stripBy,stripBy,hdrop _ h,hdrop]
  intro c hc
  exact h c ((List.dropWhile_suffix q).subset (List.mem_reverse.mp hc))

lemma Ascii.trim_eq (h : Ascii s) : Node.trim s = trimSpace s := by
  refine stripBy_congr fun c hc => ?_
  have hlt := h c hc
  have hmark : (c.toNat == 0xfeff) = false := beq_eq_false_iff_ne.mpr (by omega)
  have hnext : (c.toNat != 0x85) = true := bne_iff_ne.mpr (by omega)
  change (c.toNat == 0xfeff || (c.toNat != 0x85 && isSpace c)) = isSpace c
  rw [hmark,hnext,Bool.false_or,Bool.true_and]

lemma hasPrefix_append (pre s : String) : hasPrefix (pre ++ s) pre = true := by
  rw [hasPrefix,String.toList_append,List.isPrefixOf_iff_prefix]
  exact List.prefix_append _ _

variable (pre : String)

lemma prefixStorageKey_idempotent : Idempotent (prefixStorageKey pre) := by
  intro key
  by_cases hkey : pre = "" ∨ hasPrefix key pre = true
  · have hput : prefixStorageKey pre key = key := if_pos hkey
    rw [hput,hput]
  · have hput : prefixStorageKey pre key =
        if hasPrefix (stripLeadingSlashes key) pre = true then stripLeadingSlashes key
        else pre ++ stripLeadingSlashes key := if_neg hkey
    rw [hput]
    split_ifs with hclean
    · exact if_pos (.inr hclean)
    · exact if_pos (.inr (hasPrefix_append _ _))

lemma prefixRedisKey_idempotent : Idempotent (prefixRedisKey pre) := by
  intro key
  by_cases hkey : pre = "" ∨ hasPrefix key pre = true
  · have hput : prefixRedisKey pre key = key := if_pos hkey
    rw [hput,hput]
  · have hput : prefixRedisKey pre key = pre ++ key := if_neg hkey
    rw [hput]
    exact if_pos (.inr (hasPrefix_append _ _))

lemma hasPrefix_empty {pre : String} (h : pre ≠ "") : hasPrefix "" pre = false := by
  have hne : pre.toList ≠ [] := fun he => h (String.toList_inj.mp he)
  rw [hasPrefix]
  cases hp : pre.toList with
  | nil => exact absurd hp hne
  | cons c cs => rfl

/-- The empty key is resolved to the prefix itself, so resolvers agree as soon as their prefixes do
and only then. -/
lemma resolvers_agree_iff {resolve : String → String → String} (hself : ∀ pre, resolve pre "" = pre)
    {pre pre' : String} : (∀ key, resolve pre key = resolve pre' key) ↔ pre = pre' := by
  constructor
  · intro h
    rw [← hself pre,h "",hself pre']
  · rintro rfl key
    rfl

lemma prefixStorageKey_empty : prefixStorageKey pre "" = pre := by
  by_cases hp : pre = ""
  · rw [hp]
    rfl
  · have hclean : stripLeadingSlashes "" = "" := rfl
    simp [prefixStorageKey,hp,hasPrefix_empty hp,hclean]

lemma prefixRedisKey_empty : prefixRedisKey pre "" = pre := by
  by_cases hp : pre = ""
  · rw [hp]
    rfl
  · simp [prefixRedisKey,hp,hasPrefix_empty hp]

lemma append_ne_empty (s : String) {t : String} (h : t ≠ "") : s ++ t ≠ "" := by
  intro he
  exact h (String.append_eq_empty_iff.mp he).2

lemma withColon_ne_empty (s : String) : withColon s ≠ "" := by
  unfold withColon
  split_ifs with h
  · rintro rfl
    cases h
  · exact append_ne_empty s (by decide)

lemma explicitStoragePrefix_eq_empty_iff {names : List String} :
    explicitStoragePrefix trimmed names = "" ↔ ∀ name ∈ names, stripSlashes (trimmed name) = "" := by
  induction names with
  | nil => simp [explicitStoragePrefix]
  | cons name names ih =>
    rw [explicitStoragePrefix,List.forall_mem_cons,← ih]
    split_ifs with h
    · exact iff_of_false (append_ne_empty _ (by decide)) fun hall => h.2 hall.1
    · refine ⟨fun hrest => ⟨?_,hrest⟩,And.right⟩
      by_contra hne
      refine h ⟨?_,hne⟩
      intro hempty
      rw [hempty] at hne
      exact hne rfl

lemma storagePrefix_eq_empty_iff {env : String}
    (h : explicitStoragePrefix trimmed storagePrefixEnvVars = "") : storagePrefix trimmed env = "" ↔ env = "" := by
  rw [storagePrefix,if_neg (not_not.mpr h)]
  split_ifs with henv
  · exact iff_of_true rfl henv
  · exact iff_of_false (append_ne_empty _ (by decide)) henv
  · exact iff_of_false (append_ne_empty _ (by decide)) henv

lemma orElse_self (s : String) : orElse s s = s := ite_self s

lemma trimSpace_orElse (s t : String) : trimSpace (orElse (trimSpace s) t) = orElse (trimSpace s) (trimSpace t) := by
  unfold orElse
  split_ifs
  · rfl
  · rw [trimSpace_trimSpace]

/-- Go and Node part at names of slashes only: Go goes on to the variable, Node has no environment.
-/
lemma storagePrefix_eq_iff {env fallback : String} :
    storagePrefix trimmed (orElse (stripSlashes env) (stripSlashes fallback)) =
        storagePrefix trimmed (stripSlashes (orElse env fallback)) ↔
      env = "" ∨ stripSlashes env ≠ "" ∨ stripSlashes fallback = "" ∨
        ∃ name ∈ storagePrefixEnvVars, stripSlashes (trimmed name) ≠ "" := by
  by_cases hset : explicitStoragePrefix trimmed storagePrefixEnvVars = ""
  · have hnone := explicitStoragePrefix_eq_empty_iff.mp hset
    by_cases hempty : env = ""
    · subst hempty
      exact iff_of_true rfl (.inl rfl)
    · rw [show orElse env fallback = env from if_neg hempty]
      by_cases hslash : stripSlashes env = ""
      · rw [hslash,show orElse "" (stripSlashes fallback) = stripSlashes fallback from if_pos rfl,
          (storagePrefix_eq_empty_iff hset).mpr rfl,storagePrefix_eq_empty_iff hset]
        constructor
        · exact fun h => .inr (.inr (.inl h))
        · rintro (h | h | h | ⟨name,hname,h⟩)
          · exact absurd h hempty
          · exact absurd rfl h
          · exact h
          · exact absurd (hnone name hname) h
      · rw [show orElse (stripSlashes env) _ = stripSlashes env from if_neg hslash]
        exact iff_of_true rfl (.inr (.inl hslash))
  · have hname : ∃ name ∈ storagePrefixEnvVars, stripSlashes (trimmed name) ≠ "" := by
      by_contra hno
      push Not at hno
      exact hset (explicitStoragePrefix_eq_empty_iff.mpr hno)
    have heq : ∀ e, storagePrefix trimmed e = explicitStoragePrefix trimmed storagePrefixEnvVars :=
      fun e => if_pos hset
    exact iff_of_true ((heq _).trans (heq _).symm) (.inr (.inr (.inr hname)))

/-- Go and Node part at a first variable of white space: Go goes on to the second, Node to the
environment. -/
lemma redisPrefix_eq_iff {first second env : String} :
    redisPrefix (orElse (trimSpace first) (trimSpace second)) env =
        redisPrefix (trimSpace (orElse first second)) env ↔
      first = "" ∨ trimSpace first ≠ "" ∨ trimSpace second = "" ∨
        (env ≠ "" ∧ withColon (trimSpace second) = "preview:" ++ env ++ ":") := by
  by_cases hfirst : first = ""
  · subst hfirst
    exact iff_of_true rfl (.inl rfl)
  · rw [show orElse first second = first from if_neg hfirst]
    by_cases hblank : trimSpace first = ""
    · rw [hblank,show orElse "" (trimSpace second) = trimSpace second from if_pos rfl]
      by_cases hsecond : trimSpace second = ""
      · rw [hsecond]
        exact iff_of_true rfl (.inr (.inr (.inl rfl)))
      · have hgo : redisPrefix (trimSpace second) env = withColon (trimSpace second) := if_pos hsecond
        have hnode : redisPrefix "" env = if env ≠ "" then "preview:" ++ env ++ ":" else "" := rfl
        simp only [hgo,hnode,hfirst,hsecond,ne_eq,not_true_eq_false,false_or]
        split_ifs with henv
        · simp [henv,withColon_ne_empty]
        · simp [henv]
    · rw [show orElse (trimSpace first) _ = trimSpace first from if_neg hblank]
      exact iff_of_true rfl (.inr (.inl hblank))

section
variable {vars : Variables} {ctx : Option String}

lemma Go.fallback_eq {f : String → String} (hf : f "" = "") :
    orElse (f (Go.environmentFromContext vars ctx)) (f (vars "DIVERGE_ENV")) =
      orElse (f (ctx.getD "")) (f (vars "DIVERGE_ENV")) := by
  cases ctx with
  | none =>
    rw [Go.environmentFromContext,Option.getD_none,Option.getD_none,hf,orElse_self]
    exact (if_pos rfl).symm
  | some env => rw [Go.environmentFromContext,Option.getD_some,Option.getD_some]

lemma Go.storagePrefix_eq : Go.resolveStoragePrefix vars ctx = storagePrefix (fun name => trimSpace (vars name))
    (orElse (stripSlashes (trimSpace (ctx.getD ""))) (stripSlashes (trimSpace (vars "DIVERGE_ENV")))) := by
  rw [Go.resolveStoragePrefix]
  exact congrArg _ (Go.fallback_eq (f := fun s => stripSlashes (trimSpace s)) rfl)

lemma Go.redisPrefix_eq : Go.resolveRedisPrefix vars ctx =
    redisPrefix (orElse (trimSpace (vars "DIVERGE_REDIS_PREFIX")) (trimSpace (vars "REDIS_KEY_PREFIX")))
      (orElse (trimSpace (ctx.getD "")) (trimSpace (vars "DIVERGE_ENV"))) := by
  rw [Go.resolveRedisPrefix,Go.fallback_eq rfl]

lemma Node.env_eq (hvar : Ascii (vars "DIVERGE_ENV")) (hctx : Ascii (ctx.getD "")) :
    Node.trim (orElse (Node.trim (ctx.getD "")) (vars "DIVERGE_ENV")) =
      orElse (trimSpace (ctx.getD "")) (trimSpace (vars "DIVERGE_ENV")) := by
  rw [hctx.trim_eq,← trimSpace_orElse]
  refine Ascii.trim_eq ?_
  unfold orElse
  split_ifs
  · exact hvar
  · intro c hc
    rw [trimSpace,String.toList_ofList,List.mem_reverse] at hc
    have hdrop := List.mem_reverse.mp ((List.dropWhile_suffix isSpace).subset hc)
    exact hctx c ((List.dropWhile_suffix isSpace).subset hdrop)

end

def previewVars : Variables := fun name => if name = "DIVERGE_ENV" then "pr-7" else ""

/-- A blank `DIVERGE_REDIS_PREFIX` before a `REDIS_KEY_PREFIX`. -/
def blankVars : Variables := fun name =>
  if name = "DIVERGE_REDIS_PREFIX" then " " else if name = "REDIS_KEY_PREFIX" then "pr-7" else ""

end Diverge.Sdk
