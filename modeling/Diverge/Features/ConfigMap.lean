import Diverge.Order.Enumerations
import Diverge.Text.Decimal

/-! The feature provider that keeps the overrides of an environment in a ConfigMap: as a flagd
definition, as JSON, and one by one. The texts of JSON documents are parameters. -/
namespace Diverge.Features
open Text Diverge.Order

inductive Value
  | bool (b : Bool)
  | int (n : ℤ)
  | float (x : Number)
  | string (s : String)
  deriving DecidableEq

/-- The rules of JSONLogic that are generated. -/
inductive Rule
  | text (s : String)
  | var (path : String)
  | equal (a b : Rule)
  | ite (condition yes no : Rule)

structure FlagdFlag where
  variants : List (String × Value)
  defaultVariant : String
  targeting : Option Rule

/-- `strconv.ParseFloat(s, 64)`, with its range error. -/
def parseFloat64 (s : String) : Option Number :=
  (parseFloat s).filter fun x =>
    match x with
    | .finite q => decide (|q| < 2 ^ 1024 - 2 ^ 970)
    | _ => true

/-- The variants of a flag, the one for the environment and the one for all others. -/
abbrev Choice := List (String × Value) × String × String

def valued (envName : String) (value fallback : Value) : Choice :=
  (if envName ≠ "" then [("value",value),("default",fallback)] else [("value",value)],"value","default")

def chooseVariants (envName v : String) : Choice :=
  if v = "true" then ([("on",.bool true),("off",.bool false)],"on","off")
  else if v = "false" then ([("on",.bool true),("off",.bool false)],"off","on")
  else match parseInt v,parseFloat64 v with
    | some n,_ => valued envName (.int n) (.int 0)
    | none,some x => valued envName (.float x) (.float (.finite 0))
    | none,none => valued envName (.string v) (.string "")

def buildFlag (envName v : String) : FlagdFlag :=
  let (variants,target,fallback) := chooseVariants envName v
  if envName ≠ "" then
    ⟨variants,fallback,some (.ite (.equal (.var "diverge.environment") (.text envName)) (.text target)
      (.text fallback))⟩
  else ⟨variants,target,none⟩

/-- What `json.Marshal` can write. -/
def Value.encodable : Value → Bool
  | .float (.finite _) => true
  | .float _ => false
  | _ => true

def buildFlagdJSON (overrides : Listing String) (envName : String) : Option (List (String × FlagdFlag)) :=
  let flags := overrides.entries.map fun kv => (kv.1,buildFlag envName kv.2)
  if flags.all fun f => f.2.variants.all fun v => v.2.encodable then some flags else none

section
variable (equals : Option Value → Option Value → Bool) (ctx : String → Option Value)

/-- The value of a rule; the conditions that are generated are comparisons. -/
def Rule.eval : Rule → Option Value
  | .text s => some (.string s)
  | .var path => ctx path
  | .equal a b => some (.bool (equals a.eval b.eval))
  | .ite condition yes no => if condition.eval = some (.bool true) then yes.eval else no.eval

def FlagdFlag.evaluate (flag : FlagdFlag) : Option Value :=
  match flag.targeting.bind (Rule.eval equals ctx) with
  | none => flag.variants.lookup flag.defaultVariant
  | some (.string name) => flag.variants.lookup name
  | some _ => none

/-- The value that an override stands for. -/
def parseValue (v : String) : Value :=
  if v = "true" then .bool true else if v = "false" then .bool false
  else ((parseInt v).map Value.int).getD (((parseFloat64 v).map Value.float).getD (.string v))

/-- The flag has the override's value in its environment, and another value of its type elsewhere. -/
def FlagdFlag.Follows (flag : FlagdFlag) (envName v : String) : Prop :=
  if envName = "" ∨ equals (ctx "diverge.environment") (some (.string envName)) = true then
    flag.evaluate equals ctx = some (parseValue v)
  else ∃ other,flag.evaluate equals ctx = some other ∧ (flag.defaultVariant,other) ∈ flag.variants ∧
    other.ctorIdx = (parseValue v).ctorIdx

/-- The overrides have a definition whose flags mean what they say. -/
def Means (overrides : Listing String) (envName : String) : Prop :=
  ∃ flags,buildFlagdJSON overrides envName = some flags ∧ ∀ k v,overrides.get? k = some v →
    ∃ flag,flags.lookup k = some flag ∧ ∀ ctx,flag.Follows equals ctx envName v

structure Offers (envName : String) (value : Value) (c : Choice) : Prop where
  target : c.1.lookup c.2.1 = some value
  fallback : envName ≠ "" → ∃ other,c.1.lookup c.2.2 = some other ∧ (c.2.2,other) ∈ c.1 ∧
    other.ctorIdx = value.ctorIdx
  encodable : (c.1.all fun x => x.2.encodable) = value.encodable

lemma offers_valued (envName : String) {value other : Value} (htype : other.ctorIdx = value.ctorIdx)
    (hother : other.encodable = true) : Offers envName value (valued envName value other) := by
  unfold valued
  by_cases hname : envName = ""
  · rw [if_neg (not_not.mpr hname)]
    exact ⟨rfl,fun hne => absurd hname hne,by simp⟩
  · rw [if_pos hname]
    exact ⟨rfl,fun _ => ⟨other,rfl,by simp,htype⟩,by simp [hother]⟩

lemma offers_chooseVariants (envName v : String) :
    Offers envName (parseValue v) (chooseVariants envName v) := by
  unfold chooseVariants parseValue
  split_ifs
  · exact ⟨rfl,fun _ => ⟨.bool false,rfl,by simp,rfl⟩,rfl⟩
  · exact ⟨rfl,fun _ => ⟨.bool true,rfl,by simp,rfl⟩,rfl⟩
  · cases parseInt v with
    | some n => exact offers_valued envName rfl rfl
    | none =>
      cases parseFloat64 v with
      | some x | none => exact offers_valued envName rfl rfl

lemma buildFlag_variants (envName v : String) :
    (buildFlag envName v).variants = (chooseVariants envName v).1 := by
  unfold buildFlag
  dsimp only
  split_ifs <;> rfl

lemma buildFlag_follows (envName v : String) : (buildFlag envName v).Follows equals ctx envName v := by
  obtain ⟨htarget,hfallback,-⟩ := offers_chooseVariants envName v
  unfold FlagdFlag.Follows buildFlag
  dsimp only
  by_cases hname : envName = ""
  · rw [if_pos (.inl hname),if_neg (not_not.mpr hname)]
    exact htarget
  · obtain ⟨other,hlookup,hmem,htype⟩ := hfallback hname
    rw [if_pos hname]
    simp only [hname,false_or,FlagdFlag.evaluate,Option.bind_some,Rule.eval,Option.some.injEq,Value.bool.injEq]
    split_ifs with heq
    · exact htarget
    · exact ⟨other,hlookup,hmem,htype⟩

lemma buildFlagdJSON_eq_some_iff {overrides : Listing String} {envName : String}
    {flags : List (String × FlagdFlag)} : buildFlagdJSON overrides envName = some flags ↔
      (∀ k v,overrides.get? k = some v → (parseValue v).encodable = true) ∧
        (overrides.entries.map fun kv => (kv.1,buildFlag envName kv.2)) = flags := by
  simp [buildFlagdJSON,buildFlag_variants,(offers_chooseVariants envName _).encodable,
    Listing.get?_eq_some_iff]

theorem flags_mean_overrides_iff (overrides : Listing String) (envName : String) :
    Means equals overrides envName ↔ ∀ k v,overrides.get? k = some v → (parseValue v).encodable = true := by
  constructor
  · rintro ⟨flags,hflags,-⟩
    exact (buildFlagdJSON_eq_some_iff.mp hflags).1
  · intro h
    refine ⟨_,buildFlagdJSON_eq_some_iff.mpr ⟨h,rfl⟩,fun k v hv =>
      ⟨buildFlag envName v,?_,fun ctx => buildFlag_follows equals ctx envName v⟩⟩
    rw [Listing.lookup_eq_some_iff (by simpa [Function.comp_def] using overrides.unique)]
    exact List.mem_map.mpr ⟨(k,v),Listing.get?_eq_some_iff.mp hv,rfl⟩

/-- An override that is read as no number of JSON: there is no definition at all. -/
theorem nan_override_fails :
    ¬ Means (fun _ _ => true) ⟨[("ratio","NaN")],by decide⟩ "shop" := by
  rintro ⟨flags,hflags,-⟩
  have h := (buildFlagdJSON_eq_some_iff.mp hflags).1 "ratio" "NaN" rfl
  exact absurd h (by decide +kernel)

end

/-- The texts of the two documents. -/
structure Encoding where
  flags : List (String × FlagdFlag) → String
  overrides : Listing String → String

abbrev Data := String → Option String

def documents : List String := ["flags.json","overrides.json"]

variable (enc : Encoding) (envName : String)

def withDocuments (flags : List (String × FlagdFlag)) (overrides : Listing String) (data : Data) : Data :=
  Function.update (Function.update data "flags.json" (some (enc.flags flags)))
    "overrides.json" (some (enc.overrides overrides))

def writeEntries (data : Data) (entries : List (String × String)) : Data :=
  entries.foldl (fun data kv => Function.update data kv.1 (some kv.2)) data

/-- What a Provision that succeeds makes of the data; `none` is an error. -/
def provision (data : Data) (overrides : Listing String) : Option Data :=
  (buildFlagdJSON overrides envName).map fun flags =>
    writeEntries (withDocuments enc flags overrides data) overrides.entries

/-- The data that consists of the overrides and the documents. -/
def mirror (overrides : Listing String) : Option Data :=
  (buildFlagdJSON overrides envName).map fun flags => withDocuments enc flags overrides overrides.get?

variable {enc envName} {flags : List (String × FlagdFlag)} {data data' : Data}
  {overrides : Listing String} {k : String}

lemma withDocuments_other (h : k ∉ documents) : withDocuments enc flags overrides data k = data k := by
  simp only [documents,List.mem_cons,List.not_mem_nil,or_false,not_or] at h
  simp [withDocuments,h]

lemma withDocuments_document (h : k ∈ documents) : withDocuments enc flags overrides data k =
    some (if k = "flags.json" then enc.flags flags else enc.overrides overrides) := by
  simp only [documents,List.mem_cons,List.not_mem_nil,or_false] at h
  rcases h with rfl | rfl
  · rfl
  · rfl

lemma writeEntries_apply {entries : List (String × String)} (h : (entries.map Prod.fst).Nodup) :
    writeEntries data entries k = (entries.lookup k).or (data k) := by
  induction entries generalizing data with
  | nil => rfl
  | cons kv entries ih =>
    obtain ⟨l,v⟩ := kv
    rw [List.map_cons,List.nodup_cons] at h
    change writeEntries (Function.update data l (some v)) entries k = _
    rw [ih h.2,List.lookup_cons]
    by_cases hk : k = l
    · subst hk
      have hnone : entries.lookup k = none := by
        rw [Option.eq_none_iff_forall_ne_some]
        intro w hw
        exact h.1 (List.mem_map.mpr ⟨_,(Listing.lookup_eq_some_iff h.2).mp hw,rfl⟩)
      simp [hnone]
    · simp [hk,beq_eq_false_iff_ne.mpr hk]

lemma provision_eq_some_iff : provision enc envName data overrides = some data' ↔
    ∃ flags,buildFlagdJSON overrides envName = some flags ∧
      data' = fun k => (overrides.get? k).or (withDocuments enc flags overrides data k) := by
  simp only [provision,Option.map_eq_some_iff]
  refine exists_congr fun flags => and_congr_right fun _ => ?_
  rw [eq_comm,show writeEntries (withDocuments enc flags overrides data) overrides.entries = _ from
    funext fun k => writeEntries_apply overrides.unique]
  rfl

/-- Nothing is ever removed from the data. -/
lemma provisions_other {history : List (Listing String)} (hk : k ∉ documents)
    (h : history.foldlM (provision enc envName) data = some data') :
    data' k = none ↔ data k = none ∧ ∀ o ∈ history,o.get? k = none := by
  induction history generalizing data with
  | nil =>
    obtain rfl : data = data' := Option.some.inj h
    simp
  | cons o history ih =>
    obtain ⟨mid,hmid,hrest⟩ := Option.bind_eq_some_iff.mp h
    obtain ⟨flags,-,rfl⟩ := provision_eq_some_iff.mp hmid
    rw [ih hrest,Option.or_eq_none_iff,withDocuments_other hk,List.forall_mem_cons]
    tauto

theorem configMap_mirrors_iff (history : List (Listing String)) (last : Listing String)
    (h : (history ++ [last]).foldlM (provision enc envName) (fun _ => none) = some data)
    (htexts : ∀ flags k v,buildFlagdJSON last envName = some flags → last.get? k = some v →
      v ≠ enc.flags flags ∧ v ≠ enc.overrides last) : some data = mirror enc envName last ↔
      (∀ o ∈ history,∀ k ∉ documents,last.get? k = none → o.get? k = none) ∧
        ∀ k ∈ documents,last.get? k = none := by
  rw [List.foldlM_append] at h
  obtain ⟨mid,hmid,hlast⟩ := Option.bind_eq_some_iff.mp h
  obtain ⟨flags,hflags,rfl⟩ := provision_eq_some_iff.mp (by simpa using hlast)
  rw [mirror,hflags,Option.map_some,Option.some.injEq,funext_iff]
  constructor
  · intro heq
    constructor
    · intro o ho k hk hv
      have hnone := heq k
      rw [withDocuments_other hk,withDocuments_other hk,hv,Option.none_or] at hnone
      exact ((provisions_other hk hmid).mp hnone).2 o ho
    · intro k hk
      rw [Option.eq_none_iff_forall_ne_some]
      intro v hv
      have htext := htexts flags k v hflags hv
      have hdocument := heq k
      rw [hv,Option.some_or,withDocuments_document hk,Option.some.injEq] at hdocument
      split_ifs at hdocument
      · exact htext.1 hdocument
      · exact htext.2 hdocument
  · rintro ⟨hremoved,hdocuments⟩ k
    by_cases hk : k ∈ documents
    · rw [hdocuments k hk,Option.none_or,withDocuments_document hk,withDocuments_document hk]
    · rw [withDocuments_other hk,withDocuments_other hk]
      cases hv : last.get? k with
      | some v => rfl
      | none =>
        exact (provisions_other hk hmid).mpr ⟨rfl,fun o ho => hremoved o ho k hk hv⟩

def plainTexts : Encoding := ⟨fun _ => "flags",fun _ => "overrides"⟩

def betaOn : Listing String := ⟨[("beta","true")],by decide⟩

theorem configMap_mirrors_betaOn : ∃ data,
    [betaOn].foldlM (provision plainTexts "shop") (fun _ => none) = some data ∧
      some data = mirror plainTexts "shop" betaOn := by
  refine ⟨_,rfl,(configMap_mirrors_iff [] betaOn rfl ?_).mpr ⟨by simp,by decide⟩⟩
  intro flags k v _ hv
  obtain ⟨-,rfl⟩ : k = "beta" ∧ v = "true" := by simpa [betaOn] using Listing.get?_eq_some_iff.mp hv
  simp [plainTexts]

/-- An override that is removed before the second Provision. -/
theorem removed_override_stays : ¬ ∀ data,
    [betaOn,.empty].foldlM (provision plainTexts "shop") (fun _ => none) = some data →
      some data = mirror plainTexts "shop" .empty := by
  intro h
  have hbeta := congrFun (Option.some.inj (h _ rfl)) "beta"
  exact absurd hbeta (by decide)

/-- After any Provisions a key has the value of the last of them that had an override for it. -/
theorem entry_is_last_override {history : List (Listing String)} (hk : k ∉ documents)
    (h : history.foldlM (provision enc envName) data = some data') :
    data' k = (history.reverse.findSome? (·.get? k)).or (data k) := by
  induction history generalizing data with
  | nil =>
    obtain rfl : data = data' := Option.some.inj h
    rfl
  | cons o history ih =>
    obtain ⟨mid,hmid,hrest⟩ := Option.bind_eq_some_iff.mp h
    obtain ⟨flags,-,rfl⟩ := provision_eq_some_iff.mp hmid
    rw [ih hrest,withDocuments_other hk]
    simp [List.findSome?_append,Option.or_assoc]

theorem removed_override_is_last : ∃ data,
    [betaOn,.empty].foldlM (provision plainTexts "shop") (fun _ => none) = some data ∧ data "beta" = some "true" :=
  ⟨_,rfl,@entry_is_last_override plainTexts "shop" (fun _ => none) _ "beta" [betaOn,.empty] (by decide) rfl⟩

end Diverge.Features
