import Diverge.Replay.Wire
import Mathlib.Data.List.Dedup
import Mathlib.Data.List.Sort

/-! How two answers are compared, as JSON values and as messages without a schema: a walk over both that
reports differences under the paths that it checks against the list of ignored fields. -/
namespace Diverge.Replay
open Text

inductive DiffKind
  | typeMismatch
  | missingField
  | extraField
  | countMismatch
  | valueMismatch
  | wireTypeMismatch
  | statusMismatch
  | decodeError
  deriving DecidableEq

/-- What is found at a path: how the baseline and the preview differ there. -/
structure Finding where
  kind : DiffKind
  baseline : Bytes
  preview : Bytes
  breaking : Bool := true
  deriving DecidableEq

structure ContractDiff extends Finding where
  path : String
  deriving DecidableEq

/-- The options that decide what is a difference. -/
structure Strictness where
  compareValues : Bool := false
  failOnExtraFields : Bool := false

structure DiffOptions extends Strictness where
  ignoreFields : List String := []
  protoMessage : String := ""

def shouldIgnoreField (path : String) (ignoreList : List String) : Bool :=
  ignoreList.any fun rawIgnore =>
    let ig := trimSpace rawIgnore
    ig != "" && (path == ig || hasSuffix path ("." ++ ig))

def truncateSample (s : Bytes) (maxLen : ℕ) : Bytes :=
  if s.length ≤ maxLen then s else s.take maxLen ++ utf8 "..."

mutual
/-- A decoded JSON value; a number is its text. -/
inductive Json
  | null
  | bool (b : Bool)
  | number (text : String)
  | string (s : String)
  | array (items : Items)
  | object (members : Members)

inductive Items
  | nil
  | cons (head : Json) (tail : Items)

inductive Members
  | nil
  | cons (key : String) (value : Json) (rest : Members)
end

def Items.toList : Items → List Json
  | .nil => []
  | .cons head tail => head :: tail.toList

def Members.toList : Members → List (String × Json)
  | .nil => []
  | .cons key value rest => (key,value) :: rest.toList

def describeJSONType : Json → String
  | .null => "null"
  | .bool _ => "boolean"
  | .number _ => "number"
  | .string _ => "string"
  | .array _ => "array"
  | .object _ => "object"

/-- The text of a value that is no array and no object. -/
def formatJSONScalar (isPrint : Char → Bool) : Json → String
  | .bool b => toString b
  | .number text => text
  | .string s => quote isPrint s
  | _ => "null"

section
variable (isPrint : Char → Bool) (opts : Strictness)

def countFinding (label : String) (base prev : ℕ) : List Finding :=
  if opts.compareValues ∧ base ≠ prev then
    [⟨.countMismatch,utf8 (label ++ "=" ++ toString base),utf8 (label ++ "=" ++ toString prev),true⟩]
  else []

def valueFinding (base prev : String) : List Finding :=
  if opts.compareValues ∧ base ≠ prev then
    [⟨.valueMismatch,truncateSample (utf8 base) 80,truncateSample (utf8 prev) 80,true⟩]
  else []

def typeMismatch (base prev : Json) : Finding :=
  ⟨.typeMismatch,utf8 (describeJSONType base),utf8 (describeJSONType prev),true⟩

def scalarFindings (base prev : Json) : List Finding :=
  if describeJSONType base ≠ describeJSONType prev then [typeMismatch base prev]
  else valueFinding opts (formatJSONScalar isPrint base) (formatJSONScalar isPrint prev)

def normalizeWireCategory (w : String) : String := if w = "bytes/message" then "bytes" else w

variable {M : Type}

/-- Both sides have nested messages, of one category. -/
def bothNested (b p : WireField M) : Bool :=
  normalizeWireCategory b.wireType == normalizeWireCategory p.wireType &&
    !b.nestedMessages.isEmpty && !p.nestedMessages.isEmpty

def fieldFindings (b p : WireField M) : List Finding :=
  if normalizeWireCategory b.wireType ≠ normalizeWireCategory p.wireType then
    [⟨.wireTypeMismatch,utf8 b.wireType,utf8 p.wireType,true⟩]
  else if bothNested b p || b.count != p.count then countFinding opts "count" b.count p.count
  else valueFinding opts (join "," b.values) (join "," p.values)

end

section

/-- What becomes of what is found at a path that is checked, and of the differences found below it. -/
structure Reporter (δ : Type) where
  report : String → List Finding → List δ → List δ

/-- Under a path that is ignored nothing is reported. -/
def ignoring (ignoreFields : List String) : Reporter ContractDiff where
  report path own below :=
    if shouldIgnoreField path ignoreFields then [] else own.map (ContractDiff.mk · path) ++ below

def childPath (path key : String) : String := path ++ "." ++ key

def fieldPath (path : String) (num : ℕ) : String := path ++ ".field_" ++ toString num

def indexPath (path : String) (i : ℕ) : String := path ++ "[" ++ toString i ++ "]"

/-- The keys of both sides, in order and once each. -/
def unionKeys {κ : Type} [DecidableEq κ] [LE κ] [DecidableLE κ] (base prev : List κ) : List κ :=
  (base ++ prev).dedup.insertionSort (· ≤ ·)

variable {δ γ α β κ : Type}

/-- What both have at the same index; where values are not compared, the first of the baseline with
all that the preview has more. -/
def alongside (compareValues : Bool) (path : String) (base : List (String → γ → List δ)) (prev : List γ) :
    List δ :=
  ((base.zip prev).zipIdx.flatMap fun c => c.1.1 (indexPath path c.2) c.1.2) ++
    if compareValues then [] else base.head?.elim [] fun first =>
      ((prev.drop base.length).zipIdx base.length).flatMap fun c => first (indexPath path c.2) c.1

variable (isPrint : Char → Bool) (opts : Strictness) (R : Reporter δ)

/-- A key that one side does not have is found; what both have there is compared. -/
def diffEntry (path : String) (describeBase : α → String) (describePrev : β → String)
    (both : α → β → List Finding × List δ) : Option α → Option β → List δ
  | some b,none => R.report path [⟨.missingField,utf8 (describeBase b),utf8 "absent",true⟩] []
  | none,some p => R.report path [⟨.extraField,utf8 "absent",utf8 (describePrev p),opts.failOnExtraFields⟩] []
  | some b,some p => R.report path (both b p).1 (both b p).2
  | none,none => []

def diffKeys [DecidableEq κ] [LE κ] [DecidableLE κ] (keyPath : κ → String) (describeBase : α → String)
    (describePrev : β → String) (both : κ → α → β → List Finding × List δ) (base : List (κ × α))
    (prev : List (κ × β)) : List δ :=
  (unionKeys (base.map Prod.fst) (prev.map Prod.fst)).flatMap fun k =>
    diffEntry opts R (keyPath k) describeBase describePrev (both k) (base.lookup k) (prev.lookup k)

mutual
/-- The walk of `diffJSONValues` from a value of the baseline. -/
def Json.walk : Json → String → Json → List δ
  | .array base,path,prev =>
    match prev with
    | .array items => R.report path (countFinding opts "len" base.walks.length items.toList.length)
        (alongside opts.compareValues path base.walks items.toList)
    | _ => R.report path [typeMismatch (.array base) prev] []
  | .object base,path,prev =>
    match prev with
    | .object members => R.report path [] (diffKeys opts R (childPath path)
        (fun b : Json × (String → Json → List δ) => describeJSONType b.1) describeJSONType
        (fun k b p => ([],b.2 (childPath path k) p)) base.walks members.toList)
    | _ => R.report path [typeMismatch (.object base) prev] []
  | .null,path,prev => R.report path (scalarFindings isPrint opts .null prev) []
  | .bool b,path,prev => R.report path (scalarFindings isPrint opts (.bool b) prev) []
  | .number text,path,prev => R.report path (scalarFindings isPrint opts (.number text) prev) []
  | .string s,path,prev => R.report path (scalarFindings isPrint opts (.string s) prev) []

def Items.walks : Items → List (String → Json → List δ)
  | .nil => []
  | .cons head tail => head.walk :: tail.walks

def Members.walks : Members → List (String × Json × (String → Json → List δ))
  | .nil => []
  | .cons key value rest => (key,value,value.walk) :: rest.walks
end

def diffJSONValues (isPrint : Char → Bool) (opts : DiffOptions) (path : String) (base prev : Json) :
    List ContractDiff := base.walk isPrint opts.toStrictness (ignoring opts.ignoreFields) path prev

def nestedDiffs {M : Type} (nested : String → M → M → List δ) (path : String) (b p : WireField M) : List δ :=
  if bothNested b p then
    if b.nestedMessages.length = 1 ∧ p.nestedMessages.length = 1 then
      (b.nestedMessages.zip p.nestedMessages).flatMap fun c => nested path c.1 c.2
    else alongside opts.compareValues path (b.nestedMessages.map fun m path n => nested path m n) p.nestedMessages
  else []

def Fields.walk : (k : ℕ) → String → Fields k → Fields k → List δ
  | 0,_,_,_ => []
  | k+1,path,base,prev => diffKeys opts R (fieldPath path) WireField.wireType WireField.wireType
      (fun num b p => (fieldFindings opts b p,nestedDiffs opts (Fields.walk k) (fieldPath path num) b p))
      (base : List (ℕ × WireField (Fields k))) (prev : List (ℕ × WireField (Fields k)))

/-- Over messages as `parseProtoWireMessage` summarises them. -/
def diffProtoWireMessages (opts : DiffOptions) (path : String) (base prev : Fields 6) : List ContractDiff :=
  Fields.walk opts.toStrictness (ignoring opts.ignoreFields) 6 path base prev

end

section

/-- A change of what is reported that the walks do not see. -/
structure Simulates {δ ε : Type} (R : Reporter δ) (S : Reporter ε) (h : List δ → List ε) : Prop where
  nil : h [] = []
  append : ∀ x y, h (x ++ y) = h x ++ h y
  report : ∀ path own below, h (R.report path own below) = S.report path own (h below)

variable {δ ε γ α α' β κ : Type} {R : Reporter δ} {S : Reporter ε} {h : List δ → List ε} (hsim : Simulates R S h)

include hsim

lemma Simulates.found (path : String) (own : List Finding) : h (R.report path own []) = S.report path own [] :=
  (hsim.report path own []).trans (congrArg _ hsim.nil)

lemma Simulates.flatten (xs : List (List δ)) : h xs.flatten = (xs.map h).flatten := by
  induction xs with
  | nil => exact hsim.nil
  | cons x xs ih => rw [List.flatten_cons,hsim.append,ih,List.map_cons,List.flatten_cons]

lemma Simulates.flatMap (xs : List γ) (f : γ → List δ) : h (xs.flatMap f) = xs.flatMap fun x => h (f x) := by
  rw [List.flatMap_def,hsim.flatten,List.map_map,List.flatMap_def]
  rfl

lemma Simulates.alongside (compareValues : Bool) (path : String) (base : List (String → γ → List δ))
    (prev : List γ) : h (alongside compareValues path base prev) =
      alongside compareValues path (base.map fun f path p => h (f path p)) prev := by
  unfold Replay.alongside
  rw [hsim.append,hsim.flatMap,List.zip_map_left,List.zipIdx_map,List.flatMap_map]
  congr 1
  split_ifs
  · exact hsim.nil
  · cases base with
    | nil => exact hsim.nil
    | cons f base =>
      rw [List.length_map]
      exact hsim.flatMap _ _

omit hsim in
lemma lookup_map_snd [DecidableEq κ] (k : κ) (g : α → α') (xs : List (κ × α)) :
    (xs.map (Prod.map id g)).lookup k = (xs.lookup k).map g := by
  induction xs with
  | nil => rfl
  | cons x xs ih =>
    obtain ⟨j,a⟩ := x
    cases hk : k == j <;> simp [List.lookup_cons,hk,ih]

variable {isPrint : Char → Bool} {opts : Strictness}

lemma Simulates.diffKeys [DecidableEq κ] [LE κ] [DecidableLE κ] {keyPath : κ → String} {describeBase : α → String}
    {describeBase' : α' → String} {describePrev : β → String} {both : κ → α → β → List Finding × List δ}
    {both' : κ → α' → β → List Finding × List ε} (g : α → α') (hd : ∀ b, describeBase' (g b) = describeBase b)
    (hboth : ∀ k b p, both' k (g b) p = ((both k b p).1,h (both k b p).2)) {base : List (κ × α)}
    {base' : List (κ × α')} (hbase : base' = base.map (Prod.map id g)) (prev : List (κ × β)) :
    h (diffKeys opts R keyPath describeBase describePrev both base prev) =
      diffKeys opts S keyPath describeBase' describePrev both' base' prev := by
  unfold Replay.diffKeys
  rw [hsim.flatMap,hbase,List.map_map]
  refine List.flatMap_congr fun k _ => ?_
  rw [lookup_map_snd]
  cases base.lookup k with
  | none =>
    cases prev.lookup k with
    | none => exact hsim.nil
    | some p => exact hsim.found _ _
  | some b =>
    cases prev.lookup k with
    | none => rw [Option.map_some,diffEntry,diffEntry,hd,hsim.found]
    | some p => rw [Option.map_some,diffEntry,diffEntry,hboth,hsim.report]

omit hsim

mutual
theorem Json.walk_simulates (hsim : Simulates R S h) : (b : Json) → ∀ path p,
    h (b.walk isPrint opts R path p) = b.walk isPrint opts S path p
  | .array base,path,p => by
    cases p with
    | array items => rw [Json.walk,Json.walk,hsim.report,hsim.alongside,base.walks_simulates hsim,List.length_map]
    | _ => exact hsim.found _ _
  | .object base,path,p => by
    cases p with
    | object members =>
      rw [Json.walk,Json.walk,hsim.report]
      refine congrArg _ ?_
      apply hsim.diffKeys fun b : Json × (String → Json → List δ) => (b.1,fun path p => h (b.2 path p))
      · exact fun _ => rfl
      · exact fun _ _ _ => rfl
      · exact base.walks_simulates hsim
    | _ => exact hsim.found _ _
  | .null,path,p => hsim.found path _
  | .bool _,path,p => hsim.found path _
  | .number _,path,p => hsim.found path _
  | .string _,path,p => hsim.found path _

theorem Items.walks_simulates (hsim : Simulates R S h) : (base : Items) →
    base.walks isPrint opts S = (base.walks isPrint opts R).map fun f path p => h (f path p)
  | .nil => rfl
  | .cons head tail => by
    rw [Items.walks,Items.walks,List.map_cons,tail.walks_simulates hsim]
    exact congrArg (· :: _) (funext fun path => funext fun p => (head.walk_simulates hsim path p).symm)

theorem Members.walks_simulates (hsim : Simulates R S h) : (base : Members) →
    base.walks isPrint opts S =
      (base.walks isPrint opts R).map (Prod.map id fun b => (b.1,fun path p => h (b.2 path p)))
  | .nil => rfl
  | .cons key value rest => by
    rw [Members.walks,Members.walks,List.map_cons,rest.walks_simulates hsim]
    exact congrArg (fun f => (key,value,f) :: _)
      (funext fun path => funext fun p => (value.walk_simulates hsim path p).symm)
end

lemma Fields.walk_simulates (hsim : Simulates R S h) (k : ℕ) (path : String) (base prev : Fields k) :
    h (Fields.walk opts R k path base prev) = Fields.walk opts S k path base prev := by
  induction k generalizing path with
  | zero => exact hsim.nil
  | succ k ih =>
    have hnested : ∀ path (b p : WireField (Fields k)), h (nestedDiffs opts (Fields.walk opts R k) path b p) =
        nestedDiffs opts (Fields.walk opts S k) path b p := by
      intro path b p
      unfold nestedDiffs
      split_ifs
      · rw [hsim.flatMap]
        exact List.flatMap_congr fun c _ => ih path c.1 c.2
      · rw [hsim.alongside,List.map_map]
        congr 1
        exact List.map_congr_left fun m _ => funext fun path => funext fun n => ih path m n
      · exact hsim.nil
    exact hsim.diffKeys id (fun _ => rfl) (fun num b p => congrArg _ (hnested _ b p).symm)
      (by rw [Prod.map_id]; exact (List.map_id _).symm) prev

/-- The part of what is reported that has a property which every report keeps. -/
def Reporter.restrict (R : Reporter δ) {Q : δ → Prop} (hQ : ∀ path own below, (∀ t ∈ below, Q t) →
    ∀ t ∈ R.report path own below, Q t) : Reporter {t // Q t} where
  report path own below := (R.report path own (below.map Subtype.val)).attachWith Q
    (hQ path own _ fun t ht => by obtain ⟨u,-,rfl⟩ := List.mem_map.mp ht; exact u.2)

lemma Reporter.restrict_simulates {Q : δ → Prop} (hQ : ∀ path own below, (∀ t ∈ below, Q t) →
    ∀ t ∈ R.report path own below, Q t) : Simulates (R.restrict hQ) R (List.map Subtype.val) where
  nil := rfl
  append _ _ := List.map_append
  report _ _ _ := List.attachWith_map_subtype_val _

end

/-- Every difference with the paths that were checked on the way to it, none of them ignored. -/
def tracing (ignoreFields : List String) : Reporter (ContractDiff × List String) where
  report path own below := if shouldIgnoreField path ignoreFields then [] else
    (own.map (fun f => (ContractDiff.mk f path,[])) ++ below).map fun t : ContractDiff × List String => (t.1,path :: t.2)

variable {I J : List String}

lemma shouldIgnoreField_append (path : String) (I J : List String) :
    shouldIgnoreField path (I ++ J) = (shouldIgnoreField path I || shouldIgnoreField path J) := List.any_append

/-- The differences of which no checked path is matched. -/
def unmatched (J : List String) (ts : List (ContractDiff × List String)) : List ContractDiff :=
  (ts.filter fun t => t.2.all fun path => !shouldIgnoreField path J).map Prod.fst

lemma tracing_simulates : Simulates (tracing I) (ignoring I) (List.map Prod.fst) where
  nil := rfl
  append _ _ := List.map_append
  report path own below := by
    unfold tracing ignoring
    dsimp only
    split_ifs
    · rfl
    · simp only [List.map_append,List.map_map]
      rfl

lemma unmatched_simulates : Simulates (tracing I) (ignoring (I ++ J)) (unmatched J) where
  nil := rfl
  append x y := by simp [unmatched]
  report path own below := by
    unfold tracing ignoring unmatched
    dsimp only
    rw [shouldIgnoreField_append]
    cases shouldIgnoreField path I with
    | true => rfl
    | false =>
      cases hpath : shouldIgnoreField path J with
      | true | false => simp [List.filter_map,Function.comp_def,hpath]

lemma tracing_own (path : String) (own : List Finding) (below : List (ContractDiff × List String))
    (hbelow : ∀ t ∈ below, t.1.path ∈ t.2) : ∀ t ∈ (tracing I).report path own below, t.1.path ∈ t.2 := by
  unfold tracing
  dsimp only
  split_ifs
  · exact fun t ht => absurd ht List.not_mem_nil
  · intro t ht
    obtain ⟨u,hu,rfl⟩ := List.mem_map.mp ht
    rcases List.mem_append.mp hu with hu | hu
    · obtain ⟨f,-,rfl⟩ := List.mem_map.mp hu
      exact List.mem_cons_self
    · exact List.mem_cons_of_mem _ (hbelow u hu)

/-- More ignored fields take exactly those differences away of which a checked path is matched, their own
or one above it; the others stay as they are, in their order. -/
theorem ignoring_more_filters (isPrint : Char → Bool) (opts : DiffOptions) (I J : List String) :
    (∀ path base prev, ∃ traced : List (ContractDiff × List String),
      traced = base.walk isPrint opts.toStrictness (tracing I) path prev ∧ (∀ t ∈ traced, t.1.path ∈ t.2) ∧
      diffJSONValues isPrint { opts with ignoreFields := I } path base prev = traced.map Prod.fst ∧
      diffJSONValues isPrint { opts with ignoreFields := I ++ J } path base prev = unmatched J traced) ∧
    ∀ path base prev, ∃ traced : List (ContractDiff × List String),
      traced = Fields.walk opts.toStrictness (tracing I) 6 path base prev ∧ (∀ t ∈ traced, t.1.path ∈ t.2) ∧
      diffProtoWireMessages { opts with ignoreFields := I } path base prev = traced.map Prod.fst ∧
      diffProtoWireMessages { opts with ignoreFields := I ++ J } path base prev = unmatched J traced := by
  have hown := Reporter.restrict_simulates (@tracing_own I)
  refine ⟨fun path base prev => ⟨_,rfl,?_,(base.walk_simulates tracing_simulates path prev).symm,
    (base.walk_simulates unmatched_simulates path prev).symm⟩,fun path base prev => ⟨_,rfl,?_,
    (Fields.walk_simulates tracing_simulates 6 path base prev).symm,
    (Fields.walk_simulates unmatched_simulates 6 path base prev).symm⟩⟩
  · rw [← base.walk_simulates hown]
    intro t ht
    obtain ⟨u,-,rfl⟩ := List.mem_map.mp ht
    exact u.2
  · rw [← Fields.walk_simulates hown]
    intro t ht
    obtain ⟨u,-,rfl⟩ := List.mem_map.mp ht
    exact u.2

end Diverge.Replay
