import Mathlib.Data.List.Infix
import Diverge.Text.Runes

/-! Key patterns of Redis, over bytes: `*` is any sequence, `?` any byte, `[...]` a class with `^` and
ranges, and a backslash takes the next byte as it is. Every byte string is a pattern: an open class
ends with it, and a last backslash stands for itself. -/
namespace Diverge.Glob.Keys
open Text

def starByte : UInt8 := 42
def questionByte : UInt8 := 63
def openByte : UInt8 := 91
def escapeByte : UInt8 := 92
def closeByte : UInt8 := 93
def caretByte : UInt8 := 94
def dashByte : UInt8 := 45

inductive Term
  | star
  | any
  | byte (b : UInt8)
  | cls (negated : Bool) (ranges : List (UInt8 × UInt8))
  deriving DecidableEq

def range (lo hi : UInt8) : UInt8 × UInt8 := (min lo hi,max lo hi)

def inRanges (ranges : List (UInt8 × UInt8)) (b : UInt8) : Bool :=
  ranges.any fun r => decide (r.1 ≤ b) && decide (b ≤ r.2)

/-- Between terms, after a backslash, or inside a class with the ranges so far and possibly the lower
end of the next. -/
inductive Scan
  | top
  | escaped
  | opened
  | item (negated : Bool) (ranges : List (UInt8 × UInt8))
  | itemEscaped (negated : Bool) (ranges : List (UInt8 × UInt8))
  | low (negated : Bool) (ranges : List (UInt8 × UInt8)) (lo : UInt8)
  | high (negated : Bool) (ranges : List (UInt8 × UInt8)) (lo : UInt8)
  deriving DecidableEq

inductive Scanned
  | more (s : Scan)
  | emit (t : Term)

def scanItem (negated : Bool) (ranges : List (UInt8 × UInt8)) (b : UInt8) : Scanned :=
  if b = escapeByte then .more (.itemEscaped negated ranges)
  else if b = closeByte then .emit (.cls negated ranges)
  else .more (.low negated ranges b)

def scanByte : Scan → UInt8 → Scanned
  | .top,b =>
    if b = starByte then .emit .star
    else if b = questionByte then .emit .any
    else if b = openByte then .more .opened
    else if b = escapeByte then .more .escaped
    else .emit (.byte b)
  | .escaped,b => .emit (.byte b)
  | .opened,b => if b = caretByte then .more (.item true []) else scanItem false [] b
  | .item negated ranges,b => scanItem negated ranges b
  | .itemEscaped negated ranges,b => .more (.item negated (ranges ++ [(b,b)]))
  | .low negated ranges lo,b =>
    if b = dashByte then .more (.high negated ranges lo) else scanItem negated (ranges ++ [(lo,lo)]) b
  | .high negated ranges lo,b => .more (.item negated (ranges ++ [range lo b]))

/-- What the end of the pattern makes of an unfinished term. -/
def finish : Scan → List Term
  | .top => []
  | .escaped => [.byte escapeByte]
  | .opened => [.cls false []]
  | .item negated ranges => [.cls negated ranges]
  | .itemEscaped negated ranges => [.cls negated (ranges ++ [(escapeByte,escapeByte)])]
  | .low negated ranges lo => [.cls negated (ranges ++ [(lo,lo)])]
  | .high negated ranges lo => [.cls negated (ranges ++ [(lo,lo),(dashByte,dashByte)])]

def parseFrom : Scan → Bytes → List Term
  | s,[] => finish s
  | s,b :: bytes =>
    match scanByte s b with
    | .more s' => parseFrom s' bytes
    | .emit t => t :: parseFrom .top bytes

def parse (pattern : Bytes) : List Term := parseFrom .top pattern

def matchTerms : List Term → Bytes → Bool
  | [],key => key.isEmpty
  | .star :: ts,key => key.tails.any (matchTerms ts)
  | .any :: ts,key => !key.isEmpty && matchTerms ts key.tail
  | .byte b :: ts,key => key.head? == some b && matchTerms ts key.tail
  | .cls negated ranges :: ts,key =>
    key.head?.any (fun b => inRanges ranges b != negated) && matchTerms ts key.tail

def keyMatches (pattern key : Bytes) : Bool := matchTerms (parse pattern) key

def isPlain (b : UInt8) : Bool :=
  !([starByte,questionByte,openByte,escapeByte].contains b)

lemma parseFrom_plain {b : UInt8} (hb : isPlain b = true) (pattern : Bytes) :
    parseFrom .top (b :: pattern) = .byte b :: parseFrom .top pattern := by
  simp only [isPlain,List.contains_eq_mem,List.mem_cons,List.not_mem_nil,or_false,Bool.not_eq_true',
    decide_eq_false_iff_not,not_or] at hb
  obtain ⟨h1,h2,h3,h4⟩ := hb
  rw [parseFrom,scanByte,if_neg h1,if_neg h2,if_neg h3,if_neg h4]

lemma parseFrom_escaped (b : UInt8) (pattern : Bytes) :
    parseFrom .top (escapeByte :: b :: pattern) = .byte b :: parseFrom .top pattern := rfl

lemma matchTerms_star (key : Bytes) : matchTerms [.star] key = true := by
  rw [matchTerms,List.any_eq_true]
  exact ⟨[],(List.mem_tails _ _).mpr List.nil_suffix,rfl⟩

lemma matchTerms_stem (stem key : Bytes) :
    matchTerms (stem.map .byte ++ [.star]) key = true ↔ stem <+: key := by
  induction stem generalizing key with
  | nil => simpa using matchTerms_star key
  | cons b stem ih =>
    cases key with
    | nil => simp [matchTerms]
    | cons k key =>
      rw [List.map_cons,List.cons_append,matchTerms,Bool.and_eq_true,List.tail_cons,ih,
        List.cons_prefix_cons,List.head?_cons,beq_iff_eq,Option.some_inj,eq_comm]

example : keyMatches (utf8 "h[a-c^]l*o\\*") (utf8 "hbl--o*") = true := by decide

end Diverge.Glob.Keys
