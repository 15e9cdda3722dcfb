import Diverge.Text.Runes
import Diverge.Text.Strings

/-! The functions of Go's `strings` package on byte strings that need not be text. -/
namespace Diverge.Text.ByteStrings

/-- The characters that a `range` loop visits, each with its bytes. The number counts the bytes of the
last character still to skip. -/
def piecesFrom : ℕ → Bytes → List (Char × Bytes)
  | _,[] => []
  | n+1,_ :: bytes => piecesFrom n bytes
  | 0,b :: bytes =>
    match (b :: bytes).toByteArray.utf8DecodeChar? 0 with
    | some c => (c,(b :: bytes).take c.utf8Size) :: piecesFrom (c.utf8Size - 1) bytes
    | none => (runeError,[b]) :: piecesFrom 0 bytes

def pieces (s : Bytes) : List (Char × Bytes) := piecesFrom 0 s

def trimSpace (s : Bytes) : Bytes :=
  ((((pieces s).dropWhile fun p => isSpace p.1).reverse.dropWhile fun p => isSpace p.1).reverse).flatMap Prod.snd

/-- `strings.ToLower`: a byte of no character is replaced. -/
def toLower (s : Bytes) : Bytes := encode ((runes s).map lowerChar)

def split (sep : UInt8) (s : Bytes) : List Bytes := s.splitOn sep

def join (sep : Bytes) (parts : List Bytes) : Bytes := sep.intercalate parts

def contains (s p : Bytes) : Bool := s.tails.any fun t => p.isPrefixOf t

/-- `strings.LastIndex`, where `none` is its -1. -/
def lastIndex (sub : Bytes) : Bytes → Option ℕ
  | [] => if sub = [] then some 0 else none
  | b :: s => ((lastIndex sub s).map (· + 1)).or (if sub.isPrefixOf (b :: s) then some 0 else none)

lemma lastIndex_append {x : UInt8} {sub skipped : Bytes} (h : x ∉ skipped) (s : Bytes) :
    lastIndex (x :: sub) (skipped ++ s) = (lastIndex (x :: sub) s).map (skipped.length + ·) := by
  induction skipped with
  | nil =>
    cases hs : lastIndex (x :: sub) s with
    | none => exact hs
    | some i => exact hs.trans (congrArg some (Nat.zero_add i).symm)
  | cons b skipped ih =>
    have hb : (x == b) = false := beq_false_of_ne fun hxb => h (hxb ▸ List.mem_cons_self)
    rw [List.cons_append,lastIndex,ih fun hx => h (List.mem_cons_of_mem b hx),List.isPrefixOf,hb]
    cases lastIndex (x :: sub) s with
    | none => rfl
    | some i => exact congrArg some (Nat.add_right_comm skipped.length i 1)

/-- `strings.Trim` with a one-byte cut set. -/
def trimByte (s : Bytes) (b : UInt8) : Bytes := ((s.dropWhile (· == b)).reverse.dropWhile (· == b)).reverse

example : trimSpace (utf8 "  café " ++ [0xff,0x20]) = utf8 "café " ++ [0xff] := by decide +kernel

end Diverge.Text.ByteStrings
