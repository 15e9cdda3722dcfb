import Mathlib.Data.List.Basic
import Mathlib.Tactic.Ring

/-! Decimal text of integers: digits, `strconv.FormatInt` and `strconv.ParseInt` in base ten,
and the arithmetic of 64-bit integers. -/
namespace Diverge.Text

def maxInt64 : ℤ := 9223372036854775807

def minInt64 : ℤ := -9223372036854775808

/-- The 64-bit integer that an arithmetic result wraps to. -/
def int64 (x : ℤ) : ℤ := Int.bmod x (2 ^ 64)

/-- The 32-bit integer that an arithmetic result wraps to. -/
def int32 (x : ℤ) : ℤ := Int.bmod x (2 ^ 32)

/-- The seconds that a `time.Time` of some Unix seconds counts, from the first of January of year one. -/
def internalSeconds (unixSec : ℤ) : ℤ := int64 (unixSec + 62135596800)

variable {x : ℤ} {cs : List Char}

lemma int64_of_range (hl : minInt64 ≤ x) (hu : x ≤ maxInt64) : int64 x = x := by
  apply Int.bmod_eq_of_le
  · exact le_trans (by decide) hl
  · exact lt_of_le_of_lt hu (by decide)

lemma le_int64_iff (hl : minInt64 ≤ x) : x ≤ int64 x ↔ x ≤ maxInt64 := by
  constructor
  · intro h
    have hlt : int64 x < 9223372036854775808 := Int.bmod_lt (by decide)
    unfold maxInt64
    omega
  · intro h
    rw [int64_of_range hl h]

def readDigits (cs : List Char) : Option ℕ :=
  if cs ≠ [] ∧ cs.all Char.isDigit then some (Nat.ofDigitChars 10 cs 0) else none

lemma readDigits_eq (hn : cs ≠ []) (hd : ∀ c ∈ cs, c.isDigit = true) :
    readDigits cs = some (Nat.ofDigitChars 10 cs 0) := by
  rw [readDigits,if_pos ⟨hn,List.all_eq_true.mpr hd⟩]

lemma toDigits_isDigit (n : ℕ) : ∀ c ∈ Nat.toDigits 10 n, c.isDigit = true :=
  fun _ hc => Nat.isDigit_of_mem_toDigits (by decide) (by decide) hc

@[simp] lemma readDigits_toDigits (n : ℕ) : readDigits (Nat.toDigits 10 n) = some n := by
  rw [readDigits_eq Nat.toDigits_ne_nil (toDigits_isDigit n),Nat.ofDigitChars_ten_toDigits]

/-- An optional leading sign, and the text after it. -/
def takeSign : List Char → Bool × List Char
  | '-' :: cs => (true,cs)
  | '+' :: cs => (false,cs)
  | cs => (false,cs)

/-- `strconv.ParseInt(s, 10, 64)`; `none` is any of its errors. -/
def parseInt (s : String) : Option ℤ :=
  let t := takeSign s.toList
  (readDigits t.2).bind fun n =>
    let x : ℤ := if t.1 then -n else n
    if minInt64 ≤ x ∧ x ≤ maxInt64 then some x else none

lemma parseInt_range {s : String} (h : parseInt s = some x) : minInt64 ≤ x ∧ x ≤ maxInt64 := by
  obtain ⟨n,-,hn⟩ := Option.bind_eq_some_iff.mp h
  dsimp only at hn
  generalize (if (takeSign s.toList).1 then -(n : ℤ) else n) = y at hn
  split_ifs at hn with hrange
  rw [← Option.some.inj hn]
  exact hrange

def intText (x : ℤ) : List Char :=
  if x < 0 then '-' :: Nat.toDigits 10 x.natAbs else Nat.toDigits 10 x.natAbs

/-- `strconv.FormatInt(x, 10)`. -/
def formatInt (x : ℤ) : String := String.ofList (intText x)

lemma takeSign_cons {P : Char → Bool} {c : Char} (hc : P c = true) (hminus : P '-' = false)
    (hplus : P '+' = false) (rest : List Char) : takeSign (c :: rest) = (false,c :: rest) := by
  unfold takeSign
  split
  · rename_i h
    rw [(List.cons_eq_cons.mp h).1,hminus] at hc
    cases hc
  · rename_i h
    rw [(List.cons_eq_cons.mp h).1,hplus] at hc
    cases hc
  · rfl

lemma takeSign_digits (hd : ∀ c ∈ cs, c.isDigit = true) : takeSign cs = (false,cs) := by
  cases cs with
  | nil => rfl
  | cons c rest => exact takeSign_cons (hd c (by simp)) rfl rfl rest

theorem parseInt_formatInt (hl : minInt64 ≤ x) (hu : x ≤ maxInt64) :
    parseInt (formatInt x) = some x := by
  unfold parseInt formatInt intText
  rw [String.toList_ofList]
  split_ifs with hx
  · have hn : -(x.natAbs : ℤ) = x := by omega
    simp only [takeSign,readDigits_toDigits,Option.bind_some,if_true,hn]
    rw [if_pos ⟨hl,hu⟩]
  · have hn : (x.natAbs : ℤ) = x := by omega
    rw [takeSign_digits (toDigits_isDigit _)]
    simp only [readDigits_toDigits,Option.bind_some,Bool.false_eq_true,if_false,hn]
    rw [if_pos ⟨hl,hu⟩]

end Diverge.Text
