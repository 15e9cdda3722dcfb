import Diverge.Text.Numbers

/-! Durations in nanoseconds and their texts in Go's `time` package, with units from hours to
nanoseconds. -/
namespace Diverge.Text

def nsPerSecond : ℕ := 10 ^ 9

def padded : ℕ → ℕ → List Char
  | 0,_ => []
  | k + 1,n => padded k (n / 10) ++ [Nat.digitChar (n % 10)]

/-- The decimals of `n / 10 ^ k` without trailing zeros. -/
def decimals : ℕ → ℕ → List Char
  | 0,_ => []
  | k + 1,n => if n % 10 = 0 then decimals k (n / 10) else padded (k + 1) n

def pointed (ds : List Char) : List Char := if ds = [] then [] else '.' :: ds

/-- The text of a duration of less than a second, in a unit of `10 ^ k` nanoseconds. -/
def subsecondText (k u : ℕ) (unit : List Char) : List Char :=
  Nat.toDigits 10 (u / 10 ^ k) ++ pointed (decimals k (u % 10 ^ k)) ++ unit

def secondsText (secs ns : ℕ) : List Char := Nat.toDigits 10 secs ++ pointed (decimals 9 ns)

def absText (u : ℕ) : List Char :=
  let secs := u / nsPerSecond
  let rest := secondsText (secs % 60) (u % nsPerSecond) ++ ['s']
  if u = 0 then ['0','s']
  else if u < 10 ^ 3 then subsecondText 0 u ['n','s']
  else if u < 10 ^ 6 then subsecondText 3 u ['µ','s']
  else if u < 10 ^ 9 then subsecondText 6 u ['m','s']
  else if secs < 60 then rest
  else if secs < 3600 then Nat.toDigits 10 (secs / 60) ++ 'm' :: rest
  else Nat.toDigits 10 (secs / 3600) ++ 'h' :: (Nat.toDigits 10 (secs / 60 % 60) ++ 'm' :: rest)

/-- `Duration.String`. -/
def durationString (d : ℤ) : String :=
  String.ofList (if d < 0 then '-' :: absText d.natAbs else absText d.natAbs)

def unitMap (unit : List Char) : Option ℕ :=
  if unit = ['n','s'] then some 1
  else if unit = ['u','s'] ∨ unit = ['µ','s'] ∨ unit = ['μ','s'] then some (10 ^ 3)
  else if unit = ['m','s'] then some (10 ^ 6)
  else if unit = ['s'] then some (10 ^ 9)
  else if unit = ['m'] then some (60 * 10 ^ 9)
  else if unit = ['h'] then some (3600 * 10 ^ 9)
  else none

/-- A number with its decimals at the start of a text, and what follows. -/
def leadingNumber (cs : List Char) : List Char × List Char × List Char :=
  match cs.dropWhile Char.isDigit with
  | '.' :: r => (cs.takeWhile Char.isDigit,r.takeWhile Char.isDigit,r.dropWhile Char.isDigit)
  | r => (cs.takeWhile Char.isDigit,[],r)

def durationSegment (cs : List Char) : Option (ℕ × List Char) :=
  let n := leadingNumber cs
  let unit := n.2.2.takeWhile fun c => c != '.' && !c.isDigit
  let whole := Nat.ofDigitChars 10 n.1 0
  if n.1 = [] ∧ n.2.1 = [] then none
  else
    (unitMap unit).bind fun scale =>
      let v := whole * scale + Nat.ofDigitChars 10 n.2.1 0 * scale / 10 ^ n.2.1.length
      if 2 ^ 63 / scale < whole ∨ 2 ^ 63 < v then none
      else some (v,n.2.2.dropWhile fun c => c != '.' && !c.isDigit)

def durationSegments : ℕ → ℕ → List Char → Option ℕ
  | _,d,[] => some d
  | 0,_,_ :: _ => none
  | fuel + 1,d,c :: cs =>
    (durationSegment (c :: cs)).bind fun r =>
      if 2 ^ 63 < d + r.1 then none else durationSegments fuel (d + r.1) r.2

/-- `time.ParseDuration`; `none` is any of its errors. -/
def parseDuration (s : String) : Option ℤ :=
  let t := takeSign s.toList
  if t.2 = ['0'] then some 0
  else if t.2 = [] then none
  else
    (durationSegments t.2.length 0 t.2).bind fun (d : ℕ) =>
      if t.1 then some (-(d : ℤ)) else if (d : ℤ) ≤ maxInt64 then some (d : ℤ) else none

example : parseDuration "1h30m0.5s" = some 5400500000000 := by decide

end Diverge.Text
