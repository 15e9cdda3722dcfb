import Diverge.Text.Numbers

/-! Instants in the text form of RFC 3339, as `time.Parse(time.RFC3339, s)` reads them: a fraction
of a second may follow a point or a comma, and the hour may have one digit. -/
namespace Diverge.Text

/-- The days of the years before a year, from the first of January of year one. -/
def daysBeforeYear (y : ℤ) : ℤ := 365 * (y - 1) + (y - 1) / 4 - (y - 1) / 100 + (y - 1) / 400

def isLeapYear (y : ℕ) : Bool := y % 4 == 0 && (y % 100 != 0 || y % 400 == 0)

def daysInMonths (y : ℕ) : List ℕ :=
  [31,if isLeapYear y then 29 else 28,31,30,31,30,31,31,30,31,30,31]

/-- Nanoseconds since the Unix epoch at the start of a day. -/
def dayStart (y m d : ℕ) : ℤ :=
  (daysBeforeYear y + ((daysInMonths y).take (m - 1)).sum + (d - 1) - 719162) * (86400 * 10 ^ 9)

/-- A number of a fixed count of digits in front of a text. -/
def takeDigits (k : ℕ) (cs : List Char) : Option (ℕ × List Char) :=
  if (cs.take k).length = k then (readDigits (cs.take k)).map fun n => (n,cs.drop k) else none

def takeHour (cs : List Char) : Option (ℕ × List Char) :=
  (takeDigits 2 cs).or (takeDigits 1 cs)

def takeChar (c : Char) : List Char → Option (List Char)
  | d :: cs => if d = c then some cs else none
  | [] => none

/-- The digits of a fraction beyond the ninth are dropped. -/
def takeFraction : List Char → ℕ × List Char
  | c :: cs =>
    let digits := cs.takeWhile Char.isDigit
    if (c = '.' ∨ c = ',') ∧ digits ≠ [] then
      let nine := digits.take 9
      (Nat.ofDigitChars 10 nine 0 * 10 ^ (9 - nine.length),cs.dropWhile Char.isDigit)
    else (0,c :: cs)
  | [] => (0,[])

/-- The zone's offset in minutes, with nothing after it. -/
def takeZone : List Char → Option ℤ
  | ['Z'] => some 0
  | c :: cs => do
    let (h,cs) ← takeDigits 2 cs
    let cs ← takeChar ':' cs
    let (m,cs) ← takeDigits 2 cs
    if cs ≠ [] ∨ 24 < h ∨ 60 < m then none
    else if c = '+' then some (h * 60 + m)
    else if c = '-' then some (-(h * 60 + m))
    else none
  | [] => none

/-- `time.Parse(time.RFC3339, s)`, in nanoseconds since the Unix epoch. -/
def parseRFC3339 (s : String) : Option ℤ := do
  let (y,cs) ← takeDigits 4 s.toList
  let cs ← takeChar '-' cs
  let (mon,cs) ← takeDigits 2 cs
  let cs ← takeChar '-' cs
  let (day,cs) ← takeDigits 2 cs
  let cs ← takeChar 'T' cs
  let (h,cs) ← takeHour cs
  let cs ← takeChar ':' cs
  let (min,cs) ← takeDigits 2 cs
  let cs ← takeChar ':' cs
  let (sec,cs) ← takeDigits 2 cs
  let (ns,cs) := takeFraction cs
  let zone ← takeZone cs
  let days ← (daysInMonths y)[mon - 1]?
  if mon = 0 ∨ day = 0 ∨ days < day ∨ 23 < h ∨ 59 < min ∨ 59 < sec then none
  else some (dayStart y mon day + ((h * 60 + min - zone) * 60 + sec) * 10 ^ 9 + ns)

example : parseRFC3339 "2000-02-29T1:00:00,25+01:00" = some (951782400 * 10 ^ 9 + 25 * 10 ^ 7) := by
  decide +kernel

end Diverge.Text
