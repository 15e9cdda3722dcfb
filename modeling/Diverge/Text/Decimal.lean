import Diverge.Text.Numbers
import Mathlib.Data.List.TakeWhile
import Mathlib.Data.Rat.Floor
import Mathlib.NumberTheory.Padics.PadicVal.Basic

/-! Exact decimal amounts and their text: rounding, the fixed-point format `%.kf`, and
`strconv.ParseFloat` with exact values in the place of the nearest binary ones. What the format writes
is read back as the rounded amount. -/
namespace Diverge.Text

/-- How a tie between two neighbours is broken. -/
inductive Rounding
  | halfEven
  | halfAway
  deriving DecidableEq

namespace Rounding

def roundsUp (m : Rounding) (q : ℚ) : Bool :=
  let r := Int.fract q
  decide (1/2 < r) || (decide (r = 1/2) &&
    match m with
    | .halfEven => decide (⌊q⌋ % 2 = 1)
    | .halfAway => decide (0 ≤ q))

def nearest (m : Rounding) (q : ℚ) : ℤ := if m.roundsUp q then ⌊q⌋ + 1 else ⌊q⌋

variable {q : ℚ} {n : ℤ}

lemma roundsUp_fract_pos {m : Rounding} (h : m.roundsUp q = true) : 0 < Int.fract q := by
  simp only [roundsUp,Bool.or_eq_true,Bool.and_eq_true,decide_eq_true_eq] at h
  rcases h with h | ⟨h,-⟩
  · linarith
  · rw [h]; norm_num

variable (m : Rounding)

lemma nearest_intCast (n : ℤ) : m.nearest n = n := by
  have h : m.roundsUp (n : ℚ) = false := by
    by_contra hn
    have hp := roundsUp_fract_pos (Bool.not_eq_false _ ▸ hn)
    simp at hp
  simp [nearest,h]

lemma le_nearest (h : (n : ℚ) ≤ q) : n ≤ m.nearest q := by
  have hf : n ≤ ⌊q⌋ := Int.le_floor.mpr h
  unfold nearest
  split_ifs
  · exact hf.trans (Int.le_add_one le_rfl)
  · exact hf

lemma nearest_le (h : q ≤ n) : m.nearest q ≤ n := by
  have hf : ⌊q⌋ ≤ n := by
    have := (Int.floor_le q).trans h
    exact_mod_cast this
  unfold nearest
  split_ifs with hu
  · have hp := roundsUp_fract_pos hu
    have hlt : (⌊q⌋ : ℚ) < n := by
      have := Int.self_sub_floor q
      linarith
    exact_mod_cast hlt
  · exact hf

def roundTo (m : Rounding) (k : ℕ) (q : ℚ) : ℚ := m.nearest (q * 10 ^ k) / 10 ^ k

lemma le_roundTo {k : ℕ} (h : (n : ℚ) / 10 ^ k ≤ q) : (n : ℚ) / 10 ^ k ≤ m.roundTo k q := by
  have hp : (0 : ℚ) < 10 ^ k := by positivity
  have hn : n ≤ m.nearest (q * 10 ^ k) := m.le_nearest ((div_le_iff₀ hp).mp h)
  rw [roundTo,div_le_div_iff_of_pos_right hp]
  exact_mod_cast hn

lemma roundTo_exact (k : ℕ) (n : ℤ) : m.roundTo k ((n : ℚ) / 10 ^ k) = n / 10 ^ k := by
  have hp : (10 : ℚ) ^ k ≠ 0 := by positivity
  rw [roundTo,div_mul_cancel₀ _ hp,nearest_intCast]

lemma abs_nearest_sub_le (q : ℚ) (n : ℤ) : |(m.nearest q : ℚ) - q| ≤ |(n : ℚ) - q| := by
  have hfract : q - ⌊q⌋ = Int.fract q := Int.self_sub_floor q
  have hlt := Int.fract_lt_one q
  have hgap : min (Int.fract q) (1 - Int.fract q) ≤ |(n : ℚ) - q| := by
    rcases le_or_gt n ⌊q⌋ with hle | hgt
    · have hle : (n : ℚ) ≤ ⌊q⌋ := by exact_mod_cast hle
      refine (min_le_left _ _).trans (le_trans ?_ (neg_le_abs _))
      linarith
    · have hgt : (⌊q⌋ : ℚ) + 1 ≤ n := by exact_mod_cast hgt
      refine (min_le_right _ _).trans (le_trans ?_ (le_abs_self _))
      linarith
  refine le_trans ?_ hgap
  unfold nearest
  split_ifs with hup
  · have hhalf : 1/2 ≤ Int.fract q := by
      simp only [roundsUp,Bool.or_eq_true,Bool.and_eq_true,decide_eq_true_eq] at hup
      rcases hup with h | ⟨h,-⟩
      · exact h.le
      · exact h.ge
    push_cast
    rw [abs_of_nonneg (by linarith),min_eq_right (by linarith)]
    linarith
  · have hhalf : Int.fract q ≤ 1/2 := by
      simp only [roundsUp,Bool.or_eq_true,decide_eq_true_eq,not_or,not_lt] at hup
      exact hup.1
    rw [abs_of_nonpos (by linarith [Int.fract_nonneg q]),min_eq_left (by linarith)]
    linarith

lemma abs_roundTo_sub_le (k : ℕ) (q : ℚ) (n : ℤ) :
    |m.roundTo k q - q| ≤ |(n : ℚ) / 10 ^ k - q| := by
  have hp : (0 : ℚ) < 10 ^ k := by positivity
  have hscale (x : ℚ) : |x / 10 ^ k - q| = |x - q * 10 ^ k| / 10 ^ k := by
    rw [← abs_of_pos hp,← abs_div,abs_of_pos hp,sub_div,mul_div_cancel_right₀ _ hp.ne']
  rw [roundTo,hscale,hscale]
  exact div_le_div_of_nonneg_right (m.abs_nearest_sub_le _ n) hp.le

end Rounding

def fracText (k n : ℕ) : List Char := List.leftpad k '0' (Nat.toDigits 10 (n % 10 ^ k))

/-- The digits of `n / 10 ^ k` with all of its `k` decimals. -/
def fixedText (k n : ℕ) : List Char :=
  Nat.toDigits 10 (n / 10 ^ k) ++
    if k = 0 then [] else '.' :: fracText k n

/-- `fmt.Sprintf("%.kf", q)`. -/
def formatFixed (m : Rounding) (k : ℕ) (q : ℚ) : String :=
  let body := fixedText k (m.nearest (q * 10 ^ k)).natAbs
  String.ofList (if q < 0 then '-' :: body else body)

def decimalPlaces (q : ℚ) : ℕ := max (padicValNat 2 q.den) (padicValNat 5 q.den)

/-- `strconv.FormatFloat(q, 'f', -1, 64)`: all the decimals the amount has, and no more. -/
def formatExact (q : ℚ) : String := formatFixed .halfEven (decimalPlaces q) q

/-- What `ParseFloat` returns: an exact value or one of the special ones. -/
inductive Number
  | finite (q : ℚ)
  | inf (negative : Bool)
  | nan
  deriving DecidableEq

/-- The comparison `x < y` of floating-point numbers. -/
def Number.lt : Number → Number → Bool
  | .finite x,.finite y => decide (x < y)
  | .finite _,.inf negative => !negative
  | .inf negative,.finite _ => negative
  | .inf negative,.inf negative' => negative && !negative'
  | _,_ => false

/-- The comparison `x <= y`. -/
def Number.le : Number → Number → Bool
  | .finite x,.finite y => decide (x ≤ y)
  | .finite _,.inf negative => !negative
  | .inf negative,.finite _ => negative
  | .inf negative,.inf negative' => negative || !negative'
  | _,_ => false

def hexValue (c : Char) : Option ℕ :=
  if c.isDigit then some (c.toNat - '0'.toNat)
  else if 'a' ≤ c ∧ c ≤ 'f' then some (c.toNat - 'a'.toNat + 10)
  else if 'A' ≤ c ∧ c ≤ 'F' then some (c.toNat - 'A'.toNat + 10)
  else none

def isHexPrefix : List Char → Bool
  | '0' :: 'x' :: _ => true
  | '0' :: 'X' :: _ => true
  | _ => false

/-- Underscores stand between digits, or between a base prefix and a digit. -/
def underscoresFrom (hex : Bool) : Char → List Char → Bool
  | saw,[] => saw != '_'
  | saw,c :: cs =>
    if c.isDigit || (hex && (hexValue c).isSome) then underscoresFrom hex '0' cs
    else if c = '_' then saw == '0' && underscoresFrom hex '_' cs
    else saw != '_' && underscoresFrom hex '!' cs

def underscoreOK (cs : List Char) : Bool :=
  let body := (takeSign cs).2
  if isHexPrefix body then underscoresFrom true '0' (body.drop 2) else underscoresFrom false '^' body

def stripUnderscores (cs : List Char) : Option (List Char) :=
  if '_' ∈ cs then if underscoreOK cs then some (cs.filter (· != '_')) else none else some cs

/-- The signed digits after the exponent letter. -/
def readExponent (letter : Char) : List Char → Option ℤ
  | c :: cs =>
    if c.toLower = letter then
      (readDigits (takeSign cs).2).map fun n => if (takeSign cs).1 then -(n : ℤ) else n
    else none
  | [] => none

/-- The whole and fractional digits of a mantissa, at least one in all. -/
def splitPoint (cs : List Char) : Option (List Char × List Char) :=
  match cs.splitOn '.' with
  | [whole] => if whole = [] then none else some (whole,[])
  | [whole,frac] => if whole ++ frac = [] then none else some (whole,frac)
  | _ => none

def readDecimal (cs : List Char) : Option ℚ :=
  let parts := cs.span fun c => c.isDigit || c == '.'
  (splitPoint parts.1).bind fun m =>
    (if parts.2 = [] then some 0 else readExponent 'e' parts.2).map fun (e : ℤ) =>
      (Nat.ofDigitChars 10 (m.1 ++ m.2) 0 : ℚ) * 10 ^ (e - m.2.length)

/-- A hexadecimal mantissa always has a binary exponent. -/
def readHex (cs : List Char) : Option ℚ :=
  let parts := cs.span fun c => (hexValue c).isSome || c == '.'
  (splitPoint parts.1).bind fun m => (readExponent 'p' parts.2).map fun (e : ℤ) =>
    (((m.1 ++ m.2).foldl (fun v c => 16 * v + (hexValue c).getD 0) 0 : ℕ) : ℚ) * 2 ^ (e - 4 * m.2.length)

def special (cs : List Char) : Option Number :=
  if cs.map Char.toLower = ['n','a','n'] then some .nan
  else
    let t := takeSign cs
    if t.2.map Char.toLower = ['i','n','f'] ∨
        t.2.map Char.toLower = ['i','n','f','i','n','i','t','y'] then some (.inf t.1)
    else none

/-- `strconv.ParseFloat`; `none` is its syntax error. -/
def parseFloat (s : String) : Option Number :=
  match special s.toList with
  | some n => some n
  | none =>
    (stripUnderscores s.toList).bind fun cs =>
      let t := takeSign cs
      (if isHexPrefix t.2 then readHex (t.2.drop 2) else readDecimal t.2).map fun q =>
        .finite (if t.1 then -q else q)

lemma parseFloat_empty : parseFloat "" = none := by decide

lemma ne_empty_of_parseFloat {s : String} {n : Number} (h : parseFloat s = some n) : s ≠ "" := by
  rintro rfl
  rw [parseFloat_empty] at h
  cases h

lemma fracText_length {k : ℕ} (hk : 0 < k) (n : ℕ) : (fracText k n).length = k := by
  have hl : (Nat.toDigits 10 (n % 10 ^ k)).length ≤ k :=
    (Nat.length_toDigits_le_iff (by decide) hk).mpr (Nat.mod_lt _ (by positivity))
  rw [fracText,List.leftpad,List.length_append,List.length_replicate]
  omega

lemma fracText_isDigit (k n : ℕ) : ∀ c ∈ fracText k n, c.isDigit = true := by
  intro c hc
  rw [fracText,List.leftpad,List.mem_append] at hc
  rcases hc with hc | hc
  · rw [List.eq_of_mem_replicate hc]; rfl
  · exact toDigits_isDigit _ c hc

lemma ofDigitChars_fixed {k : ℕ} (hk : 0 < k) (n : ℕ) :
    Nat.ofDigitChars 10 (Nat.toDigits 10 (n / 10 ^ k) ++ fracText k n) 0 = n := by
  rw [Nat.ofDigitChars_append,Nat.ofDigitChars_ten_toDigits,Nat.ofDigitChars_eq_ofDigitChars_zero,
    fracText_length hk,fracText,List.leftpad,Nat.ofDigitChars_append,
    Nat.ofDigitChars_replicate_zero,Nat.mul_zero,Nat.ofDigitChars_ten_toDigits]
  exact Nat.div_add_mod n (10 ^ k)

lemma not_mem_of_digits {d : Char} {cs : List Char} (hd : d.isDigit = false)
    (h : ∀ c ∈ cs, c.isDigit = true) : d ∉ cs := by
  intro hm
  rw [h d hm] at hd
  contradiction

section
variable {whole frac : List Char} (hw : whole ≠ []) (hwd : ∀ c ∈ whole, c.isDigit = true)
  (hfd : ∀ c ∈ frac, c.isDigit = true)

include hwd hfd in
lemma plain_chars : ∀ c ∈ whole ++ '.' :: frac, c.isDigit = true ∨ c = '.' := by
  intro c hc
  rcases List.mem_append.mp hc with hc | hc
  · exact Or.inl (hwd c hc)
  · rcases List.mem_cons.mp hc with hc | hc
    · exact Or.inr hc
    · exact Or.inl (hfd c hc)

include hw hwd hfd in
lemma readDecimal_plain : readDecimal (whole ++ '.' :: frac) =
      some ((Nat.ofDigitChars 10 (whole ++ frac) 0 : ℚ) * 10 ^ (0 - (frac.length : ℤ))) := by
  have hp : ∀ c ∈ whole ++ '.' :: frac, (c.isDigit || c == '.') = true := by
    intro c hc
    simpa using plain_chars hwd hfd c hc
  have hs : splitPoint (whole ++ '.' :: frac) = some (whole,frac) := by
    rw [splitPoint,List.splitOn_append_cons_self_of_not_mem (not_mem_of_digits (by decide) hwd),
      List.splitOn_eq_singleton (not_mem_of_digits (by decide) hfd)]
    simp [hw]
  simp only [readDecimal,List.span_eq_takeWhile_dropWhile,List.takeWhile_eq_self_iff.mpr hp,
    List.dropWhile_eq_nil_iff.mpr hp,hs]
  rfl

include hwd hfd in
lemma stripUnderscores_plain : stripUnderscores (whole ++ '.' :: frac) = some (whole ++ '.' :: frac) := by
  rw [stripUnderscores,if_neg]
  intro hm
  rcases plain_chars hwd hfd _ hm with h | h
  · exact absurd h (by decide)
  · exact absurd h (by decide)

lemma toLower_digit {c : Char} (h : c.isDigit = true) : c.toLower = c := by
  simp only [Char.isDigit,Bool.and_eq_true,decide_eq_true_eq] at h
  refine dif_neg ?_
  rintro ⟨h1,-⟩
  exact absurd (UInt32.le_trans h1 h.2) (by decide)

include hw hwd in
lemma plain_head : ∃ c cs, whole ++ '.' :: frac = c :: cs ∧ c.isDigit = true := by
  obtain ⟨c,cs,rfl⟩ := List.exists_cons_of_ne_nil hw
  exact ⟨c,cs ++ '.' :: frac,rfl,hwd c (by simp)⟩

include hw hwd in
lemma takeSign_plain : takeSign (whole ++ '.' :: frac) = (false,whole ++ '.' :: frac) := by
  obtain ⟨c,cs,he,hc⟩ := @plain_head whole frac hw hwd
  rw [he]
  exact takeSign_cons hc rfl rfl cs

include hw hwd in
lemma special_plain : special (whole ++ '.' :: frac) = none := by
  obtain ⟨c,cs,he,hc⟩ := @plain_head whole frac hw hwd
  have hl : ∀ d ds, (whole ++ '.' :: frac).map Char.toLower = d :: ds → d.isDigit = true := by
    intro d ds h
    rw [he,List.map_cons,toLower_digit hc] at h
    rwa [← (List.cons_eq_cons.mp h).1]
  rw [special,if_neg (fun h => absurd (hl _ _ h) (by decide)),takeSign_plain hw hwd]
  rw [if_neg]
  rintro (h | h)
  · exact absurd (hl _ _ h) (by decide)
  · exact absurd (hl _ _ h) (by decide)

include hwd hfd in
lemma isHexPrefix_plain : isHexPrefix (whole ++ '.' :: frac) = false := by
  have hx := plain_chars hwd hfd
  generalize whole ++ '.' :: frac = cs at hx
  unfold isHexPrefix
  split
  · exact absurd (hx 'x' (by simp)) (by decide)
  · exact absurd (hx 'X' (by simp)) (by decide)
  · rfl

lemma parseFloat_plain (hw : whole ≠ []) (hwd : ∀ c ∈ whole, c.isDigit = true)
    (hfd : ∀ c ∈ frac, c.isDigit = true) : parseFloat (String.ofList (whole ++ '.' :: frac)) =
      some (.finite ((Nat.ofDigitChars 10 (whole ++ frac) 0 : ℚ) / 10 ^ frac.length)) := by
  rw [parseFloat,String.toList_ofList,special_plain hw hwd]
  simp only [stripUnderscores_plain hwd hfd,Option.bind_some,takeSign_plain hw hwd,
    isHexPrefix_plain hwd hfd,readDecimal_plain hw hwd hfd]
  simp [zpow_neg,div_eq_mul_inv]

end

variable {k : ℕ} {q : ℚ}

/-- What `%.kf` writes for an amount is read back as the amount rounded to `k` decimals. -/
theorem parseFloat_formatFixed (m : Rounding) (hk : 0 < k) (hq : 0 ≤ q) :
    parseFloat (formatFixed m k q) = some (.finite (m.roundTo k q)) := by
  have hn : 0 ≤ m.nearest (q * 10 ^ k) := m.le_nearest (by simpa using by positivity)
  have ht : formatFixed m k q = String.ofList
      (Nat.toDigits 10 ((m.nearest (q * 10 ^ k)).natAbs / 10 ^ k) ++
        '.' :: fracText k (m.nearest (q * 10 ^ k)).natAbs) := by
    simp [formatFixed,fixedText,fracText,hq.not_gt,hk.ne']
  rw [ht,parseFloat_plain Nat.toDigits_ne_nil (toDigits_isDigit _) (fracText_isDigit _ _),
    ofDigitChars_fixed hk,fracText_length hk,Rounding.roundTo]
  have hc : ((m.nearest (q * 10 ^ k)).natAbs : ℚ) = m.nearest (q * 10 ^ k) := by
    rw [← Int.cast_natCast,Int.natAbs_of_nonneg hn]
  rw [hc]

lemma den_dvd_decimalPlaces (h : q.den ∣ 10 ^ k) : q.den ∣ 10 ^ decimalPlaces q := by
  obtain ⟨a,m,hm,hd⟩ := Nat.exists_eq_pow_mul_and_not_dvd q.den_nz 2 (by decide)
  have hm0 : m ≠ 0 := by
    rintro rfl
    exact hm (dvd_zero 2)
  obtain ⟨b,r,hr,hmr⟩ := Nat.exists_eq_pow_mul_and_not_dvd hm0 5 (by decide)
  have hrest : r = 1 := by
    have hten : r.Coprime (2 * 5) := by
      refine Nat.Coprime.mul_right ?_ ?_
      · refine ((Nat.Prime.coprime_iff_not_dvd Nat.prime_two).mpr fun h2 => hm ?_).symm
        exact hmr ▸ h2.mul_left _
      · exact ((Nat.Prime.coprime_iff_not_dvd Nat.prime_five).mpr hr).symm
    have hdvd : r ∣ 10 ^ k := by
      refine Dvd.dvd.trans ?_ h
      rw [hd,hmr]
      exact (dvd_mul_left r _).mul_left _
    exact (hten.pow_right k).eq_one_of_dvd hdvd
  have hfact : Fact (Nat.Prime 2) := ⟨Nat.prime_two⟩
  have hfact' : Fact (Nat.Prime 5) := ⟨Nat.prime_five⟩
  have ha : a ≤ padicValNat 2 q.den := by
    rw [← padicValNat_dvd_iff_le q.den_nz]
    exact ⟨m,hd⟩
  have hb : b ≤ padicValNat 5 q.den := by
    rw [← padicValNat_dvd_iff_le q.den_nz]
    exact ⟨2 ^ a * r,by rw [hd,hmr]; ring⟩
  rw [hd,hmr,hrest,mul_one,show (10 : ℕ) = 2 * 5 from rfl,mul_pow]
  exact mul_dvd_mul (pow_dvd_pow 2 (ha.trans (le_max_left _ _))) (pow_dvd_pow 5 (hb.trans (le_max_right _ _)))

/-- An amount with finitely many decimals is written with all of them. -/
theorem parseFloat_formatExact (hq : 0 < q) (hlt : q < 1) (h : q.den ∣ 10 ^ k) :
    parseFloat (formatExact q) = some (.finite q) := by
  have hdvd := den_dvd_decimalPlaces h
  have hplaces : 0 < decimalPlaces q := by
    rw [Nat.pos_iff_ne_zero]
    intro hzero
    rw [hzero,pow_zero,Nat.dvd_one] at hdvd
    have hnum : (q.num : ℚ) = q := (Rat.den_eq_one_iff q).mp hdvd
    rw [← hnum] at hq hlt
    have h0 : 0 < q.num := by exact_mod_cast hq
    have h1 : q.num < 1 := by exact_mod_cast hlt
    omega
  obtain ⟨c,hc⟩ := hdvd
  have hexact : q = ((q.num * c : ℤ) : ℚ) / 10 ^ decimalPlaces q := by
    have hden : (q.den : ℚ) ≠ 0 := by exact_mod_cast q.den_nz
    have hten : (10 : ℚ) ^ decimalPlaces q = q.den * c := by exact_mod_cast hc
    have hc0 : (c : ℚ) ≠ 0 := by
      rintro hzero
      rw [hzero,mul_zero] at hten
      exact absurd hten (by positivity)
    rw [hten,Int.cast_mul,Int.cast_natCast,mul_div_mul_right _ _ hc0]
    exact (Rat.num_div_den q).symm
  rw [formatExact,parseFloat_formatFixed _ hplaces hq.le]
  have hround := Rounding.roundTo_exact .halfEven (decimalPlaces q) (q.num * c)
  rw [← hexact] at hround
  rw [hround]

example : parseFloat (formatFixed .halfEven 4 (1/3)) = some (.finite (3333/10000)) := by
  decide +kernel

end Diverge.Text
