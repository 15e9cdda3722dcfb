import Diverge.Text.Decimal
import Diverge.Text.Strings

/-! Amounts in texts: the sum and the format of floating-point numbers, and which characters a text
has that is read as a number. -/
namespace Diverge.Text

def Number.add : Number → Number → Number
  | .finite x,.finite y => .finite (x + y)
  | .finite _,.inf negative => .inf negative
  | .inf negative,.finite _ => .inf negative
  | .inf negative,.inf negative' => if negative = negative' then .inf negative else .nan
  | _,_ => .nan

/-- `fmt.Sprintf("%.kf", x)`. -/
def formatNumber (m : Rounding) (k : ℕ) : Number → String
  | .finite q => formatFixed m k q
  | .inf true => "-Inf"
  | .inf false => "+Inf"
  | .nan => "NaN"

lemma parseFloat_formatNumber (m : Rounding) (k : ℕ) {n : Number} (hn : ∀ q, n ≠ .finite q) :
    parseFloat (formatNumber m k n) = some n := by
  cases n with
  | finite q => exact absurd rfl (hn q)
  | inf negative =>
    cases negative with
    | true => exact (by decide : parseFloat "-Inf" = some (.inf true))
    | false => exact (by decide : parseFloat "+Inf" = some (.inf false))
  | nan => exact (by decide : parseFloat "NaN" = some .nan)

lemma roundTo_nonpos (m : Rounding) (k : ℕ) {q : ℚ} (h : q ≤ 0) : m.roundTo k q ≤ 0 := by
  have hp : (0 : ℚ) < 10 ^ k := by positivity
  have hn : m.nearest (q * 10 ^ k) ≤ 0 := by
    refine m.nearest_le ?_
    rw [Int.cast_zero]
    exact mul_nonpos_of_nonpos_of_nonneg h hp.le
  rw [Rounding.roundTo]
  refine div_nonpos_of_nonpos_of_nonneg ?_ hp.le
  exact_mod_cast hn

lemma parseFloat_minus {whole frac : List Char} (hw : whole ≠ []) (hwd : ∀ c ∈ whole, c.isDigit = true)
    (hfd : ∀ c ∈ frac, c.isDigit = true) : parseFloat (String.ofList ('-' :: (whole ++ '.' :: frac))) =
      some (.finite (-((Nat.ofDigitChars 10 (whole ++ frac) 0 : ℚ) / 10 ^ frac.length))) := by
  have hspecial : special ('-' :: (whole ++ '.' :: frac)) = none := by
    obtain ⟨c,cs,he,hc⟩ := @plain_head whole frac hw hwd
    have hne : ∀ ds, ('i' :: ds) ≠ (whole ++ '.' :: frac).map Char.toLower := by
      intro ds h
      rw [he,List.map_cons,toLower_digit hc] at h
      rw [← (List.cons_eq_cons.mp h).1] at hc
      exact absurd hc (by decide)
    rw [special,if_neg (by intro h; exact absurd (List.cons_eq_cons.mp h).1 (by decide)),if_neg]
    rintro (h | h)
    · exact hne _ h.symm
    · exact hne _ h.symm
  have hstrip : stripUnderscores ('-' :: (whole ++ '.' :: frac)) = some ('-' :: (whole ++ '.' :: frac)) := by
    rw [stripUnderscores,if_neg]
    intro hm
    rcases List.mem_cons.mp hm with h | hm
    · exact absurd h (by decide)
    · rcases plain_chars hwd hfd _ hm with h | h
      · exact absurd h (by decide)
      · exact absurd h (by decide)
  rw [parseFloat,String.toList_ofList,hspecial]
  simp only [hstrip,Option.bind_some]
  change Option.map _ (if isHexPrefix (whole ++ '.' :: frac) then _ else readDecimal (whole ++ '.' :: frac)) = _
  rw [isHexPrefix_plain hwd hfd,if_neg (by decide),readDecimal_plain hw hwd hfd]
  simp [takeSign,zpow_neg,div_eq_mul_inv]

lemma parseFloat_formatFixed_neg (m : Rounding) {k : ℕ} (hk : 0 < k) {q : ℚ} (hq : q < 0) :
    ∃ r ≤ 0, parseFloat (formatFixed m k q) = some (.finite r) := by
  have ht : formatFixed m k q = String.ofList
      ('-' :: (Nat.toDigits 10 ((m.nearest (q * 10 ^ k)).natAbs / 10 ^ k) ++
        '.' :: fracText k (m.nearest (q * 10 ^ k)).natAbs)) := by
    simp [formatFixed,fixedText,fracText,hq,hk.ne']
  rw [ht,parseFloat_minus Nat.toDigits_ne_nil (toDigits_isDigit _) (fracText_isDigit _ _)]
  exact ⟨_,neg_nonpos.mpr (by positivity),rfl⟩

theorem parseFloat_formatFixed_round (m : Rounding) {k : ℕ} (hk : 0 < k) (q : ℚ) :
    parseFloat (formatFixed m k q) = some (.finite (m.roundTo k q)) := by
  by_cases hq : 0 ≤ q
  · exact parseFloat_formatFixed m hk hq
  · have hneg : q < 0 := not_le.mp hq
    have ht : formatFixed m k q = String.ofList
        ('-' :: (Nat.toDigits 10 ((m.nearest (q * 10 ^ k)).natAbs / 10 ^ k) ++
          '.' :: fracText k (m.nearest (q * 10 ^ k)).natAbs)) := by
      simp [formatFixed,fixedText,fracText,hneg,hk.ne']
    have hnearest : m.nearest (q * 10 ^ k) ≤ 0 := by
      refine m.nearest_le ?_
      rw [Int.cast_zero]
      exact mul_nonpos_of_nonpos_of_nonneg hneg.le (by positivity)
    have habs : ((m.nearest (q * 10 ^ k)).natAbs : ℚ) = -m.nearest (q * 10 ^ k) := by
      rw [← Int.cast_natCast,Int.ofNat_natAbs_of_nonpos hnearest,Int.cast_neg]
    rw [ht,parseFloat_minus Nat.toDigits_ne_nil (toDigits_isDigit _) (fracText_isDigit _ _),ofDigitChars_fixed hk,
      fracText_length hk,habs,Rounding.roundTo,neg_div,neg_neg]

section

def isNumberChar (c : Char) : Bool := c.isAlphanum || c == '.' || c == '_' || c == '+' || c == '-'

variable {c : Char} {p : Char → Bool} {cs : List Char} {n : Number} {q : ℚ}

lemma numberChar_lt (h : isNumberChar c = true) : c.toNat < 128 := by
  by_contra hge
  have hle : ∀ a : Char, a.toNat < 128 → ¬c ≤ a := fun a ha hc =>
    hge (Nat.lt_of_le_of_lt (Char.le_def.mp hc) ha)
  have hnot : ∀ a : Char, a.toNat < 128 → c ≠ a := fun a ha hc => hge (hc ▸ ha)
  change ((c.isUpper || c.isLower || c.isDigit) || c == '.' || c == '_' || c == '+' || c == '-') = true at h
  simp only [Bool.or_eq_true,beq_iff_eq] at h
  rcases h with (((((h | h) | h) | h) | h) | h) | h
  · exact hle 'Z' (by decide) (of_decide_eq_true h).2
  · exact hle 'z' (by decide) (of_decide_eq_true (Bool.and_eq_true_iff.mp h).2)
  · exact hle '9' (by decide) (of_decide_eq_true (Bool.and_eq_true_iff.mp h).2)
  · exact hnot _ (by decide) h
  · exact hnot _ (by decide) h
  · exact hnot _ (by decide) h
  · exact hnot _ (by decide) h

lemma numberChar_of_digit (h : c.isDigit = true) : isNumberChar c = true := by
  change ((c.isAlpha || c.isDigit) || c == '.' || c == '_' || c == '+' || c == '-') = true
  simp [h]

lemma numberChar_of_ascii (hall : ∀ n < 128, p (Char.ofNat n) = true →
    isNumberChar (Char.ofNat n) = true) (hascii : c.toNat < 128) (h : p c = true) :
    isNumberChar c = true := by
  have hc := hall c.toNat hascii
  rw [Char.ofNat_toNat] at hc
  exact hc h

lemma numberChar_of_toLower (h : c.toLower.isLower = true) : isNumberChar c = true := by
  by_cases hascii : c.toNat < 128
  · exact numberChar_of_ascii (p := fun c => c.toLower.isLower) (by decide) hascii h
  · have hsame : c.toLower = c := by
      refine dif_neg ?_
      rintro ⟨-,hle⟩
      exact hascii (Nat.lt_of_le_of_lt hle (by decide))
    rw [hsame] at h
    exact absurd (Nat.lt_of_le_of_lt (of_decide_eq_true (Bool.and_eq_true_iff.mp h).2) (by decide)) hascii

lemma all_of_takeSign (h : (takeSign cs).2.all isNumberChar = true) : cs.all isNumberChar = true := by
  unfold takeSign at h
  split at h
  · exact Bool.and_eq_true_iff.mpr ⟨by decide,h⟩
  · exact Bool.and_eq_true_iff.mpr ⟨by decide,h⟩
  · exact h

lemma all_of_readDigits {n : ℕ} (h : readDigits cs = some n) : cs.all isNumberChar = true := by
  unfold readDigits at h
  split_ifs at h with hd
  exact List.all_eq_true.mpr fun c hc => numberChar_of_digit (List.all_eq_true.mp hd.2 c hc)

lemma all_of_lowered {cs word : List Char} (hword : word.all Char.isLower = true)
    (h : cs.map Char.toLower = word) : cs.all isNumberChar = true := by
  refine List.all_eq_true.mpr fun c hc => numberChar_of_toLower ?_
  exact List.all_eq_true.mp hword _ (h ▸ List.mem_map_of_mem hc)

lemma all_of_special (h : special cs = some n) : cs.all isNumberChar = true := by
  unfold special at h
  split_ifs at h with hnan
  · exact all_of_lowered (by decide) hnan
  · dsimp only at h
    split_ifs at h with hinf
    rcases hinf with hinf | hinf
    · exact all_of_takeSign (all_of_lowered (by decide) hinf)
    · exact all_of_takeSign (all_of_lowered (by decide) hinf)

lemma all_of_readExponent {letter : Char} {e : ℤ} (hletter : letter.isLower = true)
    (h : readExponent letter cs = some e) : cs.all isNumberChar = true := by
  cases cs with
  | nil => cases h
  | cons c cs =>
    have hc : c.toLower = letter := by
      by_contra hc
      rw [readExponent,if_neg hc] at h
      cases h
    rw [readExponent,if_pos hc] at h
    cases hread : readDigits (takeSign cs).2 with
    | none =>
      rw [hread] at h
      cases h
    | some n =>
      exact Bool.and_eq_true_iff.mpr
        ⟨numberChar_of_toLower (hc ▸ hletter),all_of_takeSign (all_of_readDigits hread)⟩

lemma all_of_span (hp : ∀ c, p c = true → isNumberChar c = true)
    (h : (cs.span p).2.all isNumberChar = true) : cs.all isNumberChar = true := by
  rw [List.span_eq_takeWhile_dropWhile] at h
  rw [← List.takeWhile_append_dropWhile (p := p) (l := cs),List.all_append,Bool.and_eq_true]
  exact ⟨List.all_eq_true.mpr fun c hc => hp c (List.mem_takeWhile_imp hc),h⟩

lemma all_of_readDecimal (h : readDecimal cs = some q) : cs.all isNumberChar = true := by
  unfold readDecimal at h
  obtain ⟨parts,-,h⟩ := Option.bind_eq_some_iff.mp h
  obtain ⟨e,he,-⟩ := Option.map_eq_some_iff.mp h
  refine all_of_span (p := fun c => c.isDigit || c == '.') ?_ ?_
  · intro c hc
    rcases Bool.or_eq_true_iff.mp hc with hc | hc
    · exact numberChar_of_digit hc
    · simp [isNumberChar,hc]
  · split_ifs at he with hnil
    · rw [hnil]
      rfl
    · exact all_of_readExponent (by decide) he

lemma numberChar_of_hexValue (h : (hexValue c).isSome = true) : isNumberChar c = true := by
  refine numberChar_of_ascii (p := fun c => (hexValue c).isSome) (by decide) ?_ h
  have hlow : ∀ a : Char, a.toNat < 128 → c ≤ a → c.toNat < 128 := fun a ha hc =>
    Nat.lt_of_le_of_lt (Char.le_def.mp hc) ha
  unfold hexValue at h
  split_ifs at h with hd hl hu
  · exact hlow '9' (by decide) (of_decide_eq_true (Bool.and_eq_true_iff.mp hd).2)
  · exact hlow 'f' (by decide) hl.2
  · exact hlow 'F' (by decide) hu.2
  · cases h

lemma all_of_readHex (h : readHex cs = some q) : cs.all isNumberChar = true := by
  unfold readHex at h
  obtain ⟨parts,-,h⟩ := Option.bind_eq_some_iff.mp h
  obtain ⟨e,he,-⟩ := Option.map_eq_some_iff.mp h
  refine all_of_span (p := fun c => (hexValue c).isSome || c == '.') ?_ (all_of_readExponent (by decide) he)
  intro c hc
  rcases Bool.or_eq_true_iff.mp hc with hc | hc
  · exact numberChar_of_hexValue hc
  · simp [isNumberChar,hc]

lemma all_of_strip {cs ds : List Char} (h : stripUnderscores cs = some ds) (hds : ds.all isNumberChar = true) :
    cs.all isNumberChar = true := by
  unfold stripUnderscores at h
  split_ifs at h with hmem hok
  · cases h
    refine List.all_eq_true.mpr fun c hc => ?_
    by_cases hu : c = '_'
    · rw [hu]
      decide
    · exact List.all_eq_true.mp hds c (List.mem_filter.mpr ⟨hc,by simpa using hu⟩)
  · cases h
    exact hds

lemma all_of_hexPrefix (h : isHexPrefix cs = true)
    (hrest : (cs.drop 2).all isNumberChar = true) : cs.all isNumberChar = true := by
  unfold isHexPrefix at h
  split at h
  · exact Bool.and_eq_true_iff.mpr ⟨by decide,Bool.and_eq_true_iff.mpr ⟨by decide,hrest⟩⟩
  · exact Bool.and_eq_true_iff.mpr ⟨by decide,Bool.and_eq_true_iff.mpr ⟨by decide,hrest⟩⟩
  · cases h

theorem parseFloat_chars {s : String} (h : parseFloat s = some n) :
    ∀ c ∈ s.toList, isNumberChar c = true := by
  rw [← List.all_eq_true]
  unfold parseFloat at h
  cases hspecial : special s.toList with
  | some x => exact all_of_special hspecial
  | none =>
    rw [hspecial] at h
    obtain ⟨cs,hcs,h⟩ := Option.bind_eq_some_iff.mp h
    refine all_of_strip hcs (all_of_takeSign ?_)
    obtain ⟨q,hq,-⟩ := Option.map_eq_some_iff.mp h
    split_ifs at hq with hhex
    · exact all_of_hexPrefix hhex (all_of_readHex hq)
    · exact all_of_readDecimal hq

end

section

def readUnsigned (cs : List Char) : Option ℚ :=
  if isHexPrefix cs then readHex (cs.drop 2) else readDecimal cs

variable {cs : List Char} {q : ℚ} {c : Char}

lemma head_of_readUnsigned (h : readUnsigned cs = some q) :
    ∃ c rest, cs = c :: rest ∧ (c.isDigit || c == '.') = true := by
  unfold readUnsigned at h
  split_ifs at h with hhex
  · unfold isHexPrefix at hhex
    split at hhex
    · exact ⟨'0',_,rfl,by decide⟩
    · exact ⟨'0',_,rfl,by decide⟩
    · cases hhex
  · unfold readDecimal at h
    obtain ⟨parts,hparts,-⟩ := Option.bind_eq_some_iff.mp h
    rw [List.span_eq_takeWhile_dropWhile] at hparts
    cases cs with
    | nil => cases hparts
    | cons c rest =>
      refine ⟨c,rest,rfl,?_⟩
      by_contra hc
      rw [List.takeWhile_cons_of_neg (p := fun c => c.isDigit || c == '.') hc] at hparts
      cases hparts

lemma takeSign_of_head (hc : (c.isDigit || c == '.') = true) (rest : List Char) :
    takeSign (c :: rest) = (false,c :: rest) :=
  takeSign_cons (P := fun c => c.isDigit || c == '.') hc rfl rfl rest

lemma special_of_head (hc : (c.isDigit || c == '.') = true) (rest : List Char) :
    special (c :: rest) = none := by
  have hlower : c.toLower = c := by
    rcases Bool.or_eq_true_iff.mp hc with hd | hp
    · exact toLower_digit hd
    · rw [beq_iff_eq.mp hp]
      decide
  have hne : ∀ a word, (a.isDigit || a == '.') = false → (c :: rest).map Char.toLower ≠ a :: word := by
    intro a word ha h
    rw [List.map_cons,hlower] at h
    rw [(List.cons_eq_cons.mp h).1,ha] at hc
    cases hc
  rw [special,if_neg (hne 'n' _ (by decide)),takeSign_of_head hc,if_neg]
  rintro (h | h)
  · exact hne 'i' _ (by decide) h
  · exact hne 'i' _ (by decide) h

lemma parseFloat_unsigned {cs ds : List Char} (hstrip : stripUnderscores cs = some ds)
    (hspecial : special cs = none) (h : readUnsigned ds = some q) :
    parseFloat (String.ofList cs) = some (.finite q) := by
  obtain ⟨c,rest,rfl,hc⟩ := head_of_readUnsigned h
  rw [parseFloat,String.toList_ofList,hspecial]
  simp only [hstrip,Option.bind_some,takeSign_of_head hc]
  change Option.map _ (readUnsigned (c :: rest)) = _
  rw [h]
  rfl

lemma takeSign_of_lower (hc : c.toLower.isLower = true) (rest : List Char) :
    takeSign (c :: rest) = (false,c :: rest) :=
  takeSign_cons (P := fun c => c.toLower.isLower) hc rfl rfl rest

lemma special_plus (cs : List Char) : special ('+' :: cs) =
    if cs.map Char.toLower = ['i','n','f'] ∨ cs.map Char.toLower = ['i','n','f','i','n','i','t','y'] then
      some (.inf false) else none := by
  rw [special,if_neg]
  · rfl
  · intro h
    exact absurd (List.cons_eq_cons.mp h).1 (by decide)

lemma special_of_infinity (h : cs.map Char.toLower = ['i','n','f'] ∨
    cs.map Char.toLower = ['i','n','f','i','n','i','t','y']) : special cs = some (.inf false) ∧ cs.head? ≠ some '+' := by
  have hhead : ∃ c rest, cs = c :: rest ∧ c.toLower = 'i' := by
    cases cs with
    | nil => rcases h with h | h <;> cases h
    | cons c rest =>
      rcases h with h | h
      · exact ⟨c,rest,rfl,(List.cons_eq_cons.mp h).1⟩
      · exact ⟨c,rest,rfl,(List.cons_eq_cons.mp h).1⟩
  obtain ⟨c,rest,rfl,hc⟩ := hhead
  constructor
  · rw [special,if_neg,takeSign_of_lower (by rw [hc]; decide),if_pos h]
    intro hnan
    rw [List.map_cons,hc] at hnan
    exact absurd (List.cons_eq_cons.mp hnan).1 (by decide)
  · rintro ⟨⟩
    exact absurd hc (by decide)

lemma strip_plus {cs ds : List Char} (h : stripUnderscores ('+' :: cs) = some ds) :
    ∃ es, ds = '+' :: es ∧ ∀ c rest, es = c :: rest → (c.isDigit || c == '.') = true →
      stripUnderscores cs = some es ∧ cs.head? = some c := by
  have hmem : '_' ∈ '+' :: cs ↔ '_' ∈ cs := by simp
  unfold stripUnderscores at h
  split_ifs at h with hunder hok
  · cases h
    refine ⟨cs.filter (· != '_'),rfl,fun c rest hrest hc => ?_⟩
    cases cs with
    | nil => cases hrest
    | cons d cs =>
      have hd : d ≠ '_' := by
        rintro rfl
        exact absurd hok (by simp [underscoreOK,takeSign,isHexPrefix,underscoresFrom])
      have hdc : d = c := by
        rw [List.filter_cons_of_pos (by simpa using hd)] at hrest
        exact (List.cons_eq_cons.mp hrest).1
      subst hdc
      refine ⟨?_,rfl⟩
      have hok' : underscoreOK (d :: cs) = true := by
        rw [underscoreOK,takeSign_of_head hc]
        exact hok
      rw [stripUnderscores,if_pos (hmem.mp hunder),if_pos hok']
  · cases h
    refine ⟨cs,rfl,fun c rest hrest hc => ⟨?_,by rw [hrest]; rfl⟩⟩
    rw [stripUnderscores,if_neg (fun hin => hunder (hmem.mpr hin))]

theorem parseFloat_plus {n : Number} (h : parseFloat (String.ofList ('+' :: cs)) = some n) :
    parseFloat (String.ofList cs) = some n ∧ cs.head? ≠ some '+' := by
  rw [parseFloat,String.toList_ofList,special_plus] at h
  by_cases hinf : cs.map Char.toLower = ['i','n','f'] ∨ cs.map Char.toLower = ['i','n','f','i','n','i','t','y']
  · rw [if_pos hinf] at h
    obtain ⟨hspecial,hhead⟩ := special_of_infinity hinf
    refine ⟨?_,hhead⟩
    rw [parseFloat,String.toList_ofList,hspecial]
    exact h
  · rw [if_neg hinf] at h
    obtain ⟨ds,hds,h⟩ := Option.bind_eq_some_iff.mp h
    obtain ⟨es,rfl,hstrip⟩ := strip_plus hds
    obtain ⟨q,hq,rfl⟩ := Option.map_eq_some_iff.mp h
    have hread : readUnsigned es = some q := hq
    obtain ⟨c,rest,hes,hc⟩ := head_of_readUnsigned hread
    obtain ⟨hcs,hhead⟩ := hstrip c rest hes hc
    have hspecial : special cs = none := by
      obtain ⟨tail,rfl⟩ := List.head?_eq_some_iff.mp hhead
      exact special_of_head hc tail
    refine ⟨parseFloat_unsigned hcs hspecial hread,?_⟩
    rw [hhead]
    rintro ⟨⟩
    exact absurd hc (by decide)

end

lemma den_mul_zpow_dvd (m : ℕ) (e : ℤ) {b : ℕ} (hb : b ∣ 10) : ∃ k, ((m : ℚ) * (b : ℚ) ^ e).den ∣ 10 ^ k := by
  rcases Int.eq_nat_or_neg e with ⟨n,rfl | rfl⟩
  · refine ⟨0,?_⟩
    rw [zpow_natCast]
    have hcast : ((m : ℚ) * (b : ℚ) ^ n) = ((m * b ^ n : ℕ) : ℚ) := by push_cast; rfl
    rw [hcast,Rat.den_natCast]
    simp
  · refine ⟨n,?_⟩
    have hcast : ((m : ℚ) * (b : ℚ) ^ (-(n : ℤ))) = ((m : ℤ) : ℚ) / ((b ^ n : ℕ) : ℤ) := by
      rw [zpow_neg,zpow_natCast,div_eq_mul_inv]
      push_cast
      rfl
    rw [hcast,← Rat.divInt_eq_div]
    have hdvd := Rat.den_dvd (m : ℤ) ((b ^ n : ℕ) : ℤ)
    have h := Int.natCast_dvd_natCast.mp hdvd
    exact h.trans (pow_dvd_pow_of_dvd hb n)

theorem parseFloat_den {s : String} {q : ℚ} (h : parseFloat s = some (.finite q)) :
    ∃ k, q.den ∣ 10 ^ k := by
  unfold parseFloat at h
  cases hspecial : special s.toList with
  | some n =>
    rw [hspecial] at h
    cases h
    unfold special at hspecial
    dsimp only at hspecial
    split_ifs at hspecial
    · cases hspecial
    · cases hspecial
  | none =>
    rw [hspecial] at h
    obtain ⟨cs,-,h⟩ := Option.bind_eq_some_iff.mp h
    obtain ⟨v,hv,hq⟩ := Option.map_eq_some_iff.mp h
    have hden : q.den = v.den := by
      have hq := Number.finite.inj hq
      split_ifs at hq
      · rw [← hq,Rat.den_neg_eq_den]
      · rw [hq]
    rw [hden]
    split_ifs at hv with hhex
    · obtain ⟨m,-,hm⟩ := Option.bind_eq_some_iff.mp hv
      obtain ⟨e,-,rfl⟩ := Option.map_eq_some_iff.mp hm
      exact den_mul_zpow_dvd _ _ (b := 2) (by decide)
    · obtain ⟨m,-,hm⟩ := Option.bind_eq_some_iff.mp hv
      obtain ⟨e,-,rfl⟩ := Option.map_eq_some_iff.mp hm
      exact den_mul_zpow_dvd _ _ (b := 10) dvd_rfl

end Diverge.Text
