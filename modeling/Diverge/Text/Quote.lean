import Diverge.Text.Hex

/-! Go's quoted strings: `strconv.Quote`. Which characters are printable is a parameter. -/
namespace Diverge.Text

/-- The lowest digits of a number, as many as asked for. -/
def hexDigits : ℕ → ℕ → List Char
  | 0,_ => []
  | k+1,n => hexDigits k (n / 16) ++ [Nat.digitChar (n % 16)]

@[simp] lemma hexDigits_length (k n : ℕ) : (hexDigits k n).length = k := by
  induction k generalizing n with
  | zero => rfl
  | succ k ih => rw [hexDigits,List.length_append,ih,List.length_singleton]

lemma hexDigits_inj {k m n : ℕ} (hm : m < 16 ^ k) (hn : n < 16 ^ k) (h : hexDigits k m = hexDigits k n) :
    m = n := by
  induction k generalizing m n with
  | zero => omega
  | succ k ih =>
    rw [Nat.pow_succ] at hm hn
    obtain ⟨hinit,hlast⟩ := List.append_inj h (by simp)
    have hdiv := ih (Nat.div_lt_of_lt_mul (by omega)) (Nat.div_lt_of_lt_mul (by omega)) hinit
    have hmod := digitChar_hex_injective _ (Nat.mod_lt m (by decide)) _ (Nat.mod_lt n (by decide))
      (List.singleton_inj.mp hlast)
    omega

def shortEscapes : List (ℕ × Char) :=
  [(34,'"'),(92,'\\'),(7,'a'),(8,'b'),(12,'f'),(10,'n'),(13,'r'),(9,'t'),(11,'v')]

/-- What follows the backslash of an escape: a letter, and digits. -/
def escape (c : Char) : Char × List Char :=
  match shortEscapes.lookup c.toNat with
  | some letter => (letter,[])
  | none =>
    if c.toNat < 0x20 ∨ c.toNat = 0x7f then ('x',hexDigits 2 c.toNat)
    else if c.toNat < 0x10000 then ('u',hexDigits 4 c.toNat)
    else ('U',hexDigits 8 c.toNat)

/-- `appendEscapedRune` for a double quote. -/
def escapeChar (isPrint : Char → Bool) (c : Char) : List Char :=
  if c ≠ '"' ∧ c ≠ '\\' ∧ isPrint c = true then [c] else '\\' :: (escape c).1 :: (escape c).2

/-- `strconv.Quote`. -/
def quote (isPrint : Char → Bool) (s : String) : String :=
  String.ofList ('"' :: (s.toList.flatMap (escapeChar isPrint) ++ ['"']))

def escapeWidths : List (Char × ℕ) := [('x',2),('u',4),('U',8)]

lemma escape_cases (c : Char) : ((c.toNat,(escape c).1) ∈ shortEscapes ∧ (escape c).2 = []) ∨
    ∃ w ∈ escapeWidths, (escape c).1 = w.1 ∧ (escape c).2 = hexDigits w.2 c.toNat ∧ c.toNat < 16 ^ w.2 := by
  unfold escape
  cases hl : shortEscapes.lookup c.toNat with
  | some letter =>
    obtain ⟨before,after,hmem,-⟩ := List.lookup_eq_some_iff.mp hl
    exact .inl ⟨by rw [hmem]; simp,rfl⟩
  | none =>
    refine .inr ?_
    have hc : c.toNat < 16 ^ 8 := c.val.toNat_lt
    dsimp only
    split_ifs with hlow hmid
    · exact ⟨('x',2),by decide,rfl,rfl,by change c.toNat < 256; omega⟩
    · exact ⟨('u',4),by decide,rfl,rfl,hmid⟩
    · exact ⟨('U',8),by decide,rfl,rfl,hc⟩

variable {c d : Char} {x y : List Char}

lemma escape_append_inj (htag : (escape c).1 = (escape d).1)
    (h : (escape c).2 ++ x = (escape d).2 ++ y) : c = d ∧ x = y := by
  have hnone : ∀ e ∈ shortEscapes, ∀ w ∈ escapeWidths, e.2 ≠ w.1 := by decide
  rcases escape_cases c with ⟨hc,hcs⟩ | ⟨w,hw,hwt,hws,hcw⟩ <;>
    rcases escape_cases d with ⟨hd,hds⟩ | ⟨v,hv,hvt,hvs,hdv⟩
  · have hone : ∀ e ∈ shortEscapes, ∀ f ∈ shortEscapes, e.2 = f.2 → e.1 = f.1 := by decide
    rw [hcs,hds] at h
    exact ⟨Char.toNat_inj.mp (hone _ hc _ hd htag),h⟩
  · exact absurd (htag.trans hvt) (hnone _ hc v hv)
  · exact absurd (htag.symm.trans hwt) (hnone _ hd w hw)
  · have hsame : ∀ w ∈ escapeWidths, ∀ v ∈ escapeWidths, w.1 = v.1 → w = v := by decide
    obtain rfl := hsame w hw v hv (hwt.symm.trans (htag.trans hvt))
    rw [hws,hvs] at h
    obtain ⟨hdigits,hrest⟩ := List.append_inj h (by simp)
    exact ⟨Char.toNat_inj.mp (hexDigits_inj hcw hdv hdigits),hrest⟩

variable {isPrint : Char → Bool}

lemma escapeChar_append_inj (h : escapeChar isPrint c ++ x = escapeChar isPrint d ++ y) : c = d ∧ x = y := by
  unfold escapeChar at h
  split_ifs at h with hc hd hd
  · exact List.cons.inj h
  · exact absurd (List.cons.inj h).1 hc.2.1
  · exact absurd (List.cons.inj h).1.symm hd.2.1
  · obtain ⟨htag,hrest⟩ := List.cons.inj (List.cons.inj h).2
    exact escape_append_inj htag hrest

lemma escapeChar_ne_quote (c : Char) (x y : List Char) : escapeChar isPrint c ++ x ≠ '"' :: y := by
  intro h
  unfold escapeChar at h
  split_ifs at h with hc
  · exact hc.1 (List.cons.inj h).1
  · exact absurd (List.cons.inj h).1 (by decide)

lemma quoted_append_inj {cs ds x y : List Char}
    (h : cs.flatMap (escapeChar isPrint) ++ '"' :: x = ds.flatMap (escapeChar isPrint) ++ '"' :: y) :
    cs = ds ∧ x = y := by
  induction cs generalizing ds with
  | nil =>
    cases ds with
    | nil => exact ⟨rfl,(List.cons.inj h).2⟩
    | cons d ds =>
      rw [List.flatMap_cons,List.append_assoc] at h
      exact absurd h.symm (escapeChar_ne_quote d _ _)
  | cons c cs ih =>
    cases ds with
    | nil =>
      rw [List.flatMap_cons,List.append_assoc] at h
      exact absurd h (escapeChar_ne_quote c _ _)
    | cons d ds =>
      rw [List.flatMap_cons,List.flatMap_cons,List.append_assoc,List.append_assoc] at h
      obtain ⟨rfl,hrest⟩ := escapeChar_append_inj h
      obtain ⟨rfl,hxy⟩ := ih hrest
      exact ⟨rfl,hxy⟩

theorem quote_injective : Function.Injective (quote isPrint) := by
  intro s t h
  have hlist := (List.cons.inj (String.ofList_inj.mp h)).2
  exact String.toList_inj.mp (quoted_append_inj hlist).1

end Diverge.Text
