import Mathlib.Data.List.Basic

/-! File name patterns with the separator `/`: the grammar of `*`, `?`, character classes and
escapes, read by a one-pass scanner, and the names a pattern matches. A malformed pattern has
no reading, whatever the name is. -/
namespace Diverge.Glob

/-- What a pattern says about a single character. -/
inductive Atom
  | any
  | char (c : Char)
  | cls (negated : Bool) (ranges : List (Char × Char))
  deriving DecidableEq

/-- `*` matches any run of characters without a separator; everything else is one character. -/
inductive Term
  | star
  | one (a : Atom)
  deriving DecidableEq

abbrev Pattern := List Term

def inRanges (ranges : List (Char × Char)) (c : Char) : Bool :=
  ranges.any fun r => decide (r.1 ≤ c) && decide (c ≤ r.2)

/-- A class may match the separator, `?` may not. -/
def Atom.admits : Atom → Char → Bool
  | .any,c => c != '/'
  | .char d,c => c == d
  | .cls negated ranges,c => inRanges ranges c != negated

/-- Between terms, after a backslash, or inside a class with the ranges so far and possibly the lower
end of the next. -/
inductive Scan
  | top
  | escaped
  | opened
  | item (negated : Bool) (ranges : List (Char × Char))
  | itemEscaped (negated : Bool) (ranges : List (Char × Char))
  | low (negated : Bool) (ranges : List (Char × Char)) (lo : Char)
  | high (negated : Bool) (ranges : List (Char × Char)) (lo : Char)
  | highEscaped (negated : Bool) (ranges : List (Char × Char)) (lo : Char)
  deriving DecidableEq

inductive Scanned
  | more (s : Scan)
  | emit (t : Term)
  | bad

/-- The next item of a class, or its end; a class has at least one item, and `-` and `]`
stand in it only after a backslash. -/
def scanItem (negated : Bool) (ranges : List (Char × Char)) (c : Char) : Scanned :=
  if c = ']' then
    if ranges = [] then .bad else .emit (.one (.cls negated ranges))
  else if c = '-' then .bad
  else if c = '\\' then .more (.itemEscaped negated ranges)
  else .more (.low negated ranges c)

def scanChar : Scan → Char → Scanned
  | .top,c =>
    if c = '*' then .emit .star
    else if c = '?' then .emit (.one .any)
    else if c = '\\' then .more .escaped
    else if c = '[' then .more .opened
    else .emit (.one (.char c))
  | .escaped,c => .emit (.one (.char c))
  | .opened,c => if c = '^' then .more (.item true []) else scanItem false [] c
  | .item negated ranges,c => scanItem negated ranges c
  | .itemEscaped negated ranges,c => .more (.low negated ranges c)
  | .low negated ranges lo,c =>
    if c = '-' then .more (.high negated ranges lo) else scanItem negated (ranges ++ [(lo,lo)]) c
  | .high negated ranges lo,c =>
    if c = ']' ∨ c = '-' then .bad
    else if c = '\\' then .more (.highEscaped negated ranges lo)
    else .more (.item negated (ranges ++ [(lo,c)]))
  | .highEscaped negated ranges lo,c => .more (.item negated (ranges ++ [(lo,c)]))

def parseFrom : Scan → List Char → Option Pattern
  | s,[] => if s = .top then some [] else none
  | s,c :: cs =>
    match scanChar s c with
    | .more s' => parseFrom s' cs
    | .emit t => (parseFrom .top cs).map (t :: ·)
    | .bad => none

/-- The terms of a pattern text; `none` is the bad-pattern error. -/
def parse (text : List Char) : Option Pattern := parseFrom .top text

/-- Skip characters other than the separator until the continuation accepts the rest. -/
def starMatch (k : List Char → Bool) : List Char → Bool
  | [] => k []
  | c :: cs => k (c :: cs) || (c != '/' && starMatch k cs)

def matchTerms : Pattern → List Char → Bool
  | [],name => name.isEmpty
  | .star :: ts,name => starMatch (matchTerms ts) name
  | .one _ :: _,[] => false
  | .one a :: ts,c :: cs => a.admits c && matchTerms ts cs

/-- Go's `filepath.Match`: `none` is `ErrBadPattern`. -/
def filepathMatch (pattern name : String) : Option Bool :=
  (parse pattern.toList).map (matchTerms · name.toList)

/-- The pattern is well formed and matches the whole name. -/
def Matches (pattern name : String) : Prop := filepathMatch pattern name = some true

instance (pattern name : String) : Decidable (Matches pattern name) :=
  inferInstanceAs (Decidable (_ = _))

lemma matches_iff (pattern name : String) :
    Matches pattern name ↔ ∃ p, parse pattern.toList = some p ∧ matchTerms p name.toList = true := by
  simp [Matches,filepathMatch]

@[simp] lemma matchTerms_nil (name : List Char) : matchTerms [] name = true ↔ name = [] := by
  simp [matchTerms]

@[simp] lemma matchTerms_one (a : Atom) (ts : Pattern) (name : List Char) :
    matchTerms (.one a :: ts) name = true ↔
      ∃ c cs, name = c :: cs ∧ a.admits c = true ∧ matchTerms ts cs = true := by
  cases name with
  | nil | cons c cs => simp [matchTerms]

lemma starMatch_iff (k : List Char → Bool) (name : List Char) : starMatch k name = true ↔
      ∃ u v, name = u ++ v ∧ (∀ c ∈ u, c ≠ '/') ∧ k v = true := by
  induction name with
  | nil => simp [starMatch]
  | cons c cs ih =>
    simp only [starMatch,Bool.or_eq_true,Bool.and_eq_true,bne_iff_ne,ih]
    constructor
    · rintro (h | ⟨hc,u,v,rfl,hu,hv⟩)
      · exact ⟨[],c :: cs,rfl,by simp,h⟩
      · exact ⟨c :: u,v,rfl,by simpa using ⟨hc,hu⟩,hv⟩
    · rintro ⟨u,v,he,hu,hv⟩
      cases u with
      | nil => left; simpa [he] using hv
      | cons d u =>
        obtain ⟨rfl,rfl⟩ := List.cons_eq_cons.mp he
        right
        exact ⟨hu c (by simp),u,v,rfl,fun x hx => hu x (by simp [hx]),hv⟩

@[simp] lemma matchTerms_star (ts : Pattern) (name : List Char) : matchTerms (.star :: ts) name = true ↔
      ∃ u v, name = u ++ v ∧ (∀ c ∈ u, c ≠ '/') ∧ matchTerms ts v = true := by
  rw [matchTerms,starMatch_iff]

/-- The term of one character of a pattern text that has no class and no escape. -/
def glyph (c : Char) : Term :=
  if c = '*' then .star else if c = '?' then .one .any else .one (.char c)

lemma glyph_of_plain {c : Char} (hs : c ≠ '*') (hq : c ≠ '?') : glyph c = .one (.char c) := by
  simp [glyph,hs,hq]

lemma parse_glyphs (text : List Char) (hb : '[' ∉ text) (he : '\\' ∉ text) :
    parse text = some (text.map glyph) := by
  induction text with
  | nil => rfl
  | cons c cs ih =>
    rw [List.mem_cons,not_or] at hb he
    have ht : parseFrom .top cs = some (cs.map glyph) := ih hb.2 he.2
    have hs : scanChar .top c = .emit (glyph c) := by
      simp only [scanChar,glyph,Ne.symm hb.1,Ne.symm he.1,if_false]
      split_ifs <;> rfl
    simp [parse,parseFrom,hs,ht]

lemma matchTerms_literal_append {text : List Char} (htext : ∀ c ∈ text, c ≠ '*' ∧ c ≠ '?') (p : Pattern)
    (name : List Char) :
    matchTerms (text.map glyph ++ p) name = true ↔ ∃ rest, name = text ++ rest ∧ matchTerms p rest = true := by
  induction text generalizing name with
  | nil => simp
  | cons c text ih =>
    obtain ⟨hs,hq⟩ := htext c (by simp)
    rw [List.map_cons,List.cons_append,glyph_of_plain hs hq,matchTerms_one]
    constructor
    · rintro ⟨d,cs,rfl,hd,h⟩
      obtain ⟨rest,rfl,hrest⟩ := (ih (fun x hx => htext x (by simp [hx])) cs).mp h
      have hdc : d = c := by simpa [Atom.admits] using hd
      exact ⟨rest,by simp [hdc],hrest⟩
    · rintro ⟨rest,rfl,hrest⟩
      exact ⟨c,text ++ rest,rfl,by simp [Atom.admits],(ih (fun x hx => htext x (by simp [hx])) _).mpr ⟨rest,rfl,hrest⟩⟩

variable {p : Pattern} {name : List Char}

lemma matchTerms_stars_append {k : ℕ} (h : matchTerms (List.replicate k .star ++ p) name = true) :
    ∃ u v, name = u ++ v ∧ matchTerms p v = true := by
  induction k generalizing name with
  | zero => exact ⟨[],name,rfl,h⟩
  | succ k ih =>
    rw [List.replicate_succ,List.cons_append,matchTerms_star] at h
    obtain ⟨u,v,rfl,-,hv⟩ := h
    obtain ⟨u',v',rfl,hv'⟩ := ih hv
    exact ⟨u ++ u',v',by simp,hv'⟩

lemma count_separator_le (h : matchTerms p name = true) : name.count '/' ≤ p.length := by
  induction p generalizing name with
  | nil =>
    rw [(matchTerms_nil name).mp h]
    exact Nat.le_refl 0
  | cons t p ih =>
    cases t with
    | star =>
      obtain ⟨u,v,rfl,hu,hv⟩ := (matchTerms_star p name).mp h
      have hnone : u.count '/' = 0 := List.count_eq_zero.mpr fun hmem => hu '/' hmem rfl
      have hle := ih hv
      rw [List.count_append,List.length_cons]
      omega
    | one a =>
      obtain ⟨c,cs,rfl,-,hcs⟩ := (matchTerms_one a p name).mp h
      have hle := ih hcs
      rw [List.count_cons,List.length_cons]
      split_ifs <;> omega

example : parse "lib_*_[^a-c\\]]?".toList =
    some ("lib_*_".toList.map glyph ++ [.one (.cls true [('a','c'),(']',']')]),.one .any]) := by
  decide

end Diverge.Glob
