import Mathlib.Data.List.DropRight
import Mathlib.Data.List.Infix

/-! The functions of Go's `strings` package on Unicode text. -/
namespace Diverge.Text

/-- `strings.Split` at a one-character separator: the empty text has one empty part. -/
def split (sep : Char) (s : String) : List String := (s.toList.splitOn sep).map String.ofList

def join (sep : String) (parts : List String) : String := sep.intercalate parts

variable {α : Type} {items : List String} {s : α} {xs ys us vs : List α}

lemma not_mem_of_mem_splitOn [DecidableEq α] {sep : α} {xs part : List α}
    (h : part ∈ xs.splitOn sep) : sep ∉ part := by
  induction xs generalizing part with
  | nil =>
    rw [List.splitOn_nil,List.mem_singleton] at h
    simp [h]
  | cons x xs ih =>
    rw [List.splitOn_cons_eq_if_modifyHead] at h
    split_ifs at h with hx
    · rcases List.mem_cons.mp h with rfl | h
      · simp
      · exact ih h
    · cases hs : xs.splitOn sep with
      | nil => exact absurd hs (List.splitOn_ne_nil _ _)
      | cons first parts =>
        rw [hs,List.modifyHead_cons,List.mem_cons] at h
        rcases h with rfl | h
        · rw [List.mem_cons,not_or]
          exact ⟨fun he => hx (by simp [he]),ih (hs ▸ List.mem_cons_self)⟩
        · exact ih (hs ▸ List.mem_cons_of_mem _ h)

lemma split_join (hne : items ≠ []) :
    split ',' (join "," items) = items ↔ ∀ item ∈ items, ',' ∉ item.toList := by
  constructor
  · intro h item hitem
    rw [← h] at hitem
    obtain ⟨part,hpart,rfl⟩ := List.mem_map.mp hitem
    rw [String.toList_ofList]
    exact not_mem_of_mem_splitOn hpart
  · intro h
    have hparts : ∀ part ∈ items.map String.toList, ',' ∉ part := by
      intro part hpart
      obtain ⟨item,hitem,rfl⟩ := List.mem_map.mp hpart
      exact h item hitem
    have hjoin : (join "," items).toList = [','].intercalate (items.map String.toList) :=
      String.toList_intercalate
    rw [split,hjoin,List.splitOn_intercalate ',' hparts (by simpa using hne),List.map_map]
    conv_rhs => rw [← List.map_id items]
    exact List.map_congr_left fun item _ => String.ofList_toList

lemma splitOn_append_separator [DecidableEq α] (sep : α) (xs ys : List α) :
    (xs ++ sep :: ys).splitOn sep = xs.splitOn sep ++ ys.splitOn sep := by
  induction xs with
  | nil => simp [List.splitOn_cons_eq_if_modifyHead]
  | cons x xs ih =>
    rw [List.cons_append,List.splitOn_cons_eq_if_modifyHead,List.splitOn_cons_eq_if_modifyHead,ih]
    split_ifs with hx
    · rfl
    · cases hs : xs.splitOn sep with
      | nil => exact absurd hs (List.splitOn_ne_nil _ _)
      | cons first parts => rfl

lemma split_join_parts (hne : items ≠ []) : split ',' (join "," items) = items.flatMap (split ',') := by
  have hjoin : (join "," items).toList = [','].intercalate (items.map String.toList) :=
    String.toList_intercalate
  rw [split,hjoin]
  induction items with
  | nil => exact absurd rfl hne
  | cons item items ih =>
    cases items with
    | nil => simp [split]
    | cons next rest =>
      have hrest := ih (by simp) String.toList_intercalate
      rw [List.map_cons,List.map_cons,List.intercalate_cons_cons,List.flatMap_cons,← hrest]
      rw [List.append_assoc,List.singleton_append,splitOn_append_separator,List.map_append]
      rfl

/-- The characters that `unicode.IsSpace` accepts. -/
def isSpace (c : Char) : Bool :=
  let n := c.toNat
  [0x9,0xa,0xb,0xc,0xd,0x20,0x85,0xa0,0x1680,0x2028,0x2029,0x202f,0x205f,0x3000].contains n ||
    (decide (0x2000 ≤ n) && decide (n ≤ 0x200a))

def trimSpace (s : String) : String :=
  String.ofList ((s.toList.dropWhile isSpace).reverse.dropWhile isSpace).reverse

lemma trimSpace_eq_self {s : String} (h : ∀ c ∈ s.toList, isSpace c = false) : trimSpace s = s := by
  have hdrop : ∀ cs : List Char, (∀ c ∈ cs, isSpace c = false) → cs.dropWhile isSpace = cs := by
    intro cs hcs
    cases cs with
    | nil => rfl
    | cons c cs => rw [List.dropWhile_cons_of_neg (by simp [hcs c (by simp)])]
  rw [trimSpace,hdrop _ h,hdrop _ fun c hc => h c (List.mem_reverse.mp hc),List.reverse_reverse,
    String.ofList_toList]

@[simp] lemma trimSpace_trimSpace (s : String) : trimSpace (trimSpace s) = trimSpace s := by
  have hpre : ((s.toList.dropWhile isSpace).reverse.dropWhile isSpace).reverse <+: s.toList.dropWhile isSpace := by
    rw [← List.reverse_suffix,List.reverse_reverse]
    exact List.dropWhile_suffix _
  have hhead : (((s.toList.dropWhile isSpace).reverse.dropWhile isSpace).reverse).dropWhile isSpace =
      ((s.toList.dropWhile isSpace).reverse.dropWhile isSpace).reverse := by
    obtain ⟨rest,hrest⟩ := hpre
    cases htrim : ((s.toList.dropWhile isSpace).reverse.dropWhile isSpace).reverse with
    | nil => rfl
    | cons c cs =>
      rw [htrim] at hrest
      have hnot := List.head?_dropWhile_not isSpace s.toList
      rw [← hrest] at hnot
      exact List.dropWhile_cons_of_neg (by simpa using hnot)
  have hlast : ((s.toList.dropWhile isSpace).reverse.dropWhile isSpace).dropWhile isSpace =
      (s.toList.dropWhile isSpace).reverse.dropWhile isSpace := List.dropWhile_idempotent isSpace _
  unfold trimSpace
  rw [String.toList_ofList,hhead,List.reverse_reverse,hlast]

/-- `strings.Fields`: the texts between runs of white space. -/
def fields (s : String) : List String :=
  ((s.toList.splitOnP isSpace).filter (· ≠ [])).map String.ofList

/-- `unicode.ToLower`, as far as ASCII text can tell: besides the capitals only the dotted capital I
and the Kelvin sign have an ASCII lower case. -/
def lowerChar (c : Char) : Char :=
  if c.toNat = 0x130 then 'i' else if c.toNat = 0x212a then 'k' else c.toLower

lemma lowerChar_cases (c : Char) : lowerChar c = c ∨ (lowerChar c).isLower = true := by
  unfold lowerChar
  split_ifs
  · exact .inr (by decide)
  · exact .inr (by decide)
  · by_cases hascii : c.toNat < 128
    · have hall : ∀ n < 128, (Char.ofNat n).toLower = Char.ofNat n ∨
          (Char.ofNat n).toLower.isLower = true := by decide
      have h := hall c.toNat hascii
      rwa [Char.ofNat_toNat] at h
    · refine .inl (dif_neg ?_)
      rintro ⟨-,h⟩
      have hle : c.toNat ≤ 90 := h
      omega

lemma lowerChar_eq_iff {c d : Char} (hd : d.isLower = false) (hfix : lowerChar d = d) :
    lowerChar c = d ↔ c = d := by
  constructor
  · intro h
    rcases lowerChar_cases c with hc | hc
    · rw [← hc,h]
    · rw [h,hd] at hc
      cases hc
  · rintro rfl
    exact hfix

def toLower (s : String) : String := String.ofList (s.toList.map lowerChar)

/-- Simple folding, as far as ASCII text can tell: besides the capitals the long s and the Kelvin sign
fold to ASCII letters. -/
def foldChar (c : Char) : Char :=
  if c.toNat = 0x17f then 's' else if c.toNat = 0x212a then 'k' else c.toLower

/-- `strings.EqualFold`, where one of the texts is ASCII. -/
def equalFold (s t : String) : Bool := s.toList.map foldChar == t.toList.map foldChar

def hasPrefix (s p : String) : Bool := p.toList.isPrefixOf s.toList

def hasSuffix (s p : String) : Bool := p.toList.isSuffixOf s.toList

def contains (s p : String) : Bool := s.toList.tails.any fun t => p.toList.isPrefixOf t

def containsAny (s chars : String) : Bool := s.toList.any fun c => chars.toList.contains c

def trimPrefix (s p : String) : String :=
  if hasPrefix s p then String.ofList (s.toList.drop p.toList.length) else s

def trimSuffix (s p : String) : String :=
  if hasSuffix s p then String.ofList (s.toList.take (s.toList.length - p.toList.length)) else s

/-- `strings.CutSuffix`: the text before the suffix, where there is one. -/
def cutSuffix (s p : String) : Option String := if hasSuffix s p then some (trimSuffix s p) else none

/-- `strings.Trim` with a one-character cut set. -/
def trimChar (s : String) (c : Char) : String :=
  String.ofList ((s.toList.dropWhile (· == c)).reverse.dropWhile (· == c)).reverse

/-- Replace each occurrence from the left; the number is what is left of the last one found. -/
def replaceFrom (old new : List Char) : ℕ → List Char → List Char
  | _,[] => []
  | n+1,_ :: cs => replaceFrom old new n cs
  | 0,c :: cs =>
    if old.isPrefixOf (c :: cs) then new ++ replaceFrom old new (old.length - 1) cs
    else c :: replaceFrom old new 0 cs

/-- `strings.ReplaceAll`, where the text to replace is not empty. -/
def replaceAll (s old new : String) : String :=
  String.ofList (replaceFrom old.toList new.toList 0 s.toList)

lemma replaceAll_char (s : String) (a b : Char) :
    (replaceAll s (String.ofList [a]) (String.ofList [b])).toList =
      s.toList.map fun c => if c = a then b else c := by
  simp only [replaceAll,String.toList_ofList]
  induction s.toList with
  | nil => rfl
  | cons c cs ih =>
    rw [replaceFrom,List.map_cons]
    by_cases h : c = a
    · rw [if_pos (by simp [h]),if_pos h]
      exact congrArg (b :: ·) ih
    · rw [if_neg (by simpa using Ne.symm h),if_neg h,ih]

lemma append_separator_eq_iff : xs ++ s :: us = ys ++ s :: vs ↔
      (xs = ys ∧ us = vs) ∨ (∃ m, ys = xs ++ s :: m ∧ us = m ++ s :: vs) ∨
        ∃ m, xs = ys ++ s :: m ∧ vs = m ++ s :: us := by
  constructor
  · intro h
    rcases List.append_eq_append_iff.mp h with ⟨zs,rfl,hz⟩ | ⟨zs,rfl,hz⟩
    · cases zs with
      | nil => exact .inl ⟨by simp,by simpa using hz⟩
      | cons z zs =>
        obtain ⟨rfl,htail⟩ := List.cons_eq_cons.mp hz
        exact .inr (.inl ⟨zs,rfl,htail⟩)
    · cases zs with
      | nil => exact .inl ⟨by simp,by simpa using hz.symm⟩
      | cons z zs =>
        obtain ⟨rfl,htail⟩ := List.cons_eq_cons.mp hz
        exact .inr (.inr ⟨zs,rfl,htail⟩)
  · rintro (⟨rfl,rfl⟩ | ⟨m,rfl,rfl⟩ | ⟨m,rfl,rfl⟩)
    · rfl
    · rw [List.append_assoc,List.cons_append]
    · rw [List.append_assoc,List.cons_append]

lemma append_separator_inj (hx : s ∉ xs) (hy : s ∉ ys)
    (h : xs ++ s :: us = ys ++ s :: vs) : xs = ys ∧ us = vs := by
  rcases append_separator_eq_iff.mp h with h | ⟨m,rfl,-⟩ | ⟨m,rfl,-⟩
  · exact h
  · exact absurd (by simp) hy
  · exact absurd (by simp) hx

lemma contains_iff {s p : String} : contains s p = true ↔ p.toList <:+: s.toList := by
  simp only [contains,List.any_eq_true,List.mem_tails,List.isPrefixOf_iff_prefix]
  constructor
  · rintro ⟨t,hsuffix,hpre⟩
    exact hpre.isInfix.trans hsuffix.isInfix
  · rintro ⟨before,after,h⟩
    exact ⟨p.toList ++ after,⟨before,by rw [← h,List.append_assoc]⟩,List.prefix_append _ _⟩

example : split ',' "a,,b" = ["a","","b"] := by decide

end Diverge.Text
