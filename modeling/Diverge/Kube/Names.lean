import Diverge.Text.Strings

/-! The names that the API server accepts: DNS labels and subdomains, qualified names, and values
of labels. -/
namespace Diverge.Kube
open Text

def isLowerAlnum (c : Char) : Bool := c.isDigit || c.isLower

/-- Characters of two kinds, the first and the last of the narrower one. -/
def framed (inner outer : Char → Bool) (cs : List Char) : Bool :=
  cs.all inner && cs.head?.any outer && cs.getLast?.any outer

def isDNSLabelText (cs : List Char) : Bool :=
  framed (fun c => isLowerAlnum c || c == '-') isLowerAlnum cs

def isDNS1123Label (s : String) : Bool := isDNSLabelText s.toList && decide (s.toList.length ≤ 63)

def isDNS1123Subdomain (s : String) : Bool :=
  (s.toList.splitOn '.').all isDNSLabelText && decide (s.toList.length ≤ 253)

def isNameText (cs : List Char) : Bool :=
  framed (fun c => c.isAlphanum || c == '-' || c == '_' || c == '.') Char.isAlphanum cs &&
    decide (cs.length ≤ 63)

def isValidLabelValue (s : String) : Bool := s.isEmpty || isNameText s.toList

section

/-- Labels and subdomains are made of lower case letters, digits, hyphens and dots. -/
def isNameChar (c : Char) : Bool := isLowerAlnum c || c == '-' || c == '.'

variable {cs : List Char} {c : Char} {s : String}

lemma nameChar_of_labelText (h : isDNSLabelText cs = true) (hc : c ∈ cs) : isNameChar c = true := by
  unfold isDNSLabelText framed at h
  simp only [Bool.and_eq_true,List.all_eq_true] at h
  unfold isNameChar
  rw [h.1.1 c hc]
  rfl

lemma nameChar_of_label (h : isDNS1123Label s = true) (hc : c ∈ s.toList) : isNameChar c = true := by
  unfold isDNS1123Label at h
  rw [Bool.and_eq_true] at h
  exact nameChar_of_labelText h.1 hc

lemma mem_intercalate {α : Type} {sep c : α} {parts : List (List α)}
    (h : c ∈ [sep].intercalate parts) : c = sep ∨ ∃ part ∈ parts, c ∈ part := by
  induction parts with
  | nil => simp [List.intercalate] at h
  | cons p parts ih =>
    cases parts with
    | nil => exact .inr ⟨p,by simp,by simpa [List.intercalate] using h⟩
    | cons q parts =>
      have hcases : c ∈ p ∨ c = sep ∨ c ∈ [sep].intercalate (q :: parts) := by
        simpa [List.intercalate,List.intersperse] using h
      rcases hcases with hp | hs | hr
      · exact .inr ⟨p,by simp,hp⟩
      · exact .inl hs
      · rcases ih hr with hs | ⟨part,hpart,hc⟩
        · exact .inl hs
        · exact .inr ⟨part,List.mem_cons_of_mem _ hpart,hc⟩

lemma nameChar_of_subdomain (h : isDNS1123Subdomain s = true) (hc : c ∈ s.toList) : isNameChar c = true := by
  unfold isDNS1123Subdomain at h
  rw [Bool.and_eq_true,List.all_eq_true] at h
  rw [← @List.intercalate_splitOn _ s.toList _ _ '.'] at hc
  rcases mem_intercalate hc with rfl | ⟨part,hpart,hc⟩
  · rfl
  · exact nameChar_of_labelText (h.1 part hpart) hc

lemma nameChar_lt (h : isNameChar c = true) : c.toNat < 128 := by
  have hlow : ∀ a : Char, a.toNat < 128 → ∀ b, b ≤ a → b.toNat < 128 := fun a ha b hb =>
    Nat.lt_of_le_of_lt (Char.le_def.mp hb) ha
  have hlower : c.isLower = true → c ≤ 'z' := fun hc => of_decide_eq_true (Bool.and_eq_true_iff.mp hc).2
  have hdigit : c.isDigit = true → c ≤ '9' := fun hc => of_decide_eq_true (Bool.and_eq_true_iff.mp hc).2
  simp only [isNameChar,isLowerAlnum,Bool.or_eq_true,beq_iff_eq] at h
  rcases h with ((h | h) | rfl) | rfl
  · exact hlow '9' (by decide) c (hdigit h)
  · exact hlow 'z' (by decide) c (hlower h)
  · decide
  · decide

lemma forall_nameChar {P : Char → Prop} (h : ∀ n < 128, isNameChar (Char.ofNat n) = true → P (Char.ofNat n))
    (hc : isNameChar c = true) : P c := by
  have hP := h c.toNat (nameChar_lt hc)
  rw [Char.ofNat_toNat] at hP
  exact hP hc

lemma nameChar_not_space (h : isNameChar c = true) : isSpace c = false :=
  forall_nameChar (P := fun c => isSpace c = false) (by decide) h

lemma ne_empty_of_subdomain (h : isDNS1123Subdomain s = true) : s ≠ "" := by
  rintro rfl
  exact absurd h (by decide)

lemma head_of_labelText (h : isDNSLabelText cs = true) :
    ∃ c rest, cs = c :: rest ∧ isLowerAlnum c = true := by
  cases cs with
  | nil => exact absurd h (by decide)
  | cons c rest =>
    unfold isDNSLabelText framed at h
    simp only [Bool.and_eq_true,List.head?_cons,Option.any_some] at h
    exact ⟨c,rest,rfl,h.1.2⟩

lemma head_of_subdomain (h : isDNS1123Subdomain s = true) :
    ∃ c cs, s.toList = c :: cs ∧ isLowerAlnum c = true := by
  unfold isDNS1123Subdomain at h
  rw [Bool.and_eq_true,List.all_eq_true] at h
  cases hsplit : s.toList.splitOn '.' with
  | nil => exact absurd hsplit (List.splitOnP_ne_nil _ _)
  | cons part parts =>
    obtain ⟨c,rest,rfl,hc⟩ := head_of_labelText (h.1 part (by simp [hsplit]))
    have hjoin := @List.intercalate_splitOn _ s.toList _ _ '.'
    rw [hsplit] at hjoin
    cases parts with
    | nil => exact ⟨c,rest,by simpa [List.intercalate] using hjoin.symm,hc⟩
    | cons q parts =>
      refine ⟨c,rest ++ '.' :: ['.'].intercalate (q :: parts),?_,hc⟩
      rw [← hjoin]
      simp [List.intercalate,List.intersperse]

lemma trimSpace_of_subdomain (h : isDNS1123Subdomain s = true) : trimSpace s = s :=
  trimSpace_eq_self fun _ hc => nameChar_not_space (nameChar_of_subdomain h hc)

end

def isLabelChar (c : Char) : Bool := isLowerAlnum c || c == '-'

variable {cs : List Char}

lemma isDNSLabelText_iff : isDNSLabelText cs = true ↔
    (∀ c ∈ cs, isLabelChar c = true) ∧ (∃ c, cs.head? = some c ∧ isLowerAlnum c = true) ∧
      ∃ c, cs.getLast? = some c ∧ isLowerAlnum c = true := by
  unfold isDNSLabelText framed
  simp only [Bool.and_eq_true,List.all_eq_true,Option.any_eq_true,and_assoc]
  exact Iff.rfl

lemma label_append {cs ds : List Char} (hcs : ∀ c ∈ cs, isLabelChar c = true)
    (hhead : ∃ c, cs.head? = some c ∧ isLowerAlnum c = true) (hds : isDNSLabelText ds = true) :
    isDNSLabelText (cs ++ ds) = true := by
  obtain ⟨hchars,-,c,hlast,hc⟩ := isDNSLabelText_iff.mp hds
  refine isDNSLabelText_iff.mpr ⟨fun c hc => ?_,?_,c,?_,hc⟩
  · rcases List.mem_append.mp hc with hc | hc
    · exact hcs c hc
    · exact hchars c hc
  · obtain ⟨c,hc,halnum⟩ := hhead
    refine ⟨c,?_,halnum⟩
    rw [List.head?_append,hc]
    rfl
  · rw [List.getLast?_append,hlast]
    rfl

lemma not_mem_dot_of_labelText (h : isDNSLabelText cs = true) : '.' ∉ cs := by
  intro hdot
  exact absurd ((isDNSLabelText_iff.mp h).1 '.' hdot) (by decide)

/-- Labels with dots between them. -/
inductive Dotted : List Char → Prop
  | label {cs : List Char} (h : isDNSLabelText cs = true) : Dotted cs
  | dot {cs rest : List Char} (h : isDNSLabelText cs = true) (tail : Dotted rest) :
    Dotted (cs ++ '.' :: rest)

lemma dotted_intercalate {parts : List (List Char)} (hne : parts ≠ [])
    (h : ∀ part ∈ parts, isDNSLabelText part = true) : Dotted (['.'].intercalate parts) := by
  induction parts with
  | nil => exact absurd rfl hne
  | cons part parts ih =>
    have hpart := h part (by simp)
    cases parts with
    | nil => simpa [List.intercalate] using Dotted.label hpart
    | cons next parts =>
      have htail := ih (by simp) fun p hp => h p (by simp [hp])
      simpa [List.intercalate,List.intersperse] using Dotted.dot hpart htail

lemma Dotted.splitOn_all (h : Dotted cs) : ∀ part ∈ cs.splitOn '.', isDNSLabelText part = true := by
  induction h with
  | label h =>
    intro part hpart
    rw [List.splitOn_eq_singleton (not_mem_dot_of_labelText h),List.mem_singleton] at hpart
    exact hpart ▸ h
  | dot h tail ih =>
    intro part hpart
    rw [List.splitOn_append_cons_self_of_not_mem (not_mem_dot_of_labelText h),List.mem_cons] at hpart
    rcases hpart with rfl | hpart
    · exact h
    · exact ih part hpart

theorem isDNS1123Subdomain_iff {s : String} :
    isDNS1123Subdomain s = true ↔ Dotted s.toList ∧ s.toList.length ≤ 253 := by
  unfold isDNS1123Subdomain
  rw [Bool.and_eq_true,List.all_eq_true,decide_eq_true_eq]
  refine and_congr_left fun _ => ⟨fun h => ?_,Dotted.splitOn_all⟩
  rw [← @List.intercalate_splitOn _ s.toList _ _ '.']
  exact dotted_intercalate (List.splitOnP_ne_nil _ _) h

lemma Dotted.head {cs : List Char} (h : Dotted cs) : ∃ c, cs.head? = some c ∧ isLowerAlnum c = true := by
  cases h with
  | label h => exact (isDNSLabelText_iff.mp h).2.1
  | dot h tail =>
    obtain ⟨c,hc,halnum⟩ := (isDNSLabelText_iff.mp h).2.1
    exact ⟨c,by rw [List.head?_append,hc]; rfl,halnum⟩

lemma Dotted.getLast (h : Dotted cs) : ∃ c, cs.getLast? = some c ∧ isLowerAlnum c = true := by
  induction h with
  | label h => exact (isDNSLabelText_iff.mp h).2.2
  | dot h tail ih =>
    obtain ⟨c,hc,halnum⟩ := ih
    refine ⟨c,?_,halnum⟩
    rw [List.getLast?_append,List.getLast?_cons,hc]
    rfl

lemma Dotted.of_dot {before after : List Char} (h : Dotted (before ++ '.' :: after)) : Dotted after := by
  generalize hcs : before ++ '.' :: after = cs at h
  induction h generalizing before with
  | label h => exact absurd (hcs ▸ by simp) (not_mem_dot_of_labelText h)
  | dot h tail ih =>
    rcases List.append_eq_append_iff.mp hcs with ⟨mid,hmid,hrest⟩ | ⟨mid,hmid,hrest⟩
    · cases mid with
      | nil => exact (List.cons_eq_cons.mp hrest).2 ▸ tail
      | cons c mid =>
        have hc : c = '.' := (List.cons_eq_cons.mp hrest).1.symm
        exact absurd (hmid ▸ hc ▸ by simp) (not_mem_dot_of_labelText h)
    · cases mid with
      | nil => exact (List.cons_eq_cons.mp hrest).2 ▸ tail
      | cons c mid => exact ih (List.cons_eq_cons.mp hrest).2.symm

lemma Dotted.extend {cs start ending : List Char} (h : Dotted cs) (hstart : start <+: cs) (hne : start ≠ [])
    (hdot : start.getLast? ≠ some '.') (hchars : ∀ c ∈ ending, isLabelChar c = true)
    (hlast : ∃ c, ending.getLast? = some c ∧ isLowerAlnum c = true) : Dotted (start ++ ending) := by
  have hlabel : ∀ {l : List Char}, isDNSLabelText l = true → ∀ {start}, start <+: l → start ≠ [] →
      Dotted (start ++ ending) := by
    intro l hl start hstart hne
    obtain ⟨hlc,⟨c,hc,halnum⟩,-⟩ := isDNSLabelText_iff.mp hl
    obtain ⟨d,hd,hdalnum⟩ := hlast
    obtain ⟨more,rfl⟩ := hstart
    cases start with
    | nil => exact absurd rfl hne
    | cons b start =>
      refine .label (isDNSLabelText_iff.mpr ⟨fun a ha => ?_,⟨c,hc,halnum⟩,d,?_,hdalnum⟩)
      · rcases List.mem_append.mp ha with ha | ha
        · exact hlc a (List.mem_append_left _ ha)
        · exact hchars a ha
      · rw [List.getLast?_append,hd]
        rfl
  induction h generalizing start with
  | label h => exact hlabel h hstart hne
  | @dot l rest h tail ih =>
    obtain ⟨more,hmore⟩ := hstart
    rcases List.append_eq_append_iff.mp hmore with ⟨mid,hmid,-⟩ | ⟨after,rfl,hafter⟩
    · exact hlabel h ⟨mid,hmid.symm⟩ hne
    · cases after with
      | nil => exact hlabel h (by simp) hne
      | cons c after =>
        obtain ⟨rfl,hrest⟩ := List.cons_eq_cons.mp hafter
        have hafter : after ≠ [] := by
          rintro rfl
          simp at hdot
        rw [List.append_assoc]
        refine .dot h (ih ⟨more,hrest.symm⟩ hafter ?_)
        rwa [List.getLast?_append_of_ne_nil _ (List.cons_ne_nil _ _),
          List.getLast?_cons_of_ne_nil hafter] at hdot

end Diverge.Kube
