import Diverge.Kube.Names
import Diverge.TokenStore.Names

/-! Names of objects that the controllers derive: a readable text, cut to length, and the first
digits of a digest. The digest is a parameter. -/
namespace Diverge.Environments
open Text Kube TokenStore

def collapseHyphens (cs : List Char) : List Char :=
  cs.foldr (fun c rest => if c = '-' ∧ rest.head? = some '-' then rest else c :: rest) []

/-- The characters of a DNS label that a text has: in lower case, with hyphens for dots and
underscores, and without hyphens at its ends. -/
def dnsText (raw : String) : String :=
  let replaced := (toLower raw).toList.map fun c => if c = '.' ∨ c = '_' then '-' else c
  let kept := replaced.filter fun c => isLowerAlnum c || c == '-'
  trimChar (String.ofList (collapseHyphens kept)) '-'

def cut (s : String) (n : ℕ) : String := String.ofList (s.toList.take n)

/-- `strings.TrimRight` with a one-character cut set. -/
def trimRightChar (s : String) (c : Char) : String :=
  String.ofList (s.toList.reverse.dropWhile (· == c)).reverse

lemma trimRightChar_isPrefix (s : String) (c : Char) : (trimRightChar s c).toList <+: s.toList := by
  rw [trimRightChar,String.toList_ofList,← List.reverse_suffix,List.reverse_reverse]
  exact List.dropWhile_suffix _

lemma hexText_alnum {bytes : Bytes} {c : Char} (hc : c ∈ (hexText bytes).toList) : isLowerAlnum c = true := by
  rw [hexText,String.toList_ofList] at hc
  obtain ⟨i,hi,rfl⟩ := hexChars_mem hc
  have hdigits : ∀ j < 16, isLowerAlnum (Nat.digitChar j) = true := by decide
  exact hdigits i hi

lemma digest_ends {mark : List Char} {bytes : Bytes} (hmark : ∀ c ∈ mark, isLabelChar c = true)
    (hne : bytes ≠ []) : (∀ c ∈ mark ++ (hexText bytes).toList, isLabelChar c = true) ∧
      ∃ c, (mark ++ (hexText bytes).toList).getLast? = some c ∧ isLowerAlnum c = true := by
  have hdigits : (hexText bytes).toList ≠ [] := by
    cases bytes with
    | nil => exact absurd rfl hne
    | cons b bytes => simp [hexText]
  constructor
  · intro c hc
    rcases List.mem_append.mp hc with hc | hc
    · exact hmark c hc
    · simp [isLabelChar,hexText_alnum hc]
  · refine ⟨_,?_,hexText_alnum (List.getLast_mem hdigits)⟩
    rw [List.getLast?_append_of_ne_nil _ hdigits,List.getLast?_eq_some_getLast hdigits]

/-- The start of a label, up to where its digest follows. -/
def IsStem (cs : List Char) : Prop :=
  (∀ c ∈ cs, isLabelChar c = true) ∧ ∃ c, cs.head? = some c ∧ isLowerAlnum c = true

lemma IsStem.of_isPrefix {cs ds : List Char} (h : IsStem cs) (hpre : ds <+: cs) (hne : ds ≠ []) :
    IsStem ds := by
  obtain ⟨hchars,c,hc,halnum⟩ := h
  obtain ⟨rest,rfl⟩ := hpre
  refine ⟨fun d hd => hchars d (List.mem_append_left _ hd),c,?_,halnum⟩
  rwa [List.head?_append_of_ne_nil _ hne] at hc

lemma IsStem.of_label {cs : List Char} (h : isDNSLabelText cs = true) : IsStem cs :=
  ⟨(isDNSLabelText_iff.mp h).1,(isDNSLabelText_iff.mp h).2.1⟩

lemma trimChar_isPrefix (s : String) (c : Char) : (trimChar s c).toList <+: s.toList.dropWhile (· == c) := by
  rw [trimChar,String.toList_ofList,← List.reverse_suffix,List.reverse_reverse]
  exact List.dropWhile_suffix _

lemma collapseHyphens_subset (cs : List Char) : collapseHyphens cs ⊆ cs := by
  induction cs with
  | nil => exact List.Subset.refl _
  | cons c cs ih =>
    change (if _ then collapseHyphens cs else c :: collapseHyphens cs) ⊆ _
    split_ifs
    · exact List.subset_cons_of_subset c ih
    · exact List.cons_subset_cons c ih

lemma isStem_dnsText {raw : String} (h : dnsText raw ≠ "") : IsStem (dnsText raw).toList := by
  have hne : (dnsText raw).toList ≠ [] := mt String.toList_eq_nil_iff.mp h
  refine IsStem.of_isPrefix ?_ (trimChar_isPrefix _ _) hne
  rw [String.toList_ofList]
  generalize hkept : List.filter _ _ = kept
  have hchars : ∀ c ∈ (collapseHyphens kept).dropWhile (· == '-'), isLabelChar c = true := by
    intro c hc
    have hmem := collapseHyphens_subset kept ((List.dropWhile_suffix _).subset hc)
    rw [← hkept] at hmem
    exact (List.mem_filter.mp hmem).2
  refine ⟨hchars,?_⟩
  cases hdrop : (collapseHyphens kept).dropWhile (· == '-') with
  | nil =>
    have hpre := trimChar_isPrefix (String.ofList (collapseHyphens kept)) '-'
    rw [String.toList_ofList,hdrop,List.prefix_nil,← hkept] at hpre
    exact absurd hpre hne
  | cons c rest =>
    have hhyphen := List.head?_dropWhile_not (· == '-') (collapseHyphens kept)
    have hc := hchars c (by simp [hdrop])
    rw [hdrop] at hhyphen
    simp only [List.head?_cons,beq_eq_false_iff_ne] at hhyphen
    exact ⟨c,rfl,by simpa [isLabelChar,hhyphen] using hc⟩

lemma dnsText_ne_empty {raw : String} {c : Char} (h : raw.toList.head? = some c)
    (hc : isLowerAlnum (lowerChar c) = true) : dnsText raw ≠ "" := by
  obtain ⟨cs,hraw⟩ := List.head?_eq_some_iff.mp h
  generalize hd : lowerChar c = d at hc
  have hother : ∀ e, isLowerAlnum e = false → d ≠ e := by
    rintro e he rfl
    exact absurd hc (by simp [he])
  have hmark : ¬(d = '.' ∨ d = '_') := not_or.mpr ⟨hother _ (by decide),hother _ (by decide)⟩
  have hhyphen := hother '-' (by decide)
  intro hempty
  have htext := congrArg String.toList hempty
  simp only [dnsText,toLower,String.toList_ofList,hraw,List.map_cons,hd,if_neg hmark,List.filter_cons,
    hc,Bool.true_or,if_true,collapseHyphens,List.foldr_cons,hhyphen,false_and,if_false] at htext
  rw [trimChar,String.toList_ofList,String.toList_ofList,String.toList_empty,
    List.reverse_eq_nil_iff,List.dropWhile_eq_nil_iff,
    List.dropWhile_cons_of_neg (by simpa using hhyphen)] at htext
  exact hhyphen (by simpa using htext d (by simp))

section
variable (sum256 : Sum256)

def digest8 (s : String) : String := hexText ((sum256 (utf8 s)).toList.take 4)

def sanitizeK8sName (raw hashInput : String) (maxLength : ℕ) : String :=
  let room := max 10 maxLength - 9
  let text := dnsText raw
  let text := if text = "" then "resource" else text
  let stem := if room < text.toList.length then trimRightChar (cut text room) '-' else text
  (if stem = "" then "r" else stem) ++ "-" ++ digest8 sum256 hashInput

def generateHookJobName (name suffix : String) : String :=
  sanitizeK8sName sum256 ("hook-" ++ name ++ "-" ++ suffix) (name ++ "/" ++ suffix) 63

def childEnvironmentName (groupName serviceName : String) : String :=
  let raw := dnsText ("pg-" ++ groupName ++ "-" ++ serviceName)
  let hash := digest8 sum256 (groupName ++ "/" ++ serviceName)
  if raw.toList.length ≤ 63 - 9 then raw ++ "-" ++ hash
  else
    let stem := trimRightChar (cut raw (63 - 9)) '-'
    (if stem = "" then "pg" else stem) ++ "-" ++ hash

def previewNamespace (name ns : String) : String :=
  let raw := dnsText ("diverge-" ++ name)
  let hash := digest8 sum256 (ns ++ "/" ++ name)
  if raw.toList.length ≤ 63 - 9 then raw ++ "-" ++ hash else cut raw (63 - 9) ++ "-" ++ hash

variable {sum256}

@[simp] lemma digest8_length (s : String) : (digest8 sum256 s).toList.length = 8 := by
  simp [digest8,hexText]

lemma digest8_of_append_eq {stem stem' s s' : String}
    (h : stem ++ "-" ++ digest8 sum256 s = stem' ++ "-" ++ digest8 sum256 s') :
    digest8 sum256 s = digest8 sum256 s' := by
  have hl := congrArg String.toList h
  simp only [String.toList_append] at hl
  exact String.toList_inj.mp (List.append_inj' hl (by simp)).2

lemma sanitizeK8sName_digest {raw raw' s s' : String} {n n' : ℕ}
    (h : sanitizeK8sName sum256 raw s n = sanitizeK8sName sum256 raw' s' n') :
    digest8 sum256 s = digest8 sum256 s' := digest8_of_append_eq h

lemma IsStem.label {stem : String} (h : IsStem stem.toList) (hlen : stem.toList.length ≤ 54)
    (s : String) : isDNS1123Label (stem ++ "-" ++ digest8 sum256 s) = true := by
  obtain ⟨hchars,hlast⟩ := @digest_ends ['-'] ((sum256 (utf8 s)).toList.take 4)
    (by simp [isLabelChar]) (by simp)
  obtain ⟨hstem,c,hc,halnum⟩ := h
  obtain ⟨d,hd,hdigit⟩ := hlast
  have htext : (stem ++ "-" ++ digest8 sum256 s).toList =
      stem.toList ++ (['-'] ++ (digest8 sum256 s).toList) := by simp
  rw [isDNS1123Label,htext,Bool.and_eq_true,isDNSLabelText_iff,decide_eq_true_eq]
  refine ⟨⟨fun e he => ?_,⟨c,?_,halnum⟩,d,?_,hdigit⟩,by simp; omega⟩
  · rcases List.mem_append.mp he with he | he
    · exact hstem e he
    · exact hchars e he
  · rw [List.head?_append,hc]
    rfl
  · rw [List.getLast?_append,digest8,hd]
    rfl

lemma IsStem.cut_label {text stem : String} {n : ℕ} (h : IsStem text.toList) (hn : n ≤ 54)
    (hpre : stem.toList <+: (cut text n).toList) (hne : stem ≠ "") (s : String) :
    isDNS1123Label (stem ++ "-" ++ digest8 sum256 s) = true := by
  rw [cut,String.toList_ofList] at hpre
  have hlength := hpre.length_le
  rw [List.length_take] at hlength
  have hstem := h.of_isPrefix (hpre.trans (List.take_prefix n _)) (mt String.toList_eq_nil_iff.mp hne)
  exact hstem.label (by omega) s

lemma sanitizeK8sName_label (raw s : String) {n : ℕ} (hn : n ≤ 63) :
    isDNS1123Label (sanitizeK8sName sum256 raw s n) = true := by
  have htext : ∃ text,text ≠ "" ∧ IsStem text.toList ∧
      (if dnsText raw = "" then "resource" else dnsText raw) = text := by
    split_ifs with h
    · exact ⟨_,by decide,IsStem.of_label (by decide),rfl⟩
    · exact ⟨_,h,isStem_dnsText h,rfl⟩
  obtain ⟨text,hne,hstem,htext⟩ := htext
  unfold sanitizeK8sName
  dsimp only
  rw [htext]
  by_cases hlong : max 10 n - 9 < text.toList.length
  · rw [if_pos hlong]
    split_ifs with hempty
    · exact (IsStem.of_label (by decide)).label (by decide) s
    · exact hstem.cut_label (by omega) (trimRightChar_isPrefix _ _) hempty s
  · rw [if_neg hlong,if_neg hne]
    exact hstem.label (by omega) s

lemma childEnvironmentName_label (g s : String) :
    isDNS1123Label (childEnvironmentName sum256 g s) = true := by
  have hstem := isStem_dnsText (@dnsText_ne_empty ("pg-" ++ g ++ "-" ++ s) 'p' (by simp) (by decide))
  unfold childEnvironmentName
  dsimp only
  split_ifs with hshort hempty
  · exact hstem.label hshort _
  · exact (IsStem.of_label (by decide)).label (by decide) _
  · exact hstem.cut_label (Nat.le_refl 54) (trimRightChar_isPrefix _ _) hempty _

lemma previewNamespace_label (name ns : String) :
    isDNS1123Label (previewNamespace sum256 name ns) = true := by
  have hstem := isStem_dnsText (@dnsText_ne_empty ("diverge-" ++ name) 'd' (by simp) (by decide))
  unfold previewNamespace
  dsimp only
  split_ifs with hshort
  · exact hstem.label hshort _
  · refine hstem.cut_label (Nat.le_refl 54) (List.prefix_refl _) ?_ _
    intro hempty
    have hlength := congrArg (·.toList.length) hempty
    simp only [cut,String.toList_ofList,List.length_take,String.toList_empty,List.length_nil] at hlength
    omega

lemma childEnvironmentName_digest {g s g' s' : String}
    (h : childEnvironmentName sum256 g s = childEnvironmentName sum256 g' s') :
    digest8 sum256 (g ++ "/" ++ s) = digest8 sum256 (g' ++ "/" ++ s') := by
  have hends : ∀ g s : String,∃ stem,
      childEnvironmentName sum256 g s = stem ++ "-" ++ digest8 sum256 (g ++ "/" ++ s) := by
    intro g s
    unfold childEnvironmentName
    dsimp only
    split
    · exact ⟨_,rfl⟩
    · exact ⟨_,rfl⟩
  obtain ⟨stem,hg⟩ := hends g s
  obtain ⟨stem',hg'⟩ := hends g' s'
  rw [hg,hg'] at h
  exact digest8_of_append_eq h

lemma injOn_of_digest {name : String × String → String} {pairs : Set (String × String)}
    (hname : ∀ p q,name p = name q → digest8 sum256 (p.1 ++ "/" ++ p.2) = digest8 sum256 (q.1 ++ "/" ++ q.2))
    (hslash : ∀ p ∈ pairs,'/' ∉ p.1.toList ∧ '/' ∉ p.2.toList)
    (hinj : Set.InjOn (digest8 sum256) ((fun p => p.1 ++ "/" ++ p.2) '' pairs)) : Set.InjOn name pairs := by
  intro p hp q hq h
  have htext := congrArg String.toList (hinj ⟨p,hp,rfl⟩ ⟨q,hq,rfl⟩ (hname p q h))
  simp only [String.toList_append,List.append_assoc] at htext
  obtain ⟨hfst,hsnd⟩ := append_separator_inj (hslash p hp).1 (hslash q hq).1 htext
  exact Prod.ext (String.toList_inj.mp hfst) (String.toList_inj.mp hsnd)

theorem derived_names_valid_injective (sum256 : Sum256) :
    (∀ raw hashInput n,n ≤ 63 → isDNS1123Label (sanitizeK8sName sum256 raw hashInput n) = true) ∧
    (∀ s t,isDNS1123Label (childEnvironmentName sum256 s t) = true ∧
      isDNS1123Label (generateHookJobName sum256 s t) = true ∧
      isDNS1123Label (previewNamespace sum256 s t) = true) ∧
    ∀ pairs : Set (String × String),(∀ p ∈ pairs,'/' ∉ p.1.toList ∧ '/' ∉ p.2.toList) →
      Set.InjOn (digest8 sum256) ((fun p => p.1 ++ "/" ++ p.2) '' pairs) →
      Set.InjOn (fun p => childEnvironmentName sum256 p.1 p.2) pairs ∧
        Set.InjOn (fun p => generateHookJobName sum256 p.1 p.2) pairs := by
  refine ⟨fun raw s n hn => sanitizeK8sName_label raw s hn,fun s t => ⟨childEnvironmentName_label s t,
    sanitizeK8sName_label _ _ (Nat.le_refl 63),previewNamespace_label s t⟩,?_⟩
  intro pairs hslash hinj
  exact ⟨injOn_of_digest (fun _ _ => childEnvironmentName_digest) hslash hinj,
    injOn_of_digest (fun _ _ => sanitizeK8sName_digest) hslash hinj⟩

end

example : dnsText "My_App..v2-" = "my-app-v2" := by decide

end Diverge.Environments
