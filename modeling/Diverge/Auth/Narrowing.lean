import Diverge.Auth.Models

/-! When a model pattern that counts as narrower accepts no more models than the wider one. -/
namespace Diverge.Auth
open Text Glob

section

def Plain (text : List Char) : Prop := ∀ c ∈ text, c ≠ '*' ∧ c ≠ '?' ∧ c ≠ '[' ∧ c ≠ '\\'

lemma Plain.subset {text part : List Char} (h : Plain text) (hsub : part ⊆ text) : Plain part :=
  fun c hc => h c (hsub hc)

variable {s : String}

lemma containsAny_meta_iff : containsAny s "*?[\\" = false ↔ Plain s.toList := by
  simp [containsAny,Plain]

lemma lowerChar_meta {c : Char} (h : c = '*' ∨ c = '?' ∨ c = '[' ∨ c = '\\') : lowerChar c = c := by
  rcases h with rfl | rfl | rfl | rfl <;> decide

lemma plain_of_toLower (h : Plain (toLower s).toList) : Plain s.toList := by
  intro c hc
  have hlower : lowerChar c ∈ (toLower s).toList := by
    rw [toLower,String.toList_ofList]
    exact List.mem_map_of_mem hc
  have hplain := h _ hlower
  by_contra hmeta
  rw [lowerChar_meta (by simpa only [ne_eq,not_and_or,not_not] using hmeta)] at hplain
  exact hmeta hplain

lemma hasSuffix_star_iff : hasSuffix s "*" = true ↔ ∃ pre, s.toList = pre ++ ['*'] := by
  rw [hasSuffix,List.isSuffixOf_iff_suffix]
  exact ⟨fun ⟨pre,h⟩ => ⟨pre,h.symm⟩,fun ⟨pre,h⟩ => ⟨pre,h.symm⟩⟩

lemma hasPrefix_star_iff : hasPrefix s "*" = true ↔ s.toList.head? = some '*' := by
  rw [hasPrefix,List.isPrefixOf_iff_prefix]
  cases s.toList with
  | nil => simp
  | cons c cs => simp [eq_comm]

lemma trimSuffix_star {pre : List Char} (h : s.toList = pre ++ ['*']) : (trimSuffix s "*").toList = pre := by
  rw [trimSuffix,if_pos (hasSuffix_star_iff.mpr ⟨pre,h⟩),String.toList_ofList,h]
  simp

lemma toList_eq_stars (s : String) :
    ∃ j k, s.toList = List.replicate j '*' ++ (trimChar s '*').toList ++ List.replicate k '*' := by
  have hdrop : ∀ cs : List Char, ∃ j, cs = List.replicate j '*' ++ cs.dropWhile (· == '*') := by
    intro cs
    induction cs with
    | nil => exact ⟨0,rfl⟩
    | cons c cs ih =>
      by_cases hc : c = '*'
      · obtain ⟨j,hj⟩ := ih
        refine ⟨j + 1,?_⟩
        rw [List.dropWhile_cons_of_pos (by simp [hc]),List.replicate_succ,List.cons_append,← hj,hc]
      · exact ⟨0,by rw [List.dropWhile_cons_of_neg (by simp [hc])]; rfl⟩
  obtain ⟨j,hj⟩ := hdrop s.toList
  obtain ⟨k,hk⟩ := hdrop (s.toList.dropWhile (· == '*')).reverse
  refine ⟨j,k,?_⟩
  have hback := congrArg List.reverse hk
  rw [List.reverse_reverse,List.reverse_append,List.reverse_replicate] at hback
  rw [trimChar,String.toList_ofList,List.append_assoc,← hback]
  exact hj

end

section
variable {pattern model : String}

lemma matches_of_plain (h : Plain pattern.toList) : Matches pattern model ↔ pattern = model := by
  have hparse := parse_glyphs pattern.toList (fun hb => (h _ hb).2.2.1 rfl) fun he => (h _ he).2.2.2 rfl
  rw [matches_iff,hparse]
  have hliteral := matchTerms_literal_append (fun c hc => ⟨(h c hc).1,(h c hc).2.1⟩) [] model.toList
  rw [List.append_nil] at hliteral
  constructor
  · rintro ⟨p,hp,hmatch⟩
    rw [← Option.some.inj hp] at hmatch
    obtain ⟨rest,hrest,hnil⟩ := hliteral.mp hmatch
    rw [(matchTerms_nil rest).mp hnil,List.append_nil] at hrest
    exact (String.toList_inj.mp hrest).symm
  · rintro rfl
    exact ⟨_,rfl,hliteral.mpr ⟨[],by simp,by simp⟩⟩

lemma shape_of_plain (h : Plain pattern.toList) : matchesModelShape pattern model = true ↔ pattern = model := by
  have hsuffix : hasSuffix pattern "*" = false := by
    rw [Bool.eq_false_iff]
    intro hs
    obtain ⟨pre,hpre⟩ := hasSuffix_star_iff.mp hs
    exact (h '*' (by simp [hpre])).1 rfl
  rw [matchesModelShape,hsuffix]
  simp [matches_of_plain h]

lemma infix_of_shape_trailing {pre : List Char} (htext : pattern.toList = pre ++ ['*']) (hplain : Plain pre)
    (hne : pre ≠ []) (h : matchesModelShape pattern model = true) : pre <+: model.toList := by
  have hnot : hasPrefix pattern "*" = false := by
    rw [Bool.eq_false_iff]
    intro hp
    rw [hasPrefix_star_iff,htext] at hp
    cases pre with
    | nil => exact hne rfl
    | cons c cs => exact (hplain c (by simp)).1 (Option.some.inj hp)
  simp only [matchesModelShape,hnot,Bool.or_eq_true,Bool.and_eq_true,decide_eq_true_eq,Bool.false_and,
    Bool.false_eq_true,or_false] at h
  rcases h with h | h
  · obtain ⟨-,hstart⟩ := h
    rwa [hasPrefix,List.isPrefixOf_iff_prefix,trimSuffix_star htext] at hstart
  · obtain ⟨p,hp,hmatch⟩ := (matches_iff _ _).mp h
    rw [htext,parse_glyphs _ (by simpa using fun hb => (hplain _ hb).2.2.1 rfl)
      (by simpa using fun he => (hplain _ he).2.2.2 rfl),List.map_append] at hp
    rw [← Option.some.inj hp] at hmatch
    obtain ⟨rest,hrest,-⟩ := (matchTerms_literal_append (fun c hc => ⟨(hplain c hc).1,(hplain c hc).2.1⟩) _ _).mp hmatch
    exact ⟨rest,hrest.symm⟩

lemma infix_of_shape_between {part : List Char} {j k : ℕ}
    (htext : pattern.toList = List.replicate j '*' ++ part ++ List.replicate k '*') (hplain : Plain part)
    (hpart : (trimChar pattern '*').toList = part) (hstar : hasPrefix pattern "*" = true)
    (h : matchesModelShape pattern model = true) : part <:+: model.toList := by
  simp only [matchesModelShape,hstar,Bool.or_eq_true,Bool.and_eq_true,decide_eq_true_eq,Bool.not_true,
    Bool.false_eq_true,and_false,false_and,false_or,Bool.true_and] at h
  rcases h with ⟨-,h⟩ | h
  · rw [contains_iff,hpart] at h
    exact h
  · obtain ⟨p,hp,hmatch⟩ := (matches_iff _ _).mp h
    have hglyph : ∀ n, (List.replicate n '*').map glyph = List.replicate n .star := by simp [glyph]
    rw [htext,parse_glyphs _ (by simpa using fun hb => (hplain _ hb).2.2.1 rfl)
      (by simpa using fun he => (hplain _ he).2.2.2 rfl),List.map_append,List.map_append,hglyph,hglyph,
      List.append_assoc] at hp
    rw [← Option.some.inj hp] at hmatch
    obtain ⟨u,v,huv,hv⟩ := matchTerms_stars_append hmatch
    obtain ⟨rest,rfl,-⟩ := (matchTerms_literal_append (fun c hc => ⟨(hplain c hc).1,(hplain c hc).2.1⟩) _ _).mp hv
    exact ⟨u,rest,by rw [huv,List.append_assoc]⟩

/-- How a pattern of a tier is matched: a pattern of a tier names no tier itself. -/
def matchesTierPattern (pattern model : String) : Bool := matchesModelWith (fun _ => []) (fun _ _ => false) pattern model

lemma matchesAllowedModel_iff : matchesAllowedModel pattern model = true ↔
    trimSpace pattern ≠ "" ∧ trimSpace model ≠ "" ∧
    (trimSpace pattern = "*" ∨ trimSpace pattern = trimSpace model ∨
      (∃ p ∈ capabilityTierModelPatterns (toLower (trimSpace pattern)),
        matchesTierPattern p (toLower (trimSpace model)) = true) ∨
      matchesModelShape (trimSpace pattern) (trimSpace model) = true) := by
  rw [matchesAllowedModel,matchesModelWith]
  split_ifs with hempty hequal
  · exact iff_of_false not_false fun h => hempty.elim h.1 h.2.1
  · exact iff_of_true rfl ⟨fun h => hempty (.inl h),fun h => hempty (.inr h),hequal.elim .inl fun h => .inr (.inl h)⟩
  · rw [Bool.or_eq_true,List.any_eq_true]
    constructor
    · exact fun h => ⟨fun h => hempty (.inl h),fun h => hempty (.inr h),.inr (.inr h)⟩
    · rintro ⟨-,-,h | h | h⟩
      · exact absurd (.inl h) hequal
      · exact absurd (.inr h) hequal
      · exact h

lemma matchesAllowedModel_congr {pattern' model' : String} (hp : trimSpace pattern = trimSpace pattern')
    (hm : trimSpace model = trimSpace model') :
    matchesAllowedModel pattern model = matchesAllowedModel pattern' model' := by
  simp only [matchesAllowedModel,matchesModelWith,hp,hm]

lemma capabilityTier_cases {tier : String} (h : capabilityTierModelPatterns tier ≠ []) :
    tier = "fast" ∨ tier = "smart" ∨ tier = "lite" := by
  unfold capabilityTierModelPatterns at h
  split_ifs at h with hf hs hl
  · exact .inl hf
  · exact .inr (.inl hs)
  · exact .inr (.inr hl)
  · exact absurd rfl h

lemma plain_of_tier (h : capabilityTierModelPatterns (toLower pattern) ≠ []) : Plain pattern.toList := by
  apply plain_of_toLower
  rcases capabilityTier_cases h with h | h | h <;> rw [h] <;> simp [Plain]

lemma narrows_iff {existing candidate : String} : allowedModelPatternNarrows existing candidate = true ↔
    trimSpace existing ≠ "" ∧ trimSpace candidate ≠ "" ∧
    (trimSpace existing = trimSpace candidate ∨ trimSpace existing = "*" ∨
      (Plain (trimSpace candidate).toList ∧ matchesAllowedModel existing candidate = true) ∨
      ∃ ep cp,(trimSpace existing).toList = ep ++ ['*'] ∧ (trimSpace candidate).toList = cp ++ ['*'] ∧
        Plain ep ∧ Plain cp ∧ ep <+: cp) := by
  have htrim : matchesAllowedModel (trimSpace existing) (trimSpace candidate) = matchesAllowedModel existing candidate :=
    matchesAllowedModel_congr (by simp) (by simp)
  have hnot : ∀ {cp}, (trimSpace candidate).toList = cp ++ ['*'] → ¬Plain (trimSpace candidate).toList :=
    fun h hplain => (hplain '*' (by simp [h])).1 rfl
  rw [allowedModelPatternNarrows]
  split_ifs with hempty hequal hplain
  · exact iff_of_false not_false fun h => hempty.elim h.1 h.2.1
  · exact iff_of_true rfl ⟨fun h => hempty (.inl h),fun h => hempty (.inr h),hequal.elim .inl fun h => .inr (.inl h)⟩
  · rw [Bool.not_eq_true',containsAny_meta_iff] at hplain
    rw [htrim]
    constructor
    · intro h
      exact ⟨fun he => hempty (.inl he),fun hc => hempty (.inr hc),.inr (.inr (.inl ⟨hplain,h⟩))⟩
    · rintro ⟨-,-,h | h | ⟨-,h⟩ | ⟨ep,cp,-,hcp,-⟩⟩
      · exact absurd (.inl h) hequal
      · exact absurd (.inr h) hequal
      · exact h
      · exact absurd hplain (hnot hcp)
  · rw [Bool.not_eq_true',containsAny_meta_iff] at hplain
    constructor
    · intro h
      refine ⟨fun he => hempty (.inl he),fun hc => hempty (.inr hc),.inr (.inr (.inr ?_))⟩
      unfold cutSuffix at h
      by_cases hs : hasSuffix (trimSpace existing) "*" = true
      · by_cases ht : hasSuffix (trimSpace candidate) "*" = true
        · obtain ⟨ep,hep⟩ := hasSuffix_star_iff.mp hs
          obtain ⟨cp,hcp⟩ := hasSuffix_star_iff.mp ht
          simp only [hs,ht,if_true,Bool.and_eq_true,Bool.not_eq_true',containsAny_meta_iff,hasPrefix,
            List.isPrefixOf_iff_prefix,trimSuffix_star hep,trimSuffix_star hcp] at h
          exact ⟨ep,cp,hep,hcp,h.1.1,h.1.2,h.2⟩
        · simp [hs,ht] at h
      · simp [hs] at h
    · rintro ⟨-,-,h | h | ⟨h,-⟩ | ⟨ep,cp,hep,hcp,hplain_e,hplain_c,hpre⟩⟩
      · exact absurd (.inl h) hequal
      · exact absurd (.inr h) hequal
      · exact absurd h hplain
      · simp only [cutSuffix,hasSuffix_star_iff.mpr ⟨ep,hep⟩,hasSuffix_star_iff.mpr ⟨cp,hcp⟩,if_true,Bool.and_eq_true,
          Bool.not_eq_true',containsAny_meta_iff,hasPrefix,List.isPrefixOf_iff_prefix,trimSuffix_star hep,
          trimSuffix_star hcp]
        exact ⟨⟨hplain_e,hplain_c⟩,hpre⟩

variable {existing candidate : String}

/-- The text is made of stars and accepts every name: two stars are a glob that stops at the separator. -/
def OnlyStars (text : String) : Prop := (∀ c ∈ text.toList, c = '*') ∧ text.length ≠ 2

lemma onlyStars_star : OnlyStars "*" := ⟨fun _ hc => List.mem_singleton.mp hc,by decide⟩

instance (text : String) : Decidable (OnlyStars text) := inferInstanceAs (Decidable (_ ∧ _))

lemma shape_of_stars {n : ℕ} (htext : existing.toList = List.replicate (n + 3) '*') :
    matchesModelShape existing model = true := by
  have hlen : existing.length = n + 3 := by
    rw [← String.length_toList,htext,List.length_replicate]
  have hstart : hasPrefix existing "*" = true := by
    rw [hasPrefix_star_iff,htext]
    rfl
  have hsuffix : hasSuffix existing "*" = true := by
    refine hasSuffix_star_iff.mpr ⟨List.replicate (n + 2) '*',?_⟩
    rw [← List.replicate_succ']
    exact htext
  have hpart : contains model (trimChar existing '*') = true := by
    have hdrop : (List.replicate (n + 3) '*').dropWhile (· == '*') = [] :=
      List.dropWhile_eq_nil_iff.mpr fun c hc => by simp [List.eq_of_mem_replicate hc]
    rw [contains_iff,trimChar,String.toList_ofList,htext,hdrop]
    exact List.nil_infix
  have htwo : 2 < existing.length := by omega
  simp only [matchesModelShape,hstart,hsuffix,hpart,decide_eq_true htwo,Bool.and_self,Bool.or_true,Bool.true_or]

lemma accepts_of_onlyStars (hstars : OnlyStars (trimSpace existing)) (he : trimSpace existing ≠ "")
    (hm : trimSpace model ≠ "") : matchesAllowedModel existing model = true := by
  refine matchesAllowedModel_iff.mpr ⟨he,hm,?_⟩
  obtain ⟨hall,htwo⟩ := hstars
  have htext : (trimSpace existing).toList = List.replicate (trimSpace existing).length '*' := by
    rw [← String.length_toList]
    exact List.eq_replicate_of_mem hall
  generalize (trimSpace existing).length = n at htext htwo
  match n,htext,htwo with
  | 0,htext,_ => exact absurd (String.toList_inj.mp htext) he
  | 1,htext,_ => exact .inl (String.toList_inj.mp htext)
  | 2,_,htwo => exact absurd rfl htwo
  | n + 3,htext,_ => exact .inr (.inr (.inr (shape_of_stars htext)))

/-- A wider pattern in the sense of the check accepts what a narrower one accepts, unless the narrower one names a
tier. -/
lemma accepts_of_narrows (htier : capabilityTierModelPatterns (toLower (trimSpace candidate)) = [])
    (hnarrows : allowedModelPatternNarrows existing candidate = true)
    (hmodel : matchesAllowedModel candidate model = true) : matchesAllowedModel existing model = true := by
  obtain ⟨he,hc,h⟩ := narrows_iff.mp hnarrows
  obtain ⟨-,hm,haccept⟩ := matchesAllowedModel_iff.mp hmodel
  rw [htier] at haccept
  rcases h with h | h | ⟨hplain,h⟩ | ⟨ep,cp,hep,hcp,hplain_e,hplain_c,hpre⟩
  · rw [matchesAllowedModel_congr h rfl]
    exact hmodel
  · exact matchesAllowedModel_iff.mpr ⟨he,hm,.inl h⟩
  · have hsame : trimSpace candidate = trimSpace model := by
      rcases haccept with hstar | hsame | ⟨p,hp,-⟩ | hshape
      · exact absurd rfl (hplain '*' (by rw [hstar]; decide)).1
      · exact hsame
      · cases hp
      · exact (shape_of_plain hplain).mp hshape
    rw [matchesAllowedModel_congr rfl hsame.symm]
    exact h
  · by_cases hnil : ep = []
    · refine matchesAllowedModel_iff.mpr ⟨he,hm,.inl (String.toList_inj.mp ?_)⟩
      rw [hep,hnil]
      rfl
    · have hcpne : cp ≠ [] := fun h => hnil (List.prefix_nil.mp (h ▸ hpre))
      have hin : ep <+: (trimSpace model).toList := by
        rcases haccept with hstar | hsame | ⟨p,hp,-⟩ | hshape
        · rw [hstar] at hcp
          have hempty : [] ++ ['*'] = cp ++ ['*'] := hcp
          exact absurd (List.append_inj_left' hempty rfl).symm hcpne
        · rw [← hsame,hcp]
          exact hpre.trans (List.prefix_append _ _)
        · cases hp
        · exact hpre.trans (infix_of_shape_trailing hcp hplain_c hcpne hshape)
      have hnot : hasPrefix (trimSpace existing) "*" = false := by
        rw [Bool.eq_false_iff]
        intro hp
        rw [hasPrefix_star_iff,hep] at hp
        cases ep with
        | nil => exact hnil rfl
        | cons c cs => exact (hplain_e c (by simp)).1 (Option.some.inj hp)
      refine matchesAllowedModel_iff.mpr ⟨he,hm,.inr (.inr (.inr ?_))⟩
      have hstart : hasPrefix (trimSpace model) (trimSuffix (trimSpace existing) "*") = true := by
        rw [hasPrefix,List.isPrefixOf_iff_prefix,trimSuffix_star hep]
        exact hin
      simp only [matchesModelShape,hasSuffix_star_iff.mpr ⟨ep,hep⟩,hnot,hstart,Bool.not_false,Bool.and_self,
        Bool.true_or]

lemma accepts_of_lite (he : toLower (trimSpace existing) = "lite") (hc : toLower (trimSpace candidate) = "lite")
    (hmodel : matchesAllowedModel candidate model = true) : matchesAllowedModel existing model = true := by
  have hplain : Plain (trimSpace candidate).toList := plain_of_tier (by rw [hc]; decide)
  have hne : trimSpace existing ≠ "" := fun h => by rw [h] at he; exact absurd he (by decide)
  have hself : ∃ p ∈ capabilityTierModelPatterns "lite",matchesTierPattern p "lite" = true := by decide
  obtain ⟨-,hm,haccept⟩ := matchesAllowedModel_iff.mp hmodel
  refine matchesAllowedModel_iff.mpr ⟨hne,hm,.inr (.inr (.inl ?_))⟩
  rw [hc] at haccept
  rw [he]
  rcases haccept with hstar | hsame | h | hshape
  · exact absurd rfl (hplain '*' (by rw [hstar]; decide)).1
  · rw [← hsame,hc]
    exact hself
  · exact h
  · rw [← (shape_of_plain hplain).mp hshape,hc]
    exact hself

/-- A pattern that accepts a plain text by its shape rejects one of other characters with more
separators than it has terms. -/
lemma shape_rejects {plain other : String} (hshape : matchesModelShape existing plain = true)
    (hplain : Plain other.toList) (hdisjoint : ∀ c ∈ other.toList, c ∉ plain.toList) (hstars : ¬OnlyStars existing)
    (hcount : ∀ p, parse existing.toList = some p → p.length < other.toList.count '/') :
    matchesModelShape existing other = false := by
  have hcommon : ∀ part : List Char, part ≠ [] → part <:+: other.toList → part <:+: plain.toList → False := by
    intro part hne hother hin
    obtain ⟨c,hc⟩ := List.exists_mem_of_ne_nil part hne
    exact hdisjoint c (hother.subset hc) (hin.subset hc)
  rw [Bool.eq_false_iff]
  intro h
  unfold matchesModelShape at h
  simp only [Bool.or_eq_true,Bool.and_eq_true,Bool.not_eq_true',decide_eq_true_eq] at h
  rcases h with (⟨⟨hsuffix,hstart⟩,hother⟩ | ⟨⟨⟨hstart,hsuffix⟩,hlen⟩,hother⟩) | h
  · obtain ⟨pre,hpre⟩ := hasSuffix_star_iff.mp hsuffix
    have hne : pre ≠ [] := by
      rintro rfl
      rw [Bool.eq_false_iff] at hstart
      exact hstart (hasPrefix_star_iff.mpr (by rw [hpre]; rfl))
    rw [hasPrefix,List.isPrefixOf_iff_prefix,trimSuffix_star hpre] at hother
    exact hcommon pre hne hother.isInfix (infix_of_shape_trailing hpre (hplain.subset hother.subset) hne hshape).isInfix
  · obtain ⟨j,k,htext⟩ := toList_eq_stars existing
    rw [contains_iff] at hother
    by_cases hne : (trimChar existing '*').toList = []
    · refine hstars ⟨?_,fun h => absurd hlen (by omega)⟩
      intro c hc
      rw [htext,hne,List.append_nil,← List.replicate_add] at hc
      exact List.eq_of_mem_replicate hc
    · exact hcommon _ hne hother (infix_of_shape_between htext (hplain.subset hother.subset) rfl hstart hshape)
  · obtain ⟨p,hp,hmatch⟩ := (matches_iff _ _).mp h
    exact absurd (count_separator_le hmatch) (Nat.not_le.mpr (hcount p hp))

def deepModel (word : String) (n : ℕ) : String := String.ofList (word.toList ++ List.replicate n '/')

section
variable {word tier pattern : String} {n : ℕ}

/-- The word is lower case without wildcards and blanks, and shares no character with the tier's name. -/
def Apart (word tier : String) : Prop := '/' ∉ tier.toList ∧ Plain word.toList ∧
  ∀ c ∈ word.toList, isSpace c = false ∧ lowerChar c = c ∧ c ∉ tier.toList

lemma mem_deepModel {c : Char} (h : c ∈ (deepModel word n).toList) : c ∈ word.toList ∨ c = '/' := by
  rw [deepModel,String.toList_ofList,List.mem_append] at h
  exact h.imp_right List.eq_of_mem_replicate

lemma prefix_deepModel : word.toList <+: (deepModel word n).toList := by
  rw [deepModel,String.toList_ofList]
  exact List.prefix_append _ _

lemma Apart.deepModel (h : Apart word tier) (n : ℕ) : Apart (deepModel word n) tier := by
  obtain ⟨hslash,hplain,hword⟩ := h
  refine ⟨hslash,fun c hc => ?_,fun c hc => ?_⟩
  · rcases mem_deepModel hc with hc | rfl
    · exact hplain c hc
    · decide
  · rcases mem_deepModel hc with hc | rfl
    · exact hword c hc
    · exact ⟨by decide,by decide,hslash⟩

lemma Apart.trimSpace_eq (h : Apart word tier) : trimSpace word = word :=
  trimSpace_eq_self fun c hc => (h.2.2 c hc).1

lemma Apart.toLower_eq (h : Apart word tier) : toLower word = word := by
  have hfix : ∀ c ∈ word.toList,lowerChar c = id c := fun c hc => (h.2.2 c hc).2.1
  rw [toLower,List.map_congr_left hfix,List.map_id,String.ofList_toList]

lemma Apart.not_mem {name : String} (h : Apart word (toLower name)) {c : Char} (hc : c ∈ word.toList) :
    c ∉ name.toList := by
  intro hmem
  refine (h.2.2 c hc).2.2 ?_
  rw [← (h.2.2 c hc).2.1,toLower,String.toList_ofList]
  exact List.mem_map_of_mem hmem

lemma matchesTierPattern_of_shape (hpattern : trimSpace pattern = pattern) (hmodel : trimSpace model = model)
    (hp : pattern ≠ "") (hm : model ≠ "") (h : matchesModelShape pattern model = true) :
    matchesTierPattern pattern model = true := by
  rw [matchesTierPattern,matchesModelWith,hpattern,hmodel]
  rw [if_neg (not_or.mpr ⟨hp,hm⟩),h]
  split_ifs <;> rfl

lemma shape_deepModel_between (hends : hasPrefix pattern "*" = true ∧ hasSuffix pattern "*" = true ∧ 2 < pattern.length)
    (hword : trimChar pattern '*' = word) : matchesModelShape pattern (deepModel word n) = true := by
  have hcontains : contains (deepModel word n) word = true := contains_iff.mpr prefix_deepModel.isInfix
  simp only [matchesModelShape,hends.1,hends.2.1,hword,hcontains,decide_eq_true hends.2.2,Bool.and_self,Bool.or_true,
    Bool.true_or]

lemma shape_deepModel_trailing (hends : hasPrefix pattern "*" = false ∧ hasSuffix pattern "*" = true)
    (hword : trimSuffix pattern "*" = word) : matchesModelShape pattern (deepModel word n) = true := by
  have hstart : hasPrefix (deepModel word n) word = true := List.isPrefixOf_iff_prefix.mpr prefix_deepModel
  simp only [matchesModelShape,hends.1,hends.2,hword,hstart,Bool.not_false,Bool.and_self,Bool.true_or]

end

lemma exists_deep_model {tier : String} (htier : capabilityTierModelPatterns tier ≠ []) (n : ℕ) :
    ∃ model : String, model ≠ "" ∧ n ≤ model.toList.count '/' ∧ Apart model tier ∧
      ∃ p ∈ capabilityTierModelPatterns tier,matchesTierPattern p (toLower model) = true := by
  have hdeep : ∀ word pattern, Apart word tier → word ≠ "" → trimSpace pattern = pattern → pattern ≠ "" →
      pattern ∈ capabilityTierModelPatterns tier → matchesModelShape pattern (deepModel word n) = true →
      ∃ model : String, model ≠ "" ∧ n ≤ model.toList.count '/' ∧ Apart model tier ∧
        ∃ p ∈ capabilityTierModelPatterns tier,matchesTierPattern p (toLower model) = true := by
    intro word pattern hapart hword hpattern hp hmem hshape
    have hne : deepModel word n ≠ "" := by
      intro h
      refine hword (String.toList_inj.mp (List.prefix_nil.mp ?_))
      have hpre : word.toList <+: (deepModel word n).toList := prefix_deepModel
      rw [h] at hpre
      exact hpre
    refine ⟨deepModel word n,hne,?_,hapart.deepModel n,pattern,hmem,?_⟩
    · rw [deepModel,String.toList_ofList,List.count_append,List.count_replicate_self]
      exact Nat.le_add_left _ _
    · rw [(hapart.deepModel n).toLower_eq]
      exact matchesTierPattern_of_shape hpattern (hapart.deepModel n).trimSpace_eq hp hne hshape
  rcases capabilityTier_cases htier with rfl | rfl | rfl
  · exact hdeep "mini" "*mini*" (by simp [Apart,Plain]; decide) (by decide) (by decide) (by decide) (by decide)
      (shape_deepModel_between (by decide) (by decide))
  · exact hdeep "o1" "o1*" (by simp [Apart,Plain]; decide) (by decide) (by decide) (by decide) (by decide)
      (shape_deepModel_trailing (by decide) (by decide))
  · exact hdeep "nano" "*nano*" (by simp [Apart,Plain]; decide) (by decide) (by decide) (by decide) (by decide)
      (shape_deepModel_between (by decide) (by decide))

lemma exists_rejected (htier : capabilityTierModelPatterns (toLower (trimSpace candidate)) ≠ [])
    (hnone : capabilityTierModelPatterns (toLower (trimSpace existing)) = [])
    (hshape : matchesModelShape (trimSpace existing) (trimSpace candidate) = true)
    (hstars : ¬OnlyStars (trimSpace existing)) :
    ∃ model, matchesAllowedModel candidate model = true ∧ matchesAllowedModel existing model = false := by
  obtain ⟨model,hne,hcount,hapart,htierModel⟩ :=
    exists_deep_model htier (((parse (trimSpace existing).toList).elim 0 List.length) + 1)
  have hplain := plain_of_tier htier
  have hcandidate : trimSpace candidate ≠ "" := by
    intro h
    rw [h] at htier
    exact htier (by decide)
  have hdisjoint : ∀ c ∈ model.toList, c ∉ (trimSpace candidate).toList := fun c hc => hapart.not_mem hc
  have hterms : ∀ p, parse (trimSpace existing).toList = some p → p.length < model.toList.count '/' := by
    intro p hp
    rw [hp] at hcount
    exact hcount
  refine ⟨model,matchesAllowedModel_iff.mpr ⟨hcandidate,?_,.inr (.inr (.inl ?_))⟩,?_⟩
  · rw [hapart.trimSpace_eq]
    exact hne
  · rw [hapart.trimSpace_eq]
    exact htierModel
  · rw [Bool.eq_false_iff]
    intro h
    obtain ⟨-,-,h⟩ := matchesAllowedModel_iff.mp h
    rw [hnone,hapart.trimSpace_eq] at h
    rcases h with h | h | ⟨p,hp,-⟩ | h
    · exact hstars (h ▸ onlyStars_star)
    · -- the sample itself is a plain text, so it accepts nothing but itself
      have hsame := (shape_of_plain (by rw [h]; exact hapart.2.1)).mp hshape
      obtain ⟨c,hc⟩ := List.exists_mem_of_ne_nil model.toList fun hnil => hne (String.toList_inj.mp hnil)
      exact hdisjoint c hc (by rw [← hsame,h]; exact hc)
    · cases hp
    · rw [shape_rejects hshape hapart.2.1 hdisjoint hstars hterms] at h
      cases h

lemma tier_accepts_tier {tier tier' : String} (h : capabilityTierModelPatterns tier ≠ [])
    (h' : capabilityTierModelPatterns tier' ≠ [])
    (haccept : ∃ p ∈ capabilityTierModelPatterns tier,matchesTierPattern p tier' = true) :
    tier = "lite" ∧ tier' = "lite" := by
  rcases capabilityTier_cases h with rfl | rfl | rfl <;> rcases capabilityTier_cases h' with rfl | rfl | rfl <;>
    first | exact ⟨rfl,rfl⟩ | exact absurd haccept (by decide)

end

/-- A pattern that counts as narrower accepts no model that the wider one rejects, except where the narrower one is a
tier's name that another pattern accepts as if it were a model. -/
theorem narrowing_sound_iff (existing candidate : String) :
    (∀ model, allowedModelPatternNarrows existing candidate = true → matchesAllowedModel candidate model = true →
      matchesAllowedModel existing model = true) ↔
    capabilityTierModelPatterns (toLower (trimSpace candidate)) = [] ∨ trimSpace existing = trimSpace candidate ∨
    OnlyStars (trimSpace existing) ∨
    (toLower (trimSpace existing) = "lite" ∧ toLower (trimSpace candidate) = "lite") ∨
    matchesAllowedModel existing candidate = false := by
  constructor
  · intro hsound
    by_contra hcond
    simp only [not_or,Bool.not_eq_false] at hcond
    obtain ⟨htier,hne,hstars,hlite,haccept⟩ := hcond
    have hplain := plain_of_tier htier
    obtain ⟨he,hc,h⟩ := matchesAllowedModel_iff.mp haccept
    have hnarrows := narrows_iff.mpr ⟨he,hc,.inr (.inr (.inl ⟨hplain,haccept⟩))⟩
    by_cases hnone : capabilityTierModelPatterns (toLower (trimSpace existing)) = []
    · rw [hnone] at h
      rcases h with h | h | ⟨p,hp,-⟩ | hshape
      · exact hstars (h ▸ onlyStars_star)
      · exact hne h
      · cases hp
      · obtain ⟨model,hmodel,hreject⟩ := exists_rejected htier hnone hshape hstars
        rw [hsound model hnarrows hmodel] at hreject
        cases hreject
    · rcases h with h | h | h | hshape
      · exact hstars (h ▸ onlyStars_star)
      · exact hne h
      · exact hlite (tier_accepts_tier hnone htier h)
      · exact hne ((shape_of_plain (plain_of_tier hnone)).mp hshape)
  · intro hcond model hnarrows hmodel
    by_cases htier : capabilityTierModelPatterns (toLower (trimSpace candidate)) = []
    · exact accepts_of_narrows htier hnarrows hmodel
    obtain ⟨he,-,h⟩ := narrows_iff.mp hnarrows
    obtain ⟨-,hm,-⟩ := matchesAllowedModel_iff.mp hmodel
    rcases hcond with hnone | hsame | hstars | ⟨he',hc'⟩ | hreject
    · exact absurd hnone htier
    · rw [matchesAllowedModel_congr hsame rfl]
      exact hmodel
    · exact accepts_of_onlyStars hstars he hm
    · exact accepts_of_lite he' hc' hmodel
    · rw [hreject] at h
      rcases h with hsame | hstar | ⟨-,h⟩ | ⟨ep,cp,-,hcp,-⟩
      · rw [matchesAllowedModel_congr hsame rfl]
        exact hmodel
      · exact matchesAllowedModel_iff.mpr ⟨he,hm,.inl hstar⟩
      · cases h
      · exact absurd rfl (plain_of_tier htier '*' (by simp [hcp])).1

/-- The tier's name is a model name to the wildcard, and a list of other models as the narrower entry. -/
theorem tier_alias_widens : allowedModelPatternNarrows "fast*" "fast" = true ∧
    matchesAllowedModel "fast" "gpt-4o" = true ∧ matchesAllowedModel "fast*" "gpt-4o" = false := by
  decide

end Diverge.Auth
