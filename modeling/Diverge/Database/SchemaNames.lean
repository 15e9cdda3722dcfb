import Diverge.Environments.Names
import Diverge.Text.Collapse

/-! The names that the schema provider derives from an environment's name: the preview schema, the
role of the workloads and the Secret with the role's password. -/
namespace Diverge.Database
open Environments Kube Text TokenStore

def validSchemaName (s : String) : Bool :=
  s.toList.head?.any isLowerAlnum && s.toList.all fun c => isLowerAlnum c || c == '_' || c == '-'

def errInvalidSchemaName : String := "invalid schema name: must match ^[a-z0-9][a-z0-9_-]*$"

def underscored (name : String) : String := toLower (replaceAll name "-" "_")

def stem (name : String) : String := trimRightChar (squeeze '_' (underscored name)) '_'

section
variable (sum256 : Sum256)

@[irreducible] def sanitizeEnvName (name : String) : Except String String :=
  if underscored name = "" ∨ validSchemaName (underscored name) = false then .error errInvalidSchemaName
  else if 55 < (stem name).toList.length then
    .ok (trimRightChar (cut (stem name) 45) '_' ++ "__" ++ digest8 sum256 (toLower name))
  else .ok (stem name)

def previewSchema (envName : String) : String := "preview_" ++ envName

def safeRoleName (schema : String) : String :=
  if ("diverge_preview_" ++ schema).toList.length ≤ 63 then "diverge_preview_" ++ schema
  else "diverge_preview_" ++ cut schema 38 ++ "_" ++ digest8 sum256 schema

def rolePasswordSecretName (roleName : String) : String :=
  let s := toLower (replaceAll roleName "_" "-")
  if ("diverge-db-role-" ++ s).toList.length ≤ 63 then "diverge-db-role-" ++ s
  else trimRightChar ("diverge-db-role-" ++ cut s 38) '-' ++ "-" ++ digest8 sum256 roleName

end

section

def schemaOf (sum256 : Sum256) (name : String) : String :=
  previewSchema (if 55 < (stem name).toList.length then
    trimRightChar (cut (stem name) 45) '_' ++ "__" ++ digest8 sum256 (toLower name) else stem name)

variable {sum256 : Sum256}

def accepted (name : String) : Bool := decide (underscored name ≠ "") && validSchemaName (underscored name)

variable {name : String}

lemma sanitizeEnvName_of_accepted (sum256 : Sum256) (h : accepted name = true) :
    (sanitizeEnvName sum256 name).map previewSchema = .ok (schemaOf sum256 name) := by
  simp only [accepted,Bool.and_eq_true,decide_eq_true_eq] at h
  unfold sanitizeEnvName schemaOf
  rw [if_neg (by simp [h.1,h.2])]
  split_ifs <;> rfl

lemma sanitizeEnvName_of_not_accepted (h : accepted name = false) :
    sanitizeEnvName sum256 name = .error errInvalidSchemaName := by
  simp only [accepted,Bool.and_eq_false_iff,decide_eq_false_iff_not,not_not] at h
  rw [sanitizeEnvName,if_pos h]

lemma length_le_trimRightChar {s : String} {c : Char} (h : Collapsed c s.toList) :
    s.toList.length ≤ (trimRightChar s c).toList.length + 1 := by
  rw [trimRightChar,String.toList_ofList,List.length_reverse]
  rw [← List.length_reverse]
  have hrev : Collapsed c s.toList.reverse := fun hi => h (by
    rw [← List.reverse_infix]
    exact hi)
  generalize s.toList.reverse = cs at hrev
  cases cs with
  | nil => simp
  | cons a cs =>
    by_cases ha : a = c
    · subst ha
      rw [List.dropWhile_cons_of_pos (by simp)]
      cases cs with
      | nil => simp
      | cons b cs =>
        have hb : b ≠ a := by
          rintro rfl
          exact (collapsed_cons_iff.mp hrev).1 ⟨rfl,rfl⟩
        rw [List.dropWhile_cons_of_neg (by simpa using hb)]
        simp
    · rw [List.dropWhile_cons_of_neg (by simpa using ha)]
      simp

lemma stem_collapsed (name : String) : Collapsed '_' (stem name).toList := by
  refine Collapsed.of_part ?_ (trimRightChar_isPrefix _ '_').isInfix
  rw [squeeze_toList]
  exact collapsed_collapseRuns _

lemma underscored_toList (name : String) :
    (underscored name).toList = (toLower name).toList.map fun c => if c = '-' then '_' else c := by
  have hreplace : (replaceAll name "-" "_").toList = name.toList.map fun c => if c = '-' then '_' else c :=
    replaceAll_char name '-' '_'
  rw [underscored,toLower,String.toList_ofList,hreplace,toLower,String.toList_ofList,List.map_map,
    List.map_map]
  refine List.map_congr_left fun c _ => ?_
  have hdash := lowerChar_eq_iff (c := c) (d := '-') (by decide) (by decide)
  simp only [Function.comp_apply,hdash]
  split_ifs
  · decide
  · rfl

lemma stem_of_toLower_eq {name name' : String} (h : toLower name = toLower name') :
    stem name = stem name' := by
  have hunder : underscored name = underscored name' := by
    rw [← String.toList_inj,underscored_toList,underscored_toList,h]
  rw [stem,stem,hunder]

/-- Two names have one schema: the same text, which is short or comes from the same name. -/
def SameSchema (name name' : String) : Prop :=
  stem name = stem name' ∧ ((stem name).toList.length ≤ 55 ∨ toLower name = toLower name')

lemma not_collapsed_long (xs ys : List Char) : ¬Collapsed '_' (xs ++ '_' :: '_' :: ys) :=
  fun h => h ⟨xs,ys,by simp⟩

lemma schemaOf_toList_long (sum256 : Sum256) (h : 55 < (stem name).toList.length) :
    (schemaOf sum256 name).toList = "preview_".toList ++
      ((trimRightChar (cut (stem name) 45) '_').toList ++ '_' :: '_' ::
        (digest8 sum256 (toLower name)).toList) := by
  rw [schemaOf,if_pos h,previewSchema]
  simp

lemma schemaOf_toList_short (sum256 : Sum256) (h : ¬55 < (stem name).toList.length) :
    (schemaOf sum256 name).toList = "preview_".toList ++ (stem name).toList := by
  rw [schemaOf,if_neg h,previewSchema,String.toList_append]

theorem schemaOf_eq_iff {name name' : String}
    (hinj : digest8 sum256 (toLower name) = digest8 sum256 (toLower name') →
      toLower name = toLower name') :
    schemaOf sum256 name = schemaOf sum256 name' ↔ SameSchema name name' := by
  unfold SameSchema
  by_cases hl : 55 < (stem name).toList.length
  · constructor
    · intro h
      rw [← String.toList_inj,schemaOf_toList_long sum256 hl] at h
      by_cases hl' : 55 < (stem name').toList.length
      · rw [schemaOf_toList_long sum256 hl'] at h
        have hends := (List.append_inj' (List.append_cancel_left h) (by simp)).2
        have hdigest := (List.cons_eq_cons.mp (List.cons_eq_cons.mp hends).2).2
        have hlower := hinj (String.toList_inj.mp hdigest)
        exact ⟨stem_of_toLower_eq hlower,.inr hlower⟩
      · rw [schemaOf_toList_short sum256 hl'] at h
        have hstem := stem_collapsed name'
        rw [← List.append_cancel_left h] at hstem
        exact absurd hstem (not_collapsed_long _ _)
    · rintro ⟨hstem,hshort | hlower⟩
      · omega
      · rw [schemaOf,schemaOf,hstem,hlower]
  · constructor
    · intro h
      rw [← String.toList_inj,schemaOf_toList_short sum256 hl] at h
      by_cases hl' : 55 < (stem name').toList.length
      · rw [schemaOf_toList_long sum256 hl'] at h
        have hstem := stem_collapsed name
        rw [List.append_cancel_left h] at hstem
        exact absurd hstem (not_collapsed_long _ _)
      · rw [schemaOf_toList_short sum256 hl'] at h
        exact ⟨String.toList_inj.mp (List.append_cancel_left h),.inl (by omega)⟩
    · rintro ⟨hstem,-⟩
      rw [schemaOf,schemaOf,← hstem,if_neg hl,if_neg hl]

variable {name : String} {schema : String}

lemma schemaOf_long (sum256 : Sum256) (h : 39 < (stem name).toList.length) :
    47 < (schemaOf sum256 name).toList.length ∧
      (schemaOf sum256 name).toList.take 38 = "preview_".toList ++ (stem name).toList.take 30 := by
  have htake (cs : List Char) : ("preview_".toList ++ cs).take 38 = "preview_".toList ++ cs.take 30 := rfl
  by_cases hl : 55 < (stem name).toList.length
  · have hcut : (cut (stem name) 45).toList = (stem name).toList.take 45 := by simp [cut]
    have hcollapsed : Collapsed '_' (cut (stem name) 45).toList :=
      (stem_collapsed name).of_part (by rw [hcut]; exact (List.take_prefix _ _).isInfix)
    have hlength := length_le_trimRightChar hcollapsed
    rw [hcut,List.length_take] at hlength
    obtain ⟨rest,hrest⟩ := trimRightChar_isPrefix (cut (stem name) 45) '_'
    rw [hcut] at hrest
    rw [schemaOf_toList_long sum256 hl]
    constructor
    · simp only [List.length_append,List.length_cons]
      have hpre : "preview_".toList.length = 8 := rfl
      omega
    · rw [htake,List.take_append_of_le_length (by omega)]
      have hsame : (stem name).toList.take 30 = ((stem name).toList.take 45).take 30 := by
        rw [List.take_take]
        rfl
      rw [hsame,← hrest,List.take_append_of_le_length (by omega)]
  · rw [schemaOf_toList_short sum256 hl,htake]
    refine ⟨?_,rfl⟩
    rw [List.length_append]
    have hpre : "preview_".toList.length = 8 := rfl
    omega

lemma schemaOf_short (sum256 : Sum256) (h : (stem name).toList.length ≤ 39) :
    (schemaOf sum256 name).toList = "preview_".toList ++ (stem name).toList ∧
      (schemaOf sum256 name).toList.length ≤ 47 := by
  have htext := schemaOf_toList_short sum256 (not_lt.mpr (by omega : (stem name).toList.length ≤ 55))
  refine ⟨htext,?_⟩
  rw [htext,List.length_append]
  have hpre : "preview_".toList.length = 8 := rfl
  omega

lemma safeRoleName_toList_short (h : schema.toList.length ≤ 47) :
    (safeRoleName sum256 schema).toList = "diverge_preview_".toList ++ schema.toList := by
  have hpre : "diverge_preview_".toList.length = 16 := rfl
  rw [safeRoleName,if_pos (by rw [String.toList_append,List.length_append]; omega),String.toList_append]

lemma safeRoleName_toList_long (h : 47 < schema.toList.length) :
    (safeRoleName sum256 schema).toList = "diverge_preview_".toList ++
      (schema.toList.take 38 ++ '_' :: (digest8 sum256 schema).toList) := by
  have hpre : "diverge_preview_".toList.length = 16 := rfl
  rw [safeRoleName,if_neg (by rw [String.toList_append,List.length_append]; omega)]
  simp [cut]

/-- A short name that is the cut text of a long one, with the digest of its schema. -/
def Crosses (sum256 : Sum256) (name long : String) : Prop :=
  (stem name).toList.length ≤ 39 ∧ 39 < (stem long).toList.length ∧
    stem name = cut (stem long) 30 ++ "_" ++ digest8 sum256 (schemaOf sum256 long)

lemma safeRoleName_eq_iff_crosses {name long : String} (h : (stem name).toList.length ≤ 39)
    (hl : 39 < (stem long).toList.length) :
    safeRoleName sum256 (schemaOf sum256 name) = safeRoleName sum256 (schemaOf sum256 long) ↔
      Crosses sum256 name long := by
  obtain ⟨htext,hshort⟩ := schemaOf_short sum256 h
  obtain ⟨hlong,htake⟩ := schemaOf_long sum256 hl
  rw [← String.toList_inj,safeRoleName_toList_short hshort,safeRoleName_toList_long hlong,htext,htake,
    List.append_assoc,List.append_cancel_left_eq,List.append_cancel_left_eq,Crosses,← String.toList_inj]
  simp [h,hl,cut]

theorem safeRoleName_eq_iff (sum256 : Sum256) (name name' : String)
    (hinj : digest8 sum256 (schemaOf sum256 name) = digest8 sum256 (schemaOf sum256 name') →
      schemaOf sum256 name = schemaOf sum256 name') :
    safeRoleName sum256 (schemaOf sum256 name) = safeRoleName sum256 (schemaOf sum256 name') ↔
      schemaOf sum256 name = schemaOf sum256 name' ∨ Crosses sum256 name name' ∨
        Crosses sum256 name' name := by
  constructor
  · intro h
    by_cases hs : (stem name).toList.length ≤ 39
    · by_cases hs' : (stem name').toList.length ≤ 39
      · rw [← String.toList_inj,safeRoleName_toList_short (schemaOf_short sum256 hs).2,
          safeRoleName_toList_short (schemaOf_short sum256 hs').2] at h
        exact .inl (String.toList_inj.mp (List.append_cancel_left h))
      · exact .inr (.inl ((safeRoleName_eq_iff_crosses hs (by omega)).mp h))
    · by_cases hs' : (stem name').toList.length ≤ 39
      · exact .inr (.inr ((safeRoleName_eq_iff_crosses hs' (by omega)).mp h.symm))
      · rw [← String.toList_inj,safeRoleName_toList_long (schemaOf_long sum256 (by omega)).1,
          safeRoleName_toList_long (schemaOf_long sum256 (by omega)).1] at h
        have hends := (List.append_inj' (List.append_cancel_left h) (by simp)).2
        exact .inl (hinj (String.toList_inj.mp (List.cons_eq_cons.mp hends).2))
  · rintro (h | h | h)
    · rw [h]
    · exact (safeRoleName_eq_iff_crosses h.1 h.2.1).mpr h
    · exact ((safeRoleName_eq_iff_crosses h.1 h.2.1).mpr h).symm

end

variable (sum256 : Sum256)

end Diverge.Database
