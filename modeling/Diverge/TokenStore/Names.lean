import Diverge.Text.Bytes
import Mathlib.Data.Set.Function

/-! The names under which a task's token is stored: the Secret, the value of its task label and
the annotation key of a revocation. The digest is a parameter; only its first bytes are used. -/
namespace Diverge.TokenStore
open Text

abbrev Sum256 := Bytes → Vector UInt8 32

def isAlnumASCII (b : UInt8) : Bool :=
  (decide (97 ≤ b) && decide (b ≤ 122)) || (decide (65 ≤ b) && decide (b ≤ 90)) ||
    (decide (48 ≤ b) && decide (b ≤ 57))

/-- Letters, digits and `-`, `_`, `.`. -/
def isLabelCharASCII (b : UInt8) : Bool := isAlnumASCII b || b == 45 || b == 95 || b == 46

def isValidK8sLabel (s : Bytes) : Bool :=
  match s.head?,s.getLast? with
  | some first,some last =>
    decide (s.length ≤ 63) && isAlnumASCII first && isAlnumASCII last && s.all isLabelCharASCII
  | _,_ => false

def isLabelPunct (b : UInt8) : Bool := b == 45 || b == 95 || b == 46

section
variable (sum256 : Sum256)

/-- The hexadecimal text of the first bytes of the digest. -/
def shortHash (taskID : Bytes) : Bytes := hexBytes ((sum256 taskID).toList.take 8)

def taskLabelValue (taskID : Bytes) : Bytes :=
  if isValidK8sLabel taskID then taskID
  else
    let hashStr := shortHash sum256 taskID
    let cleaned := taskID.map fun b => if isLabelCharASCII b then b else 45
    let cut := cleaned.take (63 - 1 - hashStr.length)
    let trimmed := ((cut.dropWhile isLabelPunct).reverse.dropWhile isLabelPunct).reverse
    if trimmed = [] then hashStr else trimmed ++ utf8 "-" ++ hashStr

def legacyTaskLabelValue (taskID : Bytes) : Bytes :=
  if taskID.length ≤ 63 then taskID
  else
    let hashStr := shortHash sum256 taskID
    taskID.take (63 - 1 - hashStr.length) ++ utf8 "-" ++ hashStr

def secretName (taskID : Bytes) : Bytes :=
  let base := taskID ++ utf8 "-token"
  if base.length ≤ 253 then base
  else
    let hashStr := shortHash sum256 taskID
    taskID.take (253 - (utf8 "-token-").length - hashStr.length) ++ utf8 "-token-" ++ hashStr

def revokedIndexKey (taskID : Bytes) : Bytes :=
  utf8 "revoked.divergedev.com/" ++ hexBytes ((sum256 taskID).toList.take 16)

end

def tokenIndexSecretName : Bytes := utf8 "diverge-agenttask-tokens"

/-- The digest tells the task ids in use apart by the bytes that names are made of. -/
def CollisionFree (sum256 : Sum256) (tasks : Set Bytes) : Prop :=
  Set.InjOn (fun t => (sum256 t).toList.take 8) tasks

section
variable {sum256 : Sum256}

@[simp] lemma shortHash_length (taskID : Bytes) : (shortHash sum256 taskID).length = 16 := by
  simp [shortHash]

lemma shortHash_ne_nil (taskID : Bytes) : shortHash sum256 taskID ≠ [] :=
  List.ne_nil_of_length_pos (by simp)

lemma taskLabelValue_ne_nil (taskID : Bytes) : taskLabelValue sum256 taskID ≠ [] := by
  have hvalid : isValidK8sLabel [] = false := rfl
  unfold taskLabelValue
  split_ifs with h
  · rintro rfl
    rw [hvalid] at h
    contradiction
  · dsimp only
    split_ifs
    · exact shortHash_ne_nil taskID
    · exact List.append_ne_nil_of_right_ne_nil _ (shortHash_ne_nil taskID)

lemma shortHash_getLast_ne (taskID : Bytes) : (shortHash sum256 taskID).getLast? ≠ some 110 := by
  intro h
  rcases hexBytes_mem (List.mem_of_getLast? h) with h | h
  · exact absurd h (by decide)
  · exact absurd h.2 (by decide)

variable {taskID : Bytes} {tasks : Set Bytes}

lemma secretName_short (h : (taskID ++ utf8 "-token").length ≤ 253) :
    secretName sum256 taskID = taskID ++ utf8 "-token" := by
  simp only [secretName,h,if_true]

lemma secretName_long (h : ¬(taskID ++ utf8 "-token").length ≤ 253) : secretName sum256 taskID =
      taskID.take 230 ++ utf8 "-token-" ++ shortHash sum256 taskID := by
  simp only [secretName,h,if_false,shortHash_length]
  rfl

lemma secretName_long_length {taskID : Bytes} (h : ¬(taskID ++ utf8 "-token").length ≤ 253) :
    (secretName sum256 taskID).length = 253 := by
  have hlen : (utf8 "-token").length = 6 := by decide
  have hlen' : (utf8 "-token-").length = 7 := by decide
  rw [secretName_long h]
  simp only [List.length_append,List.length_take,shortHash_length,hlen,hlen'] at h ⊢
  omega

lemma getLast_secretName_short {taskID : Bytes} (h : (taskID ++ utf8 "-token").length ≤ 253) :
    (secretName sum256 taskID).getLast? = some 110 := by
  rw [secretName_short h,List.getLast?_append]
  rfl

lemma getLast_secretName_long (h : ¬(taskID ++ utf8 "-token").length ≤ 253) :
    (secretName sum256 taskID).getLast? ≠ some 110 := by
  rw [secretName_long h,List.getLast?_append_of_ne_nil _ (shortHash_ne_nil taskID)]
  exact shortHash_getLast_ne taskID

theorem secretName_ne_index (taskID : Bytes) : secretName sum256 taskID ≠ tokenIndexSecretName := by
  intro he
  by_cases h : (taskID ++ utf8 "-token").length ≤ 253
  · have hl := @getLast_secretName_short sum256 taskID h
    rw [he] at hl
    exact absurd hl (by decide)
  · have hl := @secretName_long_length sum256 taskID h
    rw [he] at hl
    exact absurd hl (by decide)

theorem secretName_injOn (hcf : CollisionFree sum256 tasks) :
    Set.InjOn (secretName sum256) tasks := by
  intro t ht u hu he
  by_cases h1 : (t ++ utf8 "-token").length ≤ 253 <;>
    by_cases h2 : (u ++ utf8 "-token").length ≤ 253
  · rw [secretName_short h1,secretName_short h2] at he
    exact List.append_cancel_right he
  · exact absurd (he ▸ getLast_secretName_short h1) (getLast_secretName_long h2)
  · exact absurd (he ▸ getLast_secretName_short h2) (getLast_secretName_long h1)
  · rw [secretName_long h1,secretName_long h2] at he
    have hh := (List.append_inj' he (by simp)).2
    exact hcf ht hu (hexBytes_injective hh)

theorem revokedIndexKey_injOn (hcf : CollisionFree sum256 tasks) :
    Set.InjOn (revokedIndexKey sum256) tasks := by
  intro t ht u hu he
  have hh := hexBytes_injective (List.append_cancel_left he)
  apply hcf ht hu
  have h8 := congrArg (List.take 8) hh
  simpa [List.take_take] using h8

end

def sampleSum256 : Sum256 := fun t =>
  if t = utf8 "fix-login" then
    #v[73,12,117,20,217,67,59,67,182,61,24,157,163,117,172,55,198,131,15,12,158,210,70,40,202,58,70,
      125,33,120,56,135]
  else if t = utf8 "add-docs" then
    #v[138,28,239,97,148,13,227,243,7,16,130,196,188,165,251,72,196,141,130,222,145,16,41,134,132,
      124,10,78,253,27,166,147]
  else Vector.replicate 32 0

end Diverge.TokenStore
