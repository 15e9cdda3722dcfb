import Diverge.TokenStore.Views

/-! The store under any faults: a save that reports success has saved, and a token that is active is
read exactly when both reads go through. -/
namespace Diverge.TokenStore
open Text Kube

section
variable {sum256 : Sum256} {t n : Bytes}

/-- The index has the token of a task, without a mark against it. -/
def Entered (sum256 : Sum256) (objects : ObjectKey → Option Secret) (t n token : Bytes) : Prop :=
  indexData objects t n = some token ∧ indexMark sum256 objects t n = false

lemma entered_update (objects : ObjectKey → Option Secret) (idx : Secret) (token : Bytes) :
    Entered sum256 (Function.update objects (indexKey n) (some (editEntry sum256 idx t (some token) none))) t n
      token := by
  constructor
  · simp [indexData,editEntry]
  · simp only [indexMark,Function.update_self,Option.any_some,editEntry]
    exact isTrue_of_missing (Function.update_self _ _ _)

lemma upsertAttempt_spec (token : Bytes) (w : World) :
    (∀ key, key ≠ indexKey n → (upsertAttempt sum256 t n token w).2.objects key = w.objects key) ∧
      ((upsertAttempt sum256 t n token w).1 = .ok () →
        Entered sum256 (upsertAttempt sum256 t n token w).2.objects t n token) := by
  have hframe {objects : ObjectKey → Option Secret} {idx : Option Secret}
      (h : objects = w.objects ∨ objects = Function.update w.objects (indexKey n) idx) :
      ∀ key, key ≠ indexKey n → objects key = w.objects key := by
    rintro key hkey
    rcases h with rfl | rfl
    · rfl
    · exact Function.update_of_ne hkey _ _
  unfold upsertAttempt
  rcases get_cases (indexKey n) w with ⟨-,-,hg⟩ | ⟨-,idx,-,hg⟩ | ⟨-,hg | ⟨m,hg⟩⟩
  · rw [hg]
    rcases create_cases (indexKey n) (editEntry sum256 blankIndex t (some token) none)
      ⟨w.objects,w.script.tail⟩ with ⟨-,hc⟩ | hc | ⟨f,objects,hc,hobj⟩
    · simp only [hc]
      exact ⟨hframe (.inr rfl),fun _ => entered_update _ _ _⟩
    · simp [hc]
    · have hsame := hframe (hobj.imp_right And.right)
      cases f with
      | conflict | other m =>
        simp only [hc,Failure.toError]
        exact ⟨hsame,by simp⟩
  · rw [hg]
    rcases update_cases (indexKey n) (editEntry sum256 idx t (some token) none)
      ⟨w.objects,w.script.tail⟩ with hu | ⟨e,objects,hu,hobj⟩
    · simp only [hu]
      exact ⟨hframe (.inr rfl),fun _ => entered_update _ _ _⟩
    · simp only [hu]
      exact ⟨hframe hobj,by simp⟩
  · simp [hg]
  · simp [hg]

variable {token : Bytes} {w w' : World}

lemma upsertTokenIndex_ok (h : upsertTokenIndex sum256 t n token w = (.ok (),w')) :
    (∀ key, key ≠ indexKey n → w'.objects key = w.objects key) ∧ Entered sum256 w'.objects t n token := by
  have hrule := retryOnConflict_rule StoreError.isConflict (upsertAttempt sum256 t n token)
    (I := fun c => ∀ key, key ≠ indexKey n → c.objects key = w.objects key)
    (Q := fun res c => res = .ok () → Entered sum256 c.objects t n token)
    (fun c hc => ⟨fun key hkey => ((upsertAttempt_spec token c).1 key hkey).trans (hc key hkey),
      (upsertAttempt_spec token c).2⟩) indexRetries w fun _ _ => rfl
  rw [upsertTokenIndex] at h
  rw [h] at hrule
  exact ⟨hrule.1,hrule.2 rfl⟩

theorem saveToken_ok (h : saveToken sum256 t n token w = (.ok (),w')) :
    Represents sum256 w'.objects t n (.active token) := by
  have hstored (old : Option Secret) {script : List Fault}
      (h : upsertTokenIndex sum256 t n token ⟨Function.update w.objects (secretKey sum256 t n)
        (some (savedSecret sum256 old t token)),script⟩ = (.ok (),w')) :
      Represents sum256 w'.objects t n (.active token) := by
    obtain ⟨hframe,hentered⟩ := upsertTokenIndex_ok h
    have hsecret := (hframe (secretKey sum256 t n) secretKey_ne_indexKey).trans (Function.update_self _ _ _)
    exact ⟨⟨_,hsecret,owned_savedSecret old token,savedSecret_not_revoked old token,savedSecret_token old token⟩,
      hentered⟩
  unfold saveToken at h
  rcases get_cases (secretKey sum256 t n) w with ⟨-,-,hg⟩ | ⟨-,sec,-,hg⟩ | ⟨-,hg | ⟨m,hg⟩⟩
  · rw [hg] at h
    rcases create_cases (secretKey sum256 t n) (newSecret sum256 t token) ⟨w.objects,w.script.tail⟩ with
      ⟨-,hc⟩ | hc | ⟨f,objects,hc,-⟩
    · simp only [hc] at h
      exact hstored none h
    · simp [hc] at h
    · simp [hc] at h
  · rw [hg] at h
    dsimp only at h
    split_ifs at h
    · simp at h
    · rcases update_cases (secretKey sum256 t n) (resavedSecret sum256 sec t token)
        ⟨w.objects,w.script.tail⟩ with hu | ⟨e,objects,hu,-⟩
      · simp only [hu] at h
        exact hstored (some sec) h
      · simp [hu] at h
  · rw [hg] at h
    simp at h
  · rw [hg] at h
    simp at h

end

variable {sum256 : Sum256} {t n token : Bytes} {w : World}

def readsPass (script : List Fault) : Bool := passesNext script && passesNext script.tail

lemma isRevokedInIndex_answers (w : World) : (isRevokedInIndex sum256 t n w).2.objects = w.objects ∧
      (passesNext w.script = true → (isRevokedInIndex sum256 t n w).1 = .ok (indexMark sum256 w.objects t n)) ∧
      (passesNext w.script = false → ∃ e, (isRevokedInIndex sum256 t n w).1 = .error e) := by
  unfold isRevokedInIndex
  rcases get_cases (indexKey n) w with ⟨hp,hn,hg⟩ | ⟨hp,idx,hi,hg⟩ | ⟨hp,hg | ⟨m,hg⟩⟩
  · rw [hg]
    exact ⟨rfl,by simp [indexMark,hn],by simp [hp]⟩
  · rw [hg]
    exact ⟨rfl,by simp [indexMark,hi],by simp [hp]⟩
  · rw [hg]
    exact ⟨rfl,by simp [hp],by simp⟩
  · rw [hg]
    exact ⟨rfl,by simp [hp],by simp⟩

theorem getToken_active (h : Represents sum256 w.objects t n (.active token)) (hne : token ≠ []) :
    (getToken sum256 false t n w).2.objects = w.objects ∧
      (readsPass w.script = true → (getToken sum256 false t n w).1 = .ok token) ∧
      (readsPass w.script = false → ∃ e, (getToken sum256 false t n w).1 = .error e) := by
  obtain ⟨⟨sec,hs,hown,hrev,htok⟩,-,hmark⟩ := h
  have hread : readToken sec.data tokenField = .ok token := by simp [readToken,lookup,htok,hne]
  unfold getToken readsPass
  rcases get_cases (secretKey sum256 t n) w with ⟨-,hn,-⟩ | ⟨hp,sec',hs',hg⟩ | ⟨hp,hg | ⟨m,hg⟩⟩
  · rw [hs] at hn
    cases hn
  · obtain rfl : sec = sec' := Option.some.inj (hs.symm.trans hs')
    obtain ⟨hobjects,hpass,hfail⟩ :=
      @isRevokedInIndex_answers sum256 t n ⟨w.objects,w.script.tail⟩
    simp only [hg,hp,matchesTaskLabel_of_owned hown,hrev,Bool.true_and,if_false,Bool.true_eq_false,
      Bool.false_eq_true]
    rcases hindex : isRevokedInIndex sum256 t n ⟨w.objects,w.script.tail⟩ with ⟨e | revoked,w'⟩
    · rw [hindex] at hobjects hpass
      refine ⟨hobjects,fun htail => ?_,fun _ => ⟨e,rfl⟩⟩
      cases hpass htail
    · rw [hindex] at hobjects hpass hfail
      refine ⟨?_,fun htail => ?_,fun htail => ?_⟩
      · cases revoked <;> exact hobjects
      · have hrevoked : revoked = false := (Except.ok.inj (hpass htail)).trans hmark
        rw [hrevoked]
        exact hread
      · obtain ⟨e,he⟩ := hfail htail
        cases he
  · simp [hg,hp]
  · simp [hg,hp]

/-- A token whose save reported success, whatever failed on the way, is what a read returns whose
calls go through; no other read returns a token. -/
theorem saved_token_read_back (h : (saveToken sum256 t n token w).1 = .ok ()) (hne : token ≠ [])
    (script : List Fault) : (getToken sum256 false t n ⟨(saveToken sum256 t n token w).2.objects,script⟩).1.toOption =
      if readsPass script then some token else none := by
  have hsaved := saveToken_ok (Prod.ext h rfl : saveToken sum256 t n token w = (.ok (),_))
  obtain ⟨-,hpass,hfail⟩ := @getToken_active _ _ _ _ ⟨_,script⟩ hsaved hne
  split_ifs with hreads
  · rw [hpass hreads]
    rfl
  · obtain ⟨e,he⟩ := hfail (Bool.eq_false_iff.mpr hreads)
    rw [he]
    rfl

theorem token_read_back_after_conflict : (getToken (fun _ => .replicate 32 0) false [1] [2]
    ⟨(saveToken (fun _ => .replicate 32 0) [1] [2] [3]
      ⟨fun _ => none,[.pass,.pass,.pass,.fail .conflict]⟩).2.objects,[]⟩).1.toOption = some [3] :=
  saved_token_read_back (by decide +kernel) (by decide) []

end Diverge.TokenStore
