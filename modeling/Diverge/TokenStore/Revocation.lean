import Diverge.TokenStore.Store
import Diverge.Transition.Runs

/-! Revocation under failing API calls. The reconciler asks first whether the token is revoked
and treats a missing Secret as done; both answers are read off the task's Secret, while the index
is written after it. -/
namespace Diverge.TokenStore
open Text Kube Transition

section
variable (sum256 : Sum256)

/-- `AgentTaskReconciler.revokeToken`, with the full store. -/
def Reconciler.revokeToken (taskID ns : Bytes) : Call ObjectKey Secret StoreError Unit := fun w =>
  match isRevoked sum256 false taskID ns w with
  | (true,w) => (.ok (),w)
  | (false,w) =>
    match TokenStore.revokeToken sum256 false taskID ns w with
    | (.error .tokenNotFound,w) => (.ok (),w)
    | (.error .tokenRevoked,w) => (.ok (),w)
    | r => r

/-- What a store answers for a task when its reads go through. -/
def view (indexOnly : Bool) (taskID ns : Bytes) (w : World) : Except StoreError Bytes :=
  (getToken sum256 indexOnly taskID ns ⟨w.objects,[]⟩).1

/-- The store turns the task's token away. -/
def Rejects (indexOnly : Bool) (taskID ns : Bytes) (w : World) : Prop :=
  view sum256 indexOnly taskID ns w = .error .tokenRevoked ∨
    view sum256 indexOnly taskID ns w = .error .tokenNotFound

instance (indexOnly : Bool) (taskID ns : Bytes) (w : World) :
    Decidable (Rejects sum256 indexOnly taskID ns w) :=
  inferInstanceAs (Decidable (_ ∨ _))

/-- The index holds a token of the task and no mark against it. -/
def IndexServes (taskID ns : Bytes) (w : World) : Prop :=
  ∃ idx, w.objects (indexKey ns) = some idx ∧
    isTrue idx.annotations (revokedIndexKey sum256 taskID) = false ∧ lookup idx.data taskID ≠ []

/-- The task's Secret is its own and carries the revoked label. -/
def SecretRevoked (taskID ns : Bytes) (w : World) : Prop :=
  ∃ sec, w.objects (secretKey sum256 taskID ns) = some sec ∧
    matchesTaskLabel sum256 sec.labels taskID = true ∧ isTrue sec.labels labelRevoked = true

/-- The calls left when `RevokeToken` reads the Secret: a first read that goes through is
followed by one of the index. -/
def revokeScript (w : World) : List Fault :=
  if passesNext w.script then w.script.tail.tail else w.script.tail

/-- A call that will report success too early: the index still serves the token, and the label is
already read as a revocation or the missing Secret is taken for a missing token. -/
def Stale (taskID ns : Bytes) (w : World) : Prop :=
  IndexServes sum256 taskID ns w ∧
    ((SecretRevoked sum256 taskID ns w ∧ passesNext w.script = true) ∨
      (w.objects (secretKey sum256 taskID ns) = none ∧ passesNext (revokeScript w) = true))

end

section
variable {sum256 : Sum256} {taskID ns : Bytes}

variable {w : World}

lemma rejects_index_iff : Rejects sum256 true taskID ns w ↔ ¬IndexServes sum256 taskID ns w := by
  unfold Rejects view getToken getTokenFromIndex IndexServes
  cases hi : w.objects (indexKey ns) with
  | none => simp [hi]
  | some idx =>
    simp only [if_true,get_quiet,hi,Option.elim_some,Option.some.injEq,exists_eq_left']
    by_cases hr : isTrue idx.annotations (revokedIndexKey sum256 taskID) = true
    · simp [hr]
    · by_cases hd : lookup idx.data taskID = []
      · simp [hr,hd,readToken]
      · simp [hr,hd,readToken]

lemma rejects_full_of_missing (h : w.objects (secretKey sum256 taskID ns) = none) :
    Rejects sum256 false taskID ns w := by
  right
  simp [view,getToken,h]

lemma rejects_full_of_revoked (h : SecretRevoked sum256 taskID ns w) : Rejects sum256 false taskID ns w := by
  obtain ⟨sec,hs,hm,hr⟩ := h
  left
  simp [view,getToken,hs,hm,hr]

lemma Rejects.ne_ok {indexOnly : Bool} (h : Rejects sum256 indexOnly taskID ns w)
    (token : Bytes) : view sum256 indexOnly taskID ns w ≠ .ok token := by
  rcases h with h | h
  all_goals
    rw [h]
    simp

lemma rejects_full_of_marked {idx : Secret} (hi : w.objects (indexKey ns) = some idx)
    (hr : isTrue idx.annotations (revokedIndexKey sum256 taskID) = true) :
    Rejects sum256 false taskID ns w := by
  cases hs : w.objects (secretKey sum256 taskID ns) with
  | none => exact rejects_full_of_missing hs
  | some sec =>
    unfold Rejects view getToken isRevokedInIndex
    by_cases hm : matchesTaskLabel sum256 sec.labels taskID = true
    · by_cases hl : isTrue sec.labels labelRevoked = true
      · simp [hs,hm,hl]
      · simp [hs,hm,hl,hi,hr]
    · simp [hs,hm]

lemma secretKey_ne_indexKey : secretKey sum256 taskID ns ≠ indexKey ns := by
  intro h
  exact secretName_ne_index taskID (congrArg Prod.snd h)

lemma lookup_update_self (m : Bytes → Option Bytes) (k v : Bytes) :
    lookup (Function.update m k (some v)) k = v := by
  simp [lookup]

lemma lookup_update_of_ne {m : Bytes → Option Bytes} {k l : Bytes} {v : Option Bytes} (h : l ≠ k) :
    lookup (Function.update m k v) l = lookup m l := by
  simp [lookup,Function.update_of_ne h]

lemma labelAgentTask_ne_labelRevoked : labelAgentTask ≠ labelRevoked := by decide

/-- The annotation of a mark, read where the index is. -/
def IndexMarked (sum256 : Sum256) (taskID ns : Bytes) (w : World) : Prop :=
  ∃ idx, w.objects (indexKey ns) = some idx ∧
    isTrue idx.annotations (revokedIndexKey sum256 taskID) = true

lemma not_serves_of_marked (h : IndexMarked sum256 taskID ns w) : ¬IndexServes sum256 taskID ns w := by
  rintro ⟨idx,hi,hf,-⟩
  obtain ⟨idx',hi',ht⟩ := h
  rw [hi,Option.some.injEq] at hi'
  rw [hi',ht] at hf
  contradiction

end

section
variable (sum256 : Sum256) (taskID ns : Bytes) (w : World)

lemma isRevokedInIndex_spec : ∃ res, isRevokedInIndex sum256 taskID ns w = (res,⟨w.objects,w.script.tail⟩) ∧
      (res = .ok true → IndexMarked sum256 taskID ns w) := by
  unfold isRevokedInIndex
  rcases get_cases (indexKey ns) w with ⟨-,-,h⟩ | ⟨-,idx,hi,h⟩ | ⟨-,h | ⟨m,h⟩⟩
  all_goals
    rw [h]
    refine ⟨_,rfl,?_⟩
    intro hres
  · simp at hres
  · exact ⟨idx,hi,Except.ok.inj hres⟩
  · simp at hres
  · simp at hres

lemma isRevoked_spec : ∃ b script, isRevoked sum256 false taskID ns w = (b,⟨w.objects,script⟩) ∧
      (b = true → (SecretRevoked sum256 taskID ns w ∧ passesNext w.script = true) ∨
        IndexMarked sum256 taskID ns w) ∧
      (SecretRevoked sum256 taskID ns w ∧ passesNext w.script = true → b = true) ∧
      (w.objects (secretKey sum256 taskID ns) = none → script = revokeScript w) := by
  obtain ⟨res,hr,hmark⟩ := isRevokedInIndex_spec sum256 taskID ns ⟨w.objects,w.script.tail⟩
  have hpositive : res.toOption.getD false = true → IndexMarked sum256 taskID ns w := by
    cases res with
    | error e => exact fun h => absurd h Bool.false_ne_true
    | ok b => exact fun h => hmark (congrArg _ h)
  unfold isRevoked checkRevoked
  rw [if_neg Bool.false_ne_true]
  rcases get_cases (secretKey sum256 taskID ns) w with ⟨hp,hs,h⟩ | ⟨hp,sec,hs,h⟩ | ⟨hp,h⟩
  · refine ⟨_,w.script.tail.tail,?_,fun hb => .inr (hpositive hb),?_,fun _ => ?_⟩
    · rw [h]
      dsimp only
      rw [hr]
      cases res <;> rfl
    · rintro ⟨⟨sec,hsec,-⟩,-⟩
      rw [hs] at hsec
      contradiction
    · rw [revokeScript,if_pos hp]
  · have hnone : ∀ script, w.objects (secretKey sum256 taskID ns) = none →
        script = revokeScript w := by
      intro script hn
      rw [hs] at hn
      contradiction
    by_cases hm : matchesTaskLabel sum256 sec.labels taskID = true
    · by_cases hl : isTrue sec.labels labelRevoked = true
      · refine ⟨true,w.script.tail,?_,fun _ => .inl ⟨⟨sec,hs,hm,hl⟩,hp⟩,fun _ => rfl,hnone _⟩
        simp [h,hm,hl]
      · refine ⟨_,w.script.tail.tail,?_,fun hb => .inr (hpositive hb),?_,hnone _⟩
        · simp only [h,hm,hl,hr,Bool.true_eq_false,Bool.false_eq_true,if_false]
          cases res <;> rfl
        · rintro ⟨⟨sec',hsec,-,hl'⟩,-⟩
          rw [hs,Option.some.injEq] at hsec
          rw [← hsec] at hl'
          exact absurd hl' hl
    · refine ⟨false,w.script.tail,?_,fun hf => absurd hf (by simp),?_,hnone _⟩
      · simp [h,hm]
      · rintro ⟨⟨sec',hsec,hm',-⟩,-⟩
        rw [hs,Option.some.injEq] at hsec
        rw [← hsec] at hm'
        exact absurd hm' hm
  · refine ⟨false,w.script.tail,?_,fun hf => absurd hf (by simp),?_,fun _ => ?_⟩
    · rcases h with h | ⟨m,h⟩ <;> rw [h]
    · rintro ⟨-,hp'⟩
      rw [hp] at hp'
      contradiction
    · simp [revokeScript,hp]

variable {res : Except StoreError Unit} {w' : World}

lemma markRevokedInIndex_spec {sec : Secret}
    (hs : w.objects (secretKey sum256 taskID ns) = some sec) (hr : markRevokedInIndex sum256 false taskID ns w = (res,w')) :
    w'.objects (secretKey sum256 taskID ns) = some sec ∧
      res ≠ .error .tokenNotFound ∧ res ≠ .error .tokenRevoked ∧
      (res = .ok () → w'.objects (indexKey ns) = none ∨ IndexMarked sum256 taskID ns w') := by
  have hrule := retryOnConflict_rule StoreError.isConflict (markAttempt sum256 false taskID ns)
    (I := fun c => c.objects (secretKey sum256 taskID ns) = some sec)
    (Q := fun res c => res ≠ .error .tokenNotFound ∧ res ≠ .error .tokenRevoked ∧
      (res = .ok () → c.objects (indexKey ns) = none ∨ IndexMarked sum256 taskID ns c))
    ?_ indexRetries w hs
  · rw [markRevokedInIndex] at hr
    rw [hr] at hrule
    exact hrule
  intro c hc
  unfold markAttempt
  rcases get_cases (indexKey ns) c with ⟨-,hi,h⟩ | ⟨-,idx,hi,h⟩ | ⟨-,h | ⟨m,h⟩⟩
  · rw [h]
    exact ⟨hc,by simp,by simp,fun _ => .inl hi⟩
  · rw [h]
    dsimp only
    generalize hnew : editEntry sum256 idx taskID none (some (utf8 "true")) = marked
    have hmarked : isTrue marked.annotations (revokedIndexKey sum256 taskID) = true := by
      subst hnew
      simp [isTrue,editEntry,lookup_update_self]
    rcases update_cases (indexKey ns) marked ⟨c.objects,c.script.tail⟩ with hu | ⟨e,objects,hu,ho⟩
    · rw [hu]
      refine ⟨?_,by simp,by simp,fun _ => .inr ⟨marked,Function.update_self _ _ _,hmarked⟩⟩
      rw [← hc]
      exact Function.update_of_ne secretKey_ne_indexKey _ _
    · rw [hu]
      refine ⟨?_,by simp,by simp,fun hok => absurd hok (by simp)⟩
      rcases ho with rfl | rfl
      · exact hc
      · rw [← hc]
        exact Function.update_of_ne secretKey_ne_indexKey _ _
  · rw [h]
    exact ⟨hc,by simp,by simp,fun hok => absurd hok (by simp)⟩
  · rw [h]
    exact ⟨hc,by simp,by simp,fun hok => absurd hok (by simp)⟩

lemma revokeToken_spec (hr : TokenStore.revokeToken sum256 false taskID ns w = (res,w')) :
    (res = .ok () → SecretRevoked sum256 taskID ns w' ∧
      (w'.objects (indexKey ns) = none ∨ IndexMarked sum256 taskID ns w')) ∧ (res = .error .tokenNotFound ↔
      w.objects (secretKey sum256 taskID ns) = none ∧ passesNext w.script = true) ∧
    (res = .error .tokenNotFound → w'.objects = w.objects) ∧ res ≠ .error .tokenRevoked := by
  unfold TokenStore.revokeToken at hr
  rw [if_neg Bool.false_ne_true] at hr
  rcases get_cases (secretKey sum256 taskID ns) w with ⟨hp,hs,h⟩ | ⟨hp,sec,hs,h⟩ | ⟨hp,h | ⟨m,h⟩⟩
  · simp only [h] at hr
    cases hr
    simp [hs,hp]
  · by_cases hm : matchesTaskLabel sum256 sec.labels taskID = true
    · simp only [h,hm,Bool.true_eq_false,if_false] at hr
      generalize hnew : revokedSecret sum256 sec taskID = revoked at hr
      rcases update_cases (secretKey sum256 taskID ns) revoked ⟨w.objects,w.script.tail⟩ with
        hu | ⟨e,objects,hu,-⟩
      · simp only [hu] at hr
        obtain ⟨hkeep,h1,h2,hok⟩ := markRevokedInIndex_spec sum256 taskID ns _
          (Function.update_self (secretKey sum256 taskID ns) (some revoked) w.objects) hr
        refine ⟨fun h => ⟨⟨revoked,hkeep,?_,?_⟩,hok h⟩,?_,fun h => absurd h h1,h2⟩
        · subst hnew
          simp [matchesTaskLabel,revokedSecret,
            lookup_update_of_ne labelAgentTask_ne_labelRevoked,lookup_update_self,
            taskLabelValue_ne_nil]
        · subst hnew
          simp [isTrue,revokedSecret,lookup_update_self]
        · simp [hs,h1]
      · simp only [hu] at hr
        cases hr
        simp [hs]
    · simp only [h,hm,if_true] at hr
      cases hr
      simp [hs]
  · simp only [h] at hr
    cases hr
    simp [hp]
  · simp only [h] at hr
    cases hr
    simp [hp]

/-- Whatever fails in a call, its success means that both stores turn the token away, unless it
reports success too early. -/
theorem revokeToken_nil_rejects_iff : ((Reconciler.revokeToken sum256 taskID ns w).1 = .ok () →
      Rejects sum256 true taskID ns (Reconciler.revokeToken sum256 taskID ns w).2 ∧
        Rejects sum256 false taskID ns (Reconciler.revokeToken sum256 taskID ns w).2) ↔
      ¬Stale sum256 taskID ns w := by
  obtain ⟨b,script,hb,hpos,hneg,hscript⟩ := isRevoked_spec sum256 taskID ns w
  unfold Reconciler.revokeToken
  rw [hb]
  cases b with
  | true =>
    simp only [true_implies]
    rw [rejects_index_iff]
    constructor
    · rintro ⟨hserve,-⟩ ⟨hs,-⟩
      exact hserve hs
    · intro hstale
      rcases hpos rfl with hr | hmark
      · exact ⟨fun hs => hstale ⟨hs,.inl hr⟩,rejects_full_of_revoked hr.1⟩
      · obtain ⟨idx,hi,ht⟩ := hmark
        exact ⟨not_serves_of_marked ⟨idx,hi,ht⟩,rejects_full_of_marked hi ht⟩
  | false =>
    dsimp only
    rcases hr : TokenStore.revokeToken sum256 false taskID ns ⟨w.objects,script⟩ with ⟨res,w'⟩
    obtain ⟨hok,hnf,hsame,hnr⟩ := revokeToken_spec sum256 taskID ns _ hr
    have hstale : Stale sum256 taskID ns w ↔
        IndexServes sum256 taskID ns w ∧ res = .error .tokenNotFound := by
      rw [hnf]
      constructor
      · rintro ⟨hs,hr | ⟨hm,hp⟩⟩
        · exact absurd (hneg hr) (by simp)
        · exact ⟨hs,hm,by rwa [← hscript hm] at hp⟩
      · rintro ⟨hs,hm,hp⟩
        exact ⟨hs,.inr ⟨hm,by rwa [← hscript hm]⟩⟩
    rw [hstale]
    by_cases hres : res = .error .tokenNotFound
    · obtain ⟨hm,-⟩ := hnf.mp hres
      have hobj := hsame hres
      have hserves : IndexServes sum256 taskID ns w' ↔ IndexServes sum256 taskID ns w := by
        unfold IndexServes
        rw [hobj]
      subst hres
      simp only [true_implies,and_true,rejects_index_iff,hserves]
      exact ⟨fun h => h.1,fun h => ⟨h,rejects_full_of_missing (by rw [hobj]; exact hm)⟩⟩
    · simp only [hres,and_false,not_false_eq_true,iff_true]
      split
      · rename_i heq
        exact absurd (congrArg Prod.fst heq) hres
      · rename_i heq
        exact absurd (congrArg Prod.fst heq) hnr
      · intro hnil
        obtain ⟨hrev,hidx⟩ := hok hnil
        refine ⟨rejects_index_iff.mpr ?_,rejects_full_of_revoked hrev⟩
        rcases hidx with hidx | hidx
        · rintro ⟨idx,hi,-⟩
          rw [hidx] at hi
          contradiction
        · exact not_serves_of_marked hidx

/-- A call of the reconciler with the faults its API calls meet. -/
structure RevokeCall where
  taskID : Bytes
  ns : Bytes
  faults : List Fault

/-- The state a call starts in: what the earlier ones left, under its own faults. -/
def RevokeCall.enter (call : RevokeCall) (w : World) : World := ⟨w.objects,call.faults⟩

def RevokeCall.step (w : World) (call : RevokeCall) : World :=
  (Reconciler.revokeToken sum256 call.taskID call.ns (call.enter w)).2

/-- A call that returns nil leaves a state in which both stores turn the token away. -/
def Settles (w : World) (call : RevokeCall) : Prop :=
  (Reconciler.revokeToken sum256 call.taskID call.ns (call.enter w)).1 = .ok () →
    Rejects sum256 true call.taskID call.ns (RevokeCall.step sum256 w call) ∧
      Rejects sum256 false call.taskID call.ns (RevokeCall.step sum256 w call)

/-- From any state of the Secrets, in any sequence of calls with any failures: every successful
call has settled the revocation exactly when none of the calls starts stale. -/
theorem revocation_settles_iff (w : World) (calls : List RevokeCall) :
    EveryStep (RevokeCall.step sum256) (Settles sum256) w calls ↔ EveryStep (RevokeCall.step sum256)
        (fun w call => ¬Stale sum256 call.taskID call.ns (call.enter w)) w calls := by
  apply everyStep_congr
  intro w call
  exact revokeToken_nil_rejects_iff sum256 call.taskID call.ns (call.enter w)

end

def tornRevocation : World :=
  let saved := (saveToken sampleSum256 (utf8 "fix-login") (utf8 "team-a") (utf8 "t1") ⟨fun _ => none,[]⟩).2
  (Reconciler.revokeToken sampleSum256 (utf8 "fix-login") (utf8 "team-a")
    ⟨saved.objects,[.pass,.pass,.pass,.pass,.pass,.fail (.other "timeout")]⟩).2

/-- The next call returns nil at once, and the index still serves the token. -/
theorem torn_revocation_reports_nil :
    (Reconciler.revokeToken sampleSum256 (utf8 "fix-login") (utf8 "team-a") tornRevocation).1 = .ok () ∧
      view sampleSum256 true (utf8 "fix-login") (utf8 "team-a")
        (Reconciler.revokeToken sampleSum256 (utf8 "fix-login") (utf8 "team-a") tornRevocation).2 =
        .ok (utf8 "t1") ∧ ¬Rejects sampleSum256 true (utf8 "fix-login") (utf8 "team-a")
        (Reconciler.revokeToken sampleSum256 (utf8 "fix-login") (utf8 "team-a") tornRevocation).2 := by
  decide +kernel

end Diverge.TokenStore
