import Diverge.TokenStore.Slots

/-! The two views of the store. After any sequence of operations without failures, the full store
and an index-only one serve the same tokens: those saved last and not taken back since. -/
namespace Diverge.TokenStore
open Text Transition

section
variable {sum256 : Sum256} {t n : Bytes} {w : World}

lemma view_index_eq : view sum256 true t n w = if indexMark sum256 w.objects t n then .error .tokenRevoked
      else if (indexData w.objects t n).getD [] = [] then .error .tokenNotFound
      else .ok ((indexData w.objects t n).getD []) := by
  unfold view getToken getTokenFromIndex indexMark indexData
  cases hi : w.objects (indexKey n) with
  | none => simp [hi]
  | some idx =>
    by_cases hr : isTrue idx.annotations (revokedIndexKey sum256 t) = true
    · simp [hi,hr]
    · by_cases hd : (idx.data t).getD [] = []
      · simp [hi,hr,readToken,lookup,hd]
      · simp [hi,hr,readToken,lookup,hd]

lemma isRevokedInIndex_quiet (objects : ObjectKey → Option Secret) :
    isRevokedInIndex sum256 t n ⟨objects,[]⟩ = (.ok (indexMark sum256 objects t n),⟨objects,[]⟩) := by
  unfold isRevokedInIndex indexMark
  cases hi : objects (indexKey n) <;> simp [hi]

lemma view_full_eq {sec : Secret} (hs : w.objects (secretKey sum256 t n) = some sec)
    (hown : Owned sum256 t sec) : view sum256 false t n w =
      if isTrue sec.labels labelRevoked ∨ indexMark sum256 w.objects t n then .error .tokenRevoked
      else readToken sec.data tokenField := by
  unfold view getToken
  by_cases hr : isTrue sec.labels labelRevoked = true
  · simp [hs,matchesTaskLabel_of_owned hown,hr]
  · by_cases hm : indexMark sum256 w.objects t n = true
    · simp [hs,matchesTaskLabel_of_owned hown,hr,hm,isRevokedInIndex_quiet]
    · simp [hs,matchesTaskLabel_of_owned hown,hr,hm,isRevokedInIndex_quiet]

lemma views_of_represents {s : Slot} (h : Represents sum256 w.objects t n s) :
    (∀ token, s = .active token → token ≠ [] →
      view sum256 false t n w = .ok token ∧ view sum256 true t n w = .ok token) ∧
    ((∀ token, s ≠ .active token) → Rejects sum256 false t n w ∧ Rejects sum256 true t n w) := by
  constructor
  · rintro token rfl hne
    obtain ⟨⟨sec,hs,hown,hrev,htok⟩,hdata,hmark⟩ := h
    constructor
    · rw [view_full_eq hs hown]
      simp [hrev,hmark,readToken,lookup,htok,hne]
    · rw [view_index_eq]
      simp [hdata,hmark,hne]
  · intro hs
    cases s with
    | absent =>
      obtain ⟨hsec,hdata,hmark⟩ := h
      refine ⟨rejects_full_of_missing hsec,.inr ?_⟩
      rw [view_index_eq]
      simp [hdata,hmark]
    | active token => exact absurd rfl (hs token)
    | revoked =>
      obtain ⟨hown,hdata,hmark⟩ := h
      refine ⟨?_,.inl ?_⟩
      · cases hsec : w.objects (secretKey sum256 t n) with
        | none => exact rejects_full_of_missing hsec
        | some sec =>
          left
          rw [view_full_eq hsec (hown sec hsec)]
          simp [hmark]
      · rw [view_index_eq]
        simp [hmark]

end

/-- The token an operation leaves in the slot it is about. -/
def StoreOp.saved : StoreOp → Option Bytes
  | .save _ _ token => some token
  | _ => none

def keepSaved (t n : Bytes) (cur : Option Bytes) (op : StoreOp) : Option Bytes :=
  if op.taskID = t ∧ op.ns = n then op.saved else cur

/-- The token of the last save of a task that no revocation or deletion of it follows. -/
def lastSaved (t n : Bytes) (ops : List StoreOp) : Option Bytes := run (keepSaved t n) none ops

def Slot.token : Slot → Option Bytes
  | .active token => some token
  | _ => none

def Registry.Indexed (r : Registry) : Prop := ∀ t n, r.slot t n ≠ .absent → r.indexed n = true

variable {r : Registry} {ops : List StoreOp}

lemma Registry.Indexed.set (h : r.Indexed) {t n : Bytes} {s : Slot}
    (hs : s ≠ .absent → r.indexed n = true) : (r.set t n s).Indexed := by
  intro t' n' hne
  rw [Registry.set_slot] at hne
  split_ifs at hne with hc
  · rw [hc.2]
    exact hs hne
  · exact h t' n' hne

lemma Registry.Indexed.apply (h : r.Indexed) (op : StoreOp) : (r.apply op).Indexed := by
  cases op with
  | save t n token =>
    intro t' n' hne
    by_cases hn : n' = n
    · simp [Registry.apply,hn]
    · have hold : r.slot t' n' ≠ .absent := by simpa [Registry.apply,hn] using hne
      simpa [Registry.apply,hn] using h t' n' hold
  | revoke t n =>
    rw [Registry.apply]
    split_ifs with habs
    · exact h
    · exact h.set fun _ => h t n habs
  | delete t n => exact h.set fun hs => absurd rfl hs
  | revokeIndex t n =>
    rw [Registry.apply]
    split_ifs with hi
    · exact h.set fun _ => hi
    · exact h

lemma Registry.apply_token (h : r.Indexed) (op : StoreOp) (t n : Bytes) :
    ((r.apply op).slot t n).token = keepSaved t n (r.slot t n).token op := by
  have hset : ∀ (r' : Registry) (t' n' : Bytes) (s : Slot), ((r'.set t' n' s).slot t n).token =
      if t' = t ∧ n' = n then s.token else (r'.slot t n).token := by
    intro r' t' n' s
    rw [Registry.set_slot,apply_ite Slot.token]
    simp only [eq_comm]
  have hkeep : ∀ t' n', r.slot t' n' = .absent →
      (if t' = t ∧ n' = n then none else (r.slot t n).token) = (r.slot t n).token := by
    intro t' n' habs
    split_ifs with hc
    · rw [← hc.1,← hc.2,habs]
      rfl
    · rfl
  cases op with
  | save t' n' token => exact hset r t' n' (.active token)
  | revoke t' n' =>
    change _ = if t' = t ∧ n' = n then none else (r.slot t n).token
    by_cases habs : r.slot t' n' = .absent
    · rw [Registry.apply,if_pos habs,hkeep t' n' habs]
    · rw [Registry.apply,if_neg habs]
      exact hset r t' n' .revoked
  | delete t' n' => exact hset r t' n' .absent
  | revokeIndex t' n' =>
    change _ = if t' = t ∧ n' = n then none else (r.slot t n).token
    by_cases hi : r.indexed n' = true
    · rw [Registry.apply,if_pos hi]
      exact hset r t' n' .revoked
    · rw [Registry.apply,if_neg hi,hkeep t' n' (not_not.mp fun hne => hi (h t' n' hne))]

lemma run_indexed (ops : List StoreOp) : (run Registry.apply .empty ops).Indexed := by
  have hall : EveryStep Registry.apply (fun _ _ => True) .empty ops :=
    everyStep_of_forall (fun _ _ => trivial) _
  exact hall.reaches (P := Registry.Indexed) (fun r op _ h => h.apply op)
    (fun t n hne => absurd rfl hne) ops List.prefix_rfl

lemma run_token (ops : List StoreOp) (t n : Bytes) :
    ((run Registry.apply .empty ops).slot t n).token = lastSaved t n ops := by
  have hgen : ∀ (ops : List StoreOp) (r : Registry), r.Indexed →
      ((run Registry.apply r ops).slot t n).token = run (keepSaved t n) (r.slot t n).token ops := by
    intro ops
    induction ops with
    | nil => exact fun _ _ => rfl
    | cons op ops ih =>
      intro r hr
      rw [run_cons,run_cons,ih _ (hr.apply op),Registry.apply_token hr]
  exact hgen ops .empty fun t n hne => absurd rfl hne

def emptyWorld : World := ⟨fun _ => none,[]⟩

lemma refines_empty (sum256 : Sum256) (tasks : Set Bytes) : Refines sum256 tasks emptyWorld .empty where
  quiet := rfl
  indexed _ := rfl
  slot _ _ _ := ⟨rfl,rfl,rfl⟩

/-- The Secrets after any operations on the tasks in use represent the machine's slots. -/
theorem run_refines {sum256 : Sum256} {tasks : Set Bytes} (hcf : CollisionFree sum256 tasks)
    (htasks : ∀ op ∈ ops, op.taskID ∈ tasks) :
    Refines sum256 tasks (run (StoreOp.apply sum256) emptyWorld ops)
      (run Registry.apply .empty ops) :=
  run_simulates (fun _ _ _ ht hR => hR.apply hcf ht) htasks (refines_empty sum256 tasks)

lemma lastSaved_nonEmpty (h : ∀ op ∈ ops, op.NonEmpty) {t n token : Bytes}
    (hs : lastSaved t n ops = some token) : token ≠ [] := by
  have hall : EveryStep (keepSaved t n) (fun _ => StoreOp.NonEmpty) none ops :=
    everyStep_of_forall h none
  refine hall.reaches (P := fun cur => ∀ token, cur = some token → token ≠ []) ?_ (by simp) ops
    List.prefix_rfl token hs
  intro cur op hop hcur
  rw [keepSaved]
  split_ifs
  · cases op with
    | save t n token =>
      rintro token' ⟨⟩
      exact hop
    | _ => exact fun _ h => absurd h (by simp [StoreOp.saved])
  · exact hcur

/-- Full and index-only store agree: after any operations without failures each serves a token
for a task exactly when the other does, namely the one saved last and not taken back, and
otherwise both turn the task away. -/
theorem store_views_agree (sum256 : Sum256) (tasks : Set Bytes) (hcf : CollisionFree sum256 tasks)
    (ops : List StoreOp) (htasks : ∀ op ∈ ops, op.taskID ∈ tasks) (hne : ∀ op ∈ ops, op.NonEmpty)
    (t n : Bytes) (ht : t ∈ tasks) : (∀ token,
      (view sum256 false t n (run (StoreOp.apply sum256) emptyWorld ops) = .ok token ↔
        view sum256 true t n (run (StoreOp.apply sum256) emptyWorld ops) = .ok token) ∧
      (view sum256 true t n (run (StoreOp.apply sum256) emptyWorld ops) = .ok token ↔
        lastSaved t n ops = some token)) ∧ (lastSaved t n ops = none →
      Rejects sum256 false t n (run (StoreOp.apply sum256) emptyWorld ops) ∧
        Rejects sum256 true t n (run (StoreOp.apply sum256) emptyWorld ops)) := by
  have hrep := (run_refines hcf htasks).slot t ht n
  have htok := run_token ops t n
  obtain ⟨hserve,hreject⟩ := views_of_represents hrep
  generalize run (StoreOp.apply sum256) emptyWorld ops = w at hserve hreject
  generalize (run Registry.apply .empty ops).slot t n = s at hserve hreject htok
  cases s with
  | active saved =>
    have hsaved : lastSaved t n ops = some saved := htok.symm
    obtain ⟨hf,hi⟩ := hserve saved rfl (lastSaved_nonEmpty hne hsaved)
    simp [hf,hi,hsaved]
  | absent | revoked =>
    have hnone : lastSaved t n ops = none := htok.symm
    obtain ⟨hf,hi⟩ := hreject (by simp)
    refine ⟨fun token => ?_,fun _ => ⟨hf,hi⟩⟩
    simp [hf.ne_ok,hi.ne_ok,hnone]

lemma sample_collisionFree : CollisionFree sampleSum256 {utf8 "fix-login",utf8 "add-docs"} := by
  rintro a (rfl | rfl) b (rfl | rfl) h
  · rfl
  · exact absurd h (by decide)
  · exact absurd h (by decide)
  · rfl

def sampleOps : List StoreOp :=
  [.save (utf8 "fix-login") (utf8 "team-a") (utf8 "t1"),
    .revoke (utf8 "fix-login") (utf8 "team-a"),
    .revokeIndex (utf8 "add-docs") (utf8 "team-a"),
    .save (utf8 "fix-login") (utf8 "team-a") (utf8 "t2")]

theorem sample_views_agree : (∀ token, (view sampleSum256 false (utf8 "fix-login") (utf8 "team-a")
          (run (StoreOp.apply sampleSum256) emptyWorld sampleOps) = .ok token ↔
        view sampleSum256 true (utf8 "fix-login") (utf8 "team-a")
          (run (StoreOp.apply sampleSum256) emptyWorld sampleOps) = .ok token) ∧
      (view sampleSum256 true (utf8 "fix-login") (utf8 "team-a")
          (run (StoreOp.apply sampleSum256) emptyWorld sampleOps) = .ok token ↔
        lastSaved (utf8 "fix-login") (utf8 "team-a") sampleOps = some token)) ∧
    (lastSaved (utf8 "fix-login") (utf8 "team-a") sampleOps = none →
      Rejects sampleSum256 false (utf8 "fix-login") (utf8 "team-a")
          (run (StoreOp.apply sampleSum256) emptyWorld sampleOps) ∧
        Rejects sampleSum256 true (utf8 "fix-login") (utf8 "team-a")
          (run (StoreOp.apply sampleSum256) emptyWorld sampleOps)) := by
  refine store_views_agree sampleSum256 {utf8 "fix-login",utf8 "add-docs"} sample_collisionFree
    sampleOps ?_ ?_ (utf8 "fix-login") (utf8 "team-a") (.inl rfl)
  · intro op hop
    simp only [sampleOps,List.mem_cons,List.not_mem_nil,or_false] at hop
    rcases hop with rfl | rfl | rfl | rfl <;> simp [StoreOp.taskID]
  · intro op hop
    simp only [sampleOps,List.mem_cons,List.not_mem_nil,or_false] at hop
    rcases hop with rfl | rfl | rfl | rfl
    · exact List.cons_ne_nil _ _
    · trivial
    · trivial
    · exact List.cons_ne_nil _ _

end Diverge.TokenStore
