import Diverge.Tasks.Usage

/-! Metering from several replicas. Handlers read the task and write its status back under its
resource version, in any interleaving with each other and with other writers. Two history variables
keep which handlers counted their request and which ids were recorded. -/
namespace Diverge.Tasks
open Text Kube Program Auth Hmac Transition

section
variable {α : Type} {n : ℕ} {all kept : List α} {x : α}

/-- The kept entries are the last ones, all of them or `n` at least. -/
def KeptWindow (n : ℕ) (all kept : List α) : Prop :=
  ∃ k ≤ all.length, kept = all.drop k ∧ (k = 0 ∨ n ≤ kept.length)

lemma KeptWindow.refl (n : ℕ) (all : List α) : KeptWindow n all all := ⟨0,by omega,rfl,.inl rfl⟩

lemma KeptWindow.subset (h : KeptWindow n all kept) (hx : x ∈ kept) : x ∈ all := by
  obtain ⟨k,-,rfl,-⟩ := h
  exact List.mem_of_mem_drop hx

lemma KeptWindow.mem (h : KeptWindow n all kept) (hx : x ∈ all.drop (all.length - n)) : x ∈ kept := by
  obtain ⟨k,hlen,rfl,hk⟩ := h
  have hle : k ≤ all.length - n := by
    rcases hk with rfl | hk
    · omega
    · rw [List.length_drop] at hk
      omega
  have hsplit : all.drop (all.length - n) = (all.drop k).drop (all.length - n - k) := by
    rw [List.drop_drop]
    congr 1
    omega
  rw [hsplit] at hx
  exact List.mem_of_mem_drop hx

lemma KeptWindow.append (h : KeptWindow n all kept) {j : ℕ} (hlen : j ≤ kept.length)
    (hj : j = 0 ∨ n ≤ ((kept ++ [x]).drop j).length) : KeptWindow n (all ++ [x]) ((kept ++ [x]).drop j) := by
  obtain ⟨k,hk,rfl,hkept⟩ := h
  rw [List.length_drop] at hlen
  refine ⟨k + j,?_,?_,?_⟩
  · rw [List.length_append]
    omega
  · rw [← List.drop_append_of_le_length hk,List.drop_drop]
  · rcases hj with rfl | hj
    · rcases hkept with rfl | hkept
      · exact .inl rfl
      · right
        rw [List.drop_zero,List.length_append]
        omega
    · exact .inr hj

end

lemma rememberID_window {ids recorded : List String} {id : String} (hid : id ≠ "")
    (h : KeptWindow meterWindow recorded ids) :
    KeptWindow meterWindow (recorded ++ [id]) (rememberID ids id) := by
  unfold rememberID
  rw [if_neg hid]
  dsimp only
  split_ifs with hlen
  · rw [List.length_append,List.length_singleton] at hlen ⊢
    have hj : ids.length + 1 - meterWindow ≤ ids.length := by
      rw [meterWindow]
      omega
    refine h.append hj (.inr ?_)
    rw [List.length_drop,List.length_append,List.length_singleton]
    omega
  · exact h.append (j := 0) (by omega) (.inl rfl)

/-- The requests of the handlers, one each. -/
structure MeterCalls (ι : Type) where
  rounding : Rounding
  claims : ι → Claims
  req : ι → LLMMeterRequest

/-- A handler before a read, between a read and its write, and with its result. -/
inductive HandlerState
  | ready (retries : ℕ)
  | loaded (task : AgentTask) (version retries : ℕ)
  | done (result : Except MeterFailure MeterDecision)

def HandlerState.isFresh : HandlerState → Bool
  | .ready retries => retries == defaultRetries
  | _ => false

/-- The object under its version, the handlers, the other writers with what they have read, and the
handlers that counted and the ids recorded, in order. -/
structure MeterWorld (ι : Type) where
  task : AgentTask
  version : ℕ
  handler : ι → HandlerState
  writer : ι → Option (AgentTask × ℕ)
  counted : List ι
  recorded : List String

inductive MeterMove (ι : Type)
  | load (i : ι)
  | store (i : ι)
  | observe (j : ι)
  | patch (j : ι) (task : AgentTask)

def MeterWorld.start {ι : Type} (t : AgentTask) : MeterWorld ι :=
  ⟨t,0,fun _ => .ready defaultRetries,fun _ => none,[],t.status.lastMeterRequestIDs⟩

section
variable {ι : Type} (calls : MeterCalls ι)

def MeterCalls.decide (i : ι) (task : AgentTask) : Except MeterFailure MeterDecision :=
  meterDecide calls.rounding (calls.claims i) (calls.req i) (trimSpace (calls.req i).prURL) task

def MeterCalls.decision (i : ι) (task : AgentTask) : MeterDecision :=
  meterDecision calls.rounding (calls.claims i) (calls.req i) (trimSpace (calls.req i).prURL) task

variable [DecidableEq ι]

def MeterWorld.setHandler (w : MeterWorld ι) (i : ι) (state : HandlerState) : MeterWorld ι :=
  { w with handler := Function.update w.handler i state }

/-- The read of an attempt; a task that is not metered ends the request. -/
def MeterCalls.load (i : ι) (w : MeterWorld ι) : MeterWorld ι :=
  match w.handler i with
  | .ready retries =>
    match calls.decide i w.task with
    | .error e => w.setHandler i (.done (.error e))
    | .ok _ => w.setHandler i (.loaded w.task w.version retries)
  | _ => w

/-- A status write under the current version. -/
def MeterCalls.commit (i : ι) (task : AgentTask) (w : MeterWorld ι) : MeterWorld ι :=
  let new := !alreadyCounted (calls.req i) task.status
  { w with
    task := { w.task with status := (calls.decision i task).status }
    version := w.version + 1
    handler := Function.update w.handler i (.done (.ok (calls.decision i task)))
    counted := if new then w.counted ++ [i] else w.counted
    recorded :=
      if new && (calls.req i).requestID != "" then w.recorded ++ [(calls.req i).requestID]
      else w.recorded }

/-- The write of an attempt; one under an old version is a conflict and is retried. -/
def MeterCalls.store (i : ι) (w : MeterWorld ι) : MeterWorld ι :=
  match w.handler i with
  | .loaded task version retries =>
    if version = w.version then calls.commit i task w
    else
      match retries with
      | 0 => w.setHandler i (.done (.error (.update .conflict)))
      | retries+1 => w.setHandler i (.ready retries)
  | _ => w

/-- A patch of another writer, made when its object is still current. -/
def MeterWorld.patch (j : ι) (task : AgentTask) (w : MeterWorld ι) : MeterWorld ι :=
  match w.writer j with
  | some (_,version) =>
    if version = w.version then { w with task := task, version := w.version + 1 } else w
  | none => w

def MeterCalls.step (w : MeterWorld ι) : MeterMove ι → MeterWorld ι
  | .load i => calls.load i w
  | .store i => calls.store i w
  | .observe j => { w with writer := Function.update w.writer j (some (w.task,w.version)) }
  | .patch j task => w.patch j task

def MeterWorld.Remembered (w : MeterWorld ι) (id : String) : Prop :=
  id ≠ "" → id ∈ w.recorded → id ∈ w.recorded.drop (w.recorded.length - meterWindow)

instance (w : MeterWorld ι) (id : String) : Decidable (w.Remembered id) :=
  inferInstanceAs (Decidable (_ → _ → _))

/-- A patch of another writer leaves the tokens and the ids it has read. -/
def MeterWorld.LeavesUsage (w : MeterWorld ι) (j : ι) (task : AgentTask) : Prop :=
  ∀ read ∈ w.writer j, task.status.tokensConsumed = read.1.status.tokensConsumed ∧
    task.status.lastMeterRequestIDs = read.1.status.lastMeterRequestIDs

instance (w : MeterWorld ι) (j : ι) (task : AgentTask) : Decidable (w.LeavesUsage j task) :=
  inferInstanceAs (Decidable (∀ read ∈ w.writer j, _ ∧ _))

/-- At every read of a request its id is new or one of the last recorded, and nobody else changes
the usage. -/
def MeterCalls.Timely (w : MeterWorld ι) : MeterMove ι → Prop
  | .load i => w.Remembered (calls.req i).requestID
  | .store _ => True
  | .observe _ => True
  | .patch j task => w.LeavesUsage j task

instance (w : MeterWorld ι) (move : MeterMove ι) : Decidable (calls.Timely w move) :=
  match move with
  | .load i => inferInstanceAs (Decidable (w.Remembered (calls.req i).requestID))
  | .store _ => .isTrue trivial
  | .observe _ => .isTrue trivial
  | .patch j task => inferInstanceAs (Decidable (w.LeavesUsage j task))

/-- The condition at the first read of a request only, when it is sent. -/
def MeterCalls.SentInTime (w : MeterWorld ι) : MeterMove ι → Prop
  | .load i => (w.handler i).isFresh = true → w.Remembered (calls.req i).requestID
  | .store _ => True
  | .observe _ => True
  | .patch j task => w.LeavesUsage j task

instance (w : MeterWorld ι) (move : MeterMove ι) : Decidable (calls.SentInTime w move) :=
  match move with
  | .load i => inferInstanceAs (Decidable (_ → w.Remembered (calls.req i).requestID))
  | .store _ => .isTrue trivial
  | .observe _ => .isTrue trivial
  | .patch j task => inferInstanceAs (Decidable (w.LeavesUsage j task))

def MeterWorld.Allowed (w : MeterWorld ι) (i : ι) : Prop :=
  ∃ d, w.handler i = .done (.ok d) ∧ d.exceeded = none

end

lemma int64_add_of_room {tokens used : ℤ} (hl : minInt64 ≤ tokens) (hu : tokens ≤ maxInt64)
    (hused : 0 ≤ used) (h : used ≤ int64 (maxInt64 - tokens)) :
    int64 (tokens + used) = tokens + used ∧ tokens + used ≤ maxInt64 := by
  have hroom : used ≤ maxInt64 - tokens := by
    unfold int64 Int.bmod at h
    dsimp only at h
    unfold maxInt64 minInt64 at *
    split_ifs at h
    all_goals omega
  have hle : tokens + used ≤ maxInt64 := by omega
  exact ⟨int64_of_range (by omega) hle,hle⟩

section
variable {ι : Type} (calls : MeterCalls ι)

variable {i : ι}

lemma MeterCalls.decide_ok {t : AgentTask} {d : MeterDecision} (h : calls.decide i t = .ok d) :
    d = calls.decision i t ∧ (calls.req i).tokensUsed ≤ int64 (maxInt64 - t.status.tokensConsumed) := by
  unfold MeterCalls.decide meterDecide at h
  split_ifs at h with hm hov
  exact ⟨(Except.ok.inj h).symm,not_lt.mp hov⟩

/-- What holds in every state reached: the object and what was read of it, and the usage against the
history. -/
structure MeterCalls.Accounted (t : AgentTask) (w : MeterWorld ι) : Prop where
  lower : minInt64 ≤ w.task.status.tokensConsumed
  upper : w.task.status.tokensConsumed ≤ maxInt64
  total : w.task.status.tokensConsumed =
    t.status.tokensConsumed + (w.counted.map fun i => (calls.req i).tokensUsed).sum
  window : KeptWindow meterWindow w.recorded w.task.status.lastMeterRequestIDs
  loaded : ∀ i read version retries, w.handler i = .loaded read version retries →
    version ≤ w.version ∧ (version = w.version → read = w.task ∧
      (calls.req i).tokensUsed ≤ int64 (maxInt64 - read.status.tokensConsumed) ∧
      w.Remembered (calls.req i).requestID)
  read : ∀ j read version, w.writer j = some (read,version) →
    version ≤ w.version ∧ (version = w.version → read = w.task)
  closed : ∀ i ∈ w.counted, ∃ result, w.handler i = .done result
  known : ∀ i ∈ w.counted, (calls.req i).requestID ≠ "" → (calls.req i).requestID ∈ w.recorded
  origin : ∀ id ∈ w.recorded, id ∈ t.status.lastMeterRequestIDs ∨
    ∃ j ∈ w.counted, (calls.req j).requestID = id
  answered : ∀ i d, w.handler i = .done (.ok d) → i ∈ w.counted ∨
    ((calls.req i).requestID ≠ "" ∧ (calls.req i).requestID ∈ w.recorded)
  once : w.counted.Pairwise fun i j =>
    i ≠ j ∧ ((calls.req i).requestID ≠ "" → (calls.req i).requestID ≠ (calls.req j).requestID)

variable {calls} {t : AgentTask} {w : MeterWorld ι}

lemma accounted_start (hl : minInt64 ≤ t.status.tokensConsumed)
    (hu : t.status.tokensConsumed ≤ maxInt64) : calls.Accounted t (.start t) where
  lower := hl
  upper := hu
  total := by simp [MeterWorld.start]
  window := .refl _ _
  loaded := fun _ _ _ _ h => by contradiction
  read := fun _ _ _ h => by contradiction
  closed := fun _ h => by contradiction
  known := fun _ h => by contradiction
  origin := fun _ h => .inl h
  answered := fun _ _ h => by contradiction
  once := .nil

lemma patch_accounted (h : calls.Accounted t w) (j : ι) (task : AgentTask)
    (hleaves : w.LeavesUsage j task) : calls.Accounted t (w.patch j task) := by
  unfold MeterWorld.patch
  cases hj : w.writer j with
  | none => exact h
  | some pair =>
    obtain ⟨read,version⟩ := pair
    dsimp only
    by_cases hv : version = w.version
    · rw [if_pos hv]
      obtain rfl := (h.read j read version hj).2 hv
      obtain ⟨htokens,hids⟩ := hleaves (w.task,version) hj
      refine ⟨?_,?_,?_,?_,?_,?_,h.closed,h.known,h.origin,h.answered,h.once⟩
      · rw [htokens]
        exact h.lower
      · rw [htokens]
        exact h.upper
      · rw [htokens]
        exact h.total
      · rw [hids]
        exact h.window
      · intro k read version retries hk
        have hle := (h.loaded k read version retries hk).1
        exact ⟨by dsimp only; omega,fun he => by dsimp only at he; omega⟩
      · intro k read version hk
        have hle := (h.read k read version hk).1
        exact ⟨by dsimp only; omega,fun he => by dsimp only at he; omega⟩
    · rw [if_neg hv]
      exact h

variable [DecidableEq ι]

section
variable (h : calls.Accounted t w)
include h

lemma MeterCalls.Accounted.setHandler {state : HandlerState}
    (hold : ∀ result, w.handler i ≠ .done result) (hok : ∀ d, state ≠ .done (.ok d))
    (hload : ∀ read version retries, state = .loaded read version retries →
      version ≤ w.version ∧ (version = w.version → read = w.task ∧
        (calls.req i).tokensUsed ≤ int64 (maxInt64 - read.status.tokensConsumed) ∧
        w.Remembered (calls.req i).requestID)) : calls.Accounted t (w.setHandler i state) where
  lower := h.lower
  upper := h.upper
  total := h.total
  window := h.window
  loaded := by
    intro k read version retries hk
    dsimp only [MeterWorld.setHandler] at hk
    by_cases he : k = i
    · subst he
      rw [Function.update_self] at hk
      exact hload read version retries hk
    · rw [Function.update_of_ne he] at hk
      exact h.loaded k read version retries hk
  read := h.read
  closed := by
    intro k hk
    obtain ⟨result,hresult⟩ := h.closed k hk
    refine ⟨result,?_⟩
    have he : k ≠ i := by
      rintro rfl
      exact hold result hresult
    dsimp only [MeterWorld.setHandler]
    rw [Function.update_of_ne he]
    exact hresult
  known := h.known
  origin := h.origin
  answered := by
    intro k d hk
    dsimp only [MeterWorld.setHandler] at hk
    by_cases he : k = i
    · subst he
      rw [Function.update_self] at hk
      exact absurd hk (hok d)
    · rw [Function.update_of_ne he] at hk
      exact h.answered k d hk
  once := h.once

lemma load_accounted (i : ι) (hr : w.Remembered (calls.req i).requestID) :
    calls.Accounted t (calls.load i w) := by
  unfold MeterCalls.load
  cases hi : w.handler i with
  | ready retries =>
    have hold : ∀ result, w.handler i ≠ .done result := by
      intro result hd
      rw [hi] at hd
      contradiction
    cases hd : calls.decide i w.task with
    | error e =>
      exact h.setHandler hold (fun d he => by cases he) fun _ _ _ he => by cases he
    | ok d =>
      refine h.setHandler hold (fun d he => by cases he) ?_
      rintro read version retries' ⟨⟩
      exact ⟨le_rfl,fun _ => ⟨rfl,(calls.decide_ok hd).2,hr⟩⟩
  | loaded task version retries | done result => exact h

lemma MeterCalls.Accounted.stale (task : AgentTask) (counted : List ι)
    (recorded : List String) (i : ι) (result : Except MeterFailure MeterDecision) :
    (∀ k read version retries, Function.update w.handler i (.done result) k =
        .loaded read version retries → version ≤ w.version + 1 ∧
      (version = w.version + 1 → read = task ∧
        (calls.req k).tokensUsed ≤ int64 (maxInt64 - read.status.tokensConsumed) ∧
        (⟨task,w.version + 1,w.handler,w.writer,counted,recorded⟩ : MeterWorld ι).Remembered
          (calls.req k).requestID)) ∧ ∀ j read version, w.writer j = some (read,version) →
      version ≤ w.version + 1 ∧ (version = w.version + 1 → read = task) := by
  constructor
  · intro k read version retries hk
    have hne : k ≠ i := by
      rintro rfl
      rw [Function.update_self] at hk
      cases hk
    rw [Function.update_of_ne hne] at hk
    have hle := (h.loaded k read version retries hk).1
    exact ⟨by omega,fun he => by omega⟩
  · intro j read version hj
    have hle := (h.read j read version hj).1
    exact ⟨by omega,fun he => by omega⟩

lemma commit_again (hi : ∃ version retries, w.handler i = .loaded w.task version retries)
    (hold : alreadyCounted (calls.req i) w.task.status = true) :
    calls.Accounted t (calls.commit i w.task w) := by
  obtain ⟨version,retries,hi⟩ := hi
  have hstatus : meteredStatus calls.rounding (calls.req i) (trimSpace (calls.req i).prURL)
      w.task.status = w.task.status := by rw [meteredStatus,if_pos hold]
  obtain ⟨hid,hmem⟩ : (calls.req i).requestID ≠ "" ∧
      (calls.req i).requestID ∈ w.task.status.lastMeterRequestIDs := by
    simpa [alreadyCounted] using hold
  have hstale := h.stale { w.task with status := (calls.decision i w.task).status } w.counted w.recorded
    i (.ok (calls.decision i w.task))
  simp only [MeterCalls.commit,hold,Bool.not_true,Bool.false_and,Bool.false_eq_true,if_false]
  refine ⟨?_,?_,?_,?_,hstale.1,hstale.2,?_,h.known,h.origin,?_,h.once⟩
  all_goals simp only [MeterCalls.decision,meterDecision_tokensConsumed,
    meterDecision_lastMeterRequestIDs,hstatus]
  · exact h.lower
  · exact h.upper
  · exact h.total
  · exact h.window
  · intro k hk
    by_cases he : k = i
    · subst he
      exact ⟨_,Function.update_self _ _ _⟩
    · rw [Function.update_of_ne he]
      exact h.closed k hk
  · intro k d hk
    by_cases he : k = i
    · subst he
      exact .inr ⟨hid,h.window.subset hmem⟩
    · rw [Function.update_of_ne he] at hk
      exact h.answered k d hk

lemma commit_new (hused : 0 ≤ (calls.req i).tokensUsed)
    (hi : ∃ version retries, w.handler i = .loaded w.task version retries)
    (hroom : (calls.req i).tokensUsed ≤ int64 (maxInt64 - w.task.status.tokensConsumed))
    (hrem : w.Remembered (calls.req i).requestID)
    (hnew : alreadyCounted (calls.req i) w.task.status = false) :
    calls.Accounted t (calls.commit i w.task w) := by
  obtain ⟨version,retries,hi⟩ := hi
  have hstatus : meteredStatus calls.rounding (calls.req i) (trimSpace (calls.req i).prURL)
      w.task.status = countUsage calls.rounding (calls.req i) (trimSpace (calls.req i).prURL)
        w.task.status := by rw [meteredStatus,if_neg (by simp [hnew])]
  obtain ⟨hadd,hle⟩ := int64_add_of_room h.lower h.upper hused hroom
  have hlower := h.lower
  have hunknown : (calls.req i).requestID ≠ "" → (calls.req i).requestID ∉ w.recorded := by
    intro hid hmem
    have hkept := h.window.mem (hrem hid hmem)
    simp [alreadyCounted,hid,hkept] at hnew
  have hfresh : i ∉ w.counted := by
    intro hmem
    obtain ⟨result,hresult⟩ := h.closed i hmem
    rw [hi] at hresult
    cases hresult
  set recorded := if (calls.req i).requestID != "" then w.recorded ++ [(calls.req i).requestID]
    else w.recorded with hrecorded
  have hgrows : ∀ {id}, id ∈ w.recorded → id ∈ recorded := by
    intro id hmem
    rw [hrecorded]
    split_ifs
    · exact List.mem_append_left _ hmem
    · exact hmem
  have hself : (calls.req i).requestID ≠ "" → (calls.req i).requestID ∈ recorded := by
    intro hid
    rw [hrecorded,if_pos (by simpa using hid)]
    simp
  have hstale := h.stale { w.task with status := (calls.decision i w.task).status }
    (w.counted ++ [i]) recorded i (.ok (calls.decision i w.task))
  simp only [MeterCalls.commit,hnew,Bool.not_false,Bool.true_and,if_true]
  refine ⟨?_,?_,?_,?_,hstale.1,hstale.2,?_,?_,?_,?_,?_⟩
  all_goals simp only [MeterCalls.decision,meterDecision_tokensConsumed,
    meterDecision_lastMeterRequestIDs,hstatus]
  · change minInt64 ≤ int64 (w.task.status.tokensConsumed + (calls.req i).tokensUsed)
    rw [hadd]
    omega
  · change int64 (w.task.status.tokensConsumed + (calls.req i).tokensUsed) ≤ maxInt64
    rw [hadd]
    exact hle
  · change int64 (w.task.status.tokensConsumed + (calls.req i).tokensUsed) = _
    rw [hadd,h.total,List.map_append,List.sum_append]
    simp [add_assoc]
  · change KeptWindow meterWindow recorded
      (rememberID w.task.status.lastMeterRequestIDs (calls.req i).requestID)
    rw [hrecorded]
    by_cases hid : (calls.req i).requestID = ""
    · rw [hid,rememberID,if_pos rfl,if_neg (by simp)]
      exact h.window
    · rw [if_pos (by simpa using hid)]
      exact rememberID_window hid h.window
  · intro k hk
    by_cases he : k = i
    · subst he
      exact ⟨_,Function.update_self _ _ _⟩
    · rw [Function.update_of_ne he]
      rcases List.mem_append.mp hk with hk | hk
      · exact h.closed k hk
      · exact absurd (List.mem_singleton.mp hk) he
  · intro k hk hid
    rcases List.mem_append.mp hk with hk | hk
    · exact hgrows (h.known k hk hid)
    · rw [List.mem_singleton.mp hk] at hid ⊢
      exact hself hid
  · intro id hmem
    change id ∈ recorded at hmem
    have hcase : id ∈ w.recorded ∨ id = (calls.req i).requestID := by
      rw [hrecorded] at hmem
      split_ifs at hmem
      · exact (List.mem_append.mp hmem).imp_right List.mem_singleton.mp
      · exact .inl hmem
    rcases hcase with hmem | rfl
    · rcases h.origin id hmem with hstart | ⟨j,hj,hid⟩
      · exact .inl hstart
      · exact .inr ⟨j,List.mem_append_left _ hj,hid⟩
    · exact .inr ⟨i,by simp,rfl⟩
  · intro k d hk
    by_cases he : k = i
    · subst he
      exact .inl (by simp)
    · rw [Function.update_of_ne he] at hk
      rcases h.answered k d hk with hmem | ⟨hid,hmem⟩
      · exact .inl (List.mem_append_left _ hmem)
      · exact .inr ⟨hid,hgrows hmem⟩
  · rw [List.pairwise_append]
    refine ⟨h.once,List.pairwise_singleton _ _,fun k hk j hj => ?_⟩
    rw [List.mem_singleton.mp hj]
    refine ⟨fun he => hfresh (he ▸ hk),fun hid he => ?_⟩
    have hmem := h.known k hk hid
    rw [he] at hid hmem
    exact hunknown hid hmem

lemma store_accounted (i : ι) (hused : 0 ≤ (calls.req i).tokensUsed) :
    calls.Accounted t (calls.store i w) := by
  unfold MeterCalls.store
  cases hi : w.handler i with
  | ready retries | done result => exact h
  | loaded read version retries =>
    have hold : ∀ result, w.handler i ≠ .done result := by
      intro result hd
      rw [hi] at hd
      cases hd
    dsimp only
    by_cases hv : version = w.version
    · rw [if_pos hv]
      obtain ⟨rfl,hroom,hrem⟩ := (h.loaded i read version retries hi).2 hv
      cases hcount : alreadyCounted (calls.req i) w.task.status with
      | true => exact commit_again h ⟨version,retries,hi⟩ hcount
      | false => exact commit_new h hused ⟨version,retries,hi⟩ hroom hrem hcount
    · rw [if_neg hv]
      cases retries with
      | zero | succ retries =>
        exact h.setHandler hold (fun d he => by cases he) fun _ _ _ he => by cases he

lemma observe_accounted (j : ι) : calls.Accounted t (calls.step w (.observe j)) := by
  refine ⟨h.lower,h.upper,h.total,h.window,h.loaded,?_,h.closed,h.known,h.origin,h.answered,h.once⟩
  intro k read version hk
  change Function.update w.writer j (some (w.task,w.version)) k = _ at hk
  by_cases he : k = j
  · subst he
    rw [Function.update_self,Option.some.injEq,Prod.mk.injEq] at hk
    obtain ⟨rfl,rfl⟩ := hk
    exact ⟨le_rfl,fun _ => rfl⟩
  · rw [Function.update_of_ne he] at hk
    exact h.read k read version hk

end

lemma step_accounted (hused : ∀ i, 0 ≤ (calls.req i).tokensUsed) (w : MeterWorld ι)
    (move : MeterMove ι) (htimely : calls.Timely w move) (h : calls.Accounted t w) :
    calls.Accounted t (calls.step w move) := by
  cases move with
  | load i => exact load_accounted h i htimely
  | store i => exact store_accounted h i (hused i)
  | observe j => exact observe_accounted h j
  | patch j task => exact patch_accounted h j task htimely

variable (calls) in
lemma step_counted (w : MeterWorld ι) (move : MeterMove ι) :
    ∃ extra, (calls.step w move).counted = w.counted ++ extra := by
  cases move with
  | load i =>
    refine ⟨[],?_⟩
    rw [List.append_nil]
    change (calls.load i w).counted = _
    unfold MeterCalls.load
    cases w.handler i with
    | ready retries =>
      dsimp only
      cases calls.decide i w.task <;> rfl
    | loaded task version retries | done result => rfl
  | store i =>
    change ∃ extra, (calls.store i w).counted = _
    unfold MeterCalls.store
    cases w.handler i with
    | ready retries | done result => exact ⟨[],(List.append_nil _).symm⟩
    | loaded task version retries =>
      dsimp only
      split_ifs
      · unfold MeterCalls.commit
        dsimp only
        split_ifs
        · exact ⟨[i],rfl⟩
        · exact ⟨[],(List.append_nil _).symm⟩
      · cases retries with
        | zero | succ retries => exact ⟨[],(List.append_nil _).symm⟩
  | observe j => exact ⟨[],(List.append_nil _).symm⟩
  | patch j task =>
    refine ⟨[],?_⟩
    rw [List.append_nil]
    change (w.patch j task).counted = _
    unfold MeterWorld.patch
    cases w.writer j with
    | none => rfl
    | some pair =>
      dsimp only
      split_ifs <;> rfl

variable (calls) in
lemma run_counted (moves : List (MeterMove ι)) (w : MeterWorld ι) :
    ∃ extra, (run calls.step w moves).counted = w.counted ++ extra := by
  induction moves generalizing w with
  | nil => exact ⟨[],(List.append_nil _).symm⟩
  | cons move moves ih =>
    obtain ⟨first,hfirst⟩ := step_counted calls w move
    obtain ⟨rest,hrest⟩ := ih (calls.step w move)
    exact ⟨first ++ rest,by rw [run_cons,hrest,hfirst,List.append_assoc]⟩

variable (calls) in
/-- Which handlers serve the same request: requests that differ have different ids, and one that is
sent again has an id. -/
structure MeterCalls.Identified {Λ : Type} (logical : ι → Λ) : Prop where
  distinct : ∀ i j, logical i ≠ logical j → (calls.req i).requestID ≠ "" →
    (calls.req i).requestID ≠ (calls.req j).requestID
  resent : ∀ i j, i ≠ j → logical i = logical j →
    (calls.req i).requestID ≠ "" ∧ (calls.req i).requestID = (calls.req j).requestID

/-- In every interleaving in which, at every read of a request, its id is new or one of the last
recorded, the stored tokens are the initial ones and those of the requests that were counted, each
of them once; every request that was allowed has been counted, now or before the run; and the
tokens never decrease nor leave the range of 64-bit integers. -/
theorem usage_counted_once {Λ : Type} (calls : MeterCalls ι) (logical : ι → Λ) (t : AgentTask)
    (moves : List (MeterMove ι)) (hlogical : calls.Identified logical)
    (hused : ∀ i, 0 ≤ (calls.req i).tokensUsed) (hl : minInt64 ≤ t.status.tokensConsumed)
    (hu : t.status.tokensConsumed ≤ maxInt64)
    (hmoves : EveryStep calls.step calls.Timely (.start t) moves) : (∀ pre, pre <+: moves →
      (run calls.step (.start t) pre).task.status.tokensConsumed = t.status.tokensConsumed +
        ((run calls.step (.start t) pre).counted.map fun i => (calls.req i).tokensUsed).sum ∧
      ((run calls.step (.start t) pre).counted.map logical).Nodup ∧
      (∀ i, (run calls.step (.start t) pre).Allowed i →
        (calls.req i).requestID ∈ t.status.lastMeterRequestIDs ∨
          ∃ j ∈ (run calls.step (.start t) pre).counted, logical j = logical i) ∧
      minInt64 ≤ (run calls.step (.start t) pre).task.status.tokensConsumed ∧
      (run calls.step (.start t) pre).task.status.tokensConsumed ≤ maxInt64) ∧
    ∀ pre post, pre <+: post → post <+: moves →
      (run calls.step (.start t) pre).task.status.tokensConsumed ≤
        (run calls.step (.start t) post).task.status.tokensConsumed := by
  have haccount : ∀ pre, pre <+: moves → calls.Accounted t (run calls.step (.start t) pre) :=
    hmoves.reaches (step_accounted hused) (accounted_start hl hu)
  refine ⟨fun pre hpre => ?_,fun pre post hpre hpost => ?_⟩
  · have h := haccount pre hpre
    refine ⟨h.total,?_,fun i hi => ?_,h.lower,h.upper⟩
    · rw [List.Nodup,List.pairwise_map]
      refine h.once.imp fun hij hsame => ?_
      obtain ⟨hid,heq⟩ := hlogical.resent _ _ hij.1 hsame
      exact hij.2 hid heq
    · obtain ⟨d,hd,-⟩ := hi
      rcases h.answered i d hd with hmem | ⟨hid,hmem⟩
      · exact .inr ⟨i,hmem,rfl⟩
      · rcases h.origin _ hmem with hstart | ⟨j,hj,heq⟩
        · exact .inl hstart
        · refine .inr ⟨j,hj,?_⟩
          by_contra hne
          exact hlogical.distinct i j (Ne.symm hne) hid heq.symm
  · obtain ⟨rest,rfl⟩ := hpre
    obtain ⟨extra,hextra⟩ := run_counted calls rest (run calls.step (.start t) pre)
    have hpreAccount := haccount pre ((List.prefix_append _ _).trans hpost)
    rw [(haccount _ hpost).total,hpreAccount.total,run_append,hextra,List.map_append,List.sum_append]
    have hnonneg : 0 ≤ (extra.map fun i => (calls.req i).tokensUsed).sum :=
      List.sum_nonneg fun x hx => by
        obtain ⟨i,-,rfl⟩ := List.mem_map.mp hx
        exact hused i
    omega

end

section
variable {ι : Type} (calls : MeterCalls ι)

variable {κ σ : Type} [Scheme κ σ] [DecidableEq σ]

/-- What a reconcile makes of the object it has read is a patch that leaves the usage, unless the
task is resumed and the ids are dropped. -/
theorem reconcile_leavesUsage (r : Reconciler κ σ) (env : Surroundings) {s : System}
    {read task : AgentTask} (hs : s.stored = some read)
    (htask : (finish (r.reconcile env) s).2.stored = some task)
    (hkept : task.status.lastMeterRequestIDs = [] → read.status.lastMeterRequestIDs = [])
    (w : MeterWorld ι) {j : ι} {version : ℕ} (hw : w.writer j = some (read,version)) :
    w.LeavesUsage j task := by
  have hwithin : Within read s := every_of_stored hs (.refl read)
  have husage := (reconcile_within.finish hwithin task htask).usage
  intro pair hpair
  rw [hw,Option.mem_some_iff] at hpair
  subst hpair
  refine ⟨husage.tokens,?_⟩
  rcases husage.ids with hids | hids
  · exact hids
  · rw [hids,hkept hids]

end

def burstCalls : MeterCalls ℕ :=
  { rounding := .halfEven
    claims := fun _ => { taskID := "fix-login", ns := "team-a" }
    req := fun i =>
      { requestID := if i ≤ 1 then "x" else String.ofList (List.replicate i 'r'), tokensUsed := 1 } }

def meteredTask : AgentTask := { name := "fix-login", ns := "team-a", status := { phase := .active } }

lemma burstCalls_identified : burstCalls.Identified fun i => (burstCalls.req i).requestID where
  distinct := fun _ _ hne _ => hne
  resent := by
    intro i j _ hsame
    refine ⟨fun hempty => ?_,hsame⟩
    by_cases hi : i ≤ 1
    · simp [burstCalls,hi] at hempty
    · have hlen := congrArg (fun s : String => s.toList.length) hempty
      simp [burstCalls,hi] at hlen
      omega

def mixedMoves : List (MeterMove ℕ) :=
  [.load 0,.load 2,.store 0,.store 2,.load 2,.store 2,.observe 7,
    .patch 7 { meteredTask with
      status := { phase := .active, message := "Sandbox active and ready", tokensConsumed := 2
                  lastMeterRequestIDs := ["x","rr"] } },
    .load 1,.store 1]

theorem mixed_requests_counted :
    (run burstCalls.step (.start meteredTask) mixedMoves).counted = [0,2] ∧
    (run burstCalls.step (.start meteredTask) mixedMoves).task.status.tokensConsumed = 2 ∧
    ((run burstCalls.step (.start meteredTask) mixedMoves).counted.map fun i =>
      (burstCalls.req i).requestID).Nodup := by
  have hmoves : EveryStep burstCalls.step burstCalls.Timely (.start meteredTask) mixedMoves := by
    decide +kernel
  have hcounted : (run burstCalls.step (.start meteredTask) mixedMoves).counted = [0,2] := by
    decide +kernel
  obtain ⟨htotal,hnodup,-⟩ := (usage_counted_once burstCalls _ meteredTask mixedMoves
    burstCalls_identified (fun _ => zero_le_one) (by decide) (by decide) hmoves).1 mixedMoves
    (List.prefix_refl _)
  refine ⟨hcounted,?_,hnodup⟩
  rw [htotal,hcounted]
  rfl

def loadStore (i : ℕ) : List (MeterMove ℕ) := [.load i,.store i]

/-- The second sending of a request finds it counted; after thirty-two others its next attempt does not. -/
def lateMoves : List (MeterMove ℕ) :=
  loadStore 0 ++ .load 1 :: ((List.range 32).flatMap fun k => loadStore (k + 2)) ++
    .store 1 :: loadStore 1

/-- Every sending is in time, and yet the request is counted twice. -/
theorem late_retry_counted_twice : (burstCalls.req 0).requestID = (burstCalls.req 1).requestID ∧
    EveryStep burstCalls.step burstCalls.SentInTime (.start meteredTask) lateMoves ∧
    (0 ∈ (run burstCalls.step (.start meteredTask) lateMoves).counted ∧
      1 ∈ (run burstCalls.step (.start meteredTask) lateMoves).counted) ∧
    (run burstCalls.step (.start meteredTask) lateMoves).task.status.tokensConsumed = 34 := by
  refine ⟨rfl,?_,?_,?_⟩
  all_goals decide +kernel

end Diverge.Tasks
