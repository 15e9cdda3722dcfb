import Diverge.Tunnel.Responses

/-! What the chunk buffer of a tunnel may hold: parts of responses for calls in progress. -/
namespace Diverge.Tunnel
open Text Transition

/-- The call has begun, and its deferred function has not emptied its buffer yet. -/
def Call.inProgress : Call → Bool
  | .idle => false
  | .returned _ => false
  | _ => true

def Loop.betweenMessages {ι : Type} : Loop ι → Bool
  | .receiving => true
  | .ended => true
  | _ => false

section
variable {ι : Type}

/-- No buffer outlives the calls, and no body grows beyond the limit by more than the chunk that is
appended to it. -/
structure NoLeak (s : ActiveTunnel ι) : Prop where
  drained : (∀ i, (s.calls i).inProgress = false) → s.loop.betweenMessages = true →
    ∀ id, s.chunkBuffer id = none
  bounded : ∀ id a, s.chunkBuffer id = some a → ∀ data,
    (a.body ++ data).length ≤ maxChunkBufferSize + data.length

/-- A chunk start is stored while a call for it is in progress, and has no more than the limit. -/
def Orderly (ids : ι → String) (s : ActiveTunnel ι) : Action ι → Prop
  | .proceed => ∀ start, s.loop = .storing start →
      ∃ i, ids i = start.requestID ∧ (s.calls i).inProgress = true
  | .receive (.response true start) => start.body.length ≤ maxChunkBufferSize
  | _ => True

/-- Every buffer belongs to a call in progress and is within the limit. -/
structure Owned (ids : ι → String) (s : ActiveTunnel ι) : Prop where
  buffered : ∀ id a, s.chunkBuffer id = some a →
    (∃ i, ids i = id ∧ (s.calls i).inProgress = true) ∧ a.body.length ≤ maxChunkBufferSize
  starting : ∀ start, s.loop = .storing start → start.body.length ≤ maxChunkBufferSize

variable {ids : ι → String} {s t : ActiveTunnel ι}

lemma Owned.noLeak (hs : Owned ids s) : NoLeak s := by
  constructor
  · intro hcalls _ id
    cases hid : s.chunkBuffer id with
    | none => rfl
    | some a =>
      obtain ⟨⟨i,-,hi⟩,-⟩ := hs.buffered id a hid
      rw [hcalls i] at hi
      cases hi
  · intro id a ha data
    rw [List.length_append]
    exact Nat.add_le_add_right (hs.buffered id a ha).2 _

lemma Owned.weaken (hs : Owned ids s)
    (hcalls : ∀ i, (s.calls i).inProgress = true → (t.calls i).inProgress = true)
    (hbuffer : t.chunkBuffer = s.chunkBuffer) (hloop : ∀ start, t.loop = .storing start → s.loop = .storing start) :
    Owned ids t where
  buffered id a ha := by
    rw [hbuffer] at ha
    obtain ⟨⟨i,hid,hi⟩,hlength⟩ := hs.buffered id a ha
    exact ⟨⟨i,hid,hcalls i hi⟩,hlength⟩
  starting start hstart := hs.starting start (hloop start hstart)

lemma Owned.hear (hs : Owned ids s) {m : Message} (hm : Orderly ids s (.receive m)) : Owned ids (handle s m) := by
  cases m with
  | response more r =>
    cases more with
    | true =>
      unfold handle
      dsimp only
      split_ifs
      · exact ⟨hs.buffered,fun start hstart => Loop.storing.inj hstart ▸ hm⟩
      · exact hs
    | false =>
      unfold handle
      dsimp only
      split
      · exact ⟨hs.buffered,nofun⟩
      · exact hs
  | chunk id data isLast =>
    unfold handle
    dsimp only
    cases hid : s.chunkBuffer id with
    | none => exact hs
    | some a =>
      have hfewer : ∀ id' a', Function.update s.chunkBuffer id none id' = some a' →
          s.chunkBuffer id' = some a' := fun _ _ h => some_of_update_none h
      dsimp only
      split_ifs with hlarge
      · exact ⟨fun id' a' h => hs.buffered id' a' (hfewer id' a' h),hs.starting⟩
      · exact ⟨fun id' a' h => hs.buffered id' a' (hfewer id' a' h),nofun⟩
      · refine ⟨fun id' a' h => ?_,hs.starting⟩
        rcases update_some_cases h with ⟨rfl,rfl⟩ | ⟨-,hold⟩
        · exact ⟨(hs.buffered id' a hid).1,Nat.le_of_not_lt hlarge⟩
        · exact hs.buffered id' a' hold
  | pong => exact hs
  | close => exact ⟨hs.buffered,nofun⟩

lemma Owned.proceed [DecidableEq ι] (hs : Owned ids s) (ha : Orderly ids s .proceed) : Owned ids (proceed s) := by
  unfold Tunnel.proceed
  cases hloop : s.loop with
  | storing start =>
    refine ⟨fun id a h => ?_,nofun⟩
    rcases update_some_cases h with ⟨rfl,rfl⟩ | ⟨-,hold⟩
    · exact ⟨ha start hloop,hs.starting start hloop⟩
    · exact hs.buffered id a hold
  | looking id a | sending i r =>
    dsimp only
    split
    · exact ⟨hs.buffered,nofun⟩
    · exact ⟨hs.buffered,nofun⟩
  | receiving | ended => exact hs

variable [DecidableEq ι]

lemma inProgress_update {i : ι} {c : Call} (hc : c.inProgress = true) (j : ι)
    (hj : (s.calls j).inProgress = true) : (Function.update s.calls i c j).inProgress = true := by
  by_cases hij : j = i
  · rw [hij,Function.update_self]
    exact hc
  · rwa [Function.update_of_ne hij]

lemma Owned.dropChunks (hs : Owned ids s) (i : ι) (c : Call) : Owned ids { s with
      chunkBuffer := Function.update s.chunkBuffer (ids i) none
      calls := Function.update s.calls i c } where
  buffered id a ha := by
    change Function.update s.chunkBuffer (ids i) none id = some a at ha
    have hid : id ≠ ids i := by
      rintro rfl
      rw [Function.update_self] at ha
      cases ha
    obtain ⟨⟨j,hj,hprogress⟩,hlength⟩ := hs.buffered id a (some_of_update_none ha)
    have hji : j ≠ i := by
      rintro rfl
      exact hid hj.symm
    have hkept : Function.update s.calls i c j = s.calls j := Function.update_of_ne hji _ _
    exact ⟨⟨j,hj,(congrArg Call.inProgress hkept).trans hprogress⟩,hlength⟩
  starting := hs.starting

lemma Owned.step (hs : Owned ids s) {a : Action ι} (ha : Orderly ids s a) : Owned ids (step ids s a) := by
  cases a with
  | register i | accept i | unregister i =>
    unfold Tunnel.step
    dsimp only
    split
    · exact hs.weaken (inProgress_update rfl) rfl fun _ h => h
    · exact hs
  | enqueue i =>
    unfold Tunnel.step
    dsimp only
    split
    · split_ifs
      · exact hs.weaken (inProgress_update rfl) rfl fun _ h => h
      · exact hs
    · exact hs
  | giveUp i why =>
    unfold Tunnel.step
    dsimp only
    split_ifs
    · split
      · exact hs.weaken (inProgress_update rfl) rfl fun _ h => h
      · exact hs.weaken (inProgress_update rfl) rfl fun _ h => h
      · exact hs
    · exact hs
  | dropChunks i =>
    unfold Tunnel.step
    dsimp only
    split
    · exact hs.dropChunks i _
    · exact hs
  | sendRequest | resetResponses | cancel => exact hs.weaken (fun _ h => h) rfl fun _ h => h
  | receive m =>
    unfold Tunnel.step
    dsimp only
    split
    · have hreceived : Owned ids { s with received := s.received ++ [m] } :=
        hs.weaken (fun _ h => h) rfl fun _ h => h
      exact hreceived.hear ha
    · exact hs
  | proceed => exact hs.proceed ha
  | streamError =>
    unfold Tunnel.step
    dsimp only
    split
    · exact hs.weaken (fun _ h => h) rfl nofun
    · exact hs

/-- Buffers do not leak in a run in which every chunk start is stored before the calls for it have
ended, and none is larger than the limit itself. -/
theorem chunk_buffers_drained (ids : ι → String) (as : List (Action ι))
    (h : EveryStep (Tunnel.step ids) (Orderly ids) {} as) :
    ∀ pre, pre <+: as → NoLeak (run (Tunnel.step ids) {} pre) := by
  intro pre hpre
  have hstart : Owned ids ({} : ActiveTunnel ι) := ⟨nofun,nofun⟩
  exact (h.reaches (fun s a ha hs => hs.step ha) hstart pre hpre).noLeak

end

def chunkStart (body : Bytes) : Message := .response true ⟨"r",200,[],body⟩

def sampleIds (_ : Unit) : String := "r"

theorem chunk_start_drained :
    EveryStep (Tunnel.step sampleIds) (Orderly sampleIds) {} [.register (),.receive (chunkStart []),.proceed] ∧
      ∀ pre, pre <+: [.register (),.receive (chunkStart []),.proceed] →
        NoLeak (run (Tunnel.step sampleIds) {} pre) := by
  have h : EveryStep (Tunnel.step sampleIds) (Orderly sampleIds) {}
      [.register (),.receive (chunkStart []),.proceed] :=
    ⟨trivial,Nat.zero_le _,fun _ hstart => ⟨(),by cases hstart; rfl,rfl⟩,trivial⟩
  exact ⟨h,chunk_buffers_drained sampleIds _ h⟩

/-- The run in which a chunk start is stored after what a call does next. -/
def startStored (body : Bytes) (meanwhile : List (Action Unit)) : ActiveTunnel Unit :=
  run (Tunnel.step sampleIds) {} ([.register (),.receive (chunkStart body)] ++ meanwhile ++ [.proceed])

lemma startStored_buffer (body : Bytes) : (startStored body []).chunkBuffer "r" = some ⟨200,[],body⟩ := rfl

/-- A call that times out between the look-up of its channel and the storing of the chunk start leaves the
start in the buffer, and the size of a start is not checked. -/
theorem timed_out_start_kept :
    ¬NoLeak (startStored [] [.giveUp () .timeout,.unregister (),.dropChunks ()]) ∧
      ¬NoLeak (startStored (List.replicate (maxChunkBufferSize + 1) 0) []) := by
  constructor
  · intro h
    cases h.drained (fun _ => rfl) rfl "r"
  · intro h
    have hbound := h.bounded "r" _ (startStored_buffer _) []
    rw [List.append_nil,List.length_replicate,List.length_nil] at hbound
    omega

end Diverge.Tunnel
