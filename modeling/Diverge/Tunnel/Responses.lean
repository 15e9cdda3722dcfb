import Diverge.Text.Bytes
import Diverge.Transition.Runs

/-! Responses through a tunnel: the calls that wait for them and the loop that receives the client's
messages. Each step is one access to shared state: a region under `respMu` or `chunkMu`, or one
operation on a channel. -/
namespace Diverge.Tunnel
open Text Transition

def maxChunkBufferSize : ℕ := 10 * 1048576

def tunnelReqChBuffer : ℕ := 10

/-- A `TunnelHTTPResponse` without its flag for chunks. -/
structure Response where
  requestID : String
  statusCode : ℤ
  headers : List (String × String)
  body : Bytes
  deriving DecidableEq

/-- The messages of a client after its registration. -/
inductive Message
  | response (hasMoreChunks : Bool) (r : Response)
  | chunk (requestID : String) (data : Bytes) (isLast : Bool)
  | pong
  | close
  deriving DecidableEq

structure ChunkAssembly where
  statusCode : ℤ
  headers : List (String × String)
  body : Bytes
  deriving DecidableEq

def ChunkAssembly.response (id : String) (a : ChunkAssembly) : Response :=
  ⟨id,a.statusCode,a.headers,a.body⟩

/-- `forwardToActiveTunnel`: before it, after `respWg` has its channel, after the request is queued,
and in the two parts of the deferred function. -/
inductive Call
  | idle
  | registered
  | waiting
  | unregistering (result : Except String Response)
  | dropping (result : Except String Response)
  | returned (result : Except String Response)

/-- The result of a call, once it is decided. -/
def Call.result : Call → Option (Except String Response)
  | .unregistering result => some result
  | .dropping result => some result
  | .returned result => some result
  | _ => none

/-- The receive loop is about to receive, to store a chunk start, to look up the channel of an
assembled response, to send on a channel, or ended. -/
inductive Loop (ι : Type)
  | receiving
  | storing (start : Response)
  | looking (id : String) (assembly : ChunkAssembly)
  | sending (i : ι) (r : Response)
  | ended

/-- Why a call gives up. -/
inductive Exit
  | canceled (err : String)
  | disconnected
  | timeout

/-- A call sees the end of the tunnel only when its context is canceled. -/
def Exit.possible (canceled : Bool) : Exit → Bool
  | .disconnected => canceled
  | _ => true

structure ActiveTunnel (ι : Type) where
  respWg : String → Option ι := fun _ => none
  chunkBuffer : String → Option ChunkAssembly := fun _ => none
  /-- The one slot of the channel of each call. -/
  respCh : ι → Option Response := fun _ => none
  reqCh : List ι := []
  calls : ι → Call := fun _ => .idle
  loop : Loop ι := .receiving
  canceled : Bool := false
  /-- The messages received so far, in their order. -/
  received : List Message := []

inductive Action (ι : Type)
  | register (i : ι)
  | enqueue (i : ι)
  | giveUp (i : ι) (why : Exit)
  | accept (i : ι)
  | unregister (i : ι)
  | dropChunks (i : ι)
  | sendRequest
  | receive (m : Message)
  | proceed
  | streamError
  | resetResponses
  | cancel

section
variable {ι : Type} [DecidableEq ι] (ids : ι → String)

/-- What a call returns when it gives up before its request is queued. -/
def queueError : Exit → String
  | .canceled err => err
  | .disconnected => "tunnel disconnected"
  | .timeout => "tunnel queue full, request dropped"

/-- What a call returns when it gives up waiting. -/
def waitError : Exit → String
  | .canceled err => err
  | .disconnected => "tunnel disconnected while waiting for response"
  | .timeout => "timeout waiting for tunnel response"

def handle (s : ActiveTunnel ι) : Message → ActiveTunnel ι
  | .response true r =>
    if (s.respWg r.requestID).isSome then { s with loop := .storing r } else s
  | .response false r =>
    match s.respWg r.requestID with
    | some i => { s with loop := .sending i r }
    | none => s
  | .chunk id data isLast =>
    match s.chunkBuffer id with
    | none => s
    | some a =>
      if maxChunkBufferSize < (a.body ++ data).length then
        { s with chunkBuffer := Function.update s.chunkBuffer id none }
      else if isLast then
        { s with
          chunkBuffer := Function.update s.chunkBuffer id none
          loop := .looking id { a with body := a.body ++ data } }
      else
        { s with chunkBuffer := Function.update s.chunkBuffer id (some { a with body := a.body ++ data }) }
  | .pong => s
  | .close => { s with loop := .ended }

/-- The next region of the loop's work on the message it has received. -/
def proceed (s : ActiveTunnel ι) : ActiveTunnel ι :=
  match s.loop with
  | .storing start =>
    { s with
      chunkBuffer := Function.update s.chunkBuffer start.requestID
        (some ⟨start.statusCode,start.headers,start.body⟩)
      loop := .receiving }
  | .looking id a =>
    match s.respWg id with
    | some i => { s with loop := .sending i (a.response id) }
    | none => { s with loop := .receiving }
  | .sending i r =>
    match s.respCh i with
    | none => { s with respCh := Function.update s.respCh i (some r), loop := .receiving }
    | some _ => { s with loop := .receiving }
  | _ => s

/-- One step; an action that is not possible changes nothing. -/
def step (s : ActiveTunnel ι) : Action ι → ActiveTunnel ι
  | .register i =>
    match s.calls i with
    | .idle =>
      { s with
        respWg := Function.update s.respWg (ids i) (some i)
        calls := Function.update s.calls i .registered }
    | _ => s
  | .enqueue i =>
    match s.calls i with
    | .registered =>
      if s.reqCh.length < tunnelReqChBuffer then
        { s with reqCh := s.reqCh ++ [i], calls := Function.update s.calls i .waiting }
      else s
    | _ => s
  | .giveUp i why =>
    if why.possible s.canceled then
      match s.calls i with
      | .registered => { s with calls := Function.update s.calls i (.unregistering (.error (queueError why))) }
      | .waiting => { s with calls := Function.update s.calls i (.unregistering (.error (waitError why))) }
      | _ => s
    else s
  | .accept i =>
    match s.calls i,s.respCh i with
    | .waiting,some r =>
      { s with
        respCh := Function.update s.respCh i none
        calls := Function.update s.calls i (.unregistering (.ok r)) }
    | _,_ => s
  | .unregister i =>
    match s.calls i with
    | .unregistering result =>
      { s with
        respWg := Function.update s.respWg (ids i) none
        calls := Function.update s.calls i (.dropping result) }
    | _ => s
  | .dropChunks i =>
    match s.calls i with
    | .dropping result =>
      { s with
        chunkBuffer := Function.update s.chunkBuffer (ids i) none
        calls := Function.update s.calls i (.returned result) }
    | _ => s
  | .sendRequest => { s with reqCh := s.reqCh.tail }
  | .receive m =>
    match s.loop with
    | .receiving => handle { s with received := s.received ++ [m] } m
    | _ => s
  | .proceed => proceed s
  | .streamError =>
    match s.loop with
    | .receiving => { s with loop := .ended }
    | _ => s
  | .resetResponses => { s with respWg := fun _ => none }
  | .cancel => { s with canceled := true }

end

section

def Message.isFor (id : String) : Message → Bool
  | .response _ r => r.requestID == id
  | .chunk id' _ _ => id' == id
  | _ => false

def messagesFor (id : String) (messages : List Message) : List Message := messages.filter (·.isFor id)

/-- A message that neither starts nor ends a chunked response. -/
def Message.goesOn : Message → Bool
  | .response hasMoreChunks _ => !hasMoreChunks
  | .chunk _ _ isLast => !isLast
  | _ => true

def Message.data : Message → Bytes
  | .chunk _ data _ => data
  | _ => []

def Partly (id : String) (messages : List Message) (a : ChunkAssembly) : Prop :=
  ∃ before start rest, messagesFor id messages = before ++ .response true start :: rest ∧
    (∀ m ∈ rest, m.goesOn = true) ∧
    a = ⟨start.statusCode,start.headers,start.body ++ rest.flatMap Message.data⟩

def Complete (id : String) (messages : List Message) (r : Response) : Prop :=
  r.requestID = id ∧ ∃ before, messagesFor id messages = before ++ [.response false r]

/-- The messages for a request end with a chunked response: its start, what follows up to the first
last chunk, and that chunk. -/
def Chunked (id : String) (messages : List Message) (r : Response) : Prop :=
  r.body.length ≤ maxChunkBufferSize ∧ ∃ before start rest data,
    messagesFor id messages = before ++ .response true start :: rest ++ [.chunk id data true] ∧
    (∀ m ∈ rest, m.goesOn = true) ∧
    r = ⟨id,start.statusCode,start.headers,start.body ++ rest.flatMap Message.data ++ data⟩

/-- A response that the client has sent by then for a request. -/
def Answers (id : String) (messages : List Message) (r : Response) : Prop :=
  ∃ seen, seen <+: messages ∧ (Complete id seen r ∨ Chunked id seen r)

variable {id : String} {messages : List Message} {r : Response} {a : ChunkAssembly} {m : Message}

lemma messagesFor_concat_of_isFor (h : m.isFor id = true) :
    messagesFor id (messages ++ [m]) = messagesFor id messages ++ [m] := by
  simp [messagesFor,h]

lemma messagesFor_concat_of_not (h : m.isFor id = false) :
    messagesFor id (messages ++ [m]) = messagesFor id messages := by
  simp [messagesFor,h]

lemma Answers.requestID_eq (h : Answers id messages r) : r.requestID = id := by
  obtain ⟨seen,-,⟨hid,-⟩ | ⟨-,before,start,rest,data,-,-,rfl⟩⟩ := h
  · exact hid
  · rfl

lemma Answers.concat (h : Answers id messages r) (m : Message) : Answers id (messages ++ [m]) r := by
  obtain ⟨seen,hseen,hanswer⟩ := h
  exact ⟨seen,hseen.trans (List.prefix_append _ _),hanswer⟩

lemma answers_complete (r : Response) : Answers r.requestID (messages ++ [.response false r]) r :=
  ⟨_,List.prefix_refl _,.inl ⟨rfl,_,messagesFor_concat_of_isFor (by simp [Message.isFor])⟩⟩

lemma Partly.concat (h : Partly id messages a) (hm : m.goesOn = true) :
    Partly id (messages ++ [m]) { a with body := a.body ++ if m.isFor id then m.data else [] } := by
  obtain ⟨before,start,rest,heq,hrest,rfl⟩ := h
  cases hid : m.isFor id with
  | false =>
    refine ⟨before,start,rest,?_,hrest,by simp⟩
    rw [messagesFor_concat_of_not hid,heq]
  | true =>
    refine ⟨before,start,rest ++ [m],?_,?_,by simp⟩
    · rw [messagesFor_concat_of_isFor hid,heq]
      simp
    · intro m' hm'
      rcases List.mem_append.mp hm' with hm' | hm'
      · exact hrest m' hm'
      · rw [List.mem_singleton.mp hm']
        exact hm

lemma Partly.other (h : Partly id messages a) (hm : m.isFor id = false) : Partly id (messages ++ [m]) a := by
  obtain ⟨before,start,rest,heq,hrest,rfl⟩ := h
  exact ⟨before,start,rest,by rw [messagesFor_concat_of_not hm,heq],hrest,rfl⟩

lemma partly_start (start : Response) : Partly start.requestID (messages ++ [.response true start])
      ⟨start.statusCode,start.headers,start.body⟩ :=
  ⟨messagesFor start.requestID messages,start,[],messagesFor_concat_of_isFor (by simp [Message.isFor]),
    by simp,by simp⟩

lemma Partly.finish (h : Partly id messages a) {data : Bytes}
    (hlength : (a.body ++ data).length ≤ maxChunkBufferSize) : Answers id (messages ++ [.chunk id data true])
      (ChunkAssembly.response id { a with body := a.body ++ data }) := by
  obtain ⟨before,start,rest,heq,hrest,rfl⟩ := h
  refine ⟨_,List.prefix_refl _,.inr ⟨hlength,before,start,rest,data,?_,hrest,rfl⟩⟩
  rw [messagesFor_concat_of_isFor (by simp [Message.isFor]),heq]

end

section
variable {ι : Type} {ids : ι → String} {s t : ActiveTunnel ι}

def Called (ids : ι → String) (s : ActiveTunnel ι) (id : String) : Prop :=
  ∃ i, ids i = id ∧ s.calls i ≠ .idle

def InHand (ids : ι → String) (s : ActiveTunnel ι) : Loop ι → Prop
  | .storing start => Called ids s start.requestID ∧
      Partly start.requestID s.received ⟨start.statusCode,start.headers,start.body⟩
  | .looking id a => Called ids s id ∧ (s.respWg id ≠ none → Answers id s.received (a.response id))
  | .sending i r => Answers (ids i) s.received r
  | _ => True

def Loop.stores (id : String) : Loop ι → Bool
  | .storing start => start.requestID == id
  | _ => false

/-- Every buffer holds what the messages for its request say. -/
structure Intact (ids : ι → String) (s : ActiveTunnel ι) : Prop where
  registered : ∀ id i, s.respWg id = some i → ids i = id ∧ s.calls i ≠ .idle
  called : ∀ id a, s.chunkBuffer id = some a → Called ids s id
  buffered : ∀ id a, s.chunkBuffer id = some a → s.respWg id ≠ none → s.loop.stores id = false →
    Partly id s.received a
  inHand : InHand ids s s.loop
  sent : ∀ i r, s.respCh i = some r → Answers (ids i) s.received r
  taken : ∀ i r, (s.calls i).result = some (.ok r) → Answers (ids i) s.received r

lemma Called.mono {id : String} (h : Called ids s id) (hcalls : ∀ i, s.calls i ≠ .idle → t.calls i ≠ .idle) :
    Called ids t id := by
  obtain ⟨i,hid,hi⟩ := h
  exact ⟨i,hid,hcalls i hi⟩

lemma Intact.weaken (hs : Intact ids s) (hcalls : ∀ i, s.calls i ≠ .idle → t.calls i ≠ .idle)
    (hreg : ∀ id i, t.respWg id = some i → s.respWg id = some i)
    (hbuffer : ∀ id a, t.chunkBuffer id = some a → s.chunkBuffer id = some a)
    (hsent : ∀ i r, t.respCh i = some r → s.respCh i = some r)
    (htaken : ∀ i r, (t.calls i).result = some (.ok r) →
      (s.calls i).result = some (.ok r) ∨ s.respCh i = some r)
    (hloop : t.loop = s.loop) (hreceived : t.received = s.received) : Intact ids t where
  registered id i hi := (hs.registered id i (hreg id i hi)).imp_right (hcalls i)
  called id a ha := (hs.called id a (hbuffer id a ha)).mono hcalls
  buffered id a ha hin hstores := by
    rw [hreceived]
    refine hs.buffered id a (hbuffer id a ha) (fun hnone => ?_) (hloop ▸ hstores)
    obtain ⟨i,hi⟩ := Option.ne_none_iff_exists'.mp hin
    exact absurd (hnone.symm.trans (hreg id i hi)) (by simp)
  inHand := by
    have hold := hs.inHand
    rw [hloop]
    cases hat : s.loop with
    | receiving | ended => trivial
    | storing start =>
      rw [hat] at hold
      exact ⟨hold.1.mono hcalls,hreceived ▸ hold.2⟩
    | looking id a =>
      rw [hat] at hold
      refine ⟨hold.1.mono hcalls,fun hin => hreceived ▸ hold.2 fun hnone => ?_⟩
      obtain ⟨i,hi⟩ := Option.ne_none_iff_exists'.mp hin
      exact absurd (hnone.symm.trans (hreg id i hi)) (by simp)
    | sending i r =>
      rw [hat] at hold
      change Answers (ids i) t.received r
      exact hreceived ▸ hold
  sent i r hr := hreceived ▸ hs.sent i r (hsent i r hr)
  taken i r hr := by
    rw [hreceived]
    rcases htaken i r hr with hr | hr
    · exact hs.taken i r hr
    · exact hs.sent i r hr

lemma intact_start : Intact ids ({} : ActiveTunnel ι) where
  registered _ _ h := absurd h (by simp)
  called _ _ h := absurd h (by simp)
  buffered _ _ h := absurd h (by simp)
  inHand := trivial
  sent _ _ h := absurd h (by simp)
  taken _ _ h := absurd h (by simp [Call.result])

lemma Intact.not_called_of_idle (hids : Function.Injective ids) {i : ι} (hidle : s.calls i = .idle) :
    ¬Called ids s (ids i) := by
  rintro ⟨j,hj,hcalled⟩
  exact hcalled (hids hj ▸ hidle)

lemma Intact.hear (hs : Intact ids s) (m : Message) (loop : Loop ι) {buffer : String → Option ChunkAssembly}
    (hcalled : ∀ id a, buffer id = some a → Called ids s id)
    (hbuffered : ∀ id a, buffer id = some a → s.respWg id ≠ none → loop.stores id = false →
      Partly id (s.received ++ [m]) a) (hhand : InHand ids { s with received := s.received ++ [m] } loop) :
    Intact ids { s with chunkBuffer := buffer, loop := loop, received := s.received ++ [m] } where
  registered := hs.registered
  called := hcalled
  buffered := hbuffered
  inHand := by cases loop <;> exact hhand
  sent i r hr := (hs.sent i r hr).concat m
  taken i r hr := (hs.taken i r hr).concat m

lemma Intact.buffered_other (hs : Intact ids s) (hloop : s.loop = .receiving) {m : Message} {id : String}
    {a : ChunkAssembly} (ha : s.chunkBuffer id = some a) (hin : s.respWg id ≠ none)
    (hm : m.isFor id = false) : Partly id (s.received ++ [m]) a :=
  (hs.buffered id a ha hin (by rw [hloop]; rfl)).other hm

variable {α β : Type} {f : α → Option β}

lemma some_of_update_none [DecidableEq α] {a a' : α} {b : β}
    (h : Function.update f a none a' = some b) : f a' = some b := by
  by_cases haa : a' = a
  · rw [haa,Function.update_self] at h
    cases h
  · rwa [Function.update_of_ne haa] at h

lemma update_some_cases [DecidableEq α] {a a' : α} {b b' : β}
    (h : Function.update f a (some b) a' = some b') : (a' = a ∧ b' = b) ∨ (a' ≠ a ∧ f a' = some b') := by
  by_cases haa : a' = a
  · rw [haa,Function.update_self] at h
    exact .inl ⟨haa,(Option.some.inj h).symm⟩
  · rw [Function.update_of_ne haa] at h
    exact .inr ⟨haa,h⟩

lemma Intact.hear_response (hs : Intact ids s) (hloop : s.loop = .receiving) (more : Bool) (r : Response) :
    Intact ids (handle { s with received := s.received ++ [.response more r] } (.response more r)) := by
  have hother : ∀ {id : String}, r.requestID ≠ id → (Message.response more r).isFor id = false := by
    intro id hid
    simp [Message.isFor,hid]
  cases more with
  | true =>
    unfold handle
    dsimp only
    split_ifs with hin
    · refine hs.hear _ _ hs.called (fun id a ha hin hstores => ?_) ⟨?_,partly_start r⟩
      · exact hs.buffered_other hloop ha hin (hother (by simpa [Loop.stores] using hstores))
      · obtain ⟨i,hi⟩ := Option.isSome_iff_exists.mp hin
        exact ⟨i,hs.registered _ i hi⟩
    · refine hs.hear _ s.loop hs.called (fun id a ha hin' _ => ?_) (by rw [hloop]; trivial)
      refine hs.buffered_other hloop ha hin' (hother fun hid => hin ?_)
      exact Option.isSome_iff_ne_none.mpr (hid ▸ hin')
  | false =>
    have hbuffered : ∀ id a, s.chunkBuffer id = some a → s.respWg id ≠ none →
        Partly id (s.received ++ [.response false r]) a := by
      intro id a ha hin
      have hsame := (hs.buffered id a ha hin (by rw [hloop]; rfl)).concat (m := .response false r) rfl
      simpa [Message.data] using hsame
    unfold handle
    dsimp only
    split
    · rename_i i hi
      refine hs.hear _ _ hs.called (fun id a ha hin _ => hbuffered id a ha hin) ?_
      obtain ⟨hid,-⟩ := hs.registered _ i hi
      change Answers (ids i) _ r
      rw [hid]
      exact answers_complete r
    · exact hs.hear _ s.loop hs.called (fun id a ha hin _ => hbuffered id a ha hin)
        (by rw [hloop]; trivial)

lemma Intact.hear_chunk (hs : Intact ids s) (hloop : s.loop = .receiving) (id : String) (data : Bytes)
    (isLast : Bool) : Intact ids (handle { s with received := s.received ++ [.chunk id data isLast] }
      (.chunk id data isLast)) := by
  have hother : ∀ {id' : String} {a : ChunkAssembly}, s.chunkBuffer id' = some a → s.respWg id' ≠ none →
      id' ≠ id → Partly id' (s.received ++ [.chunk id data isLast]) a := by
    intro id' a ha hin hid
    exact hs.buffered_other hloop ha hin (by simp [Message.isFor,hid.symm])
  have hremoved : ∀ {id' : String} {a : ChunkAssembly},
      Function.update s.chunkBuffer id none id' = some a → id' ≠ id := by
    intro id' a ha hid
    rw [hid,Function.update_self] at ha
    cases ha
  have hreceiving : InHand ids { s with received := s.received ++ [.chunk id data isLast] } s.loop := by
    rw [hloop]
    trivial
  unfold handle
  dsimp only
  split
  · rename_i hnone
    refine hs.hear _ s.loop hs.called (fun id' a ha hin _ => hother ha hin fun hid => ?_) hreceiving
    rw [hid,hnone] at ha
    cases ha
  · rename_i a ha
    have hbefore : s.respWg id ≠ none → Partly id s.received a := fun hin =>
      hs.buffered id a ha hin (by rw [hloop]; rfl)
    split_ifs with hsize hlast
    · exact hs.hear _ s.loop (fun id' a' ha' => hs.called id' a' (some_of_update_none ha'))
        (fun id' a' ha' hin _ => hother (some_of_update_none ha') hin (hremoved ha')) hreceiving
    · subst hlast
      refine hs.hear _ _ (fun id' a' ha' => hs.called id' a' (some_of_update_none ha'))
        (fun id' a' ha' hin _ => hother (some_of_update_none ha') hin (hremoved ha'))
        ⟨hs.called id a ha,fun hin => ?_⟩
      exact (hbefore hin).finish (Nat.not_lt.mp hsize)
    · have hlast := Bool.eq_false_iff.mpr hlast
      subst hlast
      refine hs.hear _ s.loop (fun id' a' ha' => ?_) (fun id' a' ha' hin _ => ?_) hreceiving
      · rcases update_some_cases ha' with ⟨rfl,-⟩ | ⟨-,ha'⟩
        · exact hs.called id' a ha
        · exact hs.called id' a' ha'
      · rcases update_some_cases ha' with ⟨rfl,rfl⟩ | ⟨hid,ha'⟩
        · have hnext := (hbefore hin).concat (m := .chunk id' data false) rfl
          simpa [Message.isFor,Message.data] using hnext
        · exact hother ha' hin hid

lemma Intact.receive (hs : Intact ids s) (hloop : s.loop = .receiving) (m : Message) :
    Intact ids (handle { s with received := s.received ++ [m] } m) := by
  have hother : ∀ id, m.isFor id = false → ∀ a, s.chunkBuffer id = some a → s.respWg id ≠ none →
      Partly id (s.received ++ [m]) a := fun id hm a ha hin => hs.buffered_other hloop ha hin hm
  cases m with
  | response more r => exact hs.hear_response hloop more r
  | chunk id data isLast => exact hs.hear_chunk hloop id data isLast
  | pong =>
    exact hs.hear .pong s.loop hs.called (fun id a ha hin _ => hother id rfl a ha hin)
      (by rw [hloop]; trivial)
  | close => exact hs.hear .close _ hs.called (fun id a ha hin _ => hother id rfl a ha hin) trivial

@[simp] lemma handle_calls (m : Message) : (handle s m).calls = s.calls := by
  unfold handle
  split
  · split_ifs <;> rfl
  · split <;> rfl
  · split
    · rfl
    · split_ifs <;> rfl
  · rfl
  · rfl

end

variable {ι : Type} [DecidableEq ι] {ids : ι → String} {s : ActiveTunnel ι} {i : ι}

lemma calls_update {c : Call} (hc : c ≠ .idle) (j : ι) (hj : s.calls j ≠ .idle) :
    Function.update s.calls i c j ≠ .idle := by
  by_cases hji : j = i
  · rwa [hji,Function.update_self]
  · rwa [Function.update_of_ne hji]

lemma result_update {c : Call} (hc : ∀ r, c.result = some (.ok r) →
      (s.calls i).result = some (.ok r) ∨ s.respCh i = some r) (j : ι) (r : Response)
    (hj : (Function.update s.calls i c j).result = some (.ok r)) :
    (s.calls j).result = some (.ok r) ∨ s.respCh j = some r := by
  by_cases hji : j = i
  · rw [hji,Function.update_self] at hj
    rw [hji]
    exact hc r hj
  · rw [Function.update_of_ne hji] at hj
    exact .inl hj

lemma Intact.advance (hs : Intact ids s) {c : Call} (hc : c ≠ .idle)
    (hresult : ∀ r, c.result = some (.ok r) → (s.calls i).result = some (.ok r)) :
    Intact ids { s with calls := Function.update s.calls i c } :=
  hs.weaken (calls_update hc) (fun _ _ h => h) (fun _ _ h => h) (fun _ _ h => h)
    (result_update fun r hr => .inl (hresult r hr)) rfl rfl

lemma Intact.register (hids : Function.Injective ids) (hs : Intact ids s) (hidle : s.calls i = .idle) :
    Intact ids { s with
      respWg := Function.update s.respWg (ids i) (some i)
      calls := Function.update s.calls i .registered } := by
  have hcalls := calls_update (s := s) (i := i) (c := .registered) (by simp)
  have hnew : ¬Called ids s (ids i) := Intact.not_called_of_idle hids hidle
  have hother : ∀ id, id ≠ ids i → Function.update s.respWg (ids i) (some i) id = s.respWg id :=
    fun id hid => Function.update_of_ne hid _ _
  constructor
  · intro id j hj
    rcases update_some_cases hj with ⟨rfl,rfl⟩ | ⟨-,hj⟩
    · exact ⟨rfl,by simp⟩
    · exact (hs.registered id j hj).imp_right (hcalls j)
  · exact fun id a ha => (hs.called id a ha).mono hcalls
  · intro id a ha hin hstores
    have hid : id ≠ ids i := fun hid => hnew (hid ▸ hs.called id a ha)
    exact hs.buffered id a ha (by rwa [← hother id hid]) hstores
  · have hold := hs.inHand
    cases hat : s.loop with
    | receiving | ended => trivial
    | storing start =>
      rw [hat] at hold
      exact ⟨hold.1.mono hcalls,hold.2⟩
    | looking id a =>
      rw [hat] at hold
      have hid : id ≠ ids i := fun hid => hnew (hid ▸ hold.1)
      exact ⟨hold.1.mono hcalls,fun hin => hold.2 (by rwa [← hother id hid])⟩
    | sending j r =>
      rw [hat] at hold
      exact hold
  · exact hs.sent
  · intro j r hr
    rcases result_update (fun r hr => absurd hr (by simp [Call.result])) j r hr with hr | hr
    · exact hs.taken j r hr
    · exact hs.sent j r hr

lemma Intact.proceed (hs : Intact ids s) : Intact ids (proceed s) := by
  have hhand := hs.inHand
  unfold Tunnel.proceed
  cases hloop : s.loop with
  | receiving | ended => exact hs
  | storing start =>
    rw [hloop] at hhand
    dsimp only
    refine ⟨hs.registered,fun id a ha => ?_,fun id a ha hin _ => ?_,trivial,hs.sent,hs.taken⟩
    · rcases update_some_cases ha with ⟨rfl,-⟩ | ⟨-,ha⟩
      · exact hhand.1
      · exact hs.called id a ha
    · rcases update_some_cases ha with ⟨rfl,rfl⟩ | ⟨hid,ha⟩
      · exact hhand.2
      · refine hs.buffered id a ha hin ?_
        rw [hloop]
        simpa [Loop.stores] using Ne.symm hid
  | looking id a =>
    rw [hloop] at hhand
    have hbuffered : ∀ id a, s.chunkBuffer id = some a → s.respWg id ≠ none → Partly id s.received a :=
      fun id a ha hin => hs.buffered id a ha hin (by rw [hloop]; rfl)
    dsimp only
    split
    · rename_i i hi
      refine ⟨hs.registered,hs.called,fun id a ha hin _ => hbuffered id a ha hin,?_,hs.sent,hs.taken⟩
      obtain ⟨hid,-⟩ := hs.registered id i hi
      change Answers (ids i) _ _
      rw [hid]
      exact hhand.2 (by simp [hi])
    · exact ⟨hs.registered,hs.called,fun id a ha hin _ => hbuffered id a ha hin,trivial,hs.sent,hs.taken⟩
  | sending i r =>
    rw [hloop] at hhand
    have hbuffered : ∀ id a, s.chunkBuffer id = some a → s.respWg id ≠ none → Partly id s.received a :=
      fun id a ha hin => hs.buffered id a ha hin (by rw [hloop]; rfl)
    dsimp only
    split
    · refine ⟨hs.registered,hs.called,fun id a ha hin _ => hbuffered id a ha hin,trivial,fun j r' hr => ?_,
        hs.taken⟩
      rcases update_some_cases hr with ⟨rfl,rfl⟩ | ⟨-,hr⟩
      · exact hhand
      · exact hs.sent j r' hr
    · exact ⟨hs.registered,hs.called,fun id a ha hin _ => hbuffered id a ha hin,trivial,hs.sent,hs.taken⟩

lemma intact_step (hids : Function.Injective ids) (hs : Intact ids s) (act : Action ι) :
    Intact ids (step ids s act) := by
  cases act with
  | register i =>
    unfold step
    dsimp only
    split
    · exact hs.register hids ‹_›
    · exact hs
  | enqueue i =>
    unfold step
    dsimp only
    split
    · split_ifs
      · exact hs.weaken (calls_update (by simp)) (fun _ _ h => h) (fun _ _ h => h) (fun _ _ h => h)
          (result_update (by simp [Call.result])) rfl rfl
      · exact hs
    · exact hs
  | giveUp i why =>
    unfold step
    dsimp only
    split_ifs
    · split
      · exact hs.advance (by simp) (by simp [Call.result])
      · exact hs.advance (by simp) (by simp [Call.result])
      · exact hs
    · exact hs
  | accept i =>
    unfold step
    dsimp only
    split
    · rename_i r _ hr
      refine hs.weaken (calls_update (by simp)) (fun _ _ h => h) (fun _ _ h => h)
        (fun _ _ h => some_of_update_none h) (result_update fun r' hr' => .inr ?_) rfl rfl
      rw [hr]
      simpa [Call.result] using hr'
    · exact hs
  | unregister i =>
    unfold step
    dsimp only
    split
    · rename_i result hi
      refine hs.weaken (calls_update (by simp)) (fun _ _ h => some_of_update_none h) (fun _ _ h => h)
        (fun _ _ h => h) (result_update fun r hr => .inl ?_) rfl rfl
      rw [hi]
      exact hr
    · exact hs
  | dropChunks i =>
    unfold step
    dsimp only
    split
    · rename_i result hi
      refine hs.weaken (calls_update (by simp)) (fun _ _ h => h) (fun _ _ h => some_of_update_none h)
        (fun _ _ h => h) (result_update fun r hr => .inl ?_) rfl rfl
      rw [hi]
      exact hr
    · exact hs
  | sendRequest | cancel => exact ⟨hs.registered,hs.called,hs.buffered,hs.inHand,hs.sent,hs.taken⟩
  | receive m =>
    unfold step
    dsimp only
    split
    · exact hs.receive ‹_› m
    · exact hs
  | proceed => exact hs.proceed
  | streamError =>
    unfold step
    dsimp only
    split
    · rename_i hloop
      refine ⟨hs.registered,hs.called,fun id a ha hin _ => ?_,trivial,hs.sent,hs.taken⟩
      exact hs.buffered id a ha hin (by rw [hloop]; rfl)
    · exact hs
  | resetResponses =>
    exact hs.weaken (fun _ h => h) (fun _ _ h => by cases h) (fun _ _ h => h) (fun _ _ h => h)
      (fun _ _ h => .inl h) rfl rfl

@[simp] lemma proceed_calls : (proceed s).calls = s.calls := by
  unfold proceed
  split
  · rfl
  · split <;> rfl
  · split <;> rfl
  · rfl

lemma returned_step {result : Except String Response} (hi : s.calls i = .returned result)
    (act : Action ι) : (step ids s act).calls i = .returned result := by
  have hother : ∀ {j : ι} {c : Call}, s.calls j ≠ s.calls i → Function.update s.calls j c i = .returned result := by
    intro j c hj
    have hij : i ≠ j := fun hij => hj (congrArg s.calls hij.symm)
    rwa [Function.update_of_ne hij]
  cases act with
  | register j | accept j | unregister j | dropChunks j =>
    unfold step
    dsimp only
    split
    · exact hother (by simp [*])
    · exact hi
  | enqueue j =>
    unfold step
    dsimp only
    split
    · split_ifs
      · exact hother (by simp [*])
      · exact hi
    · exact hi
  | giveUp j why =>
    unfold step
    dsimp only
    split_ifs
    · split
      · exact hother (by simp [*])
      · exact hother (by simp [*])
      · exact hi
    · exact hi
  | sendRequest | resetResponses | cancel => exact hi
  | receive m =>
    unfold step
    dsimp only
    split
    · rwa [handle_calls]
    · exact hi
  | proceed =>
    change (Tunnel.proceed s).calls i = _
    rwa [proceed_calls]
  | streamError =>
    unfold step
    dsimp only
    split <;> exact hi

/-- A call with its own request id returns at most one response, and that is one which the client has
sent for it: a complete message, or the latest chunk start with its chunks up to the first last one. -/
theorem responses_intact (hids : Function.Injective ids) (actions : List (Action ι)) (i : ι) (r : Response)
    (hi : (run (step ids) {} actions).calls i = .returned (.ok r)) :
    r.requestID = ids i ∧ Answers (ids i) (run (step ids) {} actions).received r ∧
      ∀ more, (run (step ids) {} (actions ++ more)).calls i = .returned (.ok r) := by
  have hintact : Intact ids (run (step ids) {} actions) :=
    run_invariant (P := Intact ids) (fun _ act hs => intact_step hids hs act) intact_start actions
  have hanswer := hintact.taken i r (by rw [hi]; rfl)
  refine ⟨hanswer.requestID_eq,hanswer,fun more => ?_⟩
  rw [run_append]
  exact run_invariant (P := fun s : ActiveTunnel ι => s.calls i = .returned (.ok r))
    (fun _ act hs => returned_step hs act) hi more

def twoCalls : List (Action Bool) :=
  [.register true,.register false,.enqueue true,.enqueue false,.sendRequest,.sendRequest,
    .receive (.response true ⟨"a",200,[],[1]⟩),.proceed,.receive (.chunk "a" [2] false),
    .receive (.response false ⟨"b",404,[],[9]⟩),.proceed,.accept false,.receive (.chunk "a" [3] true),
    .proceed,.proceed,.accept true,.unregister true,.dropChunks true]

theorem chunks_around_other_response :
    Answers "a" (run (step fun b : Bool => if b then "a" else "b") {} twoCalls).received
      ⟨"a",200,[],[1,2,3]⟩ :=
  (responses_intact (fun b c h => by cases b <;> cases c <;> simp_all) twoCalls true ⟨"a",200,[],[1,2,3]⟩
    rfl).2.1

end Diverge.Tunnel
