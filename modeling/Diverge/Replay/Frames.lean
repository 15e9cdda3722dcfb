import Diverge.Text.ByteStrings

/-! The envelopes round streamed messages: frames of a flag byte, a length of four bytes and a payload,
with the status of the call in a trailer. -/
namespace Diverge.Replay
open Text

def normalizeMediaType (contentType : String) : String :=
  trimSpace (String.ofList ((toLower (trimSpace contentType)).toList.takeWhile (· != ';')))

def isFramedProtoContentType (contentType : String) : Bool :=
  ["application/grpc","application/grpc+proto","application/grpc-web","application/grpc-web+proto",
    "application/connect+proto"].contains (normalizeMediaType contentType)

def ok : Bytes := utf8 "ok"

/-- The error that ends a Connect stream, by its code and its message. -/
def connectStatus (code message : Bytes) : Bytes :=
  if code ≠ [] ∧ message ≠ [] then utf8 "connect-error:" ++ code ++ utf8 " (" ++ message ++ utf8 ")"
  else if code ≠ [] then utf8 "connect-error:" ++ code
  else if message ≠ [] then utf8 "connect-error:" ++ message
  else utf8 "connect-error"

/-- The status that a line of a gRPC-Web trailer reports, unless it is none or zero. -/
def grpcStatus (rawLine : Bytes) : Option Bytes :=
  let line := ByteStrings.trimSpace (if rawLine.getLast? = some 13 then rawLine.dropLast else rawLine)
  let name := ByteStrings.trimSpace (line.takeWhile (· != 58))
  let value := ByteStrings.trimSpace ((line.dropWhile (· != 58)).drop 1)
  if line.contains 58 ∧ (runes name).map foldChar = "grpc-status".toList ∧ value ≠ [] ∧ value ≠ utf8 "0" then
    some (utf8 "grpc-status:" ++ value)
  else none

/-- `endStream` reads the JSON of the end of a Connect stream: code and message of its error. -/
def parseTrailerFrameStatus (endStream : Bytes → Except String (Option (Bytes × Bytes))) (flags : UInt8)
    (payload : Bytes) : Except String Bytes :=
  let trimmed := ByteStrings.trimSpace payload
  if trimmed = [] then .ok ok
  else if flags &&& 0x02 ≠ 0 then
    match endStream trimmed with
    | .error e => .error ("invalid Connect end-of-stream frame JSON: " ++ e)
    | .ok none => .ok ok
    | .ok (some (code,message)) =>
      .ok (connectStatus (ByteStrings.trimSpace code) (ByteStrings.trimSpace message))
  else if flags &&& 0x80 ≠ 0 then
    .ok (((ByteStrings.split 10 trimmed).findSome? grpcStatus).getD ok)
  else .ok ok

section
variable (endStream : Bytes → Except String (Option (Bytes × Bytes)))

def flagsOf (buf : Bytes) : UInt8 := buf.headD 0

def frameLen (buf : Bytes) : ℕ := ((buf.drop 1).take 4).foldl (fun n b => n * 256 + b.toNat) 0

def framePayload (buf : Bytes) : Bytes := (buf.drop 5).take (frameLen buf)

def afterFrame (buf : Bytes) : Bytes := (buf.drop 5).drop (frameLen buf)

lemma afterFrame_length {buf : Bytes} (h : buf ≠ []) : (afterFrame buf).length < buf.length := by
  have hpos := List.length_pos_of_ne_nil h
  simp only [afterFrame,List.length_drop]
  omega

def byteText (b : UInt8) : String := String.ofList (hexChars [b])

def truncatedHeader (protocol : String) (buf : Bytes) : String :=
  "truncated " ++ protocol ++ " frame header (" ++ toString buf.length ++ " bytes remaining)"

def truncatedPayload (protocol : String) (buf : Bytes) : String :=
  "truncated " ++ protocol ++ " frame payload: expected " ++ toString (frameLen buf) ++ " bytes, got " ++
    toString (buf.length - 5)

def compressedFrame (protocol : String) (buf : Bytes) : String :=
  "compressed " ++ protocol ++ " frame (flags=0x" ++ byteText (flagsOf buf) ++
    ") cannot be decoded without decompression"

/-- The loop of `unwrapEnvelopeFrames`, with what it has written. -/
def unwrapFrom (out trailerStatus buf : Bytes) : Except String (Bytes × Bytes) :=
  if buf = [] then .ok (out,trailerStatus)
  else if buf.length < 5 then .error (truncatedHeader "gRPC/Connect" buf)
  else if buf.length - 5 < frameLen buf then .error (truncatedPayload "gRPC/Connect" buf)
  else if flagsOf buf &&& 0x01 ≠ 0 then .error (compressedFrame "gRPC/Connect" buf)
  else if flagsOf buf &&& 0x82 ≠ 0 then
    parseTrailerFrameStatus endStream (flagsOf buf) (framePayload buf) >>= fun status =>
      unwrapFrom out (if status ≠ ok then status else trailerStatus) (afterFrame buf)
  else unwrapFrom (out ++ framePayload buf) trailerStatus (afterFrame buf)
termination_by buf.length
decreasing_by all_goals exact afterFrame_length (by assumption)

/-- The loop of `hasValidEnvelopeFrameSequence`: how many frames it has seen, if it gets to the end. -/
def countFrames (frameCount : ℕ) (buf : Bytes) : Option ℕ :=
  if buf = [] then some frameCount
  else if buf.length < 5 then none
  else if flagsOf buf ≠ 0x00 ∧ flagsOf buf ≠ 0x02 ∧ flagsOf buf ≠ 0x80 then none
  else if buf.length - 5 < frameLen buf then none
  else if frameCount = 0 ∧ flagsOf buf = 0x00 ∧ frameLen buf = 0 ∧ 0 < buf.length - 5 then none
  else countFrames (frameCount + 1) (afterFrame buf)
termination_by buf.length
decreasing_by exact afterFrame_length (by assumption)

def hasValidEnvelopeFrameSequence (raw : Bytes) : Bool :=
  decide (5 ≤ raw.length) && (countFrames 0 raw).any (0 < ·) && decide (0 < frameLen raw)

/-- The bytes that the first decoder takes for frames. -/
def framed (contentType : String) (raw : Bytes) : Bool :=
  isFramedProtoContentType contentType || hasValidEnvelopeFrameSequence raw

def unwrapEnvelopeFrames (contentType : String) (raw : Bytes) : Except String (Bytes × Bytes) :=
  if raw = [] then .ok ([],ok)
  else if framed contentType raw then unwrapFrom endStream [] ok raw
  else .ok (raw,ok)

/-- The loop of `unwrapJSONEnvelopeFrames`, with the frames it has collected. -/
def unwrapJSONFrom (frames : List Bytes) (trailerStatus buf : Bytes) : Except String (List Bytes × Bytes) :=
  if buf = [] then .ok (frames,trailerStatus)
  else if buf.length < 5 then .error (truncatedHeader "Connect JSON" buf)
  else if buf.length - 5 < frameLen buf then .error (truncatedPayload "Connect JSON" buf)
  else if flagsOf buf &&& 0x01 ≠ 0 then .error (compressedFrame "Connect JSON" buf)
  else if flagsOf buf &&& 0x82 ≠ 0 then
    parseTrailerFrameStatus endStream (flagsOf buf) (framePayload buf) >>= fun status =>
      unwrapJSONFrom frames (if status ≠ ok then status else trailerStatus) (afterFrame buf)
  else unwrapJSONFrom (frames ++ [framePayload buf]) trailerStatus (afterFrame buf)
termination_by buf.length
decreasing_by all_goals exact afterFrame_length (by assumption)

def unwrapJSONEnvelopeFrames (raw : Bytes) : Except String (List Bytes × Bytes) :=
  unwrapJSONFrom endStream [] ok raw

end

variable {endStream : Bytes → Except String (Option (Bytes × Bytes))}

lemma unwrapFrom_eq (frames : List Bytes) (status buf : Bytes) :
    (unwrapFrom endStream frames.flatten status buf).toOption =
      (unwrapJSONFrom endStream frames status buf).toOption.map fun r => (r.1.flatten,r.2) := by
  induction hn : buf.length using Nat.strongRecOn generalizing frames status buf with
  | ind n ih =>
    rw [unwrapFrom,unwrapJSONFrom]
    split_ifs with hnil hheader hpayload hcompressed htrailer
    · rfl
    · rfl
    · rfl
    · rfl
    · cases parseTrailerFrameStatus endStream (flagsOf buf) (framePayload buf) with
      | error e => rfl
      | ok trailer => exact ih _ (hn ▸ afterFrame_length hnil) _ _ _ rfl
    · have hnext := ih _ (hn ▸ afterFrame_length hnil) (frames ++ [framePayload buf]) status _ rfl
      rwa [List.flatten_append,List.flatten_singleton] at hnext

def encodeFrame (flags : UInt8) (payload : Bytes) : Bytes :=
  flags :: (payload.length / 16777216).toUInt8 :: (payload.length / 65536).toUInt8 ::
    (payload.length / 256).toUInt8 :: payload.length.toUInt8 :: payload

/-- Messages in uncompressed frames, and a trailer where there is one. -/
def encodeFrames (messages : List Bytes) (trailer : Option (UInt8 × Bytes)) : Bytes :=
  messages.flatMap (encodeFrame 0) ++ trailer.elim [] fun t => encodeFrame t.1 t.2

lemma frameLen_encodeFrame (flags : UInt8) {payload : Bytes} (h : payload.length < 4294967296) (rest : Bytes) :
    frameLen (encodeFrame flags payload ++ rest) = payload.length := by
  simp only [frameLen,encodeFrame,List.cons_append,List.drop_succ_cons,List.drop_zero,List.take_succ_cons,
    List.take_zero,List.foldl_cons,List.foldl_nil,Nat.toUInt8,UInt8.toNat_ofNat']
  omega

section
variable {flags : UInt8} {payload : Bytes} (h : payload.length < 4294967296) (rest : Bytes)

include h

lemma framePayload_encodeFrame : framePayload (encodeFrame flags payload ++ rest) = payload := by
  rw [framePayload,frameLen_encodeFrame flags h]
  exact List.take_left

lemma afterFrame_encodeFrame : afterFrame (encodeFrame flags payload ++ rest) = rest := by
  rw [afterFrame,frameLen_encodeFrame flags h]
  exact List.drop_left

lemma unwrapJSONFrom_encodeFrame (hflags : flags &&& 0x01 = 0) (frames : List Bytes) (status : Bytes) :
    unwrapJSONFrom endStream frames status (encodeFrame flags payload ++ rest) =
      if flags &&& 0x82 ≠ 0 then parseTrailerFrameStatus endStream flags payload >>= fun trailer =>
          unwrapJSONFrom endStream frames (if trailer ≠ ok then trailer else status) rest
      else unwrapJSONFrom endStream (frames ++ [payload]) status rest := by
  have hlen : (encodeFrame flags payload ++ rest).length = 5 + (payload.length + rest.length) := by
    simp only [encodeFrame,List.cons_append,List.length_cons,List.length_append]
    omega
  have hne : encodeFrame flags payload ++ rest ≠ [] := List.cons_ne_nil _ _
  rw [unwrapJSONFrom,framePayload_encodeFrame h,afterFrame_encodeFrame h,frameLen_encodeFrame flags h,hlen,
    if_neg hne,if_neg (by omega),if_neg (by omega)]
  exact if_neg (not_not.mpr hflags)

end

lemma unwrapJSONFrom_messages {messages : List Bytes} (h : ∀ m ∈ messages, m.length < 4294967296)
    (frames : List Bytes) (status rest : Bytes) :
    unwrapJSONFrom endStream frames status (messages.flatMap (encodeFrame 0) ++ rest) =
      unwrapJSONFrom endStream (frames ++ messages) status rest := by
  induction messages generalizing frames with
  | nil => rw [List.flatMap_nil,List.nil_append,List.append_nil]
  | cons m messages ih =>
    rw [List.flatMap_cons,List.append_assoc,unwrapJSONFrom_encodeFrame (h m (by simp)) _ (by decide),
      if_neg (by decide),ih (fun m hm => h m (by simp [hm])),List.append_assoc]
    rfl

def statusOf (endStream : Bytes → Except String (Option (Bytes × Bytes))) :
    Option (UInt8 × Bytes) → Except String Bytes
  | none => .ok ok
  | some t => parseTrailerFrameStatus endStream t.1 t.2

lemma unwrapJSONEnvelopeFrames_encode {messages : List Bytes} {trailer : Option (UInt8 × Bytes)}
    (h : ∀ m ∈ messages, m.length < 4294967296) (ht : ∀ t ∈ trailer, t.2.length < 4294967296 ∧
      t.1 &&& 0x01 = 0 ∧ t.1 &&& 0x82 ≠ 0) :
    unwrapJSONEnvelopeFrames endStream (encodeFrames messages trailer) =
      (statusOf endStream trailer).map fun status => (messages,status) := by
  have hdone : ∀ status, unwrapJSONFrom endStream messages status [] = .ok (messages,status) := by
    intro status
    rw [unwrapJSONFrom,if_pos rfl]
  rw [unwrapJSONEnvelopeFrames,encodeFrames,unwrapJSONFrom_messages h]
  cases trailer with
  | none => exact hdone ok
  | some t =>
    obtain ⟨hlen,hflags,htrailer⟩ := ht t rfl
    have hframe := @unwrapJSONFrom_encodeFrame endStream t.1 t.2 hlen [] hflags messages ok
    rw [List.append_nil,if_pos htrailer] at hframe
    change unwrapJSONFrom endStream messages ok (encodeFrame t.1 t.2) = _
    rw [hframe,statusOf]
    cases parseTrailerFrameStatus endStream t.1 t.2 with
    | error e => rfl
    | ok status =>
      change unwrapJSONFrom endStream messages _ [] = .ok (messages,status)
      rw [hdone]
      split_ifs with hok
      · rfl
      · rw [not_not.mp hok]

/-- On bytes that the first decoder takes for frames both decoders fail or neither does; the status is
the same, and the payload of the first joins the frames of the second. What was encoded is decoded. -/
theorem frame_decoders_agree (endStream : Bytes → Except String (Option (Bytes × Bytes))) :
    (∀ contentType raw, raw ≠ [] → framed contentType raw = true →
      ((unwrapEnvelopeFrames endStream contentType raw).isOk = (unwrapJSONEnvelopeFrames endStream raw).isOk ∧
      ∀ payload status frames status', unwrapEnvelopeFrames endStream contentType raw = .ok (payload,status) →
        unwrapJSONEnvelopeFrames endStream raw = .ok (frames,status') →
        status = status' ∧ payload = frames.flatten)) ∧
    ∀ messages trailer, (∀ m ∈ messages, m.length < 2 ^ 32) → (∀ t ∈ trailer, t.2.length < 2 ^ 32 ∧
      t.1 &&& 0x01 = 0 ∧ t.1 &&& 0x82 ≠ 0) →
      unwrapJSONEnvelopeFrames endStream (encodeFrames messages trailer) =
        (statusOf endStream trailer).map fun status => (messages,status) := by
  refine ⟨fun contentType raw hraw hframed => ?_,fun messages trailer h ht =>
    unwrapJSONEnvelopeFrames_encode h ht⟩
  have heq := @unwrapFrom_eq endStream [] ok raw
  rw [unwrapEnvelopeFrames,if_neg hraw,if_pos hframed,unwrapJSONEnvelopeFrames]
  change (unwrapFrom endStream [] ok raw).toOption = _ at heq
  cases hfirst : unwrapFrom endStream [] ok raw with
  | error e =>
    cases hsecond : unwrapJSONFrom endStream [] ok raw with
    | error e' => exact ⟨rfl,fun _ _ _ _ h => by cases h⟩
    | ok r =>
      rw [hfirst,hsecond] at heq
      cases heq
  | ok p =>
    cases hsecond : unwrapJSONFrom endStream [] ok raw with
    | error e =>
      rw [hfirst,hsecond] at heq
      cases heq
    | ok r =>
      rw [hfirst,hsecond] at heq
      obtain rfl : p = (r.1.flatten,r.2) := Option.some.inj heq
      refine ⟨rfl,?_⟩
      rintro payload status frames status' ⟨⟩ ⟨⟩
      exact ⟨rfl,rfl⟩

end Diverge.Replay
