import Diverge.Replay.Frames
import Diverge.Text.Quote
import Diverge.Wire.Fields

/-! Protobuf messages read without a schema: what is summarised for every field number. -/
namespace Diverge.Replay
open Text Wire

def consumeTag (b : Bytes) : Option ((ℕ × ℕ) × Bytes) :=
  ((readUint64 b).filter fun r => 1 ≤ r.1 / 8 ∧ r.1 / 8 ≤ 2147483647).map fun r => ((r.1 / 8,r.1 % 8),r.2)

/-- `protowire.ConsumeFieldValue`: what follows the value. A field takes a byte at least, so the length is
enough fuel; `depth` groups may be open. -/
def skipValue : ℕ → ℕ → ℕ → ℕ → Bytes → Option Bytes
  | 0,_,_,_,_ => none
  | fuel+1,depth,number,wireType,b =>
    match wireType,depth with
    | 0,_ => (readUint64 b).map Prod.snd
    | 1,_ => (readBytes 8 b).map Prod.snd
    | 2,_ => (readUint64 b).bind fun r => (readBytes r.1 r.2).map Prod.snd
    | 3,depth+1 => (consumeTag b).bind fun r =>
        if r.1.2 = 4 then if r.1.1 = number then some r.2 else none
        else (skipValue fuel depth r.1.1 r.1.2 r.2).bind (skipValue fuel (depth + 1) number 3)
    | 5,_ => (readBytes 4 b).map Prod.snd
    | _,_ => none

def recursionLimit : ℕ := 10001

/-- `protowire.ConsumeGroup`: the fields before the end marker, which may be longer than it must be. -/
def groupContent (number : ℕ) (b rest : Bytes) : Bytes :=
  let marked := ((b.take (b.length - rest.length)).reverse.dropWhile fun c => c &&& 0x7f == 0).reverse
  marked.take (marked.length - (encodeVarint (number * 8)).length)

def isPrintableUTF8 (s : List Char) : Bool :=
  s.all fun c => c == '\n' || c == '\r' || c == '\t' || (decide (0x20 ≤ c.toNat) && c.toNat != 0x7f)

def printable (v : Bytes) : Bool := decide (ValidUtf8 v) && isPrintableUTF8 (runes v)

/-- The loop of `isLikelyNestedProtoMessage`. -/
def nestedFields : ℕ → Bytes → Bool
  | _,[] => true
  | 0,_ => false
  | fuel+1,rem =>
    (consumeTag rem).any fun r => decide (r.1.1 ≤ 19000) && r.1.2 != 3 &&
      (skipValue (rem.length + 1) recursionLimit r.1.1 r.1.2 r.2).any (nestedFields fuel)

def isLikelyNestedProtoMessage (b : Bytes) : Bool :=
  decide (2 ≤ b.length) && !printable b && nestedFields b.length b

section

structure WireField (M : Type) where
  wireType : String
  count : ℕ
  values : List String
  nestedMessages : List M
  deriving DecidableEq

/-- A field as it occurs in a message. -/
structure Occurrence (M : Type) where
  number : ℕ
  wireType : String
  value : String
  nested : Option M

variable {M : Type}

/-- One occurrence in a plain text and another in a nested message. -/
def plainAndNested (s t : String) : Bool :=
  s == "bytes/message" && t == "bytes" || s == "bytes" && t == "bytes/message"

def WireField.add (entry : WireField M) (o : Occurrence M) : WireField M :=
  let wireType :=
    if entry.wireType = o.wireType then entry.wireType
    else if plainAndNested entry.wireType o.wireType then "bytes"
    else entry.wireType ++ "|" ++ o.wireType
  { wireType := wireType
    count := entry.count + 1
    values := entry.values ++ [o.value]
    nestedMessages :=
      (if plainAndNested entry.wireType o.wireType then [] else entry.nestedMessages) ++
        if wireType = "bytes/message" then o.nested.toList else [] }

def addOccurrence (fields : List (ℕ × WireField M)) (o : Occurrence M) : List (ℕ × WireField M) :=
  if (fields.lookup o.number).isSome then
    fields.map fun f => if f.1 = o.number then (f.1,f.2.add o) else f
  else fields ++ [(o.number,WireField.add ⟨o.wireType,0,[],[]⟩ o)]

variable (isPrint : Char → Bool) (parseError : Bytes → String) (nested : Bytes → Option M)

def bytesText (v : Bytes) : String :=
  if printable v then quote isPrint (String.ofList (runes v)) else "0x" ++ hexText v

/-- The value after a tag, and what follows it. -/
def readOccurrence (number wireType : ℕ) (rest : Bytes) : Option (Occurrence M × Bytes) :=
  match wireType with
  | 0 => (readUint64 rest).map fun r => (⟨number,"varint",toString r.1,none⟩,r.2)
  | 5 => (readBytes 4 rest).map fun r => (⟨number,"fixed32","0x" ++ hexText r.1.reverse,none⟩,r.2)
  | 1 => (readBytes 8 rest).map fun r => (⟨number,"fixed64","0x" ++ hexText r.1.reverse,none⟩,r.2)
  | 2 => (readUint64 rest).bind fun l => (readBytes l.1 l.2).map fun r =>
      (⟨number,if (nested r.1).isSome then "bytes/message" else "bytes",bytesText isPrint r.1,nested r.1⟩,r.2)
  | _ => (skipValue (rest.length + 1) recursionLimit number 3 rest).map fun r =>
      (⟨number,"group","0x" ++ hexText (groupContent number rest r),none⟩,r)

/-- The loop of `parseProtoWireMessage`, with the fields it has summarised. -/
def parseFields : ℕ → List (ℕ × WireField M) → Bytes → Except String (List (ℕ × WireField M))
  | _,fields,[] => .ok fields
  | 0,_,b => .error (parseError b)
  | fuel+1,fields,b =>
    match consumeTag b with
    | none => .error (parseError b)
    | some ((number,wireType),rest) =>
      if wireType = 4 ∨ 6 ≤ wireType then
        .error ("unsupported protobuf wire type " ++ toString wireType ++ " for field " ++ toString number)
      else
        match readOccurrence isPrint nested number wireType rest with
        | none => .error (parseError rest)
        | some (o,after) => parseFields fuel (addOccurrence fields o) after

/-- The summary of a message whose nested messages are summarised so many levels down. -/
def Fields : ℕ → Type
  | 0 => Empty
  | k+1 => List (ℕ × WireField (Fields k))

/-- `parseProtoWireMessage` at the depth that leaves `k` more levels. -/
def parseLevel : (k : ℕ) → Bytes → Except String (Fields (k + 1))
  | 0,b => parseFields isPrint parseError (fun _ => none) b.length [] b
  | k+1,b => parseFields isPrint parseError (fun v =>
      if isLikelyNestedProtoMessage v then
        (parseLevel k v).toOption.filter fun sub : List _ => !sub.isEmpty
      else none) b.length [] b

/-- At depth zero there are five more levels. -/
def parseProtoWireMessage (b : Bytes) : Except String (Fields 6) := parseLevel isPrint parseError 5 b

end

lemma consumeTag_of_zero {b : Bytes} (h : ∀ r, readUint64 b = some r → r.1 < 8) : consumeTag b = none := by
  unfold consumeTag
  cases hr : readUint64 b with
  | none => rfl
  | some r =>
    have hlow := h r hr
    rw [Option.filter_some,if_neg (by simp; omega)]
    rfl

lemma readVarint_overlong (limit : ℕ) {b : UInt8} (rest : Bytes) (hb : b.toNat = 0) :
    readVarint (limit + 1 + 1) (0x80 :: b :: rest) = some (0,rest) := by
  have hflag : ¬(0x80 : UInt8).toNat < 128 := by decide
  rw [readVarint,if_neg hflag,readVarint,hb]
  rfl

lemma parseProtoWireMessage_error {isPrint : Char → Bool} {parseError : Bytes → String} {m : Bytes}
    (hne : m ≠ []) (h : consumeTag m = none) :
    parseProtoWireMessage isPrint parseError m = .error (parseError m) := by
  obtain ⟨b,rest,rfl⟩ := List.exists_cons_of_ne_nil hne
  rw [parseProtoWireMessage,parseLevel,List.length_cons,parseFields,h]
  · rfl
  · exact fun h => nomatch h

lemma consumeTag_frames {m : Bytes} (hlen : m.length < 16777221) (h : hasValidEnvelopeFrameSequence m = true) :
    consumeTag m = none := by
  rw [hasValidEnvelopeFrameSequence,Bool.and_eq_true,Bool.and_eq_true,decide_eq_true_eq] at h
  obtain ⟨⟨hfive,hcount⟩,-⟩ := h
  obtain ⟨a,b,c,d,e,rest,rfl⟩ : ∃ a b c d e rest, m = a :: b :: c :: d :: e :: rest := by
    match m,hfive with
    | a :: b :: c :: d :: e :: rest,_ => exact ⟨a,b,c,d,e,rest,rfl⟩
  have hframe : frameLen (a :: b :: c :: d :: e :: rest) =
      ((b.toNat * 256 + c.toNat) * 256 + d.toNat) * 256 + e.toNat := by simp [frameLen]
  simp only [List.length_cons] at hlen
  rw [countFrames,if_neg (List.cons_ne_nil _ _),if_neg (by simp)] at hcount
  split_ifs at hcount with hflags hlong hempty
  · contradiction
  · contradiction
  · contradiction
  · refine consumeTag_of_zero fun r hr => ?_
    have hb : b.toNat = 0 := by
      rw [hframe] at hlong
      simp only [List.length_cons] at hlong
      omega
    have ha : a = 0 ∨ a = 2 ∨ a = 0x80 := by
      by_contra hne
      push Not at hne
      exact hflags hne
    rw [readUint64,Option.filter_eq_some_iff] at hr
    rcases ha with rfl | rfl | rfl
    · cases hr.1
      exact (by decide : UInt8.toNat 0 < 8)
    · cases hr.1
      exact (by decide : UInt8.toNat 2 < 8)
    · rw [readVarint_overlong 8 _ hb] at hr
      cases hr.1
      exact Nat.zero_lt_succ 7

/-- A message of some length that is read without a schema is never taken for frames, and so comes
unchanged out of an envelope that is not announced. -/
theorem bare_message_not_framed (isPrint : Char → Bool) (parseError : Bytes → String) (m : Bytes) (hne : m ≠ [])
    (hlen : m.length < 2 ^ 24 + 5) (haccepted : (parseProtoWireMessage isPrint parseError m).isOk = true) :
    hasValidEnvelopeFrameSequence m = false ∧
      ∀ endStream contentType, isFramedProtoContentType contentType = false →
        unwrapEnvelopeFrames endStream contentType m = .ok (m,ok) := by
  have hnot : hasValidEnvelopeFrameSequence m = false := by
    by_contra hframes
    rw [parseProtoWireMessage_error hne (consumeTag_frames hlen (Bool.of_not_eq_false hframes))] at haccepted
    cases haccepted
  refine ⟨hnot,fun endStream contentType hct => ?_⟩
  rw [unwrapEnvelopeFrames,if_neg hne,framed,hct,hnot]
  rfl

theorem text_message_not_framed : hasValidEnvelopeFrameSequence [10,3,102,111,111] = false :=
  (bare_message_not_framed (fun _ => true) (fun _ => "") [10,3,102,111,111] (by decide) (by decide)
    (by decide +kernel)).1

end Diverge.Replay
