import Diverge.Text.Base64
import Diverge.Text.Runes
import Diverge.Wire.Fields

/-! The codec of the propagation context: protocol buffers on the Go side, and the hand-written
encoders and decoders of the Node and Python SDKs. Texts in base64 are byte strings here. -/
namespace Diverge.Sdk
open Text Wire

/-- The metadata is listed in the order in which the encoder visits the map. -/
structure PropagationContext where
  environment : String
  routingMode : ℕ
  metadata : List (String × String)
  deriving DecidableEq

def emptyContext : PropagationContext := ⟨"",0,[]⟩

/-- An entry of the map is a message of its own, with the key and the value. -/
def entryField (key value : String) : Field :=
  ⟨3,.bytes (encodeFields [⟨1,.bytes (utf8 key)⟩,⟨2,.bytes (utf8 value)⟩])⟩

/-- What `proto.Marshal` writes: no field that has its zero value, but both fields of an entry. -/
def marshal (ctx : PropagationContext) : Bytes :=
  encodeFields
    ((if ctx.environment = "" then [] else [⟨1,.bytes (utf8 ctx.environment)⟩]) ++
      (if ctx.routingMode = 0 then [] else [⟨2,.varint ctx.routingMode⟩]) ++
      ctx.metadata.map fun kv => entryField kv.1 kv.2)

/-- `EncodePropagationContext` of the Go SDK. -/
def goEncode (ctx : PropagationContext) : Bytes := Base64.rawStd.encodeToString (marshal ctx)

def encodeString (tag : ℕ) (value : String) : Bytes :=
  if value = "" then [] else encodeVarint tag ++ encodeVarint (utf8 value).length ++ utf8 value

def encodeEntry (kv : String × String) : Bytes :=
  encodeVarint 26 ++ encodeVarint (encodeString 10 kv.1 ++ encodeString 18 kv.2).length ++
    (encodeString 10 kv.1 ++ encodeString 18 kv.2)

def encodeBuffer (ctx : PropagationContext) : Bytes :=
  (if ctx.environment = "" then [] else encodeString 10 ctx.environment) ++
    (if ctx.routingMode = 0 then [] else encodeVarint 16 ++ encodeVarint ctx.routingMode) ++
    ctx.metadata.flatMap encodeEntry

/-- `encodePropagationContext` of the Node SDK. -/
def nodeEncode (ctx : PropagationContext) : Bytes := trimPadding (Base64.std.encodeToString (encodeBuffer ctx))

/-- `encode_propagation_context` of the Python SDK. -/
def pythonEncode (ctx : PropagationContext) : Bytes := trimPadding (Base64.std.encodeToString (encodeBuffer ctx))

/-- A map's entry is replaced in place or added. -/
def putEntry (metadata : List (String × String)) (key value : String) : List (String × String) :=
  if key ∈ metadata.map Prod.fst then metadata.map fun kv => if kv.1 = key then (key,value) else kv
  else metadata ++ [(key,value)]

/-- A string field: `proto.Unmarshal` refuses text that is no UTF-8, as Python's `decode` does. -/
def strictText (bytes : Bytes) : Option String :=
  if ValidUtf8 bytes then some (String.ofList (runes bytes)) else none

def unmarshalEntryField (kv : String × String) (f : Field) : Option (String × String) :=
  match f.number,f.value with
  | 1,.bytes b => (strictText b).map fun key => (key,kv.2)
  | 2,.bytes b => (strictText b).map fun value => (kv.1,value)
  | _,_ => some kv

/-- Fields of other numbers or wire types are kept aside as unknown ones. The routing mode is the
low 32 bits. -/
def unmarshalField (ctx : PropagationContext) (f : Field) : Option PropagationContext :=
  match f.number,f.value with
  | 1,.bytes b => (strictText b).map fun environment => { ctx with environment }
  | 2,.varint n => some { ctx with routingMode := n % 4294967296 }
  | 3,.bytes b => (parseFields b).bind fun fields =>
      (fields.foldlM unmarshalEntryField ("","")).map fun kv =>
        { ctx with metadata := putEntry ctx.metadata kv.1 kv.2 }
  | _,_ => some ctx

def unmarshal (b : Bytes) : Option PropagationContext :=
  (parseFields b).bind fun fields => fields.foldlM unmarshalField emptyContext

/-- `DecodePropagationContext` of the Go SDK. -/
def goDecode (encoded : Bytes) : Option PropagationContext :=
  if 4096 < encoded.length then none
  else (Base64.rawStd.decodeString (trimPadding encoded)).bind unmarshal

/-- What the hand-written decoders do differently. A varint and a slice are read at an offset. -/
structure Dialect where
  decodeVarint : Bytes → ℕ → Option (ℕ × ℕ)
  slice : Bytes → ℕ → ℕ → Option Bytes
  text : Bytes → Option String
  routingMode : ℕ → ℕ → ℕ
  put : List (String × String) → String → String → List (String × String)

def varintAt (limit : ℕ) (buffer : Bytes) (offset : ℕ) : Option (ℕ × ℕ) :=
  (readVarint limit (buffer.drop offset)).map fun r => (r.1,buffer.length - r.2.length)

/-- An assignment to `__proto__` of a plain object does nothing when the value is a string. -/
def nodePut (metadata : List (String × String)) (key value : String) : List (String × String) :=
  if key = "__proto__" then metadata else putEntry metadata key value

/-- Varints have at most five bytes and wrap at 32 bits, and lengths are checked. What Node makes of
bytes that are no UTF-8 is left open. -/
def nodeDialect (lossyText : Bytes → String) : Dialect where
  decodeVarint := fun buffer offset => (varintAt 5 buffer offset).map fun r => (r.1 % 4294967296,r.2)
  slice := fun buffer start length =>
    if buffer.length < start + length then none else some ((buffer.drop start).take length)
  text := fun bytes => some (lossyText bytes)
  routingMode := fun _ value => value
  put := nodePut

/-- Slices end with the buffer, and a routing mode that is none is passed over. -/
def pythonDialect : Dialect where
  decodeVarint := fun buffer offset => varintAt buffer.length buffer offset
  slice := fun buffer start length => some ((buffer.drop start).take length)
  text := strictText
  routingMode := fun mode value => if value ≤ 3 then value else mode
  put := putEntry

namespace Dialect
variable (d : Dialect) (buffer : Bytes)

def readString (offset : ℕ) : Option (String × ℕ) :=
  (d.decodeVarint buffer offset).bind fun r =>
    (d.slice buffer r.2 r.1).bind fun bytes => (d.text bytes).map fun s => (s,r.2 + r.1)

def skipField (offset wireType : ℕ) : Option ℕ :=
  if wireType = 0 then (d.decodeVarint buffer offset).map Prod.snd
  else if wireType = 2 then
    (d.decodeVarint buffer offset).bind fun r => (d.slice buffer r.2 r.1).map fun _ => r.2 + r.1
  else if wireType = 1 then some (offset + 8)
  else if wireType = 5 then some (offset + 4)
  else some offset

/-- The loop over one entry, up to its end: the wire type of the key and the value is not looked at. -/
def entryLoop (entryEnd : ℕ) : ℕ → ℕ → String × String → Option (ℕ × String × String)
  | 0,_,_ => none
  | fuel+1,offset,kv =>
    if offset < entryEnd then
      (d.decodeVarint buffer offset).bind fun tag =>
        if tag.1 / 8 = 1 then
          (d.readString buffer tag.2).bind fun r => entryLoop entryEnd fuel r.2 (r.1,kv.2)
        else if tag.1 / 8 = 2 then
          (d.readString buffer tag.2).bind fun r => entryLoop entryEnd fuel r.2 (kv.1,r.1)
        else
          (d.skipField buffer tag.2 (tag.1 % 8)).bind fun next => entryLoop entryEnd fuel next kv
    else some (offset,kv)

def fieldLoop : ℕ → ℕ → PropagationContext → Option PropagationContext
  | 0,_,_ => none
  | fuel+1,offset,ctx =>
    if offset < buffer.length then
      (d.decodeVarint buffer offset).bind fun tag =>
        if tag.1 / 8 = 1 ∧ tag.1 % 8 = 2 then
          (d.readString buffer tag.2).bind fun r => fieldLoop fuel r.2 { ctx with environment := r.1 }
        else if tag.1 / 8 = 2 ∧ tag.1 % 8 = 0 then
          (d.decodeVarint buffer tag.2).bind fun r =>
            fieldLoop fuel r.2 { ctx with routingMode := d.routingMode ctx.routingMode r.1 }
        else if tag.1 / 8 = 3 ∧ tag.1 % 8 = 2 then
          (d.decodeVarint buffer tag.2).bind fun r =>
            (d.slice buffer r.2 r.1).bind fun _ =>
              (d.entryLoop buffer (r.2 + r.1) (buffer.length + 1) r.2 ("","")).bind fun e =>
                fieldLoop fuel e.1 { ctx with metadata := d.put ctx.metadata e.2.1 e.2.2 }
        else
          (d.skipField buffer tag.2 (tag.1 % 8)).bind fun next => fieldLoop fuel next ctx
    else some ctx

/-- Every round of the loops reads a byte at least, so the length is enough fuel. -/
def decodeBuffer : Option PropagationContext := d.fieldLoop buffer (buffer.length + 1) 0 emptyContext

end Dialect

def padded (encoded : Bytes) : Bytes := encoded ++ List.replicate (paddingOf encoded.length) 61

/-- `decodePropagationContext` of the Node SDK. -/
def nodeDecodeContext (lossyText : Bytes → String) (encoded : Bytes) : Option PropagationContext :=
  if 4096 < encoded.length then none else (nodeDialect lossyText).decodeBuffer (nodeDecode (padded encoded))

/-- `decode_propagation_context` of the Python SDK. -/
def pythonDecodeContext (encoded : Bytes) : Option PropagationContext :=
  if 4096 < encoded.length then none else (pythonDecode (padded encoded)).bind pythonDialect.decodeBuffer

section

/-- What a message says, field by field: the parts of an entry are its key and its value. -/
inductive Item
  | environment (s : String)
  | routingMode (n : ℕ)
  | entry (parts : List (ℕ × String))

def partField (part : ℕ × String) : Field := ⟨part.1,.bytes (utf8 part.2)⟩

def Item.field : Item → Field
  | .environment s => ⟨1,.bytes (utf8 s)⟩
  | .routingMode n => ⟨2,.varint n⟩
  | .entry parts => ⟨3,.bytes (encodeFields (parts.map partField))⟩

def Item.Sound : Item → Prop
  | .environment _ => True
  | .routingMode n => n ≤ 3
  | .entry parts => ∀ part ∈ parts, part.1 = 1 ∨ part.1 = 2

def assign (kv : String × String) (part : ℕ × String) : String × String :=
  if part.1 = 1 then (part.2,kv.2) else (kv.1,part.2)

def Item.apply (put : List (String × String) → String → String → List (String × String))
    (ctx : PropagationContext) : Item → PropagationContext
  | .environment s => { ctx with environment := s }
  | .routingMode n => { ctx with routingMode := n }
  | .entry parts =>
    { ctx with
      metadata := put ctx.metadata (parts.foldl assign ("","")).1 (parts.foldl assign ("","")).2 }

/-- The items of a context, with the parts that the encoder writes of an entry. -/
def items (parts : String × String → List (ℕ × String)) (ctx : PropagationContext) : List Item :=
  (if ctx.environment = "" then [] else [.environment ctx.environment]) ++
    (if ctx.routingMode = 0 then [] else [.routingMode ctx.routingMode]) ++
    ctx.metadata.map fun kv => .entry (parts kv)

def allParts (kv : String × String) : List (ℕ × String) := [(1,kv.1),(2,kv.2)]

def filledParts (kv : String × String) : List (ℕ × String) :=
  (if kv.1 = "" then [] else [(1,kv.1)]) ++ if kv.2 = "" then [] else [(2,kv.2)]

def message (items : List Item) : Bytes := encodeFields (items.map Item.field)

@[simp] lemma message_nil : message [] = [] := rfl

@[simp] lemma message_cons (item : Item) (items : List Item) :
    message (item :: items) = encodeField item.field.number item.field.value ++ message items := rfl

@[simp] lemma message_append (items more : List Item) :
    message (items ++ more) = message items ++ message more := by
  simp [message]

variable (ctx : PropagationContext) (kv : String × String)

lemma marshal_eq_message : marshal ctx = message (items allParts ctx) := by
  unfold marshal message items
  congr 1
  rw [List.map_append,List.map_append,List.map_map]
  congr 2
  · split_ifs <;> rfl
  · split_ifs <;> rfl

lemma encodeString_eq {n : ℕ} (s : String) :
    encodeString (n * 8 + 2) s = if s = "" then [] else encodeField n (.bytes (utf8 s)) := rfl

lemma encodeFilledParts :
    encodeFields ((filledParts kv).map partField) = encodeString 10 kv.1 ++ encodeString 18 kv.2 := by
  rw [encodeString_eq (n := 1),encodeString_eq (n := 2),filledParts,List.map_append,
    encodeFields_append]
  congr 1
  · split_ifs
    · rfl
    · exact List.append_nil _
  · split_ifs
    · rfl
    · exact List.append_nil _

lemma message_entries (metadata : List (String × String)) :
    message (metadata.map fun kv => .entry (filledParts kv)) = metadata.flatMap encodeEntry := by
  induction metadata with
  | nil => rfl
  | cons kv metadata ih =>
    rw [List.map_cons,message_cons,ih,List.flatMap_cons]
    congr 1
    rw [encodeEntry,← encodeFilledParts]
    rfl

lemma encodeBuffer_eq_message : encodeBuffer ctx = message (items filledParts ctx) := by
  rw [encodeBuffer,items,message_append,message_append,message_entries]
  congr 2
  · split_ifs with henv
    · rfl
    · rw [encodeString_eq (n := 1),if_neg henv]
      exact (List.append_nil _).symm
  · split_ifs
    · rfl
    · exact (List.append_nil _).symm

lemma foldl_filledParts : (filledParts kv).foldl assign ("","") = kv := by
  obtain ⟨k,v⟩ := kv
  unfold filledParts
  split_ifs with hk hv hv
  · exact Prod.ext hk.symm hv.symm
  · exact Prod.ext hk.symm rfl
  · exact Prod.ext rfl hv.symm
  · rfl

variable {parts : String × String → List (ℕ × String)}

lemma sound_items (hparts : ∀ kv, ∀ part ∈ parts kv, part.1 = 1 ∨ part.1 = 2) {ctx : PropagationContext}
    (hmode : ctx.routingMode ≤ 3) {item : Item} (h : item ∈ items parts ctx) : item.Sound := by
  unfold items at h
  rw [List.mem_append,List.mem_append,List.mem_map] at h
  rcases h with (h | h) | ⟨kv,-,rfl⟩
  · split_ifs at h
    · cases h
    · obtain rfl := List.mem_singleton.mp h
      trivial
  · split_ifs at h
    · cases h
    · obtain rfl := List.mem_singleton.mp h
      exact hmode
  · exact hparts kv

lemma plain_parts {parts : List (ℕ × String)} (hparts : ∀ part ∈ parts, part.1 = 1 ∨ part.1 = 2)
    (hsize : (encodeFields (parts.map partField)).length < 18446744073709551616) :
    ∀ f ∈ parts.map partField, f.Plain := by
  intro f hf
  obtain ⟨part,hpart,rfl⟩ := List.mem_map.mp hf
  have hnumber : (partField part).number = 1 ∨ (partField part).number = 2 := hparts part hpart
  exact plain_of_mem hsize hf (by omega) (by omega) (.inr ⟨_,rfl⟩)

lemma plain_items {items : List Item} (hitems : ∀ item ∈ items, item.Sound)
    (hsize : (message items).length < 18446744073709551616) : ∀ f ∈ items.map Item.field, f.Plain := by
  intro f hf
  obtain ⟨item,hitem,rfl⟩ := List.mem_map.mp hf
  have hsound := hitems item hitem
  cases item with
  | environment s | entry parts =>
    exact plain_of_mem hsize hf (by simp [Item.field]) (by simp [Item.field]) (.inr ⟨_,rfl⟩)
  | routingMode n =>
    exact plain_of_mem hsize hf (by simp [Item.field]) (by simp [Item.field])
      (.inl ⟨n,Nat.lt_of_le_of_lt hsound (by decide),rfl⟩)

lemma apply_items (hparts : ∀ kv, (parts kv).foldl assign ("","") = kv)
    (put : List (String × String) → String → String → List (String × String)) (ctx : PropagationContext) :
    (items parts ctx).foldl (Item.apply put) emptyContext =
      { ctx with metadata := ctx.metadata.foldl (fun m kv => put m kv.1 kv.2) [] } := by
  have hentries : ∀ (metadata : List (String × String)) (start : PropagationContext),
      (metadata.map fun kv => Item.entry (parts kv)).foldl (Item.apply put) start =
        { start with metadata := metadata.foldl (fun m kv => put m kv.1 kv.2) start.metadata } := by
    intro metadata
    induction metadata with
    | nil => exact fun start => rfl
    | cons kv metadata ih =>
      intro start
      rw [List.map_cons,List.foldl_cons,ih,List.foldl_cons,Item.apply,hparts]
  rw [items,List.foldl_append,hentries,List.foldl_append]
  obtain ⟨environment,routingMode,metadata⟩ := ctx
  dsimp only
  split_ifs with henv hmode hmode
  · subst henv hmode
    rfl
  · subst henv
    rfl
  · subst hmode
    rfl
  · rfl

end

lemma strictText_utf8 (s : String) : strictText (utf8 s) = some s := by
  rw [strictText,if_pos (validUtf8_utf8 s),utf8_eq_encode,runes_encode,String.ofList_toList]

/-- What a dialect reads of a buffer that is written as the encoders write it. -/
structure Dialect.Reads (d : Dialect) : Prop where
  varint : ∀ n < 4294967296, ∀ before rest : Bytes,
    d.decodeVarint (before ++ (encodeVarint n ++ rest)) before.length =
      some (n,(before ++ encodeVarint n).length)
  slice : ∀ before bytes rest : Bytes,
    d.slice (before ++ (bytes ++ rest)) before.length bytes.length = some bytes
  text : ∀ s, d.text (utf8 s) = some s
  routingMode : ∀ mode, ∀ n ≤ 3, d.routingMode mode n = n

lemma varintAt_encodeVarint {n limit : ℕ} (hlimit : n < 128 ^ limit) (hpos : 0 < limit) (before rest : Bytes) :
    varintAt limit (before ++ (encodeVarint n ++ rest)) before.length =
      some (n,(before ++ encodeVarint n).length) := by
  have hlength : (before ++ (encodeVarint n ++ rest)).length - rest.length =
      (before ++ encodeVarint n).length := by
    rw [← List.append_assoc,List.length_append,Nat.add_sub_cancel]
  rw [varintAt,List.drop_left,readVarint_encodeVarint hlimit hpos,Option.map_some,hlength]

lemma node_reads {lossyText : Bytes → String} (hlossy : ∀ s, lossyText (utf8 s) = s) :
    (nodeDialect lossyText).Reads where
  varint := by
    intro n hn before rest
    change (varintAt 5 _ _).map _ = _
    rw [varintAt_encodeVarint (by omega) (by omega),Option.map_some,Nat.mod_eq_of_lt hn]
  slice := by
    intro before bytes rest
    change (if _ < _ then _ else _) = _
    rw [if_neg (by simp),List.drop_left,List.take_left]
  text := fun s => congrArg some (hlossy s)
  routingMode := fun _ _ _ => rfl

lemma python_reads : pythonDialect.Reads where
  varint := by
    intro n _ before rest
    have hpos := encodeVarint_length_pos n
    have hlength : (encodeVarint n).length ≤ (before ++ (encodeVarint n ++ rest)).length := by
      rw [List.length_append,List.length_append]
      omega
    exact varintAt_encodeVarint
      (Nat.lt_of_lt_of_le (lt_of_encodeVarint n) (Nat.pow_le_pow_right (by omega) hlength)) (by omega) _ _
  slice := by
    intro before bytes rest
    change some _ = _
    rw [List.drop_left,List.take_left]
  text := strictText_utf8
  routingMode := fun _ _ hn => if_pos hn

namespace Dialect.Reads
variable {d : Dialect} (hd : d.Reads) {buffer : Bytes} (hsize : buffer.length < 4294967296)
include hd hsize

lemma readString (before rest : Bytes) (s : String)
    (hbuffer : buffer = before ++ (encodeVarint (utf8 s).length ++ utf8 s ++ rest)) :
    d.readString buffer before.length =
      some (s,(before ++ (encodeVarint (utf8 s).length ++ utf8 s)).length) := by
  have hs : (utf8 s).length < 4294967296 := by
    rw [hbuffer] at hsize
    simp only [List.length_append] at hsize
    omega
  have hslice := hd.slice (before ++ encodeVarint (utf8 s).length) (utf8 s) rest
  rw [List.append_assoc before,← List.append_assoc (encodeVarint _),← hbuffer] at hslice
  have hvarint := hd.varint (utf8 s).length hs before (utf8 s ++ rest)
  rw [← List.append_assoc (encodeVarint _),← hbuffer] at hvarint
  rw [Dialect.readString,hvarint,Option.bind_some,hslice,Option.bind_some,hd.text,Option.map_some]
  simp only [List.length_append,Nat.add_assoc]

lemma entryLoop_parts {parts : List (ℕ × String)} (hparts : ∀ part ∈ parts, part.1 = 1 ∨ part.1 = 2)
    (before rest : Bytes) (fuel : ℕ) (kv : String × String)
    (hbuffer : buffer = before ++ (encodeFields (parts.map partField) ++ rest))
    (hfuel : parts.length < fuel) :
    d.entryLoop buffer (before ++ encodeFields (parts.map partField)).length fuel before.length kv =
      some ((before ++ encodeFields (parts.map partField)).length,parts.foldl assign kv) := by
  induction parts generalizing before fuel kv with
  | nil =>
    obtain ⟨fuel,rfl⟩ := Nat.exists_eq_succ_of_ne_zero (Nat.ne_of_gt hfuel)
    rw [List.map_nil,encodeFields_nil,List.append_nil,Dialect.entryLoop,if_neg (Nat.lt_irrefl _)]
    rfl
  | cons part parts ih =>
    obtain ⟨fuel,rfl⟩ := Nat.exists_eq_succ_of_ne_zero (Nat.ne_of_gt (Nat.zero_lt_of_lt hfuel))
    obtain ⟨number,s⟩ := part
    have hnumber : number = 1 ∨ number = 2 := hparts (number,s) (by simp)
    have hfield : encodeFields (((number,s) :: parts).map partField) =
        encodeVarint (number * 8 + 2) ++ encodeVarint (utf8 s).length ++ utf8 s ++
          encodeFields (parts.map partField) := rfl
    have hpos := encodeVarint_length_pos (number * 8 + 2)
    rw [hfield] at hbuffer ⊢
    have htag := hd.varint (number * 8 + 2) (by omega) before
      (encodeVarint (utf8 s).length ++ utf8 s ++ (encodeFields (parts.map partField) ++ rest))
    have hread := hd.readString hsize (before ++ encodeVarint (number * 8 + 2))
      (encodeFields (parts.map partField) ++ rest) s
    have hnext := fun kv => ih (fun p hp => hparts p (by simp [hp]))
      (before ++ (encodeVarint (number * 8 + 2) ++ (encodeVarint (utf8 s).length ++ utf8 s))) fuel kv
    simp only [List.append_assoc] at hbuffer htag hread hnext ⊢
    rw [← hbuffer] at htag
    rw [List.length_cons] at hfuel
    rw [Dialect.entryLoop,if_pos (by simp only [List.length_append]; omega),htag,Option.bind_some]
    rcases hnumber with rfl | rfl
    · rw [if_pos (by omega),hread hbuffer,Option.bind_some]
      exact hnext _ hbuffer (by omega)
    · rw [if_neg (by omega),if_pos (by omega),hread hbuffer,Option.bind_some]
      exact hnext _ hbuffer (by omega)

lemma fieldLoop_item {item : Item} (hitem : item.Sound) (before rest : Bytes) (fuel : ℕ)
    (ctx : PropagationContext)
    (hbuffer : buffer = before ++ (encodeField item.field.number item.field.value ++ rest)) :
    d.fieldLoop buffer (fuel + 1) before.length ctx =
      d.fieldLoop buffer fuel (before ++ encodeField item.field.number item.field.value).length
        (item.apply d.put ctx) := by
  have hoffset {tag : ℕ} {tail : Bytes} (hbuffer : buffer = before ++ (encodeVarint tag ++ tail)) :
      before.length < buffer.length := by
    have hlt := encodeVarint_length_pos tag
    rw [hbuffer]
    simp only [List.length_append]
    omega
  cases item with
  | environment s =>
    change buffer = before ++ (encodeVarint 10 ++ encodeVarint (utf8 s).length ++ utf8 s ++ rest) at hbuffer
    have htag := hd.varint 10 (by omega) before (encodeVarint (utf8 s).length ++ utf8 s ++ rest)
    have hread := hd.readString hsize (before ++ encodeVarint 10) rest s
    simp only [List.append_assoc] at hbuffer htag hread
    rw [← hbuffer] at htag
    rw [Dialect.fieldLoop,if_pos (hoffset hbuffer),htag,Option.bind_some,if_pos (by simp),hread hbuffer,
      Option.bind_some]
    simp only [Item.field,Item.apply,encodeField,List.append_assoc]
  | routingMode n =>
    change buffer = before ++ (encodeVarint 16 ++ encodeVarint n ++ rest) at hbuffer
    have hn : n ≤ 3 := hitem
    have htag := hd.varint 16 (by omega) before (encodeVarint n ++ rest)
    have hread := hd.varint n (by omega) (before ++ encodeVarint 16) rest
    simp only [List.append_assoc] at hbuffer htag hread
    rw [← hbuffer] at htag hread
    rw [Dialect.fieldLoop,if_pos (hoffset hbuffer),htag,Option.bind_some,if_neg (by simp),if_pos (by simp),
      hread,Option.bind_some,hd.routingMode _ n hn]
    simp only [Item.field,Item.apply,encodeField]
  | entry parts =>
    change buffer = before ++ (encodeVarint 26 ++ encodeVarint (encodeFields (parts.map partField)).length ++
      encodeFields (parts.map partField) ++ rest) at hbuffer
    have hentry := hd.entryLoop_parts hsize hitem
      (before ++ encodeVarint 26 ++ encodeVarint (encodeFields (parts.map partField)).length) rest
      (buffer.length + 1) ("","")
    have hsmall : (encodeFields (parts.map partField)).length < buffer.length := by
      rw [hbuffer]
      simp only [List.length_append]
      have := encodeVarint_length_pos 26
      omega
    have hfuel : parts.length < buffer.length + 1 := by
      have hle := length_le_encodeFields (plain_parts hitem (by omega))
      rw [List.length_map] at hle
      omega
    generalize hcontent : encodeFields (parts.map partField) = content at hbuffer hentry hsmall
    have htag := hd.varint 26 (by omega) before (encodeVarint content.length ++ content ++ rest)
    have hlength := hd.varint content.length (by omega) (before ++ encodeVarint 26) (content ++ rest)
    have hslice := hd.slice (before ++ encodeVarint 26 ++ encodeVarint content.length) content rest
    simp only [List.append_assoc] at hbuffer htag hlength hslice hentry
    rw [← hbuffer] at htag hlength hslice
    rw [Dialect.fieldLoop,if_pos (hoffset hbuffer),htag,Option.bind_some,if_neg (by simp),if_neg (by simp),
      if_pos (by simp),hlength,Option.bind_some,hslice,Option.bind_some]
    have hend : (before ++ (encodeVarint 26 ++ encodeVarint content.length)).length + content.length =
        (before ++ (encodeVarint 26 ++ (encodeVarint content.length ++ content))).length := by
      simp only [List.length_append,Nat.add_assoc]
    rw [hend,hentry hbuffer hfuel]
    simp only [Item.field,Item.apply,encodeField,hcontent,List.append_assoc,Option.bind_some]

lemma fieldLoop_items {items : List Item} (hitems : ∀ item ∈ items, item.Sound)
    (before : Bytes) (fuel : ℕ) (ctx : PropagationContext)
    (hbuffer : buffer = before ++ message items) (hfuel : items.length < fuel) :
    d.fieldLoop buffer fuel before.length ctx = some (items.foldl (Item.apply d.put) ctx) := by
  induction items generalizing before fuel ctx with
  | nil =>
    obtain ⟨fuel,rfl⟩ := Nat.exists_eq_succ_of_ne_zero (Nat.ne_of_gt hfuel)
    rw [Dialect.fieldLoop,if_neg (by simp [hbuffer])]
    rfl
  | cons item items ih =>
    obtain ⟨fuel,rfl⟩ := Nat.exists_eq_succ_of_ne_zero (Nat.ne_of_gt (Nat.zero_lt_of_lt hfuel))
    rw [hd.fieldLoop_item hsize (hitems item (by simp)) before (message items) fuel ctx hbuffer]
    refine ih (fun i hi => hitems i (by simp [hi])) _ fuel _ ?_ (by simpa using hfuel)
    rw [hbuffer,message_cons,List.append_assoc]

theorem decodeBuffer_message {items : List Item} (hitems : ∀ item ∈ items, item.Sound)
    (hbuffer : buffer = message items) :
    d.decodeBuffer buffer = some (items.foldl (Item.apply d.put) emptyContext) := by
  have hfuel : items.length < buffer.length + 1 := by
    have hle := length_le_encodeFields (plain_items hitems (by rw [← hbuffer]; omega))
    rw [List.length_map] at hle
    rw [hbuffer]
    exact Nat.lt_succ_of_le hle
  exact hd.fieldLoop_items hsize hitems [] _ _ hbuffer hfuel

end Dialect.Reads

lemma unmarshalEntry_parts {parts : List (ℕ × String)} (hparts : ∀ part ∈ parts, part.1 = 1 ∨ part.1 = 2)
    (kv : String × String) :
    (parts.map partField).foldlM unmarshalEntryField kv = some (parts.foldl assign kv) := by
  induction parts generalizing kv with
  | nil => rfl
  | cons part parts ih =>
    obtain ⟨number,s⟩ := part
    have hnext := ih (fun p hp => hparts p (by simp [hp]))
    have hfield : unmarshalEntryField kv (partField (number,s)) = some (assign kv (number,s)) := by
      have hnumber : number = 1 ∨ number = 2 := hparts (number,s) (by simp)
      rcases hnumber with rfl | rfl
      all_goals
        change (strictText (utf8 s)).map _ = _
        rw [strictText_utf8]
        rfl
    rw [List.map_cons,List.foldlM_cons,hfield,List.foldl_cons]
    exact hnext _

lemma unmarshalField_item {item : Item} (hitem : item.Sound) (ctx : PropagationContext)
    (hsize : (encodeField item.field.number item.field.value).length < 18446744073709551616) :
    unmarshalField ctx item.field = some (item.apply putEntry ctx) := by
  cases item with
  | environment s =>
    change (strictText (utf8 s)).map _ = _
    rw [strictText_utf8]
    rfl
  | routingMode n =>
    have hn : n ≤ 3 := hitem
    change some { ctx with routingMode := n % 4294967296 } = _
    rw [Nat.mod_eq_of_lt (by omega)]
    rfl
  | entry parts =>
    have hcontent : (encodeFields (parts.map partField)).length < 18446744073709551616 := by
      refine Nat.lt_of_le_of_lt ?_ hsize
      change _ ≤ (_ ++ encodeFields (parts.map partField)).length
      rw [List.length_append]
      omega
    change (parseFields (encodeFields (parts.map partField))).bind _ = _
    rw [parseFields_encodeFields (plain_parts hitem hcontent),Option.bind_some,unmarshalEntry_parts hitem]
    rfl

theorem unmarshal_message {items : List Item} (hitems : ∀ item ∈ items, item.Sound)
    (hsize : (message items).length < 18446744073709551616) :
    unmarshal (message items) = some (items.foldl (Item.apply putEntry) emptyContext) := by
  have hfold : ∀ (more : List Item) (ctx : PropagationContext), (∀ item ∈ more, item ∈ items) →
      (more.map Item.field).foldlM unmarshalField ctx = some (more.foldl (Item.apply putEntry) ctx) := by
    intro more
    induction more with
    | nil => exact fun ctx _ => rfl
    | cons item more ih =>
      intro ctx hmore
      have hitem := hmore item (by simp)
      have hlength := encodeField_length_le (List.mem_map_of_mem (f := Item.field) hitem)
      rw [List.map_cons,List.foldlM_cons,
        unmarshalField_item (hitems item hitem) ctx (Nat.lt_of_le_of_lt hlength hsize),List.foldl_cons]
      exact ih _ fun i hi => hmore i (by simp [hi])
  rw [unmarshal,message,parseFields_encodeFields (plain_items hitems hsize)]
  exact hfold items emptyContext fun _ h => h

inductive Language
  | go
  | node
  | python
  deriving DecidableEq

def Language.encode : Language → PropagationContext → Bytes
  | .go => goEncode
  | .node => nodeEncode
  | .python => pythonEncode

def Language.decode (lossyText : Bytes → String) : Language → Bytes → Option PropagationContext
  | .go => goDecode
  | .node => nodeDecodeContext lossyText
  | .python => pythonDecodeContext

/-- The entries that each language's map takes. -/
def Language.put : Language → List (String × String) → String → String → List (String × String)
  | .go => putEntry
  | .node => nodePut
  | .python => putEntry

/-- The parts that each language's encoder writes of an entry. -/
def Language.parts : Language → String × String → List (ℕ × String)
  | .go => allParts
  | .node => filledParts
  | .python => filledParts

/-- The same context: the order of a map's entries is nothing that a reader sees. -/
def PropagationContext.Same (ctx other : PropagationContext) : Prop :=
  ctx.environment = other.environment ∧ ctx.routingMode = other.routingMode ∧
    ∀ key, ctx.metadata.lookup key = other.metadata.lookup key

variable (lang : Language)

lemma Language.encode_eq (ctx : PropagationContext) :
    lang.encode ctx = Base64.rawStd.encodeToString (message (items lang.parts ctx)) := by
  cases lang with
  | go => exact congrArg Base64.rawStd.encodeToString (marshal_eq_message ctx)
  | node | python => exact (trimPadding_std _).trans (congrArg _ (encodeBuffer_eq_message ctx))

lemma Language.foldl_parts (kv : String × String) : (lang.parts kv).foldl assign ("","") = kv := by
  cases lang with
  | go => rfl
  | node | python => exact foldl_filledParts kv

lemma Language.parts_number (kv : String × String) : ∀ part ∈ lang.parts kv, part.1 = 1 ∨ part.1 = 2 := by
  have hfilled : ∀ part ∈ filledParts kv, part.1 = 1 ∨ part.1 = 2 := by
    intro part hpart
    unfold filledParts at hpart
    rw [List.mem_append] at hpart
    rcases hpart with hpart | hpart
    · split_ifs at hpart
      · cases hpart
      · exact .inl (congrArg Prod.fst (List.mem_singleton.mp hpart))
    · split_ifs at hpart
      · cases hpart
      · exact .inr (congrArg Prod.fst (List.mem_singleton.mp hpart))
  cases lang with
  | go => simp [Language.parts,allParts]
  | node | python => exact hfilled

theorem Language.decode_encode {lossyText : Bytes → String} (hlossy : ∀ s, lossyText (utf8 s) = s)
    (reader writer : Language) {ctx : PropagationContext} (hmode : ctx.routingMode ≤ 3)
    (hsize : (writer.encode ctx).length ≤ 4096) :
    reader.decode lossyText (writer.encode ctx) =
      some { ctx with
        metadata := ctx.metadata.foldl (fun m kv => reader.put m kv.1 kv.2) [] } := by
  have hsound : ∀ item ∈ items writer.parts ctx, item.Sound :=
    fun item hitem => sound_items writer.parts_number hmode hitem
  have hmessage : (message (items writer.parts ctx)).length ≤ 4096 := by
    rw [writer.encode_eq,rawStd_encodeToString,List.length_map] at hsize
    exact Nat.le_trans (length_le_packBytes _) hsize
  have happly := fun put => apply_items writer.foldl_parts put ctx
  cases reader with
  | go =>
    change goDecode _ = _
    rw [goDecode,if_neg (by omega),writer.encode_eq,trimPadding_rawStd,rawStd_decodeString,Option.bind_some,
      unmarshal_message hsound (by omega),happly]
    rfl
  | node =>
    change nodeDecodeContext _ _ = _
    rw [nodeDecodeContext,if_neg (by omega),writer.encode_eq,padded,nodeDecode_padded,
      (node_reads hlossy).decodeBuffer_message (by omega) hsound rfl,happly]
    rfl
  | python =>
    change pythonDecodeContext _ = _
    rw [pythonDecodeContext,if_neg (by omega),writer.encode_eq,padded,pythonDecode_padded,Option.bind_some,
      python_reads.decodeBuffer_message (by omega) hsound rfl,happly]
    rfl

lemma foldl_putEntry {entries start : List (String × String)}
    (hkeys : ((start ++ entries).map Prod.fst).Nodup) :
    entries.foldl (fun m kv => putEntry m kv.1 kv.2) start = start ++ entries := by
  induction entries generalizing start with
  | nil => exact (List.append_nil start).symm
  | cons kv entries ih =>
    have hnew : kv.1 ∉ start.map Prod.fst := by
      rw [List.map_append,List.map_cons] at hkeys
      intro hmem
      exact (List.nodup_append.mp hkeys).2.2 _ hmem _ (by simp) rfl
    rw [List.foldl_cons,putEntry,if_neg hnew,ih (by simpa using hkeys)]
    simp

lemma foldl_nodePut (entries start : List (String × String)) :
    entries.foldl (fun m kv => nodePut m kv.1 kv.2) start =
      (entries.filter fun kv => kv.1 ≠ "__proto__").foldl (fun m kv => putEntry m kv.1 kv.2) start := by
  induction entries generalizing start with
  | nil => rfl
  | cons kv entries ih =>
    rw [List.foldl_cons,ih,List.filter_cons]
    by_cases hkey : kv.1 = "__proto__"
    · simp [nodePut,hkey]
    · simp [nodePut,hkey]

variable {entries : List (String × String)}

lemma Language.foldl_put (hkeys : (entries.map Prod.fst).Nodup) :
    entries.foldl (fun m kv => lang.put m kv.1 kv.2) [] =
      if lang = .node then entries.filter fun kv => kv.1 ≠ "__proto__" else entries := by
  cases lang with
  | go | python => exact foldl_putEntry hkeys
  | node =>
    have hkept : ((entries.filter fun kv => kv.1 ≠ "__proto__").map Prod.fst).Nodup :=
      hkeys.sublist (List.filter_sublist.map _)
    exact (foldl_nodePut entries []).trans (foldl_putEntry hkept)

lemma lookup_ne_none {key : String} (h : key ∈ entries.map Prod.fst) : entries.lookup key ≠ none := by
  obtain ⟨kv,hkv,rfl⟩ := List.mem_map.mp h
  intro hnone
  simpa using List.lookup_eq_none_iff.mp hnone kv hkv

/-- Whatever one language encodes another decodes to the same context, but for the key `__proto__`,
which is lost by Node's decoder. -/
theorem codecs_interoperate_iff {lossyText : Bytes → String} (hlossy : ∀ s, lossyText (utf8 s) = s)
    (reader writer : Language) (ctx : PropagationContext) (hmode : ctx.routingMode ≤ 3)
    (hkeys : (ctx.metadata.map Prod.fst).Nodup) (hsize : (writer.encode ctx).length ≤ 4096) :
    (∃ decoded, reader.decode lossyText (writer.encode ctx) = some decoded ∧ decoded.Same ctx) ↔
      (reader = .node → "__proto__" ∉ ctx.metadata.map Prod.fst) := by
  rw [Language.decode_encode hlossy reader writer hmode hsize,reader.foldl_put hkeys]
  constructor
  · rintro ⟨_,hdecoded,-,-,hlookup⟩ hreader hproto
    obtain rfl := Option.some.inj hdecoded
    have hlost := hlookup "__proto__"
    dsimp only at hlost
    rw [if_pos hreader] at hlost
    refine lookup_ne_none hproto (hlost.symm.trans (List.lookup_eq_none_iff.mpr ?_))
    intro kv hkv
    have hne := (List.mem_filter.mp hkv).2
    simpa using fun h => (of_decide_eq_true hne) h.symm
  · intro hcond
    refine ⟨_,rfl,rfl,rfl,fun key => ?_⟩
    dsimp only
    split_ifs with hreader
    · rw [List.filter_eq_self.mpr]
      intro kv hkv
      have hne : kv.1 ≠ "__proto__" := fun h => hcond hreader (h ▸ List.mem_map_of_mem hkv)
      simpa using hne
    · rfl

theorem python_text_read_by_node :
    ∃ decoded, Language.decode (fun b => String.ofList (runes b)) .node
        (Language.python.encode ⟨"pr-7",1,[("user","a"),("","b")]⟩) = some decoded ∧
      decoded.Same ⟨"pr-7",1,[("user","a"),("","b")]⟩ :=
  (codecs_interoperate_iff (fun s => by rw [utf8_eq_encode,runes_encode,String.ofList_toList]) .node .python _
    (by decide) (by decide) (by decide)).mpr fun _ => by decide

/-- Node reads what Go wrote, without the entry. -/
theorem proto_entry_lost : ¬∃ decoded, Language.decode (fun b => String.ofList (runes b)) .node
        (Language.go.encode ⟨"pr-7",1,[("__proto__","x")]⟩) = some decoded ∧
      decoded.Same ⟨"pr-7",1,[("__proto__","x")]⟩ := by
  rw [Language.decode_encode (fun s => by rw [utf8_eq_encode,runes_encode,String.ofList_toList]) .node .go
    (by decide) (by decide)]
  rintro ⟨_,hdecoded,-,-,hlookup⟩
  obtain rfl := Option.some.inj hdecoded
  exact absurd (hlookup "__proto__") (by decide)

end Diverge.Sdk
