import Diverge.Text.Bytes

/-! The wire format of protocol buffers: varints, and messages as sequences of numbered fields. -/
namespace Diverge.Wire
open Text

section

def varintBytes : ℕ → ℕ → Bytes
  | 0,_ => []
  | fuel+1,n =>
    if n < 128 then [n.toUInt8] else (n % 128 + 128).toUInt8 :: varintBytes fuel (n / 128)

/-- Seven bits a byte, the lowest first, and a flag on all bytes but the last. -/
def encodeVarint (n : ℕ) : Bytes := varintBytes (n + 1) n

/-- A varint of at most so many bytes, and the bytes after it. -/
def readVarint : ℕ → Bytes → Option (ℕ × Bytes)
  | 0,_ => none
  | _+1,[] => none
  | limit+1,b :: rest =>
    if b.toNat < 128 then some (b.toNat,rest)
    else (readVarint limit rest).map fun r => (b.toNat - 128 + 128 * r.1,r.2)

lemma readVarint_varintBytes {fuel n limit : ℕ} (hfuel : n < fuel) (hlimit : n < 128 ^ limit) (hpos : 0 < limit)
    (rest : Bytes) : readVarint limit (varintBytes fuel n ++ rest) = some (n,rest) := by
  induction fuel generalizing n limit with
  | zero => omega
  | succ fuel ih =>
    obtain ⟨limit,rfl⟩ := Nat.exists_eq_succ_of_ne_zero (Nat.ne_of_gt hpos)
    unfold varintBytes
    split_ifs with hsmall
    · have hbyte : n.toUInt8.toNat = n := Nat.mod_eq_of_lt (by omega)
      rw [List.cons_append,List.nil_append,readVarint,hbyte,if_pos hsmall]
    · have hbyte : (n % 128 + 128).toUInt8.toNat = n % 128 + 128 := Nat.mod_eq_of_lt (by omega)
      have hnext : n / 128 < 128 ^ limit := by
        rw [Nat.pow_succ] at hlimit
        exact Nat.div_lt_of_lt_mul (by omega)
      have hlast : 0 < limit := by
        rcases Nat.eq_zero_or_pos limit with rfl | hlast
        · rw [Nat.pow_zero] at hnext
          omega
        · exact hlast
      rw [List.cons_append,readVarint,hbyte,if_neg (by omega),ih (by omega) hnext hlast,Option.map_some]
      congr 2
      omega

theorem readVarint_encodeVarint {n limit : ℕ} (hlimit : n < 128 ^ limit) (hpos : 0 < limit) (rest : Bytes) :
    readVarint limit (encodeVarint n ++ rest) = some (n,rest) :=
  readVarint_varintBytes (Nat.lt_succ_self n) hlimit hpos rest

variable {limit : ℕ} {b : Bytes} {r : ℕ × Bytes}

lemma readVarint_length (h : readVarint limit b = some r) : r.2.length < b.length := by
  induction limit generalizing b r with
  | zero => cases h
  | succ limit ih =>
    cases b with
    | nil => cases h
    | cons x rest =>
      rw [readVarint] at h
      split_ifs at h
      · cases h
        simp
      · obtain ⟨r',hr',rfl⟩ := Option.map_eq_some_iff.mp h
        have hlt : r'.2.length < rest.length := ih hr'
        exact Nat.lt_succ_of_lt hlt

lemma readVarint_limit {limit l : ℕ} (h : readVarint limit b = some r)
    (hl : b.length - r.2.length ≤ l) : readVarint l b = some r := by
  have hlength := readVarint_length h
  induction limit generalizing l b r with
  | zero => cases h
  | succ limit ih =>
    obtain ⟨l,rfl⟩ : ∃ k, l = k + 1 := ⟨l - 1,by omega⟩
    cases b with
    | nil => cases h
    | cons x rest =>
      rw [readVarint] at h ⊢
      split_ifs at h ⊢
      · exact h
      · obtain ⟨r',hr',rfl⟩ := Option.map_eq_some_iff.mp h
        have hrest := readVarint_length hr'
        rw [List.length_cons] at hl
        rw [ih hr' (by dsimp only at hl; omega) hrest,Option.map_some]

lemma readVarint_cut (h : readVarint limit b = none) (hlimit : b.length ≤ limit) (l : ℕ) :
    readVarint l b = none := by
  induction limit generalizing l b with
  | zero =>
    rw [List.length_eq_zero_iff.mp (Nat.le_zero.mp hlimit)]
    cases l <;> rfl
  | succ limit ih =>
    cases l with
    | zero => rfl
    | succ l =>
      cases b with
      | nil => rfl
      | cons x rest =>
        rw [readVarint] at h ⊢
        split_ifs at h ⊢
        rw [List.length_cons] at hlimit
        rw [ih (Option.map_eq_none_iff.mp h) (by omega),Option.map_none]

lemma varintBytes_length {fuel n : ℕ} (hfuel : n < fuel) :
    0 < (varintBytes fuel n).length ∧ n < 128 ^ (varintBytes fuel n).length := by
  induction fuel generalizing n with
  | zero => omega
  | succ fuel ih =>
    unfold varintBytes
    split_ifs with hsmall
    · simpa using hsmall
    · obtain ⟨-,hlt⟩ := ih (n := n / 128) (by omega)
      rw [List.length_cons,Nat.pow_succ]
      exact ⟨Nat.succ_pos _,by omega⟩

lemma encodeVarint_length_pos (n : ℕ) : 0 < (encodeVarint n).length :=
  (varintBytes_length (Nat.lt_succ_self n)).1

lemma lt_of_encodeVarint (n : ℕ) : n < 128 ^ (encodeVarint n).length :=
  (varintBytes_length (Nat.lt_succ_self n)).2

end

inductive Value
  | varint (n : ℕ)
  | fixed64 (bytes : Bytes)
  | bytes (bytes : Bytes)
  | group
  | fixed32 (bytes : Bytes)
  deriving DecidableEq

structure Field where
  number : ℕ
  value : Value
  deriving DecidableEq

def readUint64 (b : Bytes) : Option (ℕ × Bytes) := (readVarint 10 b).filter fun r => r.1 < 18446744073709551616

/-- A field number in the range of valid ones, and a wire type. -/
def readTag (b : Bytes) : Option ((ℕ × ℕ) × Bytes) :=
  ((readUint64 b).filter fun r => 1 ≤ r.1 / 8 ∧ r.1 / 8 < 536870912).map fun r => ((r.1 / 8,r.1 % 8),r.2)

def readBytes (n : ℕ) (b : Bytes) : Option (Bytes × Bytes) :=
  if n ≤ b.length then some (b.take n,b.drop n) else none

/-- The value of a field of some wire type; a group is skipped up to its end. -/
def readValue : ℕ → ℕ → ℕ → Bytes → Option (Value × Bytes)
  | 0,_,_,_ => none
  | fuel+1,number,wireType,b =>
    match wireType with
    | 0 => (readUint64 b).map fun r => (.varint r.1,r.2)
    | 1 => (readBytes 8 b).map fun r => (.fixed64 r.1,r.2)
    | 2 => (readUint64 b).bind fun r => (readBytes r.1 r.2).map fun r => (.bytes r.1,r.2)
    | 3 => (readTag b).bind fun r =>
        if r.1.2 = 4 then if r.1.1 = number then some (.group,r.2) else none
        else (readValue fuel r.1.1 r.1.2 r.2).bind fun v => readValue fuel number 3 v.2
    | 5 => (readBytes 4 b).map fun r => (.fixed32 r.1,r.2)
    | _ => none

def readFields : ℕ → Bytes → Option (List Field)
  | _,[] => some []
  | 0,_ => none
  | fuel+1,b =>
    (readTag b).bind fun r =>
      (readValue (b.length + 1) r.1.1 r.1.2 r.2).bind fun v =>
        (readFields fuel v.2).map fun fields => ⟨r.1.1,v.1⟩ :: fields

/-- Every field takes a byte at least, so the length is enough fuel. -/
def parseFields (b : Bytes) : Option (List Field) := readFields b.length b

/-- The fields that the encoders write: varints and bytes. -/
def encodeField (number : ℕ) : Value → Bytes
  | .varint n => encodeVarint (number * 8) ++ encodeVarint n
  | .bytes b => encodeVarint (number * 8 + 2) ++ encodeVarint b.length ++ b
  | _ => []

def encodeFields (fields : List Field) : Bytes := fields.flatMap fun f => encodeField f.number f.value

/-- A field that is written and read back. -/
def Field.Plain (f : Field) : Prop :=
  1 ≤ f.number ∧ f.number < 536870912 ∧
    ((∃ n < 18446744073709551616, f.value = .varint n) ∨
      ∃ b : Bytes, b.length < 18446744073709551616 ∧ f.value = .bytes b)

@[simp] lemma encodeFields_nil : encodeFields [] = [] := rfl

@[simp] lemma encodeFields_cons (f : Field) (fields : List Field) :
    encodeFields (f :: fields) = encodeField f.number f.value ++ encodeFields fields := rfl

@[simp] lemma encodeFields_append (fields more : List Field) :
    encodeFields (fields ++ more) = encodeFields fields ++ encodeFields more := List.flatMap_append

lemma readUint64_encodeVarint {n : ℕ} (hn : n < 18446744073709551616) (rest : Bytes) :
    readUint64 (encodeVarint n ++ rest) = some (n,rest) := by
  rw [readUint64,readVarint_encodeVarint (by omega) (by omega)]
  simp [hn]

lemma readTag_encodeVarint {number w : ℕ} (hpos : 1 ≤ number) (hnumber : number < 536870912)
    (hwire : w < 8) (rest : Bytes) :
    readTag (encodeVarint (number * 8 + w) ++ rest) = some ((number,w),rest) := by
  have hdiv : (number * 8 + w) / 8 = number := by omega
  have hmod : (number * 8 + w) % 8 = w := by omega
  rw [readTag,readUint64_encodeVarint (by omega)]
  simp [hdiv,hmod,hpos,hnumber]

lemma readBytes_append (b rest : Bytes) : readBytes b.length (b ++ rest) = some (b,rest) := by
  rw [readBytes,if_pos (by simp)]
  simp

lemma readValue_varint {number n : ℕ} (hn : n < 18446744073709551616) (fuel : ℕ) (rest : Bytes) :
    readValue (fuel + 1) number 0 (encodeVarint n ++ rest) = some (.varint n,rest) := by
  rw [readValue,readUint64_encodeVarint hn]
  rfl

lemma readValue_bytes {number : ℕ} {b : Bytes} (hb : b.length < 18446744073709551616) (fuel : ℕ)
    (rest : Bytes) :
    readValue (fuel + 1) number 2 (encodeVarint b.length ++ b ++ rest) = some (.bytes b,rest) := by
  rw [readValue,List.append_assoc,readUint64_encodeVarint hb]
  change (readBytes b.length (b ++ rest)).map _ = _
  rw [readBytes_append]
  rfl

variable {f : Field} {fields : List Field}

lemma encodeField_length_pos (hf : f.Plain) : 0 < (encodeField f.number f.value).length := by
  obtain ⟨-,-,⟨n,-,hvalue⟩ | ⟨b,-,hvalue⟩⟩ := hf
  · have h := encodeVarint_length_pos n
    rw [hvalue,encodeField,List.length_append]
    omega
  · have h := encodeVarint_length_pos b.length
    rw [hvalue,encodeField,List.length_append,List.length_append]
    omega

lemma length_le_encodeFields (hfields : ∀ f ∈ fields, f.Plain) :
    fields.length ≤ (encodeFields fields).length := by
  induction fields with
  | nil => exact Nat.le_refl 0
  | cons f fields ih =>
    have hf := encodeField_length_pos (hfields f (by simp))
    have hrest := ih fun g hg => hfields g (by simp [hg])
    rw [encodeFields_cons,List.length_cons,List.length_append]
    omega

lemma encodeField_length_le (hf : f ∈ fields) :
    (encodeField f.number f.value).length ≤ (encodeFields fields).length := by
  induction fields with
  | nil => cases hf
  | cons g fields ih =>
    rw [encodeFields_cons,List.length_append]
    rcases List.mem_cons.mp hf with rfl | hf
    · omega
    · have h := ih hf
      omega

lemma plain_of_mem (hsize : (encodeFields fields).length < 18446744073709551616)
    (hf : f ∈ fields) (hpos : 1 ≤ f.number) (hnumber : f.number < 536870912)
    (hvalue : (∃ n < 18446744073709551616, f.value = .varint n) ∨ ∃ b, f.value = .bytes b) : f.Plain := by
  refine ⟨hpos,hnumber,hvalue.imp_right ?_⟩
  rintro ⟨b,hb⟩
  have hlength := encodeField_length_le hf
  rw [hb,encodeField,List.length_append] at hlength
  exact ⟨b,by omega,hb⟩

lemma readFields_cons (hf : f.Plain) (fuel : ℕ) (rest : Bytes) :
    readFields (fuel + 1) (encodeField f.number f.value ++ rest) = (readFields fuel rest).map (f :: ·) := by
  have hpos := encodeField_length_pos hf
  cases hbytes : encodeField f.number f.value ++ rest with
  | nil =>
    have hlength := congrArg List.length hbytes
    rw [List.length_append,List.length_nil] at hlength
    omega
  | cons b more =>
    rw [readFields,← hbytes]
    obtain ⟨hlow,hhigh,⟨n,hn,hvalue⟩ | ⟨content,hcontent,hvalue⟩⟩ := hf
    · have htag := readTag_encodeVarint hlow hhigh (w := 0) (by omega) (encodeVarint n ++ rest)
      rw [Nat.add_zero] at htag
      rw [hvalue,encodeField,List.append_assoc,htag]
      change (readValue _ f.number 0 (encodeVarint n ++ rest)).bind _ = _
      rw [readValue_varint hn,← hvalue]
      rfl
    · have htag := readTag_encodeVarint hlow hhigh (w := 2) (by omega)
        (encodeVarint content.length ++ content ++ rest)
      rw [hvalue,encodeField,List.append_assoc,List.append_assoc,← List.append_assoc (encodeVarint _) content,
        htag]
      change (readValue _ f.number 2 (encodeVarint content.length ++ content ++ rest)).bind _ = _
      rw [readValue_bytes hcontent,← hvalue]
      rfl
    · intro h
      cases h

theorem parseFields_encodeFields (hfields : ∀ f ∈ fields, f.Plain) :
    parseFields (encodeFields fields) = some fields := by
  have hread : ∀ fuel, fields.length ≤ fuel → readFields fuel (encodeFields fields) = some fields := by
    induction fields with
    | nil => exact fun fuel _ => by cases fuel <;> rfl
    | cons f fields ih =>
      intro fuel hfuel
      obtain ⟨fuel,rfl⟩ : ∃ k, fuel = k + 1 := ⟨fuel - 1,by
        rw [List.length_cons] at hfuel
        omega⟩
      rw [encodeFields_cons,readFields_cons (hfields f (by simp)),
        ih (fun g hg => hfields g (by simp [hg])) fuel (by simpa using hfuel)]
      rfl
  exact hread _ (length_le_encodeFields hfields)

end Diverge.Wire
