import Diverge.Text.Bytes

/-! Byte strings read as text, the way a `range` loop over a Go string does it: a byte that does
not start the encoding of a character counts as the replacement character. -/
namespace Diverge.Text

def runeError : Char := Char.ofNat 0xfffd

/-- The number is how many bytes of the last character are still to be skipped. -/
def runesFrom : ℕ → Bytes → List Char
  | _,[] => []
  | n+1,_ :: bytes => runesFrom n bytes
  | 0,b :: bytes =>
    match (b :: bytes).toByteArray.utf8DecodeChar? 0 with
    | some c => c :: runesFrom (c.utf8Size - 1) bytes
    | none => runeError :: runesFrom 0 bytes

/-- The characters that a `range` loop visits. -/
def runes (bytes : Bytes) : List Char := runesFrom 0 bytes

def encode (cs : List Char) : Bytes := cs.flatMap String.utf8EncodeChar

lemma utf8_eq_encode (s : String) : utf8 s = encode s.toList := by
  conv_lhs => rw [← String.ofList_toList (s := s)]
  rw [utf8,String.toByteArray_ofList,List.utf8Encode,List.data_toByteArray,encode]

@[simp] lemma encode_nil : encode [] = [] := rfl

@[simp] lemma encode_cons (c : Char) (cs : List Char) :
    encode (c :: cs) = String.utf8EncodeChar c ++ encode cs := List.flatMap_cons

@[simp] lemma encode_append (cs ds : List Char) : encode (cs ++ ds) = encode cs ++ encode ds :=
  List.flatMap_append

lemma runesFrom_skip (skipped bytes : Bytes) : runesFrom skipped.length (skipped ++ bytes) = runes bytes := by
  induction skipped with
  | nil => rfl
  | cons b skipped ih => exact ih

lemma runes_encodeChar (c : Char) (bytes : Bytes) :
    runes (String.utf8EncodeChar c ++ bytes) = c :: runes bytes := by
  have hdecode : (String.utf8EncodeChar c ++ bytes).toByteArray.utf8DecodeChar? 0 = some c := by
    rw [List.toByteArray_append]
    exact ByteArray.utf8DecodeChar?_utf8EncodeChar_append
  have hlength : (String.utf8EncodeChar c).length = c.utf8Size := String.length_utf8EncodeChar c
  cases henc : String.utf8EncodeChar c with
  | nil => exact absurd henc String.utf8EncodeChar_ne_nil
  | cons b more =>
    rw [henc] at hdecode hlength
    rw [List.cons_append] at hdecode
    rw [runes,List.cons_append,runesFrom,hdecode]
    change c :: runesFrom (c.utf8Size - 1) (more ++ bytes) = _
    rw [← hlength,List.length_cons,Nat.add_sub_cancel,runesFrom_skip]

lemma runes_encode_append (cs : List Char) (bytes : Bytes) :
    runes (encode cs ++ bytes) = cs ++ runes bytes := by
  induction cs with
  | nil => rfl
  | cons c cs ih => rw [encode_cons,List.append_assoc,runes_encodeChar,ih,List.cons_append]

@[simp] lemma runes_encode (cs : List Char) : runes (encode cs) = cs := by
  have h := runes_encode_append cs []
  rwa [List.append_nil,show runes [] = [] from rfl,List.append_nil] at h

/-- `utf8.ValidString`: the bytes are those of a text. -/
def ValidUtf8 (bytes : Bytes) : Prop := encode (runes bytes) = bytes

instance (bytes : Bytes) : Decidable (ValidUtf8 bytes) := inferInstanceAs (Decidable (_ = _))

@[simp] lemma validUtf8_encode (cs : List Char) : ValidUtf8 (encode cs) := by
  rw [ValidUtf8,runes_encode]

lemma validUtf8_utf8 (s : String) : ValidUtf8 (utf8 s) := by
  rw [utf8_eq_encode]
  exact validUtf8_encode _

lemma runes_cons_cases (b : UInt8) (bytes : Bytes) :
    (∃ c rest, b :: bytes = String.utf8EncodeChar c ++ rest) ∨ runes (b :: bytes) = runeError :: runes bytes := by
  cases hdecode : (b :: bytes).toByteArray.utf8DecodeChar? 0 with
  | none =>
    refine .inr ?_
    rw [runes,runesFrom,hdecode]
    rfl
  | some c =>
    obtain ⟨rest,hrest⟩ := ByteArray.exists_of_utf8DecodeChar?_eq_some hdecode
    refine .inl ⟨c,rest.data.toList,?_⟩
    have hdata := congrArg (fun a => a.data.toList) hrest
    simpa using hdata

/-- The bytes with the replacement character in the place of every byte of no character. -/
def coerce (bytes : Bytes) : Bytes := encode (runes bytes)

lemma coerce_of_valid {bytes : Bytes} (h : ValidUtf8 bytes) : coerce bytes = bytes := h

lemma coerce_encodeChar_append (c : Char) (bytes : Bytes) :
    coerce (String.utf8EncodeChar c ++ bytes) = String.utf8EncodeChar c ++ coerce bytes := by
  rw [coerce,runes_encodeChar,encode_cons]
  rfl

lemma length_coerce (bytes : Bytes) :
    bytes.length ≤ (coerce bytes).length ∧ ((coerce bytes).length = bytes.length → ValidUtf8 bytes) := by
  induction hn : bytes.length using Nat.strongRecOn generalizing bytes with
  | ind n ih =>
    cases bytes with
    | nil => exact ⟨hn ▸ Nat.zero_le _,fun _ => rfl⟩
    | cons b rest =>
      rcases runes_cons_cases b rest with ⟨c,more,hmore⟩ | hbad
      · rw [hmore,List.length_append] at hn
        have hpos : 0 < (String.utf8EncodeChar c).length := List.length_pos_of_ne_nil String.utf8EncodeChar_ne_nil
        obtain ⟨hle,hvalid⟩ := ih more.length (by omega) more rfl
        rw [hmore,coerce_encodeChar_append,List.length_append]
        refine ⟨by omega,fun h => ?_⟩
        have hrest := hvalid (by omega)
        change coerce _ = _
        rw [coerce_encodeChar_append,coerce_of_valid hrest]
      · obtain ⟨hle,-⟩ := ih rest.length (by rw [← hn]; exact Nat.lt_succ_self _) rest rfl
        have hlen : (coerce (b :: rest)).length = 3 + (coerce rest).length := by
          rw [coerce,hbad,encode_cons,List.length_append]
          rfl
        rw [List.length_cons] at hn
        exact ⟨by omega,fun h => absurd h (by omega)⟩

lemma encode_prefix_iff {cs ds : List Char} : encode cs <+: encode ds ↔ cs <+: ds := by
  constructor
  · rintro ⟨bytes,h⟩
    have hread := congrArg runes h
    rw [runes_encode_append,runes_encode] at hread
    exact ⟨runes bytes,hread⟩
  · rintro ⟨more,rfl⟩
    exact ⟨encode more,(encode_append _ _).symm⟩

variable {c : Char} {s : String}

lemma le_of_mem_encodeChar {b : UInt8} (hc : 128 ≤ c.val.toNat)
    (h : b ∈ String.utf8EncodeChar c) : 128 ≤ b.toNat := by
  rw [String.utf8EncodeChar,if_neg (by omega)] at h
  split_ifs at h
  all_goals
    simp only [List.mem_cons,List.not_mem_nil,or_false] at h
    rcases h with rfl | rfl | rfl | rfl
    all_goals
      rw [UInt8.toNat_ofNat']
      omega

lemma encodeChar_of_ascii (hc : c.val.toNat < 128) : String.utf8EncodeChar c = [UInt8.ofNat c.val.toNat] := by
  rw [String.utf8EncodeChar,if_pos (by omega)]

lemma utf8_of_ascii (h : ∀ c ∈ s.toList, c.toNat < 128) :
    utf8 s = s.toList.map fun c => UInt8.ofNat c.toNat := by
  rw [utf8_eq_encode,encode,List.map_eq_flatMap]
  exact List.flatMap_congr fun c hc => encodeChar_of_ascii (h c hc)

lemma charOfNat_byte (h : c.toNat < 128) : Char.ofNat (UInt8.ofNat c.toNat).toNat = c := by
  rw [UInt8.toNat_ofNat',Nat.mod_eq_of_lt (by omega),Char.ofNat_toNat]

theorem utf8_injective : Function.Injective utf8 := by
  intro s t h
  rw [utf8_eq_encode,utf8_eq_encode] at h
  exact String.toList_inj.mp (by rw [← runes_encode s.toList,h,runes_encode])

lemma asciiText_utf8 (h : ∀ c ∈ s.toList, c.toNat < 128) : asciiText (utf8 s) = s := by
  rw [← String.toList_inj,asciiText_toList,utf8_of_ascii h,List.map_map]
  conv_rhs => rw [← List.map_id s.toList]
  exact List.map_congr_left fun c hc => charOfNat_byte (h c hc)

example : runes [0x63,0xc3,0xa9,0xff] = ['c','é',runeError] := by decide

end Diverge.Text
