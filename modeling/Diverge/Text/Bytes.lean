import Diverge.Text.Hex

/-! Go strings as byte strings. -/
namespace Diverge.Text

abbrev Bytes := List UInt8

def utf8 (s : String) : Bytes := s.toByteArray.data.toList

def asciiText (bytes : Bytes) : String := String.ofList (bytes.map fun b => Char.ofNat b.toNat)

@[simp] lemma asciiText_toList (bytes : Bytes) :
    (asciiText bytes).toList = bytes.map fun b => Char.ofNat b.toNat := String.toList_ofList

lemma toNat_charOfNat {n : ℕ} (h : n < 0xd800) : (Char.ofNat n).toNat = n := by
  rw [Char.ofNat,dif_pos (.inl h)]
  rfl

variable {b : UInt8} {bytes : Bytes}

lemma utf8EncodeChar_ascii (h : b < 128) : String.utf8EncodeChar (Char.ofNat b.toNat) = [b] := by
  have hb : b.toNat < 128 := h
  have hv : (Char.ofNat b.toNat).val.toNat = b.toNat := toNat_charOfNat (by omega)
  rw [String.utf8EncodeChar,hv,if_pos (by omega),UInt8.ofNat_toNat]

lemma utf8_asciiText (h : ∀ b ∈ bytes, b < 128) : utf8 (asciiText bytes) = bytes := by
  rw [utf8,asciiText,String.toByteArray_ofList,List.utf8Encode,List.data_toByteArray,List.flatMap_map]
  induction bytes with
  | nil => rfl
  | cons b bytes ih =>
    rw [List.flatMap_cons,utf8EncodeChar_ascii (h b (by simp))]
    simpa using ih fun c hc => h c (by simp [hc])

/-- `hex.EncodeToString`, as bytes. -/
def hexBytes (bytes : Bytes) : Bytes := (hexChars bytes).map fun c => c.toNat.toUInt8

@[simp] lemma hexBytes_length (bytes : Bytes) : (hexBytes bytes).length = 2*bytes.length := by
  simp [hexBytes]

lemma byte_of_hexDigit : ∀ i < 16, Char.ofNat (Nat.digitChar i).toNat.toUInt8.toNat = Nat.digitChar i := by
  decide

lemma hexBytes_chars (bytes : Bytes) : (hexBytes bytes).map (fun b => Char.ofNat b.toNat) = hexChars bytes := by
  rw [hexBytes,List.map_map]
  conv_rhs => rw [← List.map_id (hexChars bytes)]
  apply List.map_congr_left
  intro c hc
  obtain ⟨i,hi,rfl⟩ := hexChars_mem hc
  exact byte_of_hexDigit i hi

theorem hexBytes_injective : Function.Injective hexBytes := by
  intro xs ys h
  apply hexChars_injective
  rw [← hexBytes_chars xs,← hexBytes_chars ys,h]

lemma hexBytes_mem (h : b ∈ hexBytes bytes) : b.toNat ≤ 57 ∨ (97 ≤ b.toNat ∧ b.toNat ≤ 102) := by
  obtain ⟨c,hc,rfl⟩ := List.mem_map.mp h
  obtain ⟨i,hi,rfl⟩ := hexChars_mem hc
  clear h hc
  revert i
  decide

end Diverge.Text
