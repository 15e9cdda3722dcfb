import Mathlib.Algebra.Group.Nat.Defs
import Mathlib.Data.List.Basic

/-! Lower-case hexadecimal text of byte strings. -/
namespace Diverge.Text

/-- `hex.EncodeToString`, as a list of characters. -/
def hexChars (bytes : List UInt8) : List Char :=
  bytes.flatMap fun b => [Nat.digitChar (b.toNat / 16),Nat.digitChar (b.toNat % 16)]

@[simp] lemma hexChars_cons (b : UInt8) (bs : List UInt8) : hexChars (b :: bs) =
      Nat.digitChar (b.toNat / 16) :: Nat.digitChar (b.toNat % 16) :: hexChars bs := rfl

@[simp] lemma hexChars_length (bytes : List UInt8) : (hexChars bytes).length = 2*bytes.length := by
  induction bytes with
  | nil => rfl
  | cons b bs ih => simp [ih]; omega

lemma digitChar_hex_injective : ∀ i < 16, ∀ j < 16, Nat.digitChar i = Nat.digitChar j → i = j := by
  decide

theorem hexChars_injective : Function.Injective hexChars := by
  intro xs
  induction xs with
  | nil =>
    intro ys h
    cases ys with
    | nil => rfl
    | cons y ys => simp [hexChars] at h
  | cons x xs ih =>
    intro ys h
    cases ys with
    | nil => simp [hexChars] at h
    | cons y ys =>
      simp only [hexChars_cons,List.cons.injEq] at h
      obtain ⟨hh,hl,ht⟩ := h
      have hx := x.toNat_lt
      have hy := y.toNat_lt
      have h1 := digitChar_hex_injective _ (by omega) _ (by omega) hh
      have h2 := digitChar_hex_injective _ (by omega) _ (by omega) hl
      have hxy : x = y := UInt8.toNat_inj.mp (by omega)
      rw [hxy,ih ht]

lemma hexChars_mem {bytes : List UInt8} {c : Char} (h : c ∈ hexChars bytes) :
    ∃ i < 16, c = Nat.digitChar i := by
  induction bytes with
  | nil => simp [hexChars] at h
  | cons b bs ih =>
    simp only [hexChars_cons,List.mem_cons] at h
    have hb := b.toNat_lt
    rcases h with rfl | rfl | h
    · exact ⟨_,by omega,rfl⟩
    · exact ⟨_,by omega,rfl⟩
    · exact ih h

def hexText (bytes : List UInt8) : String := String.ofList (hexChars bytes)

end Diverge.Text
