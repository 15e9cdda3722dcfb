import Diverge.Program.Rules

/-! Programs whose state is a log that they append to. -/
namespace Diverge.Program

variable {E ε α β : Type} {m : Prog (List E) ε α} {Q Q' : α → List E → Prop} {X X' : ε → List E → Prop}

/-- From every log the program appends some entries, and returns with `Q` of its value and these
entries or exits with `X`. -/
def Logs (m : Prog (List E) ε α) (Q : α → List E → Prop) (X : ε → List E → Prop) : Prop :=
  ∀ s, ∃ l, (∃ a, ending m s = (.ok a,s ++ l) ∧ Q a l) ∨ ∃ e, ending m s = (.error e,s ++ l) ∧ X e l

namespace Logs

lemma pure {a : α} (h : Q a []) : Logs (pure a : Prog (List E) ε α) Q X :=
  fun _ => ⟨[],.inl ⟨a,by simp,h⟩⟩

lemma throw {e : ε} (h : X e []) : Logs (throw e : Prog (List E) ε α) Q X :=
  fun _ => ⟨[],.inr ⟨e,by simp,h⟩⟩

lemma append {Q : PUnit → List E → Prop} {l : List E} (h : Q ⟨⟩ l) :
    Logs (modify (· ++ l) : Prog (List E) ε PUnit) Q X := fun _ => ⟨l,.inl ⟨⟨⟩,rfl,h⟩⟩

lemma mono (h : Logs m Q X) (hQ : ∀ a l, Q a l → Q' a l) (hX : ∀ e l, X e l → X' e l) : Logs m Q' X' := by
  intro s
  obtain ⟨l,⟨a,ha,hq⟩ | ⟨e,he,hx⟩⟩ := h s
  · exact ⟨l,.inl ⟨a,ha,hQ a l hq⟩⟩
  · exact ⟨l,.inr ⟨e,he,hX e l hx⟩⟩

/-- One program after another: the entries of both. -/
theorem bind {f : α → Prog (List E) ε β} {R : β → List E → Prop} (hm : Logs m Q X')
    (hX : ∀ e l, X' e l → X e l)
    (hf : ∀ a l, Q a l → Logs (f a) (fun b l' => R b (l ++ l')) fun e l' => X e (l ++ l')) :
    Logs (m >>= f) R X := by
  intro s
  obtain ⟨l,⟨a,ha,hq⟩ | ⟨e,he,hx⟩⟩ := hm s
  · obtain ⟨l',⟨b,hb,hr⟩ | ⟨e,he,hx⟩⟩ := hf a l hq (s ++ l)
    · exact ⟨l ++ l',.inl ⟨b,by rw [ending_bind,ha,← List.append_assoc]; exact hb,hr⟩⟩
    · exact ⟨l ++ l',.inr ⟨e,by rw [ending_bind,ha,← List.append_assoc]; exact he,hx⟩⟩
  · exact ⟨l,.inr ⟨e,by rw [ending_bind,he],hX e l hx⟩⟩

lemma ends (h : Logs m Q X) :
    (∃ a l, ending m [] = (.ok a,l) ∧ Q a l) ∨ ∃ e l, ending m [] = (.error e,l) ∧ X e l := by
  obtain ⟨l,⟨a,ha,hq⟩ | ⟨e,he,hx⟩⟩ := h []
  · exact .inl ⟨a,l,ha,hq⟩
  · exact .inr ⟨e,l,he,hx⟩

end Logs
end Diverge.Program
