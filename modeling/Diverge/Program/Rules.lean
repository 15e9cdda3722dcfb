import Mathlib.Tactic.Common

/-! Programs over a state that may exit early, and rules of pre- and postconditions for them. The
state survives an early exit. -/
namespace Diverge.Program

abbrev Prog (S ε α : Type) := ExceptT ε (StateM S) α

variable {S T ε δ α β : Type}

def ending (m : Prog S ε α) (s : S) : Except ε α × S := m.run.run s

/-- A computation on a part of the state; its failures are answers. -/
def onPart (part : S → T) (put : T → S → S) (f : T → Except δ α × T) : Prog S ε (Except δ α) :=
  ExceptT.mk (StateT.mk fun s => (.ok (f (part s)).1,put (f (part s)).2 s))

/-- Exit unless the answer is a value. -/
def orExit (exit : δ → ε) : Except δ α → Prog S ε α
  | .ok a => pure a
  | .error e => throw (exit e)

/-- A program run to its end, whichever it is. -/
def finish (m : Prog S ε ε) (s : S) : ε × S :=
  match ending m s with
  | (.ok a,s') => (a,s')
  | (.error e,s') => (e,s')

@[simp] lemma ending_pure (a : α) (s : S) : ending (pure a : Prog S ε α) s = (.ok a,s) := rfl

@[simp] lemma ending_throw (e : ε) (s : S) : ending (throw e : Prog S ε α) s = (.error e,s) := rfl

@[simp] lemma ending_get (s : S) : ending (get : Prog S ε S) s = (.ok s,s) := rfl

@[simp] lemma ending_modify (f : S → S) (s : S) : ending (modify f : Prog S ε PUnit) s = (.ok ⟨⟩,f s) := rfl

@[simp] lemma ending_onPart (part : S → T) (put : T → S → S) (f : T → Except δ α × T) (s : S) :
    ending (onPart part put f : Prog S ε (Except δ α)) s = (.ok (f (part s)).1,put (f (part s)).2 s) := rfl

lemma ending_bind (m : Prog S ε α) (f : α → Prog S ε β) (s : S) : ending (m >>= f) s = match ending m s with
      | (.ok a,s') => ending (f a) s'
      | (.error e,s') => (.error e,s') := by
  unfold ending
  rw [ExceptT.run_bind,StateT.run_bind]
  generalize StateT.run (ExceptT.run m) s = r
  rcases r with ⟨_ | _,_⟩ <;> rfl

lemma ending_bind_ok {m : Prog S ε α} {f : α → Prog S ε β} {s s' : S} {a : α}
    (h : ending m s = (.ok a,s')) : ending (m >>= f) s = ending (f a) s' := by
  rw [ending_bind,h]

/-- A return with `Q` or an exit with `E`. -/
def Ends (Q : α → S → Prop) (E : ε → S → Prop) : Except ε α × S → Prop
  | (.ok a,s) => Q a s
  | (.error e,s) => E e s

/-- From every state with `P` the program returns with `Q` or exits with `E`. -/
def Triple (P : S → Prop) (m : Prog S ε α) (Q : α → S → Prop) (E : ε → S → Prop) : Prop :=
  ∀ s, P s → Ends Q E (ending m s)

variable {P P' : S → Prop} {Q Q' : α → S → Prop} {E E' : ε → S → Prop}

namespace Triple

variable {a : α} {R : α → S → Prop} {f : α → Prog S ε β} {c : Prop} {s : S}

lemma pure (h : ∀ s, P s → Q a s) : Triple P (pure a : Prog S ε α) Q E := h

lemma throw {e : ε} (h : ∀ s, P s → E e s) : Triple P (throw e : Prog S ε α) Q E := h

lemma modify {f : S → S} {Q : PUnit → S → Prop} (h : ∀ s, P s → Q ⟨⟩ (f s)) :
    Triple P (modify f : Prog S ε PUnit) Q E := h

lemma onPart {part : S → T} {put : T → S → S} {f : T → Except δ α × T}
    {Q : Except δ α → S → Prop} (h : ∀ s, P s → Q (f (part s)).1 (put (f (part s)).2 s)) :
    Triple P (onPart part put f : Prog S ε (Except δ α)) Q E := h

lemma orExit {exit : δ → ε} {r : Except δ α} (hQ : ∀ a s, r = .ok a → P s → Q a s)
    (hE : ∀ e s, r = .error e → P s → E (exit e) s) : Triple P (orExit exit r) Q E := by
  cases r with
  | ok a => exact fun s hs => hQ a s rfl hs
  | error e => exact fun s hs => hE e s rfl hs

variable {m : Prog S ε α}

theorem bind {Q : β → S → Prop}
    (hm : Triple P m R E) (hf : ∀ a, Triple (R a) (f a) Q E) : Triple P (m >>= f) Q E := by
  intro s hs
  have h := hm s hs
  rw [ending_bind]
  rcases hr : ending m s with ⟨e | a,s'⟩
  · rw [hr] at h
    exact h
  · rw [hr] at h
    exact hf a s' h

theorem conseq (h : Triple P' m Q' E') (hP : ∀ s, P s → P' s)
    (hQ : ∀ a s, Q' a s → Q a s) (hE : ∀ e s, E' e s → E e s) : Triple P m Q E := by
  intro s hs
  have h := h s (hP s hs)
  rcases hr : ending m s with ⟨e | a,s'⟩
  · rw [hr] at h
    exact hE e s' h
  · rw [hr] at h
    exact hQ a s' h

theorem seq {Q : β → S → Prop}
    (hm : Triple P m R E') (hE : ∀ e s, E' e s → E e s) (hf : ∀ a, Triple (R a) (f a) Q E) :
    Triple P (m >>= f) Q E :=
  .bind (hm.conseq (fun _ h => h) (fun _ _ h => h) hE) hf

lemma fact (h : c → Triple P m Q E) : Triple (fun s => c ∧ P s) m Q E := fun s hs => h hs.1 s hs.2

lemma ite [Decidable c] {m n : Prog S ε α} (hm : c → Triple P m Q E)
    (hn : ¬c → Triple P n Q E) : Triple P (if c then m else n) Q E := by
  split_ifs with h
  · exact hm h
  · exact hn h

lemma any (m : Prog S ε α) : Triple P m (fun _ _ => True) fun _ _ => True := by
  intro s _
  rcases ending m s with ⟨e | a,s'⟩
  · trivial
  · trivial

lemma returned (h : Triple P m Q E) (hs : P s) (hr : (ending m s).1 = .ok a) : Q a (ending m s).2 := by
  have h := h s hs
  rcases hm : ending m s with ⟨e | b,s'⟩
  · rw [hm] at hr
    cases hr
  · rw [hm] at h hr
    cases hr
    exact h

lemma ended {R : S → Prop} (h : Triple P m (fun _ => R) fun _ => R) (hs : P s) : R (ending m s).2 := by
  have h := h s hs
  rcases hm : ending m s with ⟨e | a,s'⟩
  · rw [hm] at h
    exact h
  · rw [hm] at h
    exact h

/-- What holds at every end of the program holds when it is finished. -/
theorem finish {m : Prog S ε ε} {Q : ε → S → Prop} (h : Triple P m Q Q) (hs : P s) :
    Q (finish m s).1 (finish m s).2 := by
  have h := h s hs
  unfold Program.finish
  rcases hr : ending m s with ⟨e | a,s'⟩
  · rw [hr] at h
    exact h
  · rw [hr] at h
    exact h

end Triple

/-- An invariant of the state, at every end of the program. -/
def Keeps (I : S → Prop) (m : Prog S ε α) : Prop := Triple I m (fun _ => I) fun _ => I

variable {I : S → Prop}

namespace Keeps

lemma pure (a : α) : Keeps I (pure a : Prog S ε α) := fun _ h => h

lemma throw (e : ε) : Keeps I (throw e : Prog S ε α) := fun _ h => h

lemma modify {f : S → S} (h : ∀ s, I s → I (f s)) : Keeps I (modify f : Prog S ε PUnit) := h

lemma onPart {part : S → T} {put : T → S → S} {f : T → Except δ α × T}
    (h : ∀ s, I s → I (put (f (part s)).2 s)) : Keeps I (onPart part put f : Prog S ε (Except δ α)) := h

lemma orExit (exit : δ → ε) (r : Except δ α) : Keeps I (orExit exit r) := by
  cases r with
  | ok a => exact .pure a
  | error e => exact .throw (exit e)

theorem bind {m : Prog S ε α} {f : α → Prog S ε β} (hm : Keeps I m) (hf : ∀ a, Keeps I (f a)) :
    Keeps I (m >>= f) := Triple.bind hm hf

lemma ite {c : Prop} [Decidable c] {m n : Prog S ε α} (hm : c → Keeps I m) (hn : ¬c → Keeps I n) :
    Keeps I (if c then m else n) := Triple.ite hm hn

lemma ending {m : Prog S ε α} (h : Keeps I m) {s : S} (hs : I s) : I (ending m s).2 := Triple.ended h hs

end Keeps
/-- A program that returns exactly under a condition on its inputs, and then with `Q`. -/
structure Returns (m : Prog S ε α) (C : Prop) (Q : α → Prop) : Prop where
  returns : C → ∀ s, ∃ a s', ending m s = (.ok a,s') ∧ Q a
  exits : ¬C → ∀ s, ∃ e s', ending m s = (.error e,s')

namespace Returns

variable {C D : Prop} {Q : α → Prop} {m : Prog S ε α}

lemma pure {a : α} (h : Q a) : Returns (pure a : Prog S ε α) True Q :=
  ⟨fun _ s => ⟨a,s,rfl,h⟩,fun h => absurd trivial h⟩

lemma throw (e : ε) : Returns (throw e : Prog S ε α) False Q :=
  ⟨False.elim,fun _ s => ⟨e,s,rfl⟩⟩

lemma modify (f : S → S) : Returns (modify f : Prog S ε PUnit) True fun _ => True :=
  ⟨fun _ s => ⟨⟨⟩,f s,rfl,trivial⟩,fun h => absurd trivial h⟩

variable {R : β → Prop} {f : α → Prog S ε β}

theorem bind (hm : Returns m C Q)
    (hf : ∀ a, Q a → Returns (f a) D R) : Returns (m >>= f) (C ∧ D) R := by
  constructor
  · rintro ⟨hC,hD⟩ s
    obtain ⟨a,s',ha,hQ⟩ := hm.returns hC s
    obtain ⟨b,s'',hb,hR⟩ := (hf a hQ).returns hD s'
    exact ⟨b,s'',by rw [ending_bind,ha]; exact hb,hR⟩
  · intro hnot s
    by_cases hC : C
    · obtain ⟨a,s',ha,hQ⟩ := hm.returns hC s
      obtain ⟨e,s'',he⟩ := (hf a hQ).exits (fun hD => hnot ⟨hC,hD⟩) s'
      exact ⟨e,s'',by rw [ending_bind,ha]; exact he⟩
    · obtain ⟨e,s',he⟩ := hm.exits hC s
      exact ⟨e,s',by rw [ending_bind,he]⟩

lemma of_iff (hm : Returns m C Q) (h : C ↔ D) : Returns m D Q :=
  ⟨fun hD => hm.returns (h.mpr hD),fun hD => hm.exits fun hC => hD (h.mp hC)⟩

lemma throw_bind (e : ε) (f : α → Prog S ε β) : Returns ((MonadExcept.throw e : Prog S ε α) >>= f) False R :=
  ((Returns.throw (Q := fun _ => False) e).bind (D := False) fun _ h => h.elim).of_iff (by simp)

lemma mono {R : α → Prop} (hm : Returns m C Q) (h : ∀ a, Q a → R a) : Returns m C R where
  returns hC s := by
    obtain ⟨a,s',ha,hQ⟩ := hm.returns hC s
    exact ⟨a,s',ha,h a hQ⟩
  exits := hm.exits

lemma after (hm : Returns m True Q) (hf : ∀ a, Q a → Returns (f a) D R) : Returns (m >>= f) D R :=
  (hm.bind hf).of_iff (iff_of_eq (true_and D))

lemma ite {c : Prop} [Decidable c] {n : Prog S ε α} (hm : c → Returns m C Q)
    (hn : ¬c → Returns n D Q) : Returns (if c then m else n) ((c → C) ∧ (¬c → D)) Q := by
  split_ifs with h
  · exact (hm h).of_iff ⟨fun hC => ⟨fun _ => hC,fun hc => absurd h hc⟩,fun hC => hC.1 h⟩
  · exact (hn h).of_iff ⟨fun hD => ⟨fun hc => absurd hc h,fun _ => hD⟩,fun hD => hD.2 h⟩

end Returns
end Diverge.Program
