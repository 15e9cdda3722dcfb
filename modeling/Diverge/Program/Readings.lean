import Diverge.Order.Enumerations

/-! Programs that read a store question by question. An answer decides how the program goes on, and a
question that fails ends it. A program is evaluated against fixed answers, or resumed one question at
a time while the store changes. -/
namespace Diverge.Program

/-- A program with questions `Q`, answers `A` and failures `ε`. -/
inductive Reading {Q : Type} (A : Q → Type) (ε α : Type)
  | done (a : α)
  | ask (q : Q) (wrap : ε → ε) (next : A q → Reading A ε α)

namespace Reading

variable {Q : Type} {A : Q → Type} {ε α β K V : Type}

def bind : Reading A ε α → (α → Reading A ε β) → Reading A ε β
  | .done a,f => f a
  | .ask q wrap next,f => .ask q wrap fun a => (next a).bind f

instance : Monad (Reading A ε) where
  pure := .done
  bind := bind

/-- One question; its failure is worded by `wrap`. -/
def question (q : Q) (wrap : ε → ε) : Reading A ε (A q) := .ask q wrap .done

def eval (answer : (q : Q) → Except ε (A q)) : Reading A ε α → Except ε α
  | .done a => .ok a
  | .ask q wrap next =>
    match answer q with
    | .ok a => (next a).eval answer
    | .error e => .error (wrap e)

/-- The rest of a program after its next question. -/
def resume (answer : (q : Q) → Except ε (A q)) : Reading A ε α → Except ε (Reading A ε α)
  | .done a => .ok (.done a)
  | .ask q wrap next =>
    match answer q with
    | .ok a => .ok (next a)
    | .error e => .error (wrap e)

variable {answer : (q : Q) → Except ε (A q)}

@[simp] lemma eval_pure (a : α) : (pure a : Reading A ε α).eval answer = .ok a := rfl

@[simp] lemma eval_bind (m : Reading A ε α) (f : α → Reading A ε β) :
    (m >>= f).eval answer = (m.eval answer).bind fun a => (f a).eval answer := by
  change (m.bind f).eval answer = _
  induction m with
  | done a => rfl
  | ask q wrap next ih =>
    rw [bind,eval,eval]
    cases answer q with
    | ok a => exact ih a
    | error e => rfl

lemma eval_question_ok {q : Q} {a : A q} (h : answer q = .ok a) (wrap : ε → ε) :
    (question q wrap).eval answer = .ok a := by
  rw [question,eval,h]
  rfl

lemma eval_question_error {q : Q} {e : ε} (h : answer q = .error e) (wrap : ε → ε) :
    (question q wrap).eval answer = .error (wrap e) := by
  rw [question,eval,h]

lemma resume_eval {m m' : Reading A ε α} (h : m.resume answer = .ok m') : m'.eval answer = m.eval answer := by
  cases m with
  | done a =>
    cases h
    rfl
  | ask q wrap next =>
    rw [eval]
    rw [resume] at h
    cases hq : answer q with
    | ok a =>
      rw [hq] at h
      cases h
      rfl
    | error e =>
      rw [hq] at h
      cases h

lemma exists_eval (h : ∀ q, ∃ a, answer q = .ok a) (m : Reading A ε α) : ∃ a, m.eval answer = .ok a := by
  induction m with
  | done a => exact ⟨a,rfl⟩
  | ask q wrap next ih =>
    obtain ⟨a,ha⟩ := h q
    rw [eval,ha]
    exact ih a

section
variable (get : K → Reading A ε (Option V))

/-- The values that there are, key by key. -/
def gather : List K → Reading A ε (List V)
  | [] => pure []
  | k :: ks => do
    let found ← get k
    let rest ← gather ks
    pure (found.toList ++ rest)

variable {get}

lemma eval_gather_ok {value : K → Option V} {ks : List K}
    (h : ∀ k ∈ ks, (get k).eval answer = .ok (value k)) :
    (gather get ks).eval answer = .ok (ks.filterMap value) := by
  induction ks with
  | nil => rfl
  | cons k ks ih =>
    rw [gather,eval_bind,h k (by simp)]
    change ((gather get ks) >>= fun rest => pure ((value k).toList ++ rest) :
      Reading A ε (List V)).eval answer = _
    rw [eval_bind,ih fun k hk => h k (by simp [hk])]
    cases hv : value k with
    | none =>
      rw [List.filterMap_cons_none hv]
      rfl
    | some v =>
      rw [List.filterMap_cons_some hv]
      rfl

lemma eval_gather_error {ks : List K} {k : K} (hk : k ∈ ks) {e : ε} (h : (get k).eval answer = .error e) :
    ∃ e', (gather get ks).eval answer = .error e' := by
  induction ks with
  | nil => cases hk
  | cons l ks ih =>
    rw [gather,eval_bind]
    rcases List.mem_cons.mp hk with rfl | hk
    · rw [h]
      exact ⟨e,rfl⟩
    · cases (get l).eval answer with
      | error e' => exact ⟨e',rfl⟩
      | ok found =>
        obtain ⟨e',he⟩ := ih hk
        change ∃ e'', ((gather get ks) >>= _ : Reading A ε (List V)).eval answer = .error e''
        rw [eval_bind,he]
        exact ⟨e',rfl⟩

end
end Reading

variable {Q : Type} {A : Q → Type} {ε α β K V : Type}

/-- Two results that fail both, or are values related by `R`. -/
def Agree (R : α → β → Prop) : Except ε α → Except ε β → Prop
  | .ok a,.ok b => R a b
  | .error _,.error _ => True
  | _,_ => False

namespace Agree

variable {R : α → β → Prop} {x : Except ε α} {y : Except ε β}

lemma cases (h : Agree R x y) :
    (∃ a b, x = .ok a ∧ y = .ok b ∧ R a b) ∨ ∃ e e', x = .error e ∧ y = .error e' := by
  cases x with
  | ok a =>
    cases y with
    | ok b => exact .inl ⟨a,b,rfl,rfl,h⟩
    | error e => exact h.elim
  | error e =>
    cases y with
    | ok b => exact h.elim
    | error e' => exact .inr ⟨e,e',rfl,rfl⟩

lemma bind {γ δ : Type} {S : γ → δ → Prop} (h : Agree R x y) {f : α → Except ε γ} {g : β → Except ε δ}
    (hfg : ∀ a b, R a b → Agree S (f a) (g b)) : Agree S (x.bind f) (y.bind g) := by
  rcases h.cases with ⟨a,b,rfl,rfl,hab⟩ | ⟨e,e',rfl,rfl⟩
  · exact hfg a b hab
  · trivial

lemma ok_iff {x y : Except ε α} (h : Agree Eq x y) (a : α) : x = .ok a ↔ y = .ok a := by
  rcases h.cases with ⟨a,b,rfl,rfl,rfl⟩ | ⟨e,e',rfl,rfl⟩
  · rfl
  · exact iff_of_false nofun nofun

lemma mono {S : α → β → Prop} (h : Agree R x y) (hRS : ∀ a b, R a b → S a b) : Agree S x y := by
  rcases h.cases with ⟨a,b,rfl,rfl,hab⟩ | ⟨e,e',rfl,rfl⟩
  · exact hRS a b hab
  · trivial

lemma and_left (h : Agree R x y) {P : α → Prop} (hP : ∀ a, x = .ok a → P a) :
    Agree (fun a b => R a b ∧ P a) x y := by
  rcases h.cases with ⟨a,b,rfl,rfl,hab⟩ | ⟨e,e',rfl,rfl⟩
  · exact ⟨hab,hP a rfl⟩
  · trivial

end Agree

open Reading Diverge.Order

/-- The value of a result, if there is one. -/
def foundValue : Except ε (Option V) → Option V
  | .ok v => v
  | .error _ => none

variable {get : K → Reading A ε (Option V)} {ks : List K} {R : V → V → Prop}

lemma eq_of_gather {answer : (q : Q) → Except ε (A q)}
    {vs : List V} (h : (gather get ks).eval answer = .ok vs) :
    vs = ks.filterMap fun k => foundValue ((get k).eval answer) := by
  have hall : ∀ k ∈ ks, (get k).eval answer = .ok (foundValue ((get k).eval answer)) := by
    intro k hk
    cases hv : (get k).eval answer with
    | ok v => rfl
    | error e =>
      obtain ⟨e',he⟩ := eval_gather_error hk hv
      rw [he] at h
      cases h
  rw [eval_gather_ok hall] at h
  cases h
  rfl

lemma forall₂_filterMap {value value' : K → Option V} (h : ∀ k ∈ ks, Option.Rel R (value k) (value' k)) :
    List.Forall₂ R (ks.filterMap value) (ks.filterMap value') := by
  induction ks with
  | nil => exact .nil
  | cons k ks ih =>
    have htail := ih fun k hk => h k (by simp [hk])
    have hhead := h k (by simp)
    rw [List.filterMap_cons,List.filterMap_cons]
    generalize value k = v at hhead
    generalize value' k = v' at hhead
    cases hhead with
    | none => exact htail
    | some hr => exact .cons hr htail

/-- Values that are gathered for the same keys, in any order, are the same up to order. -/
theorem gather_agree
    {answer answer' : (q : Q) → Except ε (A q)} {ks ks' : List K} (hperm : ks.Perm ks')
    (h : ∀ k ∈ ks, Agree (Option.Rel R) ((get k).eval answer) ((get k).eval answer')) :
    Agree (UpToOrder R) ((gather get ks).eval answer) ((gather get ks').eval answer') := by
  by_cases hall : ∀ k ∈ ks, ∃ v v', (get k).eval answer = .ok v ∧ (get k).eval answer' = .ok v' ∧ Option.Rel R v v'
  · have hleft : (gather get ks).eval answer =
        .ok (ks.filterMap fun k => foundValue ((get k).eval answer)) := by
      apply eval_gather_ok
      intro k hk
      obtain ⟨v,-,hv,-⟩ := hall k hk
      rw [hv]
      rfl
    have hright : (gather get ks').eval answer' =
        .ok (ks'.filterMap fun k => foundValue ((get k).eval answer')) := by
      apply eval_gather_ok
      intro k hk
      obtain ⟨-,v,-,hv,-⟩ := hall k (hperm.mem_iff.mpr hk)
      rw [hv]
      rfl
    rw [hleft,hright]
    refine ⟨_,hperm.filterMap _,forall₂_filterMap fun k hk => ?_⟩
    obtain ⟨v,v',hv,hv',hrel⟩ := hall k (hperm.mem_iff.mpr hk)
    rw [hv,hv']
    exact hrel
  · push Not at hall
    obtain ⟨k,hk,hnone⟩ := hall
    have hagree := h k hk
    cases hv : (get k).eval answer with
    | ok v =>
      cases hv' : (get k).eval answer' with
      | ok v' =>
        rw [hv,hv'] at hagree
        exact absurd hagree (hnone v v' hv hv')
      | error e =>
        rw [hv,hv'] at hagree
        exact hagree.elim
    | error e =>
      cases hv' : (get k).eval answer' with
      | ok v' =>
        rw [hv,hv'] at hagree
        exact hagree.elim
      | error e' =>
        obtain ⟨_,hleft⟩ := eval_gather_error hk hv
        obtain ⟨_,hright⟩ := eval_gather_error (hperm.mem_iff.mp hk) hv'
        rw [hleft,hright]
        trivial

end Diverge.Program
