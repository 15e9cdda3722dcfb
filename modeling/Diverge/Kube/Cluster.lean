import Mathlib.Tactic.Common

/-! An object store behind an unreliable API. Every call consumes an entry of a fault script: it goes
through, fails before it takes effect, or takes effect and loses its answer. After the script all
calls go through. -/
namespace Diverge.Kube

inductive ApiError
  | notFound
  | alreadyExists
  | conflict
  | other (message : String)
  deriving DecidableEq

/-- How a call fails when the server does not answer as it should. -/
inductive Failure
  | conflict
  | other (message : String)
  deriving DecidableEq

def Failure.toError : Failure → ApiError
  | .conflict => .conflict
  | .other message => .other message

lemma Failure.toError_ne_notFound (f : Failure) : f.toError ≠ .notFound := by
  cases f <;> simp [toError]

inductive Fault
  | pass
  | fail (f : Failure)
  | lost (f : Failure)
  deriving DecidableEq

def Fault.passes : Fault → Bool
  | .pass => true
  | _ => false

structure Cluster (κ α : Type) where
  objects : κ → Option α
  script : List Fault

abbrev Call (κ α ε β : Type) := Cluster κ α → Except ε β × Cluster κ α

variable {κ α β ε : Type}

/-- One call: the server's answer and effect, under the next fault. -/
def request (serve : (κ → Option α) → Except ApiError β × (κ → Option α)) : Call κ α ApiError β :=
  fun c =>
    match c.script with
    | [] => ((serve c.objects).1,⟨(serve c.objects).2,[]⟩)
    | .pass :: rest => ((serve c.objects).1,⟨(serve c.objects).2,rest⟩)
    | .fail f :: rest => (.error f.toError,⟨c.objects,rest⟩)
    | .lost f :: rest => (.error f.toError,⟨(serve c.objects).2,rest⟩)

def passesNext (script : List Fault) : Bool := script.head?.all Fault.passes

/-- The next call is carried out, whether or not its answer arrives. -/
def takesEffect (script : List Fault) : Bool :=
  match script with
  | .fail _ :: _ => false
  | _ => true

lemma takesEffect_of_passes {script : List Fault} (h : passesNext script = true) :
    takesEffect script = true := by
  rcases script with _ | ⟨⟨⟩ | f | f,rest⟩
  · rfl
  · rfl
  · exact h
  · rfl

/-- Run again while the answer is a conflict, `n` more times at most. -/
def retryOnConflict (isConflict : ε → Bool) (f : Call κ α ε β) : ℕ → Call κ α ε β
  | 0,c => f c
  | n+1,c =>
    match f c with
    | (.error e,c') => if isConflict e then retryOnConflict isConflict f n c' else (.error e,c')
    | r => r

lemma request_cases (serve : (κ → Option α) → Except ApiError β × (κ → Option α))
    (c : Cluster κ α) : (passesNext c.script = true ∧
      request serve c = ((serve c.objects).1,⟨(serve c.objects).2,c.script.tail⟩)) ∨
    (passesNext c.script = false ∧ ∃ f objects,
      request serve c = (.error (Failure.toError f),⟨objects,c.script.tail⟩) ∧
        (objects = c.objects ∨ objects = (serve c.objects).2)) := by
  obtain ⟨objects,script⟩ := c
  rcases script with _ | ⟨⟨⟩ | f | f,rest⟩
  · exact .inl ⟨rfl,rfl⟩
  · exact .inl ⟨rfl,rfl⟩
  · exact .inr ⟨rfl,f,objects,rfl,.inl rfl⟩
  · exact .inr ⟨rfl,f,_,rfl,.inr rfl⟩

variable {c : Cluster κ α} {k : κ} {v : α} {objects : κ → Option α}

lemma retryOnConflict_once {isConflict : ε → Bool} {f : Call κ α ε β}
    (h : ∀ e, (f c).1 = .error e → isConflict e = false) (n : ℕ) :
    retryOnConflict isConflict f n c = f c := by
  cases n with
  | zero => rfl
  | succ n =>
    rw [retryOnConflict]
    split
    · rename_i e c' he
      rw [he] at h
      rw [h e rfl,he]
      rfl
    · rfl

/-- What every attempt keeps and what every attempt establishes, the retried call does too. -/
theorem retryOnConflict_rule (isConflict : ε → Bool) (f : Call κ α ε β)
    {I : Cluster κ α → Prop} {Q : Except ε β → Cluster κ α → Prop}
    (hstep : ∀ c, I c → I (f c).2 ∧ Q (f c).1 (f c).2) :
    ∀ n c, I c → I (retryOnConflict isConflict f n c).2 ∧
      Q (retryOnConflict isConflict f n c).1 (retryOnConflict isConflict f n c).2 := by
  intro n
  induction n with
  | zero => exact hstep
  | succ n ih =>
    intro c hc
    have hs := hstep c hc
    rw [retryOnConflict]
    split
    · rename_i e c' he
      rw [he] at hs
      split_ifs
      · exact ih c' hs.1
      · exact hs
    · exact hs

def get (k : κ) : Call κ α ApiError α :=
  request fun objects => ((objects k).elim (.error .notFound) .ok,objects)

lemma get_cases (k : κ) (c : Cluster κ α) : (passesNext c.script = true ∧ c.objects k = none ∧
      get k c = (.error .notFound,⟨c.objects,c.script.tail⟩)) ∨
    (passesNext c.script = true ∧ ∃ v, c.objects k = some v ∧
      get k c = (.ok v,⟨c.objects,c.script.tail⟩)) ∨ (passesNext c.script = false ∧
      (get k c = (.error .conflict,⟨c.objects,c.script.tail⟩) ∨
        ∃ m, get k c = (.error (.other m),⟨c.objects,c.script.tail⟩))) := by
  rcases request_cases (fun objects => ((objects k).elim (.error .notFound) .ok,objects)) c with
    ⟨hp,h⟩ | ⟨hp,f,objects,h,hobj⟩
  · cases hk : c.objects k with
    | none =>
      rw [hk] at h
      exact .inl ⟨hp,rfl,h⟩
    | some v =>
      rw [hk] at h
      exact .inr (.inl ⟨hp,v,rfl,h⟩)
  · have hsame : objects = c.objects := by rcases hobj with h | h <;> exact h
    subst hsame
    cases f with
    | conflict => exact .inr (.inr ⟨hp,.inl h⟩)
    | other m => exact .inr (.inr ⟨hp,.inr ⟨m,h⟩⟩)

@[simp] lemma get_quiet (k : κ) (objects : κ → Option α) :
    get k ⟨objects,[]⟩ = ((objects k).elim (.error .notFound) .ok,⟨objects,[]⟩) := rfl

variable [DecidableEq κ]

def create (k : κ) (v : α) : Call κ α ApiError Unit :=
  request fun objects =>
    if (objects k).isSome then (.error .alreadyExists,objects)
    else (.ok (),Function.update objects k (some v))

def update (k : κ) (v : α) : Call κ α ApiError Unit :=
  request fun objects =>
    if (objects k).isSome then (.ok (),Function.update objects k (some v))
    else (.error .notFound,objects)

def delete (k : κ) : Call κ α ApiError Unit :=
  request fun objects =>
    if (objects k).isSome then (.ok (),Function.update objects k none)
    else (.error .notFound,objects)

/-- Replace an object by what a function makes of it; the answer is the new object. -/
def edit (k : κ) (f : α → α) : Call κ α ApiError α :=
  request fun objects =>
    match objects k with
    | some v => (.ok (f v),Function.update objects k (some (f v)))
    | none => (.error .notFound,objects)

lemma create_quiet (h : objects k = none) :
    create k v ⟨objects,[]⟩ = (.ok (),⟨Function.update objects k (some v),[]⟩) := by
  simp [create,request,h]

lemma update_quiet {v w : α} (h : objects k = some w) :
    update k v ⟨objects,[]⟩ = (.ok (),⟨Function.update objects k (some v),[]⟩) := by
  simp [update,request,h]

lemma delete_quiet {w : α} (h : objects k = some w) :
    delete k ⟨objects,[]⟩ = (.ok (),⟨Function.update objects k none,[]⟩) := by
  simp [delete,request,h]

lemma update_cases (k : κ) (v : α) (c : Cluster κ α) :
    update k v c = (.ok (),⟨Function.update c.objects k (some v),c.script.tail⟩) ∨
    ∃ e objects, update k v c = (.error e,⟨objects,c.script.tail⟩) ∧
      (objects = c.objects ∨ objects = Function.update c.objects k (some v)) := by
  rcases request_cases (fun objects : κ → Option α => if (objects k).isSome then
      ((.ok (),Function.update objects k (some v)) : Except ApiError Unit × (κ → Option α))
      else (.error .notFound,objects)) c with ⟨-,h⟩ | ⟨-,f,objects,h,hobj⟩
  · cases hk : c.objects k with
    | none =>
      rw [hk] at h
      exact .inr ⟨.notFound,c.objects,h,.inl rfl⟩
    | some w =>
      rw [hk] at h
      exact .inl h
  · refine .inr ⟨_,objects,h,?_⟩
    rcases hobj with hobj | hobj
    · exact .inl hobj
    · split_ifs at hobj
      · exact .inr hobj
      · exact .inl hobj

lemma create_cases (k : κ) (v : α) (c : Cluster κ α) : (c.objects k = none ∧
      create k v c = (.ok (),⟨Function.update c.objects k (some v),c.script.tail⟩)) ∨
    create k v c = (.error .alreadyExists,⟨c.objects,c.script.tail⟩) ∨
    ∃ f objects, create k v c = (.error (Failure.toError f),⟨objects,c.script.tail⟩) ∧
      (objects = c.objects ∨ (c.objects k = none ∧ objects = Function.update c.objects k (some v))) := by
  rcases request_cases (fun objects : κ → Option α => if (objects k).isSome then
      ((.error .alreadyExists,objects) : Except ApiError Unit × (κ → Option α))
      else (.ok (),Function.update objects k (some v))) c with ⟨-,h⟩ | ⟨-,f,objects,h,hobj⟩
  · cases hk : c.objects k with
    | none =>
      rw [hk] at h
      exact .inl ⟨rfl,h⟩
    | some w =>
      rw [hk] at h
      exact .inr (.inl h)
  · refine .inr (.inr ⟨f,objects,h,?_⟩)
    rcases hobj with hobj | hobj
    · exact .inl hobj
    · split_ifs at hobj with hk
      · exact .inl hobj
      · exact .inr ⟨by simpa using hk,hobj⟩

lemma edit_spec (f : α → α) (hk : c.objects k = some v) :
    (edit k f c).2 = ⟨if takesEffect c.script then Function.update c.objects k (some (f v)) else
      c.objects,c.script.tail⟩ ∧ ((passesNext c.script = true ∧ (edit k f c).1 = .ok (f v)) ∨
      (passesNext c.script = false ∧ ∃ e : Failure, (edit k f c).1 = .error e.toError)) := by
  obtain ⟨objects,script⟩ := c
  change objects k = some v at hk
  rcases script with _ | ⟨⟨⟩ | e | e,rest⟩
  all_goals simp [edit,request,hk,takesEffect,passesNext,Fault.passes]

end Diverge.Kube
