import Diverge.Kube.Cluster

/-! An object store with resource versions: an update carries the version that it was made from and
fails when another one is stored, a deletion carries none. -/
namespace Diverge.Kube

structure Versioned (κ α : Type) where
  objects : κ → Option (ℕ × α) := fun _ => none
  /-- The version of the next write. -/
  next : ℕ := 0

namespace Versioned

section
variable {κ α β : Type}

def content (s : Versioned κ α) (k : κ) : Option α := (s.objects k).map Prod.snd

def get (k : κ) (s : Versioned κ α) : Except ApiError (ℕ × α) :=
  match s.objects k with
  | none => .error .notFound
  | some copy => .ok copy

variable [DecidableEq κ]

def put (k : κ) (a : α) (s : Versioned κ α) : Versioned κ α :=
  ⟨Function.update s.objects k (some (s.next,a)),s.next + 1⟩

def remove (k : κ) (s : Versioned κ α) : Versioned κ α :=
  { s with objects := Function.update s.objects k none }

def create (k : κ) (a : α) (s : Versioned κ α) : Except ApiError Unit × Versioned κ α :=
  match s.objects k with
  | none => (.ok (),s.put k a)
  | some _ => (.error .alreadyExists,s)

def update (k : κ) (version : ℕ) (a : α) (s : Versioned κ α) : Except ApiError Unit × Versioned κ α :=
  match s.objects k with
  | none => (.error .notFound,s)
  | some (v,_) => if v = version then (.ok (),s.put k a) else (.error .conflict,s)

def delete (k : κ) (s : Versioned κ α) : Except ApiError Unit × Versioned κ α :=
  match s.objects k with
  | none => (.error .notFound,s)
  | some _ => (.ok (),s.remove k)

/-- A read under a fault. -/
def answered (fault : Fault) (answer : Except ApiError β) : Except ApiError β :=
  match fault with
  | .pass => answer
  | .fail f => .error f.toError
  | .lost f => .error f.toError

/-- A write under a fault: it may fail before it takes effect, or its answer may be lost. -/
def served (fault : Fault) (s : Versioned κ α) (call : Versioned κ α → Except ApiError β × Versioned κ α) :
    Except ApiError β × Versioned κ α :=
  match fault with
  | .pass => call s
  | .fail f => (.error f.toError,s)
  | .lost f => (.error f.toError,(call s).2)

/-- A write takes effect. -/
def effective (fault : Fault) (s : Versioned κ α)
    (call : Versioned κ α → Except ApiError β × Versioned κ α) : Bool :=
  match fault with
  | .fail _ => false
  | _ => (call s).1.isOk

end

section
variable {κ α β : Type} {s : Versioned κ α} {k k' : κ} {a : α}

lemma get_ok {copy : ℕ × α} : s.get k = .ok copy ↔ s.objects k = some copy := by
  unfold get
  cases s.objects k <;> simp

variable {fault : Fault} {b : β}

lemma answered_ok {answer : Except ApiError β} (h : answered fault answer = .ok b) : answer = .ok b := by
  cases fault with
  | pass => exact h
  | fail f | lost f => cases h

lemma served_cases (fault : Fault) (s : Versioned κ α)
    (call : Versioned κ α → Except ApiError β × Versioned κ α) :
    (served fault s call).2 = s ∨ (served fault s call).2 = (call s).2 := by
  cases fault with
  | pass | lost f => exact .inr rfl
  | fail f => exact .inl rfl

variable {call : Versioned κ α → Except ApiError β × Versioned κ α}

lemma effective_of_ok (h : (served fault s call).1 = .ok b) : effective fault s call = true := by
  cases fault with
  | pass =>
    change (call s).1 = .ok b at h
    change (call s).1.isOk = true
    rw [h]
    rfl
  | fail f | lost f => cases h

lemma served_of_ok {t : Versioned κ α} (hcall : call s = (.ok b,t)) (fault : Fault) :
    (effective fault s call = true ∧ (served fault s call).2 = t) ∨
      (effective fault s call = false ∧ (served fault s call).2 = s) := by
  have hok : (call s).1.isOk = true := by
    rw [hcall]
    rfl
  have heffect : (call s).2 = t := by rw [hcall]
  cases fault with
  | pass | lost f => exact .inl ⟨hok,heffect⟩
  | fail f => exact .inr ⟨rfl,rfl⟩

lemma served_of_error {e : ApiError} (hcall : call s = (.error e,s)) (fault : Fault) :
    effective fault s call = false ∧ (served fault s call).2 = s := by
  have hok : (call s).1.isOk = false := by
    rw [hcall]
    rfl
  have heffect : (call s).2 = s := by rw [hcall]
  cases fault with
  | pass | lost f => exact ⟨hok,heffect⟩
  | fail f => exact ⟨rfl,rfl⟩

variable [DecidableEq κ]

@[simp] lemma objects_put_self : (s.put k a).objects k = some (s.next,a) := Function.update_self _ _ _

lemma objects_put_of_ne (h : k' ≠ k) : (s.put k a).objects k' = s.objects k' := Function.update_of_ne h _ _

@[simp] lemma objects_remove_self : (s.remove k).objects k = none := Function.update_self _ _ _

lemma objects_remove_of_ne (h : k' ≠ k) : (s.remove k).objects k' = s.objects k' :=
  Function.update_of_ne h _ _

@[simp] lemma content_put_self : (s.put k a).content k = some a := by simp [content]

lemma content_put_of_ne (h : k' ≠ k) : (s.put k a).content k' = s.content k' := by
  rw [content,objects_put_of_ne h,content]

@[simp] lemma content_remove_self : (s.remove k).content k = none := by simp [content]

lemma content_remove_of_ne (h : k' ≠ k) : (s.remove k).content k' = s.content k' := by
  rw [content,objects_remove_of_ne h,content]

lemma create_cases (k : κ) (a : α) (s : Versioned κ α) :
    (s.create k a).2 = s ∨ (s.objects k = none ∧ (s.create k a).2 = s.put k a) := by
  unfold create
  cases s.objects k with
  | none => exact .inr ⟨rfl,rfl⟩
  | some copy => exact .inl rfl

lemma update_cases (k : κ) (version : ℕ) (a : α) (s : Versioned κ α) : (s.update k version a).2 = s ∨
      ∃ b, s.objects k = some (version,b) ∧ (s.update k version a).2 = s.put k a := by
  unfold update
  cases s.objects k with
  | none => exact .inl rfl
  | some copy =>
    obtain ⟨v,b⟩ := copy
    by_cases hv : v = version
    · exact .inr ⟨b,by rw [hv],by simp [hv]⟩
    · exact .inl (by simp [hv])

lemma served_create (fault : Fault) (k : κ) (a : α) (s : Versioned κ α) :
    (effective fault s (create k a) = true ∧ s.objects k = none ∧
      (served fault s (create k a)).2 = s.put k a) ∨
    (effective fault s (create k a) = false ∧ (served fault s (create k a)).2 = s) := by
  cases hk : s.objects k with
  | none =>
    have hcall : s.create k a = (.ok (),s.put k a) := by simp [create,hk]
    exact (served_of_ok hcall fault).imp_left fun h => ⟨h.1,rfl,h.2⟩
  | some copy =>
    have hcall : s.create k a = (.error .alreadyExists,s) := by simp [create,hk]
    exact .inr (served_of_error hcall fault)

lemma served_update (fault : Fault) (k : κ) (version : ℕ) (a : α) (s : Versioned κ α) :
    (effective fault s (update k version a) = true ∧ (∃ b, s.objects k = some (version,b)) ∧
      (served fault s (update k version a)).2 = s.put k a) ∨
    (effective fault s (update k version a) = false ∧ (served fault s (update k version a)).2 = s) := by
  cases hk : s.objects k with
  | none =>
    have hcall : s.update k version a = (.error .notFound,s) := by simp [update,hk]
    exact .inr (served_of_error hcall fault)
  | some copy =>
    obtain ⟨v,b⟩ := copy
    by_cases hv : v = version
    · have hcall : s.update k version a = (.ok (),s.put k a) := by simp [update,hk,hv]
      exact (served_of_ok hcall fault).imp_left fun h => ⟨h.1,⟨b,by rw [hv]⟩,h.2⟩
    · have hcall : s.update k version a = (.error .conflict,s) := by simp [update,hk,hv]
      exact .inr (served_of_error hcall fault)

lemma delete_cases (k : κ) (s : Versioned κ α) : (s.delete k).2 = s ∨ (s.delete k).2 = s.remove k := by
  unfold delete
  cases s.objects k with
  | none => exact .inl rfl
  | some copy => exact .inr rfl

end

section
variable {κ α : Type}

/-- A request about one object. -/
inductive Request (α : Type)
  | get
  | create (a : α)
  | update (version : ℕ) (a : α)
  | delete

variable [DecidableEq κ] (fault : Fault) (k : κ) (s : Versioned κ α)

/-- The answer has the copy that was read. -/
def Request.serve : Request α → Except ApiError (Option (ℕ × α)) × Versioned κ α
  | .get => ((answered fault (s.get k)).map some,s)
  | .create a => ((served fault s (Versioned.create k a)).1.map fun _ => none,(served fault s (Versioned.create k a)).2)
  | .update v a => ((served fault s (Versioned.update k v a)).1.map fun _ => none,(served fault s (Versioned.update k v a)).2)
  | .delete => ((served fault s (Versioned.delete k)).1.map fun _ => none,(served fault s (Versioned.delete k)).2)

/-- What a request stores, if it takes effect. -/
def Request.stores : Request α → Option α
  | .create a => if effective fault s (Versioned.create k a) then some a else none
  | .update v a => if effective fault s (Versioned.update k v a) then some a else none
  | _ => none

variable {fault k s}

lemma content_put {k' : κ} {a b : α} (h : (s.put k a).content k' = some b) :
    s.content k' = some b ∨ (k' = k ∧ a = b) := by
  by_cases hk : k' = k
  · subst hk
    rw [content_put_self] at h
    exact .inr ⟨rfl,Option.some.inj h⟩
  · exact .inl (by rwa [content_put_of_ne hk] at h)

lemma Request.content_serve {r : Request α} {k' : κ} {b : α} (h : (r.serve fault k s).2.content k' = some b) :
    s.content k' = some b ∨ (k' = k ∧ r.stores fault k s = some b) := by
  cases r with
  | get => exact .inl h
  | create a =>
    change (served fault s (Versioned.create k a)).2.content k' = some b at h
    rcases served_create fault k a s with ⟨heff,-,hput⟩ | ⟨-,hsame⟩
    · rw [hput] at h
      refine (content_put h).imp_right fun hkb => ⟨hkb.1,?_⟩
      rw [Request.stores,if_pos heff,hkb.2]
    · exact .inl (by rwa [hsame] at h)
  | update v a =>
    change (served fault s (Versioned.update k v a)).2.content k' = some b at h
    rcases served_update fault k v a s with ⟨heff,-,hput⟩ | ⟨-,hsame⟩
    · rw [hput] at h
      refine (content_put h).imp_right fun hkb => ⟨hkb.1,?_⟩
      rw [Request.stores,if_pos heff,hkb.2]
    · exact .inl (by rwa [hsame] at h)
  | delete =>
    change (served fault s (Versioned.delete k)).2.content k' = some b at h
    refine .inl ?_
    rcases served_cases fault s (Versioned.delete k) with hs | hs
    · rwa [hs] at h
    · rcases delete_cases k s with hd | hd
      · rwa [hs,hd] at h
      · rw [hs,hd] at h
        by_cases hk : k' = k
        · rw [hk,content_remove_self] at h
          cases h
        · rwa [content_remove_of_ne hk] at h

end

variable {κ α : Type} {s t : Versioned κ α} {k k' : κ} {v : ℕ} {a b : α}

def Numbered (s : Versioned κ α) : Prop := ∀ k v a, s.objects k = some (v,a) → v < s.next

/-- A copy that was read: as long as its version is stored, so is its content. -/
def Copy (s : Versioned κ α) (k : κ) (v : ℕ) (a : α) : Prop :=
  v < s.next ∧ ∀ b, s.objects k = some (v,b) → b = a

lemma Numbered.copy (hs : Numbered s) (h : s.objects k = some (v,a)) : Copy s k v a := by
  refine ⟨hs k v a h,fun b hb => ?_⟩
  rw [h] at hb
  exact (Prod.mk.inj (Option.some.inj hb)).2.symm

lemma Copy.content (hcopy : Copy s k v a) (h : s.objects k = some (v,b)) : s.content k = some a := by
  rw [Versioned.content,h]
  exact congrArg some (hcopy.2 b h)

variable [DecidableEq κ]

lemma Numbered.put (hs : Numbered s) (k : κ) (a : α) : Numbered (s.put k a) := by
  intro k' v b h
  by_cases hk : k' = k
  · rw [hk,objects_put_self] at h
    obtain ⟨rfl,-⟩ := Prod.mk.inj (Option.some.inj h)
    exact Nat.lt_succ_self _
  · rw [objects_put_of_ne hk] at h
    exact Nat.lt_succ_of_lt (hs k' v b h)

lemma Numbered.remove (hs : Numbered s) (k : κ) : Numbered (s.remove k) := by
  intro k' v b h
  by_cases hk : k' = k
  · rw [hk,objects_remove_self] at h
    cases h
  · rw [objects_remove_of_ne hk] at h
    exact hs k' v b h

lemma Copy.put (hcopy : Copy s k v a) (k' : κ) (b : α) : Copy (s.put k' b) k v a := by
  obtain ⟨hv,hsame⟩ := hcopy
  refine ⟨Nat.lt_succ_of_lt hv,fun c hc => ?_⟩
  by_cases hk : k = k'
  · rw [hk,objects_put_self] at hc
    obtain ⟨rfl,-⟩ := Prod.mk.inj (Option.some.inj hc)
    exact absurd hv (Nat.lt_irrefl _)
  · rw [objects_put_of_ne hk] at hc
    exact hsame c hc

lemma Copy.remove (hcopy : Copy s k v a) (k' : κ) : Copy (s.remove k') k v a := by
  obtain ⟨hv,hsame⟩ := hcopy
  refine ⟨hv,fun c hc => ?_⟩
  by_cases hk : k = k'
  · rw [hk,objects_remove_self] at hc
    cases hc
  · rw [objects_remove_of_ne hk] at hc
    exact hsame c hc

end Versioned

end Diverge.Kube
