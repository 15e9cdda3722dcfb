import Mathlib

/-! Collections whose order is arbitrary: lists that an interface returns in any order, and maps that are
iterated in any order. Sorting by keys that are all different makes the order invisible. -/
namespace Diverge.Order

section
variable {α β : Type} {key : α → String} {l l' : List α}

def sortBy (key : α → String) (l : List α) : List α := l.insertionSort fun a b => key a ≤ key b

lemma sortBy_perm (key : α → String) (l : List α) : (sortBy key l).Perm l := List.perm_insertionSort _ l

@[simp] lemma mem_sortBy {a : α} : a ∈ sortBy key l ↔ a ∈ l := (sortBy_perm key l).mem_iff

lemma sortBy_sorted (key : α → String) (l : List α) : (sortBy key l).Pairwise fun a b => key a ≤ key b := by
  have htrans : IsTrans α fun a b => key a ≤ key b := ⟨fun _ _ _ h h' => h.trans h'⟩
  have htotal : Std.Total fun a b : α => key a ≤ key b := ⟨fun a b => le_total (key a) (key b)⟩
  exact List.pairwise_insertionSort _ l

lemma sortBy_eq_of_perm (h : l.Perm l') (hkeys : (l.map key).Nodup) : sortBy key l = sortBy key l' := by
  have hperm : (sortBy key l).Perm (sortBy key l') :=
    (sortBy_perm key l).trans (h.trans (sortBy_perm key l').symm)
  refine hperm.eq_of_pairwise ?_ (sortBy_sorted key l) (sortBy_sorted key l')
  intro a b ha hb hab hba
  exact List.inj_on_of_nodup_map hkeys (mem_sortBy.mp ha) (h.mem_iff.mpr (mem_sortBy.mp hb))
    (le_antisymm hab hba)

lemma map_sortBy {f : α → β} {key' : β → String} (hkey : ∀ a, key' (f a) = key a) (l : List α) :
    (sortBy key l).map f = sortBy key' (l.map f) := by
  apply List.map_insertionSort
  intro a _ b _
  rw [hkey,hkey]

theorem map_sortBy_eq {f f' : α → β}
    (h : (l.map fun a => (key a,f a)).Perm (l'.map fun a => (key a,f' a))) (hkeys : (l.map key).Nodup) :
    (sortBy key l).map f = (sortBy key l').map f' := by
  have hpairs : ∀ (l : List α) (f : α → β), (sortBy key l).map f =
      (sortBy Prod.fst (l.map fun a => (key a,f a))).map Prod.snd := by
    intro l f
    rw [← map_sortBy (f := fun a => (key a,f a)) (fun _ => rfl),List.map_map]
    rfl
  rw [hpairs,hpairs,sortBy_eq_of_perm h]
  rwa [List.map_map]

end

/-- A finite map with the entries in the order of an iteration. -/
structure Listing (V : Type) where
  entries : List (String × V)
  unique : (entries.map Prod.fst).Nodup
  deriving DecidableEq

namespace Listing

variable {V : Type} {m m' : Listing V}

def empty : Listing V := ⟨[],List.nodup_nil⟩

def get? (m : Listing V) (k : String) : Option V := m.entries.lookup k

def keys (m : Listing V) : List String := m.entries.map Prod.fst

def sortedKeys (m : Listing V) : List String := sortBy id m.keys

def Same (m m' : Listing V) : Prop := m.entries.Perm m'.entries

lemma Same.refl (m : Listing V) : m.Same m := List.Perm.refl _

lemma lookup_eq_some_iff {entries : List (String × V)} (h : (entries.map Prod.fst).Nodup) {k : String} {v : V} :
    entries.lookup k = some v ↔ (k,v) ∈ entries := by
  induction entries with
  | nil => simp
  | cons e entries ih =>
    obtain ⟨l,w⟩ := e
    rw [List.map_cons,List.nodup_cons] at h
    by_cases hk : k = l
    · subst hk
      have hnot : (k,v) ∉ entries := fun hmem => h.1 (List.mem_map.mpr ⟨_,hmem,rfl⟩)
      simp [hnot,eq_comm]
    · have hbeq : (k == l) = false := by simpa using hk
      simp only [List.lookup_cons,hbeq,List.mem_cons,Prod.mk.injEq,hk,false_and,false_or]
      exact ih h.2

lemma get?_eq_some_iff {k : String} {v : V} : m.get? k = some v ↔ (k,v) ∈ m.entries :=
  lookup_eq_some_iff m.unique

lemma Same.get? (h : m.Same m') (k : String) : m.get? k = m'.get? k := by
  apply Option.ext
  intro v
  rw [get?_eq_some_iff,get?_eq_some_iff,h.mem_iff]

lemma Same.keys (h : m.Same m') : m.keys.Perm m'.keys := h.map Prod.fst

lemma Same.sortedKeys (h : m.Same m') : m.sortedKeys = m'.sortedKeys :=
  sortBy_eq_of_perm h.keys (by rw [List.map_id]; exact m.unique)

end Listing

variable {α β : Type} {R : α → α → Prop} {l l' : List α}

/-- The members of one list are those of the other up to `R`, in any order. -/
def UpToOrder (R : α → α → Prop) (l l' : List α) : Prop := ∃ m, l.Perm m ∧ List.Forall₂ R m l'

variable (h : UpToOrder R l l')
include h

lemma UpToOrder.map_perm {f f' : α → β} (hf : ∀ a b, R a b → f a = f' b) : (l.map f).Perm (l'.map f') := by
  obtain ⟨m,hperm,hall⟩ := h
  have heq : m.map f = l'.map f' := by
    clear hperm
    induction hall with
    | nil => rfl
    | cons hr _ ih => rw [List.map_cons,List.map_cons,hf _ _ hr,ih]
  rw [← heq]
  exact hperm.map f

lemma UpToOrder.mem_flatMap {f f' : α → List β} (hf : ∀ a b, R a b → f a = f' b) (x : β) :
    x ∈ l.flatMap f ↔ x ∈ l'.flatMap f' := by
  have hperm := h.map_perm hf
  rw [List.flatMap_def,List.flatMap_def]
  exact hperm.flatten.mem_iff

lemma UpToOrder.filter {p : α → Bool} (hp : ∀ a b, R a b → p a = p b) :
    UpToOrder R (l.filter p) (l'.filter p) := by
  obtain ⟨m,hperm,hall⟩ := h
  refine ⟨m.filter p,hperm.filter p,?_⟩
  clear hperm
  induction hall with
  | nil => exact .nil
  | cons hr _ ih =>
    rename_i a b as bs _
    rw [List.filter_cons,List.filter_cons,hp a b hr]
    cases p b with
    | true => exact .cons hr ih
    | false => exact ih

omit h in
lemma UpToOrder.of_perm (hrefl : ∀ a, R a a) (h : l.Perm l') : UpToOrder R l l' :=
  ⟨l',h,List.forall₂_same.mpr fun a _ => hrefl a⟩

lemma UpToOrder.exists_right {a : α} (ha : a ∈ l) : ∃ b ∈ l', R a b := by
  obtain ⟨m,hperm,hall⟩ := h
  have hm : a ∈ m := hperm.mem_iff.mp ha
  clear hperm ha
  induction hall with
  | nil => cases hm
  | cons hr _ ih =>
    rcases List.mem_cons.mp hm with rfl | hm
    · exact ⟨_,by simp,hr⟩
    · obtain ⟨b,hb,hab⟩ := ih hm
      exact ⟨b,by simp [hb],hab⟩

lemma UpToOrder.exists_left {b : α} (hb : b ∈ l') : ∃ a ∈ l, R a b := by
  obtain ⟨m,hperm,hall⟩ := h
  have hm : ∃ a ∈ m, R a b := by
    clear hperm
    induction hall with
    | nil => cases hb
    | cons hr _ ih =>
      rcases List.mem_cons.mp hb with rfl | hb
      · exact ⟨_,by simp,hr⟩
      · obtain ⟨a,ha,hab⟩ := ih hb
        exact ⟨a,by simp [ha],hab⟩
  obtain ⟨a,ha,hab⟩ := hm
  exact ⟨a,hperm.mem_iff.mpr ha,hab⟩

end Diverge.Order
