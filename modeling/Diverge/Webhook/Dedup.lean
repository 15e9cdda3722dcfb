import Mathlib.Data.Int.Basic
import Mathlib.Data.List.Basic

/-! The cache of webhook delivery ids. Times are in nanoseconds. -/
namespace Diverge.Webhook

def maxDeliveryIDs : ℕ := 10000

def deliveryIDTTL : ℤ := 5 * 60 * 1000000000

abbrev Entry := String × ℤ

def fresh (now : ℤ) (e : Entry) : Bool := decide (now - e.2 < deliveryIDTTL)

/-- A full cache drops its expired entries, and a tenth of its capacity if that was not enough, in
the order that `sort.Slice` gives. -/
def evict (order : List Entry → List Entry) (now : ℤ) (entries : List Entry) : List Entry :=
  if entries.length < maxDeliveryIDs then entries
  else if (entries.filter (fresh now)).length < maxDeliveryIDs then entries.filter (fresh now)
  else (order (entries.filter (fresh now))).drop (maxDeliveryIDs / 10)

/-- `IsDuplicate`, with the entries after it. -/
def isDuplicate (order : List Entry → List Entry) (now : ℤ) (id : String) (entries : List Entry) :
    Bool × List Entry :=
  if id = "" then (false,entries)
  else if entries.any (fun e => e.1 == id && fresh now e) then (true,entries)
  else (false,(id,now) :: evict order now (entries.filter (·.1 ≠ id)))

variable {order : List Entry → List Entry} {now : ℤ} {id : String} {entries : List Entry} {e : Entry}

lemma fresh_iff : fresh now e = true ↔ now - e.2 < deliveryIDTTL := decide_eq_true_iff

lemma isDuplicate_fst_iff : (isDuplicate order now id entries).1 = true ↔
      id ≠ "" ∧ ∃ ts, (id,ts) ∈ entries ∧ now - ts < deliveryIDTTL := by
  unfold isDuplicate
  by_cases hid : id = ""
  · simp [hid]
  · rw [if_neg hid]
    split_ifs with hany
    · refine iff_of_true rfl ⟨hid,?_⟩
      obtain ⟨e,he,hmatch⟩ := List.any_eq_true.mp hany
      obtain ⟨hkey,hfresh⟩ := Bool.and_eq_true_iff.mp hmatch
      obtain rfl := beq_iff_eq.mp hkey
      exact ⟨e.2,he,fresh_iff.mp hfresh⟩
    · refine iff_of_false (by simp) ?_
      rintro ⟨-,ts,hts,hfresh⟩
      refine hany (List.any_eq_true.mpr ⟨(id,ts),hts,?_⟩)
      exact Bool.and_eq_true_iff.mpr ⟨beq_iff_eq.mpr rfl,fresh_iff.mpr hfresh⟩

lemma isDuplicate_snd_of_fst (h : (isDuplicate order now id entries).1 = true) :
    (isDuplicate order now id entries).2 = entries := by
  unfold isDuplicate at h ⊢
  split_ifs at h ⊢
  rfl

lemma evict_subset (horder : ∀ l, (order l).Perm l) : evict order now entries ⊆ entries := by
  unfold evict
  split_ifs
  · exact List.Subset.refl _
  · exact fun e he => List.mem_of_mem_filter he
  · exact fun e he => List.mem_of_mem_filter ((horder _).subset (List.mem_of_mem_drop he))

lemma mem_evict (hroom : (entries.filter (fresh now)).length < maxDeliveryIDs) (he : e ∈ entries)
    (hfresh : fresh now e = true) : e ∈ evict order now entries := by
  unfold evict
  split_ifs
  · exact he
  · exact List.mem_filter.mpr ⟨he,hfresh⟩

lemma mem_of_isDuplicate (horder : ∀ l, (order l).Perm l) (he : e ∈ (isDuplicate order now id entries).2) :
    e ∈ entries ∨ ((isDuplicate order now id entries).1 = false ∧ e = (id,now)) := by
  unfold isDuplicate at he ⊢
  split_ifs at he ⊢
  · exact .inl he
  · exact .inl he
  · rcases List.mem_cons.mp he with rfl | he
    · exact .inr ⟨rfl,rfl⟩
    · exact .inl (List.mem_of_mem_filter (evict_subset horder he))

lemma mem_isDuplicate (hroom : (entries.filter (fresh now)).length < maxDeliveryIDs) (he : e ∈ entries)
    (hfresh : fresh now e = true) : e ∈ (isDuplicate order now id entries).2 := by
  cases hdup : (isDuplicate order now id entries).1 with
  | true => rwa [isDuplicate_snd_of_fst hdup]
  | false =>
    by_cases hid : id = ""
    · rwa [isDuplicate,if_pos hid]
    · have hother : e.1 ≠ id := by
        rintro rfl
        have htrue := (@isDuplicate_fst_iff order now e.1 entries).mpr ⟨hid,e.2,he,fresh_iff.mp hfresh⟩
        rw [hdup] at htrue
        cases htrue
      have hany : ¬entries.any (fun e => e.1 == id && fresh now e) = true := by
        intro hany
        rw [isDuplicate,if_neg hid,if_pos hany] at hdup
        cases hdup
      rw [isDuplicate,if_neg hid,if_neg hany]
      refine List.mem_cons_of_mem _ (mem_evict ?_ (List.mem_filter.mpr ⟨he,by simpa using hother⟩) hfresh)
      refine Nat.lt_of_le_of_lt ?_ hroom
      exact (List.filter_sublist.filter (fresh now)).length_le

lemma entered (hid : id ≠ "") (hdup : (isDuplicate order now id entries).1 = false) :
    (id,now) ∈ (isDuplicate order now id entries).2 := by
  unfold isDuplicate at hdup ⊢
  rw [if_neg hid] at hdup ⊢
  split_ifs at hdup ⊢
  exact List.mem_cons_self

end Diverge.Webhook
