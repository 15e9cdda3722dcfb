import Diverge.Transition.Runs
import Diverge.Webhook.Dedup
import Mathlib.Algebra.Order.Ring.Int
import Mathlib.Data.List.Induction
import Mathlib.Data.List.Nodup
import Mathlib.Data.List.Perm.Subperm

/-! Sequences of calls of `IsDuplicate`: how many ids the cache holds, what it answers, and how long it
remembers an id. -/
namespace Diverge.Webhook
open Transition

/-- What `sort.Slice` may do with the entries: it sorts them by their times, and leaves entries of one
time in any order. -/
structure Sorting where
  order : List Entry → List Entry
  perm : ∀ l, (order l).Perm l
  sorted : ∀ l, (order l).Pairwise (·.2 ≤ ·.2)

/-- A call of `IsDuplicate`: its time and the id. -/
abbrev Asked := ℤ × String

section
variable (sorting : Sorting)

def askedOf (entries : List Entry) (call : Asked) : Bool :=
  (isDuplicate sorting.order call.1 call.2 entries).1

def afterCall (entries : List Entry) (call : Asked) : List Entry :=
  (isDuplicate sorting.order call.1 call.2 entries).2

def tableAfter (calls : List Asked) : List Entry := run (afterCall sorting) [] calls

/-- The id of the call `call` after `calls` is recorded. -/
def Records (calls : List Asked) (call : Asked) : Prop :=
  call.2 ≠ "" ∧ askedOf sorting (tableAfter sorting calls) call = false

end

section
variable {sorting : Sorting} {entries : List Entry} {call : Asked} {calls : List Asked} {e : Entry} {now : ℤ}

lemma afterCall_unasked (hid : call.2 = "") : afterCall sorting entries call = entries := by
  rw [afterCall,isDuplicate,if_pos hid]

lemma evict_length (h : entries.length ≤ maxDeliveryIDs) :
    (evict sorting.order now entries).length < maxDeliveryIDs := by
  have hfilter := (List.filter_sublist (p := fresh now) (l := entries)).length_le
  unfold evict
  split_ifs with hroom hfresh
  · exact hroom
  · exact hfresh
  · rw [List.length_drop,(sorting.perm _).length_eq]
    unfold maxDeliveryIDs at *
    omega

lemma afterCall_length (h : entries.length ≤ maxDeliveryIDs) :
    (afterCall sorting entries call).length ≤ maxDeliveryIDs := by
  unfold afterCall isDuplicate
  split_ifs
  · exact h
  · exact h
  · exact evict_length (Nat.le_trans List.filter_sublist.length_le h)

lemma mem_tableAfter (he : e ∈ tableAfter sorting calls) :
    ∃ earlier, earlier ++ [(e.2,e.1)] <+: calls ∧ Records sorting earlier (e.2,e.1) := by
  induction calls using List.reverseRecOn with
  | nil => cases he
  | append_singleton calls call ih =>
    have hold : e ∈ tableAfter sorting calls →
        ∃ earlier, earlier ++ [(e.2,e.1)] <+: calls ++ [call] ∧ Records sorting earlier (e.2,e.1) := by
      intro h
      obtain ⟨earlier,hbefore,hrecords⟩ := ih h
      exact ⟨earlier,hbefore.trans (List.prefix_append _ _),hrecords⟩
    rw [tableAfter,run_append] at he
    by_cases hid : call.2 = ""
    · change e ∈ afterCall sorting (tableAfter sorting calls) call at he
      rw [afterCall_unasked hid] at he
      exact hold he
    · rcases mem_of_isDuplicate sorting.perm he with h | ⟨hnew,rfl⟩
      · exact hold h
      · exact ⟨calls,List.prefix_refl _,hid,hnew⟩

lemma mem_evict_of_few_newer (hdistinct : (entries.map Prod.snd).Nodup) (he : e ∈ entries)
    (hfresh : fresh now e = true) (hfew : (entries.filter (e.2 < ·.2)).length < 9000) :
    e ∈ evict sorting.order now entries := by
  by_cases hroom : (entries.filter (fresh now)).length < maxDeliveryIDs
  · exact mem_evict hroom he hfresh
  have hfull : ¬ entries.length < maxDeliveryIDs :=
    fun h => hroom (Nat.lt_of_le_of_lt List.filter_sublist.length_le h)
  rw [evict,if_neg hfull,if_neg hroom]
  generalize hsorted : sorting.order (entries.filter (fresh now)) = l
  have hperm : l.Perm (entries.filter (fresh now)) := hsorted ▸ sorting.perm _
  have hsplit := hsorted ▸ sorting.sorted (entries.filter (fresh now))
  rw [← List.take_append_drop (maxDeliveryIDs / 10) l,List.pairwise_append] at hsplit
  have hmem : e ∈ l := hperm.mem_iff.mpr (List.mem_filter.mpr ⟨he,hfresh⟩)
  rw [← List.take_append_drop (maxDeliveryIDs / 10) l,List.mem_append] at hmem
  refine hmem.resolve_left fun hold => ?_
  have hl : (l.map Prod.snd).Nodup :=
    (hperm.map Prod.snd).nodup_iff.mpr (hdistinct.sublist (List.filter_sublist.map _))
  have hnewer : ∀ d ∈ l.drop (maxDeliveryIDs / 10), e.2 < d.2 := by
    intro d hd
    refine lt_of_le_of_ne (hsplit.2.2 e hold d hd) fun heq => ?_
    rw [← List.take_append_drop (maxDeliveryIDs / 10) l,List.map_append,List.nodup_append] at hl
    exact hl.2.2 _ (List.mem_map_of_mem hold) _ (List.mem_map_of_mem hd) heq
  have hdrop : (l.drop (maxDeliveryIDs / 10)).filter (e.2 < ·.2) = l.drop (maxDeliveryIDs / 10) :=
    List.filter_eq_self.mpr fun d hd => decide_eq_true (hnewer d hd)
  have hcount : (l.drop (maxDeliveryIDs / 10)).length ≤ (entries.filter (e.2 < ·.2)).length := by
    rw [← hdrop]
    refine Nat.le_trans ((List.drop_sublist _ l).filter _).length_le ?_
    rw [(hperm.filter _).length_eq]
    exact (List.filter_sublist.filter _).length_le
  rw [List.length_drop,hperm.length_eq] at hcount
  unfold maxDeliveryIDs at hroom hcount
  omega

/-- The times of the entries are distinct and not after the time `last`. -/
def Dated (last : ℤ) (entries : List Entry) : Prop :=
  (∀ e ∈ entries, e.2 ≤ last) ∧ (entries.map Prod.snd).Nodup

lemma evict_subperm : (evict sorting.order now entries).Subperm entries := by
  unfold evict
  split_ifs
  · exact .refl _
  · exact List.filter_sublist.subperm
  · exact (List.drop_sublist _ _).subperm.trans
      ((sorting.perm _).subperm.trans List.filter_sublist.subperm)

lemma evict_others_subperm {id : String} :
    (evict sorting.order now (entries.filter (·.1 ≠ id))).Subperm entries :=
  evict_subperm.trans List.filter_sublist.subperm

variable {last : ℤ} {n : ℕ}

lemma Dated.afterCall (h : Dated last entries) (hlater : last < call.1) :
    Dated call.1 (afterCall sorting entries call) := by
  have hsame : Dated call.1 entries := ⟨fun e he => (h.1 e he).trans hlater.le,h.2⟩
  unfold Webhook.afterCall isDuplicate
  split_ifs
  · exact hsame
  · exact hsame
  · obtain ⟨l,hperm,hsub⟩ := @evict_others_subperm sorting entries call.1 call.2
    have hdates := hperm.map Prod.snd
    refine ⟨fun e he => ?_,List.nodup_cons.mpr ⟨fun hin => ?_,?_⟩⟩
    · rcases List.mem_cons.mp he with rfl | he
      · exact le_rfl
      · exact hsame.1 e (hsub.subset (hperm.mem_iff.mpr he))
    · obtain ⟨e,he,hnow⟩ := List.mem_map.mp (hdates.mem_iff.mpr hin)
      exact absurd (h.1 e (hsub.subset he)) (not_le.mpr (lt_of_lt_of_eq hlater hnow.symm))
    · exact hdates.nodup_iff.mp (h.2.sublist (hsub.map _))

lemma dated_tableAfter (h : (calls.map Prod.fst).Pairwise (· < ·)) :
    ∀ last, (∀ call ∈ calls, call.1 ≤ last) → Dated last (tableAfter sorting calls) := by
  induction calls using List.reverseRecOn with
  | nil => exact fun _ _ => ⟨fun _ he => absurd he List.not_mem_nil,List.nodup_nil⟩
  | append_singleton calls call ih =>
    intro last hlast
    rw [List.map_append,List.pairwise_append] at h
    have hbefore : ∀ c ∈ calls, c.1 ≤ call.1 - 1 := fun c hc =>
      Int.le_sub_one_of_lt (h.2.2 _ (List.mem_map_of_mem hc) _ (List.mem_singleton_self _))
    have hstep : Dated call.1 (tableAfter sorting (calls ++ [call])) := by
      rw [tableAfter,run_append]
      exact (ih h.1 (call.1 - 1) hbefore).afterCall (Int.sub_one_lt_iff.mpr le_rfl)
    exact ⟨fun e he => (hstep.1 e he).trans (hlast call (by simp)),hstep.2⟩

/-- The entry is in the cache with at most `n` newer ones. -/
def Remembers (e : Entry) (n : ℕ) (entries : List Entry) : Prop :=
  e ∈ entries ∧ (entries.filter (e.2 < ·.2)).length ≤ n

lemma Remembers.afterCall (h : Remembers e n entries) (hdated : Dated last entries)
    (hid : e.1 ≠ "") (hfresh : call.1 - e.2 < deliveryIDTTL) (hfew : n < 9000) :
    Remembers e (if call.2 = e.1 then n else n + 1) (afterCall sorting entries call) := by
  by_cases hask : call.2 = e.1
  · rw [if_pos hask]
    have hdup : (isDuplicate sorting.order call.1 call.2 entries).1 = true :=
      isDuplicate_fst_iff.mpr ⟨hask ▸ hid,e.2,hask ▸ h.1,hfresh⟩
    rw [Webhook.afterCall,isDuplicate_snd_of_fst hdup]
    exact h
  · rw [if_neg hask]
    unfold Webhook.afterCall isDuplicate
    split_ifs
    · exact ⟨h.1,Nat.le_succ_of_le h.2⟩
    · exact ⟨h.1,Nat.le_succ_of_le h.2⟩
    · constructor
      · refine List.mem_cons_of_mem _ (mem_evict_of_few_newer ?_ ?_ (fresh_iff.mpr hfresh) ?_)
        · exact hdated.2.sublist (List.filter_sublist.map _)
        · exact List.mem_filter.mpr ⟨h.1,by simpa using Ne.symm hask⟩
        · have hless := (List.filter_sublist (p := (·.1 ≠ call.2)) (l := entries)).filter (e.2 < ·.2)
          exact Nat.lt_of_le_of_lt (Nat.le_trans hless.length_le h.2) hfew
      · have hless := (@evict_others_subperm sorting entries call.1 call.2).filter (e.2 < ·.2)
        have hlength := hless.length_le
        rw [List.filter_cons]
        split_ifs
        · exact Nat.succ_le_succ (Nat.le_trans hlength h.2)
        · exact Nat.le_succ_of_le (Nat.le_trans hlength h.2)

lemma Remembers.run (h : Remembers e n entries) (hdated : Dated last entries)
    (hid : e.1 ≠ "") (htimes : (calls.map Prod.fst).Pairwise (· < ·)) (hlater : ∀ call ∈ calls, last < call.1)
    (hfresh : ∀ call ∈ calls, call.1 - e.2 < deliveryIDTTL)
    (hfew : n + (calls.filter (·.2 ≠ e.1)).length < 9000) :
    e ∈ run (Webhook.afterCall sorting) entries calls := by
  induction calls generalizing entries last n with
  | nil => exact h.1
  | cons call calls ih =>
    rw [List.map_cons,List.pairwise_cons] at htimes
    rw [List.forall_mem_cons] at hlater hfresh
    have hn : n < 9000 := by omega
    refine ih (h.afterCall hdated hid hfresh.1 hn) (hdated.afterCall hlater.1) htimes.2
      (fun c hc => htimes.1 _ (List.mem_map_of_mem hc)) hfresh.2 ?_
    rw [List.filter_cons] at hfew
    by_cases hask : call.2 = e.1
    · simpa [hask] using hfew
    · simp [hask] at hfew ⊢
      omega

end

/-- Called at times that do not decrease, the cache holds at most `maxDeliveryIDs` ids and finds only
ids recorded less than `deliveryIDTTL` before. Called at increasing times, it finds an id recorded
that recently if fewer than 9000 calls for other ids came between. -/
theorem deliveries_deduplicated (sorting : Sorting) (calls : List Asked) :
    ((calls.map Prod.fst).Pairwise (· ≤ ·) → (tableAfter sorting calls).length ≤ maxDeliveryIDs ∧
      ∀ now id, (∀ call ∈ calls, call.1 ≤ now) →
        askedOf sorting (tableAfter sorting calls) (now,id) = true →
          ∃ earlier t, earlier ++ [(t,id)] <+: calls ∧ Records sorting earlier (t,id) ∧
            now - t < deliveryIDTTL) ∧
    ∀ t id between now, ((calls ++ (t,id) :: between ++ [(now,id)]).map Prod.fst).Pairwise (· < ·) →
      Records sorting calls (t,id) → now < t + deliveryIDTTL →
        (between.filter (·.2 ≠ id)).length < 9000 →
          askedOf sorting (tableAfter sorting (calls ++ (t,id) :: between)) (now,id) = true := by
  constructor
  · intro _
    refine ⟨run_invariant (P := fun entries : List Entry => entries.length ≤ maxDeliveryIDs)
      (fun _ _ h => afterCall_length h) (Nat.zero_le _) calls,fun now id _ hask => ?_⟩
    obtain ⟨-,t,ht,hfresh⟩ := isDuplicate_fst_iff.mp hask
    obtain ⟨earlier,hbefore,hrecords⟩ := mem_tableAfter ht
    exact ⟨earlier,t,hbefore,hrecords,hfresh⟩
  · intro t id between now htimes hrecords hnow hfew
    rw [List.append_cons calls] at htimes ⊢
    rw [List.map_append,List.pairwise_append,List.map_append,List.pairwise_append] at htimes
    obtain ⟨⟨hbefore,hbetween,hlater⟩,-,hend⟩ := htimes
    have hlast : ∀ c ∈ calls ++ [(t,id)], c.1 ≤ t := by
      have hsorted := hbefore
      rw [List.map_append,List.pairwise_append] at hsorted
      intro c hc
      rcases List.mem_append.mp hc with hc | hc
      · exact (hsorted.2.2 _ (List.mem_map_of_mem hc) _ (List.mem_singleton_self _)).le
      · rw [List.mem_singleton.mp hc]
    have hdated := @dated_tableAfter sorting _ hbefore t hlast
    have hrecorded : Remembers (id,t) 0 (tableAfter sorting (calls ++ [(t,id)])) := by
      refine ⟨?_,Nat.le_zero.mpr (List.length_eq_zero_iff.mpr (List.filter_eq_nil_iff.mpr fun d hd => ?_))⟩
      · rw [tableAfter,run_append]
        exact entered hrecords.1 hrecords.2
      · simpa using hdated.1 d hd
    rw [tableAfter,run_append]
    refine isDuplicate_fst_iff.mpr ⟨hrecords.1,t,?_,by omega⟩
    refine hrecorded.run hdated hrecords.1 hbetween (fun c hc => ?_) (fun c hc => ?_) (by simpa using hfew)
    · exact hlater t (by simp) _ (List.mem_map_of_mem hc)
    · have hc := hend _ (List.mem_append_right _ (List.mem_map_of_mem hc)) now (List.mem_singleton_self _)
      dsimp only
      omega

end Diverge.Webhook
