import Diverge.Transition.Runs
import Mathlib.Data.Finset.Basic

/-! The broadcaster of watch events. A publisher offers its event under the read lock, subscriber by
subscriber, and then drops those whose buffer was full, each under the write lock. Every other call
is one step under the write lock, and a consumer reads at any time. -/
namespace Diverge.Server.Broadcasting
open Transition

/-- The subscribers `ι` with their channels, and the publishers `κ` with their variables. Of the
channels stand here which were made, ended, missed an event, and were sent one after that. `faults`
says that one was sent to or closed after its end. -/
structure Broadcaster (ι κ ε : Type) where
  subscribers : Finset ι := ∅
  closed : Bool := false
  made : Finset ι := ∅
  buffer : ι → List ε := fun _ => []
  ended : Finset ι := ∅
  missed : Finset ι := ∅
  holed : Finset ι := ∅
  readers : Finset κ := ∅
  event : κ → Option ε := fun _ => none
  rest : κ → List ι := fun _ => []
  toDrop : κ → List ι := fun _ => []
  faults : Bool := false

/-- `publish` has the order in which the map of subscribers is visited. -/
inductive Act (ι κ ε : Type)
  | subscribe (id : ι)
  | unsubscribe (id : ι)
  | publish (k : κ) (event : ε) (ids : List ι)
  | send (k : κ)
  | unlock (k : κ)
  | drop (k : κ)
  | close
  | read (id : ι)

variable {ι κ ε : Type} [DecidableEq ι]

/-- What `Unsubscribe` does to one subscriber and `Close` to all of them. -/
def Broadcaster.shut (b : Broadcaster ι κ ε) (ids : Finset ι) : Broadcaster ι κ ε :=
  let gone := b.subscribers ∩ ids
  { b with
    subscribers := b.subscribers \ ids
    ended := b.ended ∪ gone
    faults := b.faults || !decide (Disjoint b.ended gone) }

variable [DecidableEq κ]

/-- The `select` of `Publish`. -/
def Broadcaster.offer (size : ℕ) (b : Broadcaster ι κ ε) (k : κ) (id : ι) : Broadcaster ι κ ε :=
  if id ∈ b.ended then { b with faults := true }
  else if (b.buffer id).length < size then
    { b with
      buffer := Function.update b.buffer id (b.buffer id ++ (b.event k).toList)
      holed := if id ∈ b.missed then insert id b.holed else b.holed }
  else
    { b with
      missed := insert id b.missed
      toDrop := Function.update b.toDrop k (b.toDrop k ++ [id]) }

/-- A call that has to wait for a lock does nothing, and the ids of subscribers are new. -/
def Broadcaster.step (size : ℕ) (b : Broadcaster ι κ ε) : Act ι κ ε → Broadcaster ι κ ε
  | .subscribe id =>
    if b.readers ≠ ∅ ∨ b.closed = true ∨ id ∈ b.made then b
    else { b with subscribers := insert id b.subscribers, made := insert id b.made }
  | .unsubscribe id => if b.readers ≠ ∅ then b else b.shut {id}
  | .publish k event ids =>
    if b.closed = true ∨ k ∈ b.readers ∨ b.toDrop k ≠ [] ∨ ¬ids.Nodup ∨ ids.toFinset ≠ b.subscribers
    then b
    else { b with
      readers := insert k b.readers
      event := Function.update b.event k (some event)
      rest := Function.update b.rest k ids }
  | .send k =>
    match b.rest k with
    | [] => b
    | id :: ids => { b with rest := Function.update b.rest k ids }.offer size k id
  | .unlock k => if b.rest k = [] then { b with readers := b.readers.erase k } else b
  | .drop k =>
    match b.toDrop k with
    | [] => b
    | id :: ids =>
      if b.readers ≠ ∅ then b
      else { b.shut {id} with toDrop := Function.update b.toDrop k ids }
  | .close =>
    if b.readers ≠ ∅ ∨ b.closed = true then b else { b.shut b.subscribers with closed := true }
  | .read id => { b with buffer := Function.update b.buffer id (b.buffer id).tail }

/-- Where an event is enqueued, no publisher still has to drop the subscriber. -/
def SentInTime (size : ℕ) (b : Broadcaster ι κ ε) : Act ι κ ε → Prop
  | .send k => ∀ id ids, b.rest k = id :: ids → (b.buffer id).length < size → ∀ j, id ∉ b.toDrop j
  | _ => True

/-- The subscribers have the open channels, a publisher that visits subscribers holds the read lock,
and some publisher has to drop those that missed an event. -/
structure Sound (timely : Prop) (b : Broadcaster ι κ ε) : Prop where
  faults : b.faults = false
  subscribers : b.subscribers = b.made \ b.ended
  closed : b.closed = true → b.subscribers = ∅
  known : b.ended ⊆ b.made ∧ b.missed ⊆ b.made
  rest : ∀ k, ∀ id ∈ b.rest k, k ∈ b.readers ∧ id ∈ b.subscribers
  toDrop : ∀ k, ∀ id ∈ b.toDrop k, id ∈ b.missed
  missed : ∀ id ∈ b.subscribers, id ∈ b.missed → ∃ k, id ∈ b.toDrop k
  gapless : timely → b.holed = ∅

variable {timely : Prop} {size : ℕ} {b : Broadcaster ι κ ε}

omit [DecidableEq ι] in
lemma exists_mem_update {f : κ → List ι} {k : κ} {l : List ι} {x : ι} (h : ∃ j, x ∈ f j) (hk : x ∈ f k → x ∈ l) :
    ∃ j, x ∈ Function.update f k l j := by
  obtain ⟨j,hj⟩ := h
  rcases eq_or_ne j k with rfl | hjk
  · exact ⟨j,by simpa using hk hj⟩
  · exact ⟨j,by simpa [hjk] using hj⟩

omit [DecidableEq κ] in
lemma Sound.start : Sound timely ({} : Broadcaster ι κ ε) :=
  ⟨rfl,rfl,fun _ => rfl,by simp,by simp,by simp,by simp,fun _ => rfl⟩

omit [DecidableEq κ] in
lemma Sound.shut (h : Sound timely b) (hfree : b.readers = ∅) (ids : Finset ι) :
    Sound timely (b.shut ids) := by
  have hopen : Disjoint b.subscribers b.ended := h.subscribers ▸ Finset.sdiff_disjoint
  have honce : Disjoint b.ended (b.subscribers ∩ ids) := hopen.symm.mono_right Finset.inter_subset_left
  have hsub : b.subscribers \ ids ⊆ b.subscribers := Finset.sdiff_subset
  refine ⟨?_,?_,fun hc => ?_,⟨?_,h.known.2⟩,fun k id hid => ?_,h.toDrop,
    fun id hid => h.missed id (hsub hid),h.gapless⟩
  · change (b.faults || !decide _) = false
    rw [h.faults,decide_eq_true honce]
    rfl
  · change b.subscribers \ ids = b.made \ (b.ended ∪ b.subscribers ∩ ids)
    rw [h.subscribers]
    grind
  · exact Finset.subset_empty.mp (h.closed hc ▸ hsub)
  · refine Finset.union_subset h.known.1 (Finset.inter_subset_left.trans ?_)
    exact h.subscribers ▸ Finset.sdiff_subset
  · have hlock := (h.rest k id hid).1
    rw [hfree] at hlock
    exact absurd hlock (Finset.notMem_empty k)

lemma Sound.offer (h : Sound timely b) {k : κ} {id : ι} (hid : id ∈ b.subscribers)
    (htimely : timely → (b.buffer id).length < size → ∀ j, id ∉ b.toDrop j) :
    Sound timely (b.offer size k id) := by
  obtain ⟨hmade,hopen⟩ := Finset.mem_sdiff.mp (h.subscribers ▸ hid)
  rw [Broadcaster.offer,if_neg hopen]
  split_ifs with hroom hmissed
  · obtain ⟨j,hj⟩ := h.missed id hid hmissed
    exact { h with gapless := fun ht => absurd hj (htimely ht hroom j) }
  · exact { h with }
  · refine { h with known := ⟨h.known.1,Finset.insert_subset hmade h.known.2⟩, toDrop := ?_, missed := ?_ }
    · refine (Function.forall_update_iff b.toDrop fun _ l => ∀ x ∈ l, x ∈ insert id b.missed).mpr ⟨?_,?_⟩
      · intro x hx
        rcases List.mem_append.mp hx with hx | hx
        · exact Finset.mem_insert_of_mem (h.toDrop k x hx)
        · exact Finset.mem_insert.mpr (.inl (List.mem_singleton.mp hx))
      · exact fun j _ x hx => Finset.mem_insert_of_mem (h.toDrop j x hx)
    · intro x hx hm
      rcases Finset.mem_insert.mp hm with rfl | hm
      · exact ⟨k,by simp⟩
      · exact exists_mem_update (h.missed x hx hm) fun hk => List.mem_append_left _ hk

lemma Sound.step (h : Sound timely b) {a : Act ι κ ε} (htimely : timely → SentInTime size b a) :
    Sound timely (b.step size a) := by
  cases a with
  | subscribe id =>
    change Sound timely (if _ then b else _)
    split_ifs with hc
    · exact h
    obtain ⟨-,hopen,hnew⟩ := (not_or.mp hc).imp_right not_or.mp
    have hended : id ∉ b.ended := fun he => hnew (h.known.1 he)
    refine { h with
      subscribers := ?_, closed := fun hclosed => absurd hclosed hopen,
      known := h.known.imp (·.trans (Finset.subset_insert _ _)) (·.trans (Finset.subset_insert _ _)),
      rest := fun k x hx => (h.rest k x hx).imp_right Finset.mem_insert_of_mem, missed := ?_ }
    · change insert id b.subscribers = insert id b.made \ b.ended
      rw [Finset.insert_sdiff_of_notMem _ hended,h.subscribers]
    · intro x hx hm
      rcases Finset.mem_insert.mp hx with rfl | hx
      · exact absurd (h.known.2 hm) hnew
      · exact h.missed x hx hm
  | unsubscribe id =>
    change Sound timely (if _ then b else _)
    split_ifs with hfree
    · exact h
    · exact h.shut (not_not.mp hfree) _
  | publish k event ids =>
    change Sound timely (if _ then b else _)
    split_ifs with hc
    · exact h
    have hids : ids.toFinset = b.subscribers := by
      by_contra hne
      exact hc (by simp [hne])
    refine { h with rest := ?_ }
    refine (Function.forall_update_iff b.rest fun j l => ∀ x ∈ l, j ∈ insert k b.readers ∧ x ∈ b.subscribers).mpr
      ⟨fun x hx => ⟨Finset.mem_insert_self k _,hids ▸ List.mem_toFinset.mpr hx⟩,fun j _ x hx => ?_⟩
    exact (h.rest j x hx).imp_left Finset.mem_insert_of_mem
  | send k =>
    rw [Broadcaster.step]
    split
    · exact h
    · rename_i id ids hrest
      have hids : ∀ j, ∀ x ∈ Function.update b.rest k ids j, j ∈ b.readers ∧ x ∈ b.subscribers :=
        (Function.forall_update_iff b.rest fun j l => ∀ x ∈ l, j ∈ b.readers ∧ x ∈ b.subscribers).mpr
          ⟨fun x hx => h.rest k x (hrest ▸ List.mem_cons_of_mem _ hx),fun j _ => h.rest j⟩
      have hid : id ∈ b.subscribers := (h.rest k id (hrest ▸ List.mem_cons_self)).2
      have hnext : Sound timely { b with rest := Function.update b.rest k ids } := { h with rest := hids }
      exact hnext.offer hid fun ht => htimely ht id ids hrest
  | unlock k =>
    change Sound timely (if _ then _ else b)
    split_ifs with hrest
    · refine { h with rest := fun j x hx => ⟨Finset.mem_erase.mpr ⟨?_,(h.rest j x hx).1⟩,(h.rest j x hx).2⟩ }
      rintro rfl
      exact absurd hx (by simp [hrest])
    · exact h
  | drop k =>
    rw [Broadcaster.step]
    split
    · exact h
    rename_i id ids hdrop
    split_ifs with hfree
    · exact h
    refine { h.shut (not_not.mp hfree) {id} with toDrop := ?_, missed := fun x hx hm => ?_ }
    · exact (Function.forall_update_iff b.toDrop fun _ l => ∀ x ∈ l, x ∈ b.missed).mpr
        ⟨fun x hx => h.toDrop k x (hdrop ▸ List.mem_cons_of_mem _ hx),fun j _ => h.toDrop j⟩
    · obtain ⟨hx,hne⟩ := Finset.mem_sdiff.mp hx
      refine exists_mem_update (h.missed x hx hm) fun hk => ?_
      simpa [Finset.mem_singleton.not.mp hne,hdrop] using hk
  | close =>
    change Sound timely (if _ then b else _)
    split_ifs with hc
    · exact h
    · exact { h.shut (not_not.mp (not_or.mp hc).1) b.subscribers with closed := fun _ => Finset.sdiff_self _ }
  | read id => exact { h with }

/-- Whatever the interleaving, no event is sent on a closed channel and none is closed twice, the
subscribers are those with an open channel, and after `Close` there is none. -/
theorem broadcaster_keeps_channels (size : ℕ) (as : List (Act ι κ ε)) :
    let b := run (Broadcaster.step size) {} as
    b.faults = false ∧ b.subscribers = b.made \ b.ended ∧ (b.closed = true → b.made ⊆ b.ended) := by
  have h : Sound False (run (Broadcaster.step size) ({} : Broadcaster ι κ ε) as) :=
    run_invariant (fun _ _ h => h.step False.elim) .start as
  exact ⟨h.faults,h.subscribers,fun hc => Finset.sdiff_eq_empty_iff_subset.mp (h.subscribers ▸ h.closed hc)⟩

lemma holed_of_late (h : Sound True b) {a : Act ι κ ε} (hlate : ¬SentInTime size b a) :
    (b.step size a).holed ≠ ∅ := by
  cases a with
  | send k =>
    change ¬∀ id ids, _ at hlate
    push Not at hlate
    obtain ⟨id,ids,hrest,hroom,j,hj⟩ := hlate
    have hopen : id ∉ b.ended := by
      have hid := (h.rest k id (hrest ▸ List.mem_cons_self)).2
      exact (Finset.mem_sdiff.mp (h.subscribers ▸ hid)).2
    rw [Broadcaster.step,hrest]
    simp [Broadcaster.offer,hopen,hroom,h.toDrop j id hj]
  | _ => exact absurd trivial hlate

/-- No subscriber is sent an event after one that it missed exactly when none is sent an event while
some publisher has still to drop it. -/
theorem subscribers_see_no_gap_iff (size : ℕ) (as : List (Act ι κ ε)) :
    (∀ pre, pre <+: as → (run (Broadcaster.step size) {} pre).holed = ∅) ↔
      EveryStep (Broadcaster.step size) (SentInTime size) {} as :=
  reaches_iff_of_invariant (I := Sound True) (P := fun b => b.holed = ∅) (fun _ _ hC h => h.step fun _ => hC)
    (fun _ h => h.gapless trivial) (fun _ _ h hlate => holed_of_late h hlate) .start

example : (run (Broadcaster.step 1) ({} : Broadcaster ℕ ℕ ℕ)
    [.subscribe 0,.publish 0 1 [0],.send 0,.unlock 0,.publish 0 2 [0],.send 0,.unlock 0,.read 0,
      .publish 1 3 [0],.send 1]).holed = {0} := by
  decide

end Diverge.Server.Broadcasting
