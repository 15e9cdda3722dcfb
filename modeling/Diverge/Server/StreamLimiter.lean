import Diverge.Transition.Runs
import Mathlib.Algebra.BigOperators.Ring.Finset

/-! The limiter of concurrent streams, per user and in all. Its methods hold one mutex, so a run is a
sequence of calls of `Acquire` and of the release functions that it returned. -/
namespace Diverge.Server
open Transition

/-- The caps that `NewStreamLimiter` accepts; it panics on others. -/
structure Caps where
  maxGlobal : ℤ
  maxPerUser : ℤ
  perUser_pos : 0 < maxPerUser
  perUser_le : maxPerUser ≤ maxGlobal

structure StreamLimiter where
  global : ℤ := 0
  perUser : String → Option ℤ := fun _ => none

inductive AcquireError
  | unauthenticated
  | userExhausted (maxPerUser : ℤ) (username : String)
  | serverExhausted
  deriving DecidableEq

/-- What indexing the map gives. -/
def StreamLimiter.count (l : StreamLimiter) (username : String) : ℤ := (l.perUser username).getD 0

/-- `Acquire` for the user in the context, if there is one. -/
def acquire (caps : Caps) (user : Option String) (l : StreamLimiter) :
    Except AcquireError (String × StreamLimiter) :=
  match user with
  | none => .error .unauthenticated
  | some username =>
    if username = "" then .error .unauthenticated
    else if caps.maxPerUser ≤ l.count username then .error (.userExhausted caps.maxPerUser username)
    else if caps.maxGlobal ≤ l.global then .error .serverExhausted
    else .ok (username,
      ⟨l.global + 1,Function.update l.perUser username (some (l.count username + 1))⟩)

/-- What a release function does the first time it is called. -/
def release (username : String) (l : StreamLimiter) : StreamLimiter :=
  ⟨l.global - 1,Function.update l.perUser username
    (if l.count username - 1 = 0 then none else some (l.count username - 1))⟩

/-- A limiter, with the user of every successful `Acquire` and whether its `once` has run. -/
structure Streams where
  limiter : StreamLimiter := {}
  acquired : List (String × Bool) := []

inductive Call
  | acquire (user : Option String)
  | release (stream : ℕ)

def Streams.step (caps : Caps) (s : Streams) : Call → Streams
  | .acquire user =>
    match Server.acquire caps user s.limiter with
    | .error _ => s
    | .ok (username,l) => ⟨l,s.acquired ++ [(username,false)]⟩
  | .release k =>
    match s.acquired[k]? with
    | some (username,false) => ⟨Server.release username s.limiter,s.acquired.set k (username,true)⟩
    | _ => s

/-- The users of the streams whose release has not been called. -/
def unreleased (acquired : List (String × Bool)) : List String :=
  acquired.filterMap fun p => if p.2 then none else some p.1

section
variable {caps : Caps} {acquired : List (String × Bool)} {s : Streams} {username : String}

lemma unreleased_set {k : ℕ} (h : acquired[k]? = some (username,false)) :
    (unreleased acquired).Perm (username :: unreleased (acquired.set k (username,true))) := by
  induction acquired generalizing k with
  | nil => cases h
  | cons p ps ih =>
    cases k with
    | zero =>
      obtain rfl : p = (username,false) := Option.some.inj h
      exact .refl _
    | succ k =>
      obtain ⟨user,done⟩ := p
      have hps := ih (k := k) h
      cases done with
      | true => exact hps
      | false => exact (hps.cons user).trans (.swap username user _)

/-- The counters count the unreleased streams and keep the caps. -/
structure Exact (caps : Caps) (s : Streams) : Prop where
  global : s.limiter.global = (unreleased s.acquired).length
  perUser : ∀ u, s.limiter.perUser u =
    if (unreleased s.acquired).count u = 0 then none else some ((unreleased s.acquired).count u : ℤ)
  user_le : ∀ u, ((unreleased s.acquired).count u : ℤ) ≤ caps.maxPerUser
  global_le : ((unreleased s.acquired).length : ℤ) ≤ caps.maxGlobal

lemma Exact.count (h : Exact caps s) (u : String) : s.limiter.count u = (unreleased s.acquired).count u := by
  rw [StreamLimiter.count,h.perUser]
  split_ifs with hzero
  · rw [hzero]
    rfl
  · rfl

lemma exact_init (caps : Caps) : Exact caps {} where
  global := rfl
  perUser _ := rfl
  user_le _ := caps.perUser_pos.le
  global_le := caps.perUser_pos.le.trans caps.perUser_le

lemma Exact.acquire (h : Exact caps s) (huser : s.limiter.count username < caps.maxPerUser)
    (hglobal : s.limiter.global < caps.maxGlobal) : Exact caps ⟨⟨s.limiter.global + 1,
      Function.update s.limiter.perUser username (some (s.limiter.count username + 1))⟩,
      s.acquired ++ [(username,false)]⟩ := by
  rw [h.count] at huser ⊢
  rw [h.global] at hglobal ⊢
  have hnew : unreleased (s.acquired ++ [(username,false)]) = unreleased s.acquired ++ [username] :=
    List.filterMap_append
  refine ⟨?_,fun u => ?_,fun u => ?_,?_⟩
  · simp [hnew]
  · by_cases hu : u = username
    · subst hu
      simp [hnew,List.count_append]
    · simp [hnew,List.count_append,hu,h.perUser,Ne.symm hu]
  · by_cases hu : u = username
    · subst hu
      simpa [hnew,List.count_append,Int.add_one_le_iff] using huser
    · simpa [hnew,List.count_append,Ne.symm hu] using h.user_le u
  · simpa [hnew,Int.add_one_le_iff] using hglobal

lemma Exact.release (h : Exact caps s) {k : ℕ} (hk : s.acquired[k]? = some (username,false)) :
    Exact caps ⟨Server.release username s.limiter,s.acquired.set k (username,true)⟩ := by
  have hperm := unreleased_set hk
  have hlength := hperm.length_eq
  have hcount := fun u => hperm.count_eq u
  refine ⟨?_,fun u => ?_,fun u => ?_,?_⟩
  · change s.limiter.global - 1 = _
    rw [h.global,hlength]
    simp
  · change Function.update s.limiter.perUser username _ u = _
    rw [h.count]
    by_cases hu : u = username
    · subst hu
      simp [hcount]
    · simp [hu,h.perUser,hcount,Ne.symm hu]
  · refine le_trans ?_ (h.user_le u)
    rw [hcount]
    exact_mod_cast List.count_le_count_cons
  · refine le_trans ?_ h.global_le
    rw [hlength]
    simp

lemma Exact.step (h : Exact caps s) (c : Call) : Exact caps (s.step caps c) := by
  cases c with
  | acquire user =>
    unfold Streams.step Server.acquire
    cases user with
    | none => exact h
    | some username =>
      dsimp only
      split_ifs with hname huser hglobal
      · exact h
      · exact h
      · exact h
      · exact h.acquire (not_le.mp huser) (not_le.mp hglobal)
  | release k =>
    unfold Streams.step
    dsimp only
    split
    · exact h.release (by assumption)
    · exact h

end

/-- In every run the counter is the sum of the map and the number of streams that are not released,
every count of a user and the counter keep their caps, and `Acquire` refuses a user only at a cap. -/
theorem stream_accounting_exact (caps : Caps) (calls : List Call) :
    let s := run (Streams.step caps) {} calls
    (∃ users : Finset String, (∀ u, s.limiter.perUser u ≠ none ↔ u ∈ users) ∧
        s.limiter.global = ∑ u ∈ users, s.limiter.count u) ∧
      s.limiter.global = (unreleased s.acquired).length ∧
      (∀ u n, s.limiter.perUser u = some n → 1 ≤ n ∧ n ≤ caps.maxPerUser) ∧
      s.limiter.global ≤ caps.maxGlobal ∧
      ∀ u e, u ≠ "" → acquire caps (some u) s.limiter = .error e →
        caps.maxPerUser ≤ s.limiter.count u ∨ caps.maxGlobal ≤ s.limiter.global := by
  intro s
  have h : Exact caps s := run_invariant (fun _ c h => h.step c) (exact_init caps) calls
  refine ⟨⟨(unreleased s.acquired).toFinset,fun u => ?_,?_⟩,h.global,fun u n hn => ?_,?_,?_⟩
  · rw [h.perUser,List.mem_toFinset,← List.count_pos_iff]
    split_ifs with hzero <;> simp [hzero,Nat.pos_iff_ne_zero]
  · rw [h.global,← List.sum_toFinset_count_eq_length,Nat.cast_sum]
    exact Finset.sum_congr rfl fun u _ => (h.count u).symm
  · rw [h.perUser] at hn
    split_ifs at hn with hzero
    cases hn
    exact ⟨by omega,h.user_le u⟩
  · rw [h.global]
    exact h.global_le
  · intro u e hu he
    by_contra hroom
    rw [not_or] at hroom
    rw [acquire,if_neg hu,if_neg hroom.1,if_neg hroom.2] at he
    cases he

end Diverge.Server
