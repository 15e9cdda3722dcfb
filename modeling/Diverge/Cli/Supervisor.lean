import Diverge.Transition.Runs

/-! The supervisor of a developer's process. `Run` starts a child and then waits in `select`
statements; it stands here between its statements, and an event is one of them being taken or
something around it. The restart request's texts are left out. -/
namespace Diverge.Cli
open Transition

/-- `rapidFailThreshold`, in nanoseconds. -/
def rapidFailThreshold : ℕ := 3 * 1000000000

def maxRapidFails : ℕ := 3

inductive Phase
  /-- Before `startChild`. -/
  | starting
  /-- In the `select` with a child. -/
  | running (child : ℕ)
  /-- Before `<-waitCh` after `stopChild`; it then returns or restarts. -/
  | stopping (child : ℕ) (shutdown : Bool)
  /-- In the `select` after the child has exited on its own. -/
  | exited
  /-- In the `select` after the circuit breaker has tripped in a restart. -/
  | tripped
  | returned (failed : Bool)
  deriving DecidableEq

/-- The `select` statements that hear of signals. -/
def Phase.selects : Phase → Bool
  | .running _ | .exited | .tripped => true
  | _ => false

/-- The child that the loop will receive the exit of. -/
def Phase.child : Phase → Option ℕ
  | .running child | .stopping child _ => some child
  | _ => none

/-- The loop, its channels, and the children that were started and not yet reaped. -/
structure Supervisor where
  phase : Phase := .starting
  unreaped : List ℕ := []
  started : ℕ := 0
  restarts : ℕ := 0
  rapidFails : ℕ := 0
  halted : Bool := false
  restartCh : Bool := false
  sigCh : Bool := false
  cancelled : Bool := false
  deriving DecidableEq

inductive Event
  /-- `startChild`, and whether the process could be started. -/
  | start (ok : Bool)
  /-- The `Wait` of a child returns. -/
  | waitReturned (child : ℕ)
  /-- `waitCh` is received from, some time after the child was started. -/
  | takeExit (elapsed : ℕ)
  | takeSignal
  | takeCancel
  | takeRestart
  /-- A signal of the parent, the cancellation of the context, `RequestRestart`. -/
  | signal
  | cancel
  | requestRestart
  deriving DecidableEq

namespace Supervisor

def recordChildExit (elapsed : ℕ) (s : Supervisor) : Supervisor :=
  if elapsed < rapidFailThreshold then
    { s with rapidFails := s.rapidFails + 1, halted := s.halted || decide (maxRapidFails ≤ s.rapidFails + 1) }
  else { s with rapidFails := 0 }

/-- A context that is done starts no process. -/
def startChild (ok : Bool) (s : Supervisor) : Supervisor :=
  if ok && !s.cancelled then
    { s with phase := .running s.started, unreaped := s.started :: s.unreaped, started := s.started + 1 }
  else { s with phase := .returned true }

/-- `waitCh` holds a value once the child's `Wait` has returned. -/
def takeExit (elapsed : ℕ) (s : Supervisor) : Supervisor :=
  match s.phase with
  | .running child =>
    if child ∈ s.unreaped then s
    else { s.recordChildExit elapsed with phase := if s.cancelled then .returned false else .exited }
  | .stopping child shutdown =>
    if child ∈ s.unreaped then s
    else if shutdown then { s with phase := .returned false }
    else if (s.recordChildExit elapsed).halted then { s.recordChildExit elapsed with phase := .tripped }
    else { s.recordChildExit elapsed with phase := .starting, restarts := s.restarts + 1 }
  | _ => s

/-- The end of the parent, whether by a signal or by its context. -/
def shutDown (s : Supervisor) : Supervisor :=
  match s.phase with
  | .running child => { s with phase := .stopping child true }
  | .exited => { s with phase := .returned false }
  | .tripped => { s with phase := .returned false }
  | _ => s

/-- `select` statements that receive from `restartCh`. -/
def takeRestart (s : Supervisor) : Supervisor :=
  match s.phase with
  | .running child =>
    if s.halted then { s with phase := .starting, restartCh := false }
    else { s with phase := .stopping child false, restartCh := false }
  | .exited => { s with phase := .starting, restartCh := false }
  | .tripped => { s with phase := .starting, restartCh := false }
  | _ => s

/-- What an event does; one that cannot happen changes nothing. -/
def step (s : Supervisor) : Event → Supervisor
  | .start ok => if s.phase = .starting then s.startChild ok else s
  | .waitReturned child => { s with unreaped := s.unreaped.filter (· ≠ child) }
  | .takeExit elapsed => s.takeExit elapsed
  | .takeSignal => if s.sigCh && s.phase.selects then { s with sigCh := false }.shutDown else s
  | .takeCancel => if s.cancelled then s.shutDown else s
  | .takeRestart => if s.restartCh then s.takeRestart else s
  | .signal => { s with sigCh := true }
  | .cancel => { s with cancelled := true }
  | .requestRestart => { s with restartCh := true }

/-- At most one child is unreaped, none before a start, and none when `Run` has returned without an
error. -/
structure OneChild (s : Supervisor) : Prop where
  atMostOne : s.unreaped.length ≤ 1
  beforeStart : s.phase = .starting → s.unreaped = []
  afterReturn : s.phase = .returned false → s.unreaped = []

/-- The step does not answer a restart request, while the circuit breaker is open, with a child
that is not yet reaped. -/
def Restartable (s : Supervisor) (e : Event) : Prop :=
  e = .takeRestart → s.restartCh = true → s.halted = true → ∀ child, s.phase = .running child →
    child ∉ s.unreaped

/-- No child is unreaped but the one that the loop is with. -/
def Tidy (s : Supervisor) : Prop :=
  s.unreaped = [] ∨ ∃ child, s.phase.child = some child ∧ s.unreaped = [child]

variable {s : Supervisor} {e : Event}

lemma Tidy.unreaped_nil (h : Tidy s) (hchild : ∀ child, s.phase.child = some child → child ∉ s.unreaped) :
    s.unreaped = [] := by
  rcases h with h | ⟨child,hphase,h⟩
  · exact h
  · exact absurd (by rw [h]; exact List.mem_singleton.mpr rfl) (hchild child hphase)

lemma Tidy.oneChild (h : Tidy s) : OneChild s := by
  have hnone : s.phase.child = none → s.unreaped = [] := by
    intro hphase
    refine h.unreaped_nil fun child hchild => ?_
    rw [hphase] at hchild
    cases hchild
  refine ⟨?_,fun hphase => hnone (by rw [hphase]; rfl),fun hphase => hnone (by rw [hphase]; rfl)⟩
  rcases h with h | ⟨child,-,h⟩
  · simp [h]
  · simp [h]

@[simp] lemma recordChildExit_unreaped (elapsed : ℕ) (s : Supervisor) :
    (s.recordChildExit elapsed).unreaped = s.unreaped := by
  unfold recordChildExit
  split_ifs
  all_goals rfl

lemma tidy_startChild (h : Tidy s) (hphase : s.phase = .starting) (ok : Bool) : Tidy (s.startChild ok) := by
  have hnone := h.oneChild.beforeStart hphase
  unfold startChild
  split_ifs
  · refine .inr ⟨s.started,rfl,?_⟩
    change s.started :: s.unreaped = _
    rw [hnone]
  · exact .inl hnone

lemma tidy_waitReturned (h : Tidy s) (child : ℕ) :
    Tidy { s with unreaped := s.unreaped.filter (· ≠ child) } := by
  rcases h with h | ⟨current,hphase,h⟩
  · exact .inl (by rw [h]; rfl)
  · by_cases hc : current = child
    · exact .inl (by rw [h]; simp [hc])
    · exact .inr ⟨current,hphase,by rw [h]; simp [hc]⟩

lemma tidy_takeExit (h : Tidy s) (elapsed : ℕ) : Tidy (s.takeExit elapsed) := by
  have hreaped : ∀ child, s.phase.child = some child → child ∉ s.unreaped →
      (s.recordChildExit elapsed).unreaped = [] ∧ s.unreaped = [] := by
    intro child hchild hnot
    have hnone := h.unreaped_nil fun c hc => Option.some.inj (hchild.symm.trans hc) ▸ hnot
    exact ⟨by rw [recordChildExit_unreaped,hnone],hnone⟩
  unfold takeExit
  cases hphase : s.phase with
  | running child =>
    dsimp only
    by_cases hmem : child ∈ s.unreaped
    · rw [if_pos hmem]
      exact h
    · rw [if_neg hmem]
      exact .inl (hreaped child (by rw [hphase]; rfl) hmem).1
  | stopping child shutdown =>
    dsimp only
    by_cases hmem : child ∈ s.unreaped
    · rw [if_pos hmem]
      exact h
    · rw [if_neg hmem]
      obtain ⟨hrecorded,hnone⟩ := hreaped child (by rw [hphase]; rfl) hmem
      split_ifs
      · exact .inl hnone
      · exact .inl hrecorded
      · exact .inl hrecorded
  | starting | exited | tripped | returned => exact h

lemma tidy_shutDown (h : Tidy s) : Tidy s.shutDown := by
  unfold shutDown
  cases hphase : s.phase with
  | running child =>
    rcases h with h | ⟨current,hcurrent,h⟩
    · exact .inl h
    · rw [hphase] at hcurrent
      exact .inr ⟨current,hcurrent,h⟩
  | exited | tripped =>
    exact .inl (h.unreaped_nil (by rw [hphase]; rintro _ ⟨⟩))
  | starting | stopping | returned => exact h

lemma tidy_takeRestart (h : Tidy s)
    (hfree : s.halted = true → ∀ child, s.phase = .running child → child ∉ s.unreaped) :
    Tidy s.takeRestart := by
  unfold takeRestart
  cases hphase : s.phase with
  | running child =>
    split_ifs with hhalted
    · have hnot := hfree hhalted child hphase
      exact .inl (h.unreaped_nil (by rw [hphase]; rintro _ ⟨⟩; exact hnot))
    · rcases h with h | ⟨current,hcurrent,h⟩
      · exact .inl h
      · rw [hphase] at hcurrent
        exact .inr ⟨current,hcurrent,h⟩
  | exited | tripped =>
    exact .inl (h.unreaped_nil (by rw [hphase]; rintro _ ⟨⟩))
  | starting | stopping | returned => exact h

lemma tidy_step (hC : Restartable s e) (h : Tidy s) : Tidy (s.step e) := by
  cases e with
  | start ok =>
    rw [step]
    split_ifs with hphase
    · exact tidy_startChild h hphase ok
    · exact h
  | waitReturned child => exact tidy_waitReturned h child
  | takeExit elapsed => exact tidy_takeExit h elapsed
  | takeSignal | takeCancel =>
    rw [step]
    split_ifs
    · exact tidy_shutDown h
    · exact h
  | takeRestart =>
    rw [step]
    split_ifs with hpending
    · exact tidy_takeRestart h (hC rfl hpending)
    · exact h
  | signal | cancel | requestRestart => exact h

lemma not_oneChild_step (h : ¬Restartable s e) : ¬OneChild (s.step e) := by
  unfold Restartable at h
  push Not at h
  obtain ⟨rfl,hpending,hhalted,child,hphase,hmem⟩ := h
  intro hone
  have hstep : s.step .takeRestart = { s with phase := .starting, restartCh := false } := by
    rw [step,if_pos hpending,takeRestart,hphase]
    exact if_pos hhalted
  rw [hstep] at hone
  have hnone : s.unreaped = [] := hone.beforeStart rfl
  rw [hnone] at hmem
  exact absurd hmem (by simp)

/-- `Run` has at most one unreaped child in every state that a sequence of events reaches exactly
when no restart request is taken while a child runs and the circuit breaker is open. -/
theorem run_one_child_iff (events : List Event) :
    (∀ pre, pre <+: events → OneChild (run step {} pre)) ↔ EveryStep step Restartable {} events :=
  reaches_iff_of_invariant (C := Restartable) (I := Tidy) (P := OneChild) (fun _ _ hC h => tidy_step hC h)
    (fun _ h => h.oneChild) (fun _ _ _ h => not_oneChild_step h) (.inl rfl)

lemma breaker_step (s : Supervisor) (e : Event) :
    ((s.halted = false → s.rapidFails < maxRapidFails) →
      (s.step e).halted = false → (s.step e).rapidFails < maxRapidFails) ∧
    (s.halted = true → (s.step e).halted = true ∧ (s.step e).restarts = s.restarts) := by
  cases e with
  | start ok => grind [step,startChild]
  | takeExit elapsed => grind [step,takeExit,recordChildExit]
  | takeSignal | takeCancel => grind [step,shutDown]
  | takeRestart => grind [step,takeRestart]
  | waitReturned child | signal | cancel | requestRestart => exact ⟨id,fun h => ⟨h,rfl⟩⟩

/-- The breaker is open after `maxRapidFails` rapid exits in a row at the latest. It stays open, and no
restart is counted any more. -/
theorem breaker_stays_open (pre post : List Event) :
    ((run step {} pre).halted = false → (run step {} pre).rapidFails < maxRapidFails) ∧
      ((run step {} pre).halted = true → (run step {} (pre ++ post)).halted = true ∧
        (run step {} (pre ++ post)).restarts = (run step {} pre).restarts) := by
  constructor
  · exact run_invariant (P := fun s : Supervisor => s.halted = false → s.rapidFails < maxRapidFails)
      (fun s e => (breaker_step s e).1) (by decide) pre
  · intro h
    rw [run_append]
    refine run_invariant (P := fun s : Supervisor => s.halted = true ∧ s.restarts = (run step {} pre).restarts)
      (fun s e hs => ?_) ⟨h,rfl⟩ post
    exact ((breaker_step s e).2 hs.1).imp_right (·.trans hs.2)

def crash (child : ℕ) : List Event :=
  [.start true,.waitReturned child,.takeExit 0,.requestRestart,.takeRestart]

/-- After three crashes the fourth child is not stopped for the next restart. -/
theorem second_child_started : (run step {} (crash 0 ++ crash 1 ++ crash 2 ++
      [.start true,.requestRestart,.takeRestart,.start true])).unreaped = [4,3] := by
  decide

end Supervisor

end Diverge.Cli
