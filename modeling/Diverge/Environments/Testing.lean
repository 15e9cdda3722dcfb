import Diverge.Environments.Reconcile

/-! The test runs of an environment, and when its reconcile asks to be run again. The lifecycle stage
asks for a run at the expiry of the TTL; the test runs that it starts or polls later put other delays in
its place. -/
namespace Diverge.Environments.Testing
open Tasks

/-- `TestState`; a test runner may answer any text. -/
inductive TestState
  | pending
  | running
  | passed
  | failed
  | timedOut
  | other (text : String)
  deriving DecidableEq

structure TestingSpec where
  enabled : Bool := false
  required : Bool := false
  timeout : Option Duration := none
  deriving DecidableEq

structure TestStatus where
  state : TestState
  summary : String := ""
  url : String := ""
  runID : String := ""
  startedAt : Option ℤ := none
  completedAt : Option ℤ := none
  deriving DecidableEq

structure TestResult where
  state : TestState
  summary : String := ""
  url : String := ""
  resolvedRunID : String := ""
  deriving DecidableEq

structure TestRunner where
  trigger : Except String String
  status : String → Except String (Option TestResult)

structure Tests where
  spec : Option TestingSpec := none
  status : Option TestStatus := none
  deriving DecidableEq

abbrev Report := String × String

/-- A failure that does not block a merge is reported as a success. -/
def commitState (required : Bool) : String := if required then "failed" else "success"

section
variable (runner : TestRunner) (now : ℤ)

/-- The status of a test run that was asked for, and its report. -/
def triggerTests (required : Bool) : TestStatus × Report :=
  match runner.trigger with
  | .error e =>
    ({ state := .failed, summary := "Failed to trigger: " ++ e, completedAt := some now },(commitState required,e))
  | .ok runID => ({ state := .pending, runID := runID, startedAt := some now },("pending","Tests running..."))

/-- The run has been asked for and has no id yet. -/
def dispatchPending : Bool :=
  match runner.trigger with
  | .error _ => false
  | .ok runID => runID == "dispatch-pending"

variable (tests : Tests) (ts : TestStatus)

def Tests.required : Bool := tests.spec.any TestingSpec.required

def Tests.timeout : ℤ := ((tests.spec.bind TestingSpec.timeout).map Int64.toInt).getD (30 * 60 * second)

def TestStatus.active : Bool := ts.state == .pending || ts.state == .running

def TestStatus.overdue : Bool := ts.startedAt.any fun t => decide (tests.timeout < (timeSub now t).toInt)

/-- The status with what the runner answered. -/
def TestStatus.take (result : TestResult) : TestStatus :=
  { ts with
    state := result.state
    summary := result.summary
    url := if result.url ≠ "" then result.url else ts.url
    runID := if result.resolvedRunID ≠ "" then result.resolvedRunID else ts.runID
    completedAt := if result.state = .passed ∨ result.state = .failed then some now else ts.completedAt }

def resultReports (result : TestResult) : List Report :=
  match result.state with
  | .passed => [("success",result.summary)]
  | .failed => [(commitState tests.required,result.summary)]
  | _ => []

/-- The question to the runner; where it has no answer the status stays. -/
def askRunner : TestStatus × List Report :=
  match runner.status ts.runID with
  | .error _ => (ts,[])
  | .ok none => (ts,[])
  | .ok (some result) => (ts.take now result,resultReports tests result)

/-- How long a run that is pending is left alone: it is looked at less often as it gets older. -/
def pendingInterval (startedAt : Option ℤ) : ℤ :=
  match startedAt with
  | none => 5 * second
  | some t =>
    if (timeSub now t).toInt < 30 * second then 5 * second
    else if (timeSub now t).toInt < 60 * second then 10 * second
    else 30 * second

/-- The delay that a polled run asks for, given the one of the TTL. -/
def pollDelay (requeueAfter : ℤ) : ℤ :=
  match ts.state with
  | .pending => pendingInterval now ts.startedAt
  | .running => if requeueAfter = 0 ∨ 15 * second < requeueAfter then 30 * second else requeueAfter
  | _ => requeueAfter

/-- The poll of a test run: its status, the reports and the delay. -/
def pollTests (requeueAfter : ℤ) : TestStatus × List Report × ℤ :=
  if ts.active = false then (ts,[],requeueAfter)
  else if ts.overdue now tests then
    ({ ts with state := .timedOut, summary := "Tests timed out", completedAt := some now },
      [(commitState tests.required,"Tests timed out")],requeueAfter)
  else
    let asked := askRunner runner now tests ts
    (asked.1,asked.2,pollDelay now asked.1 requeueAfter)

end

section

structure Observers where
  notifier : Bool := false
  reporter : Bool := false
  runner : Option TestRunner := none

/-- The answers, the phase that the run began with and the object with its tests. -/
structure Stage where
  observers : Observers
  ans : Answers
  oldPhase : EnvironmentPhase
  env : Environment
  tests : Tests

/-- The expired object is deleted, the run ends with a patch of the status while a dispatch is
pending, or it goes on to that patch with a delay. -/
inductive LifecycleEnd
  | deleted (env : Environment) (err : Option String)
  | dispatched (env : Environment) (status : TestStatus) (reports : List Report) (requeue : Except String ℤ)
  | settled (env : Environment) (status : Option TestStatus) (reports : List Report) (requeueAfter : ℤ)
  deriving DecidableEq

variable (stage : Stage)

def Stage.entered (phase : EnvironmentPhase) : Bool :=
  stage.oldPhase != stage.env.status.phase && stage.env.status.phase == phase

def Stage.phaseReports : List Report :=
  if stage.observers.notifier = false then []
  else if stage.entered .running then [("success","Preview environment ready")]
  else if stage.entered .failed then [("failed","Preview environment failed")]
  else []

def Stage.trigger : Option TestRunner :=
  if stage.entered .running && stage.tests.spec.any TestingSpec.enabled then stage.observers.runner else none

def Stage.ttlDelay : ℤ :=
  ((expiryTime stage.ans.now stage.env).map fun t => (timeSub t stage.ans.now).toInt).getD 0

/-- The object after the timestamps and the check for idleness. -/
def Stage.object : Environment := idleStage stage.ans (setTimestamps stage.ans.now stage.env)

def Stage.reported (reports : List Report) : List Report := if stage.observers.reporter then reports else []

/-- The end of the stage once tests have been triggered or not. -/
def Stage.poll (status : Option TestStatus) (reports : List Report) : LifecycleEnd :=
  match stage.observers.runner,status with
  | some runner,some ts =>
    let polled := pollTests runner stage.ans.now stage.tests ts stage.ttlDelay
    .settled stage.object (some polled.1) (stage.reported (reports ++ polled.2.1)) polled.2.2
  | _,_ => .settled stage.object status (stage.reported reports) stage.ttlDelay

def Stage.reconcileLifecycle : LifecycleEnd :=
  if expired stage.ans.now stage.env then
    .deleted (setTimestamps stage.ans.now stage.env)
      (match stage.ans.deleteExpired with
        | .error e => some ("failed to delete expired environment: " ++ e)
        | .ok _ => none)
  else
    match stage.trigger with
    | none => stage.poll stage.tests.status stage.phaseReports
    | some runner =>
      let started := triggerTests runner stage.ans.now stage.tests.required
      let reports := stage.phaseReports ++ [started.2]
      if dispatchPending runner then
        .dispatched stage.object started.1 (stage.reported reports)
          (match stage.ans.patchStatus with
            | .error e => .error ("failed to update status: " ++ e)
            | .ok _ => .ok (5 * second))
      else stage.poll (some started.1) reports

def LifecycleEnd.delay : LifecycleEnd → Option ℤ
  | .deleted _ _ => none
  | .dispatched _ _ _ requeue => requeue.toOption
  | .settled _ _ _ requeueAfter => some requeueAfter

/-- The test run that the stage polls. -/
def Stage.watched : Option TestStatus :=
  (match stage.trigger with
    | none => stage.tests.status
    | some runner => some (triggerTests runner stage.ans.now stage.tests.required).1).filter
    fun ts => ts.active && !ts.overdue stage.ans.now stage.tests

/-- The state of a test run after the runner was asked. -/
def answeredState (runner : TestRunner) (ts : TestStatus) : TestState :=
  match runner.status ts.runID with
  | .ok (some result) => result.state
  | _ => ts.state

/-- No delay for tests exceeds the time that remains: a pending dispatch or run leaves at least its
interval, a running one at most fifteen seconds or at least thirty. -/
def Stage.Timely (remaining : ℤ) : Prop :=
  if stage.trigger.any dispatchPending then stage.ans.patchStatus.toOption.isSome → 5 * second ≤ remaining
  else
    ∀ runner ∈ stage.observers.runner, ∀ ts ∈ stage.watched,
      (answeredState runner ts = .pending → pendingInterval stage.ans.now ts.startedAt ≤ remaining) ∧
        (answeredState runner ts = .running → remaining ≤ 15 * second ∨ 30 * second ≤ remaining)

end

variable {runner : TestRunner} {now : ℤ} {tests : Tests} {ts : TestStatus} {remaining delay : ℤ}

def InTime (remaining delay : ℤ) : Prop := 0 < delay ∧ delay ≤ remaining

/-- The delay for a TTL is the time that remains, as far as a duration reaches. -/
structure TTLDelay (remaining delay : ℤ) : Prop where
  inTime : InTime remaining delay
  short : delay ≤ 15 * second → remaining ≤ 15 * second

lemma ttlDelay_of_lt {t : ℤ} (h : now < t) : TTLDelay (t - now) (timeSub t now).toInt := by
  rw [timeSub_toInt]
  have hmin : Text.minInt64 = -9223372036854775808 := rfl
  have hmax : Text.maxInt64 = 9223372036854775807 := rfl
  have hsecond : second = 1000000000 := rfl
  refine ⟨⟨?_,?_⟩,fun hshort => ?_⟩
  · omega
  · omega
  · omega

lemma askRunner_state : (askRunner runner now tests ts).1.state = answeredState runner ts := by
  unfold askRunner answeredState
  rcases runner.status ts.runID with _ | _ | _
  all_goals rfl

lemma askRunner_startedAt : (askRunner runner now tests ts).1.startedAt = ts.startedAt := by
  unfold askRunner
  rcases runner.status ts.runID with _ | _ | _
  all_goals rfl

lemma pendingInterval_pos (startedAt : Option ℤ) : 0 < pendingInterval now startedAt := by
  have hsecond : second = 1000000000 := rfl
  unfold pendingInterval
  split
  · omega
  · split_ifs <;> omega

lemma pollDelay_inTime_iff (h : TTLDelay remaining delay) : InTime remaining (pollDelay now ts delay) ↔
      (ts.state = .pending → pendingInterval now ts.startedAt ≤ remaining) ∧
        (ts.state = .running → remaining ≤ 15 * second ∨ 30 * second ≤ remaining) := by
  have hsecond : second = 1000000000 := rfl
  obtain ⟨⟨hpos,hle⟩,hshort⟩ := h
  unfold pollDelay
  cases hstate : ts.state with
  | pending => simp [InTime,pendingInterval_pos]
  | running =>
    simp only [reduceCtorEq,false_implies,true_and,true_implies]
    split_ifs with hlong
    · unfold InTime
      omega
    · refine iff_of_true ⟨hpos,hle⟩ (.inl (hshort ?_))
      omega
  | passed | failed | timedOut | other text => simp [InTime,hpos,hle]

lemma pollTests_inTime_iff (h : TTLDelay remaining delay) :
    InTime remaining (pollTests runner now tests ts delay).2.2 ↔ (ts.active && !ts.overdue now tests) = true →
        (answeredState runner ts = .pending → pendingInterval now ts.startedAt ≤ remaining) ∧
          (answeredState runner ts = .running → remaining ≤ 15 * second ∨ 30 * second ≤ remaining) := by
  unfold pollTests
  split_ifs with hactive hoverdue
  · exact iff_of_true h.inTime (by simp [hactive])
  · exact iff_of_true h.inTime (by simp [hoverdue])
  · have hwatched : (ts.active && !ts.overdue now tests) = true := by
      simp only [Bool.not_eq_false] at hactive
      simp [hactive,hoverdue]
    rw [imp_iff_right hwatched,← @askRunner_state runner now tests ts,
      ← @askRunner_startedAt runner now tests ts]
    exact pollDelay_inTime_iff h

variable (stage : Stage)

lemma poll_inTime_iff (h : TTLDelay remaining stage.ttlDelay) (status : Option TestStatus) (reports : List Report) :
    (∀ d ∈ (stage.poll status reports).delay, InTime remaining d) ↔ ∀ runner ∈ stage.observers.runner,
        ∀ ts ∈ status.filter fun ts => ts.active && !ts.overdue stage.ans.now stage.tests,
        (answeredState runner ts = .pending → pendingInterval stage.ans.now ts.startedAt ≤ remaining) ∧
          (answeredState runner ts = .running → remaining ≤ 15 * second ∨ 30 * second ≤ remaining) := by
  unfold Stage.poll
  cases stage.observers.runner with
  | none => simpa [LifecycleEnd.delay] using h.inTime
  | some runner =>
    cases status with
    | none => simpa [LifecycleEnd.delay] using h.inTime
    | some ts =>
      have hpoll := @pollTests_inTime_iff runner stage.ans.now stage.tests ts _ _ h
      simp only [LifecycleEnd.delay,Option.mem_some_iff,forall_eq',hpoll,Option.mem_filter_iff]
      constructor
      · rintro hall ts' ⟨rfl,hwatched⟩
        exact hall hwatched
      · exact fun hall hwatched => hall ts ⟨rfl,hwatched⟩

/-- An environment whose TTL has not run out is looked at again before it does exactly when no delay for
its tests is longer than the time that remains. -/
theorem lifecycle_wakes_iff {t : ℤ} (httl : expiryTime stage.ans.now stage.env = some t) (hlive : stage.ans.now < t) :
    (∀ d ∈ stage.reconcileLifecycle.delay, 0 < d ∧ d ≤ t - stage.ans.now) ↔ stage.Timely (t - stage.ans.now) := by
  have hexpired : expired stage.ans.now stage.env = false := by simp [expired,httl,hlive.le]
  have hdelay : TTLDelay (t - stage.ans.now) stage.ttlDelay := by
    rw [Stage.ttlDelay,httl]
    exact ttlDelay_of_lt hlive
  have hsecond : second = 1000000000 := rfl
  unfold Stage.reconcileLifecycle Stage.Timely Stage.watched
  rw [hexpired]
  cases htrigger : stage.trigger with
  | none => exact poll_inTime_iff stage hdelay _ _
  | some runner =>
    simp only [Option.any_some,Bool.false_eq_true,if_false]
    split_ifs with hdispatch
    · cases stage.ans.patchStatus with
      | error e => simp [LifecycleEnd.delay,Except.toOption]
      | ok u =>
        simp only [LifecycleEnd.delay,Except.toOption,Option.mem_some_iff,forall_eq',Option.isSome_some,
          true_implies]
        omega
    · exact poll_inTime_iff stage hdelay _ _

/-- An environment that lives for an hour, with a test run of forty-five seconds, a number of seconds after
its creation. -/
def testedStage (state : TestState) (seconds : ℤ) : Stage where
  observers := { runner := some ⟨.ok "17",fun _ => .ok (some { state := state })⟩ }
  ans := { now := seconds * second }
  oldPhase := .running
  env :=
    { name := "pr-7"
      ns := "team-a"
      spec := { lifecycle := { ttl := some 3600000000000 } }
      status := { phase := .running, createdAt := some 0 } }
  tests :=
    { spec := some { enabled := true }
      status := some { state := .pending, runID := "17", startedAt := some ((seconds - 45) * second) } }

theorem pending_tests_wake_in_time :
    expiryTime (45 * second) (testedStage .pending 45).env = some 3600000000000 ∧
      ∀ d ∈ (testedStage .pending 45).reconcileLifecycle.delay, 0 < d ∧ d ≤ 3600000000000 - 45 * second := by
  refine ⟨by decide,?_⟩
  refine (lifecycle_wakes_iff (testedStage .pending 45) (t := 3600000000000) (by decide) (by decide)).mpr ?_
  intro runner hrunner ts hts
  cases hrunner
  cases hts
  exact ⟨fun _ => by decide,fun h => by cases h⟩

/-- Twenty seconds before the expiry the poll of a running test run asks for half a minute. -/
theorem running_tests_oversleep :
    expiryTime (3580 * second) (testedStage .running 3580).env = some 3600000000000 ∧
      expired (3580 * second) (testedStage .running 3580).env = false ∧
      (testedStage .running 3580).reconcileLifecycle.delay = some (30 * second) ∧
      3600000000000 - 3580 * second = 20 * second := by decide

/-- The end of a lifecycle stage without tests. -/
def LifecycleEnd.ofEnding (status : Option TestStatus) (reports : List Report) : Ending → LifecycleEnd
  | .patched p => .settled p.env status reports p.requeueAfter
  | .deleted env err => .deleted env err

/-- Without a test runner the stage is the one that the runs of an environment are made of. -/
theorem reconcileLifecycle_untested (hrunner : stage.observers.runner = none)
    (hrange : ∀ t ∈ expiryTime stage.ans.now stage.env, t - stage.ans.now ≤ Text.maxInt64) :
    stage.reconcileLifecycle = .ofEnding stage.tests.status (stage.reported stage.phaseReports)
        (Environments.reconcileLifecycle stage.ans stage.env) := by
  have htrigger : stage.trigger = none := by
    rw [Stage.trigger,hrunner]
    split_ifs <;> rfl
  unfold Stage.reconcileLifecycle Environments.reconcileLifecycle
  rw [htrigger]
  split_ifs with hexpired
  · rfl
  · have hdelay : stage.ttlDelay = ((expiryTime stage.ans.now stage.env).map (· - stage.ans.now)).getD 0 := by
      rw [Stage.ttlDelay]
      cases ht : expiryTime stage.ans.now stage.env with
      | none => rfl
      | some t =>
        have hlive : ¬t < stage.ans.now := by simpa [expired,ht] using hexpired
        have hmin : Text.minInt64 = -9223372036854775808 := rfl
        simp only [Option.map_some,Option.getD_some,timeSub_toInt,min_eq_right (hrange t ht)]
        omega
    simp only [Stage.poll,hrunner,LifecycleEnd.ofEnding,Stage.object,hdelay]

end Diverge.Environments.Testing
