import Diverge.Tasks.Guards
import Diverge.Tasks.Usage

/-! The terminal phases. The guards that stand before the switch over the phase write it without
looking at it, so a finished task stays finished exactly as long as none of them does. -/
namespace Diverge.Tasks
open Kube Program Hmac
  Transition

section
variable {κ σ : Type}

/-- A reconcile of a finished task takes it out of its phase. Its read and its status patch are
carried out, and the feature gate is off; or the task is suspended, with its sandbox halted and its
preview hibernated; or it had completed and has no provider. -/
def Reconciler.Disturbs (r : Reconciler κ σ) (env : Surroundings) (faults : List Fault)
    (t : AgentTask) : Prop :=
  passesNext faults = true ∧ takesEffect faults.tail = true ∧ t.deleting = false ∧
    agentTaskFinalizer ∈ t.finalizers ∧
    (env.gate = some false ∨
      (env.gate ≠ some false ∧ t.spec.suspended = true ∧ r.haltsResolved env t = true ∧
        env.hibernate.isOk = true) ∨
      (env.gate ≠ some false ∧ t.spec.suspended = false ∧ t.status.phase = .completed ∧
        (r.resolveSandboxProvider env t).isOk = false))

variable {p : Phase} {s : System}

lemma Leaves.inPhase {t : AgentTask} {n : ℕ} (h : Leaves t n s)
    (hp : t.status.phase = p) : InPhase p s := every_of_stored h.1 hp

lemma not_inPhase {t : AgentTask} {n : ℕ} (h : Leaves t n s)
    (hp : t.status.phase ≠ p) : ¬InPhase p s := fun hin => hp (hin t h.1)

lemma Phase.ne_paused_of_terminal (h : p.isTerminal = true) : p ≠ .paused := by
  rintro rfl
  contradiction

variable [Scheme κ σ] [DecidableEq σ] {r : Reconciler κ σ} {env : Surroundings} {t : AgentTask} {faults : List Fault} {n : ℕ}

lemma reconcile_kept (ht : t.status.phase.isTerminal = true) (hd : ¬r.Disturbs env faults t) :
    Triple (Holds t faults n) (r.reconcile env) (fun _ => InPhase t.status.phase)
      (fun _ => InPhase t.status.phase) := by
  have hpaused := Phase.ne_paused_of_terminal ht
  refine triple_reconcile (fun _ s h => h.inPhase rfl) fun hp => ?_
  refine triple_reconcileTask (fun _ s h t' ht' => congrArg _ (h.1 t' ht').2)
    (fun _ s h => h.inPhase rfl) ?_ ?_ ?_ ?_
  · intro hdel hfin hg s h
    have he : takesEffect faults.tail ≠ true := fun he => hd ⟨hp,he,hdel,hfin,.inl hg⟩
    refine h.inPhase ?_
    rw [gatedTask,if_neg (by simp [he])]
  · intro hdel hfin hg hs s h
    have hno : ¬r.pauses env t faults.tail := fun ⟨_,hh,hb,he⟩ =>
      hd ⟨hp,he,hdel,hfin,.inr (.inl ⟨hg,hs,hh,hb⟩)⟩
    refine h.inPhase ?_
    rw [Reconciler.suspendedTask,if_neg hno]
  · intro hdel hfin hg hs err hr s h
    refine h.inPhase ?_
    rw [unresolvedTask]
    split_ifs with he
    · by_contra hne
      have hc : t.status.phase = .completed := by
        cases hph : t.status.phase <;> rw [hph] at ht hne <;> simp_all [Phase.isTerminal,unresolvedStatus]
      exact hd ⟨hp,he,hdel,hfin,.inr (.inr ⟨hg,hs,hc,by rw [hr]; rfl⟩)⟩
    · rfl
  · intro _ _ _ _ provider _
    have hterm : r.reconcilePhase env t provider = r.reconcileTerminal t := by
      unfold Reconciler.reconcilePhase
      cases hph : t.status.phase <;> rw [hph] at ht <;> first | rfl | contradiction
    rw [hterm]
    exact (terminal_takesTo t).conseq (fun _ h => h) (fun _ _ h => h.inPhase rfl)
      fun _ _ h => h.inPhase rfl

lemma reconcile_disturbed (ht : t.status.phase.isTerminal = true) (hd : r.Disturbs env faults t) :
    Triple (Holds t faults n) (r.reconcile env) (fun _ s => ¬InPhase t.status.phase s)
      (fun _ s => ¬InPhase t.status.phase s) := by
  have hpaused := Phase.ne_paused_of_terminal ht
  obtain ⟨hp,he,hdel,hfin,hcase⟩ := hd
  refine triple_reconcile (fun hn => by rw [hp] at hn; contradiction) fun _ => ?_
  unfold Reconciler.reconcileTask
  rw [if_neg (by simp [hdel]),if_neg (by simp [hfin])]
  rcases hcase with hg | ⟨hg,hs,hh,hb⟩ | ⟨hg,hs,hc,hr⟩
  · rw [if_pos hg]
    have hto : TakesTo t faults.tail n (r.reconcileGateDisabled t) _ := gateDisabled_takesTo
    rw [gatedTask,if_pos ⟨hpaused,he⟩] at hto
    exact hto.conseq (fun _ h => h) (fun _ _ h => not_inPhase h (Ne.symm hpaused))
      fun _ _ h => not_inPhase h (Ne.symm hpaused)
  · rw [if_neg hg,if_pos hs]
    have hto : TakesTo t faults.tail n (r.reconcileSuspended env t) _ := suspended_takesTo
    rw [Reconciler.suspendedTask,if_pos ⟨hpaused,hh,hb,he⟩] at hto
    exact hto.conseq (fun _ h => h) (fun _ _ h => not_inPhase h (Ne.symm hpaused))
      fun _ _ h => not_inPhase h (Ne.symm hpaused)
  · rw [if_neg hg,if_neg (by simp [hs])]
    cases hres : r.resolveSandboxProvider env t with
    | ok provider =>
      rw [hres] at hr
      contradiction
    | error err =>
      have hto : TakesTo t faults.tail n (r.reconcileUnresolved t err) _ := unresolved_takesTo err
      rw [unresolvedTask,if_pos he] at hto
      have hne : Phase.failed ≠ t.status.phase := by rw [hc]; decide
      exact hto.conseq (fun _ h => h) (fun _ _ h => not_inPhase h hne) fun _ _ h => not_inPhase h hne

lemma not_meterable_of_terminal {t : AgentTask} (h : t.status.phase.isTerminal = true) :
    meterable t = false := by simp [meterable,h]

lemma step_inPhase_iff (d : Deployment κ σ) {p : Phase} (hp : p.isTerminal = true) (s : System)
    (a : Act) (hs : InPhase p s) : InPhase p (d.step s a) ↔
      ∀ env t, a.op = .reconcile env → s.stored = some t →
        ¬d.reconciler.Disturbs env a.taskFaults t := by
  obtain ⟨op,taskFaults,secretFaults⟩ := a
  cases op with
  | reconcile env =>
    cases hst : s.stored with
    | none =>
      refine ⟨fun _ env' t _ ht => by contradiction,fun _ t ht => ?_⟩
      rw [show (d.step s _).cell.objects () = none from step_missing d _ hst] at ht
      contradiction
    | some t =>
      have hph := hs t hst
      have hterm : t.status.phase.isTerminal = true := hph ▸ hp
      have hh := Act.enter_holds (a := ⟨.reconcile env,taskFaults,secretFaults⟩) hst
      rw [← hph]
      constructor
      · rintro hin env' t' ⟨⟩ ⟨⟩ hd
        exact (reconcile_disturbed hterm hd).finish hh hin
      · exact fun hd => (reconcile_kept hterm (hd env t rfl rfl)).finish hh
  | meter now req =>
    refine iff_of_true ?_ (by simp)
    obtain ⟨hserved,-⟩ := serve_cases d now req (Act.enter ⟨.meter now req,taskFaults,secretFaults⟩ s)
    have hsame := (hserved.of_refusing fun t ht => not_meterable_of_terminal (hs t ht ▸ hp)).2
    exact fun t ht => hs t (hsame.symm.trans ht)
  | pause | editSpec f => exact iff_of_true (modifyObject_every (fun _ ht => ht) hs) (by simp)
  | resume req =>
    exact iff_of_true (resumeTask_every _ _ (fun _ _ _ ht => ht) (fun _ ht => ht) hs) (by simp)
  | delete => exact iff_of_true (deleteTask_every (fun _ ht => ht) hs) (by simp)

/-- In every history of a finished task its phase stays what it is, as long as the task is stored,
exactly when no reconcile of the history disturbs it. -/
theorem terminal_phase_absorbing_iff (d : Deployment κ σ) (s : System) (t : AgentTask)
    (acts : List Act) (hs : s.stored = some t) (ht : t.status.phase.isTerminal = true) :
    (∀ pre, pre <+: acts → ∀ t', (run d.step s pre).stored = some t' →
        t'.status.phase = t.status.phase) ↔
      EveryStep d.step (fun s a => ∀ env t', a.op = .reconcile env → s.stored = some t' →
        ¬d.reconciler.Disturbs env a.taskFaults t') s acts := by
  exact reaches_iff_everyStep (P := InPhase t.status.phase)
    (fun s a hin => step_inPhase_iff d ht s a hin) (every_of_stored hs rfl)

end

def completedTask : AgentTask :=
  { name := "fix-login"
    ns := "team-a"
    finalizers := [agentTaskFinalizer]
    spec := { repositoryURL := "https://example.com/app.git" }
    status := { phase := .completed, message := "Agent task completed successfully" } }

theorem completed_task_stays : completedTask.status.phase.isTerminal = true ∧
    ∀ pre, pre <+: [⟨.reconcile calm,[],[]⟩,⟨.meter 0 ⟨"POST","",none⟩,[],[]⟩] → ∀ t',
      (run sampleDeployment.step (systemOf completedTask) pre).stored = some t' →
        t'.status.phase = .completed := by
  refine ⟨rfl,(terminal_phase_absorbing_iff sampleDeployment (systemOf completedTask) completedTask _
    rfl rfl).mpr ⟨?_,?_,trivial⟩⟩
  · rintro env t' ⟨⟩ ⟨⟩ ⟨-,-,-,-,hg | ⟨-,hs,-⟩ | ⟨-,-,-,hr⟩⟩
    · exact absurd hg (by decide)
    · exact absurd hs (by decide)
    · exact absurd hr (by decide +kernel)
  · rintro env t' ⟨⟩

/-- A completed task that is paused and resumed waits for a new sandbox. -/
theorem completed_task_runs_again : completedTask.status.phase.isTerminal = true ∧
    (run sampleDeployment.step (systemOf completedTask)
      [⟨.pause,[],[]⟩,⟨.reconcile calm,[],[]⟩]).stored.map (·.status.phase) = some .paused ∧
    (run sampleDeployment.step (systemOf completedTask)
      [⟨.pause,[],[]⟩,⟨.reconcile calm,[],[]⟩,⟨.resume {},[],[]⟩,⟨.reconcile calm,[],[]⟩]).stored.map
        (·.status.phase) = some .pending := by
  refine ⟨rfl,by decide +kernel,by decide +kernel⟩

end Diverge.Tasks
