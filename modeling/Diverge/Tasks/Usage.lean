import Diverge.Tasks.History

/-! The usage a task has been metered for. A reconcile leaves it as it is; only the remembered
request ids are dropped when the task is resumed. -/
namespace Diverge.Tasks
open Kube Program TokenStore Hmac

/-- The same usage; the remembered request ids may have been dropped. -/
structure SameUsage (u v : AgentTaskStatus) : Prop where
  cost : v.costUSD = u.costUSD
  tokens : v.tokensConsumed = u.tokensConsumed
  iteration : v.iteration = u.iteration
  ids : v.lastMeterRequestIDs = u.lastMeterRequestIDs ∨ v.lastMeterRequestIDs = []

lemma SameUsage.refl (u : AgentTaskStatus) : SameUsage u u := ⟨rfl,rfl,rfl,.inl rfl⟩

lemma SameUsage.trans {u v w : AgentTaskStatus} (h : SameUsage u v) (h' : SameUsage v w) : SameUsage u w := by
  refine ⟨h'.cost.trans h.cost,h'.tokens.trans h.tokens,h'.iteration.trans h.iteration,?_⟩
  rcases h'.ids with hids | hids
  · rw [hids]
    exact h.ids
  · exact .inr hids

/-- The same spec and the same usage. -/
structure Alike (t t' : AgentTask) : Prop where
  spec : t'.spec = t.spec
  usage : SameUsage t.status t'.status

lemma Alike.refl (t : AgentTask) : Alike t t := ⟨rfl,.refl _⟩

lemma Alike.trans {t t' u : AgentTask} (h : Alike t t') (h' : Alike t' u) : Alike t u :=
  ⟨h'.spec.trans h.spec,h.usage.trans h'.usage⟩

def Within (t : AgentTask) (s : System) : Prop := Every (Alike t) s.cell

section
variable {ρ α : Type} {t task : AgentTask}

lemma onSecrets_within (call : Call ObjectKey Secret StoreError α) :
    Keeps (Within t) (onSecrets call : Prog System ρ _) := .onPart fun _ h => h

lemma emit_within (e : Effect) : Keeps (Within t) (emit e : Prog System ρ _) := .modify fun _ h => h

variable {f : AgentTask → AgentTask}

lemma edit_answer {c : Cell} {a : AgentTask}
    (h : (edit () f c).1 = .ok a) : ∃ v, c.objects () = some v ∧ a = f v := by
  cases hc : c.objects () with
  | some v =>
    rcases (edit_spec f hc).2 with ⟨-,ha⟩ | ⟨-,e,ha⟩
    · exact ⟨v,rfl,(Except.ok.inj (ha.symm.trans h)).symm⟩
    · rw [ha] at h
      contradiction
  | none =>
    obtain ⟨objects,script⟩ := c
    change objects () = none at hc
    rcases script with _ | ⟨⟨⟩ | e | e,rest⟩
    all_goals simp [edit,request,hc] at h

lemma triple_edit_within (hf : ∀ t', Alike t t' → Alike t (f t')) {E : ρ → System → Prop} :
    Triple (Within t) (onTask (edit () f)) (fun r s => (∀ a, r = .ok a → Alike t a) ∧ Within t s) E := by
  refine .onPart fun s hs => ⟨fun a ha => ?_,edit_every (fun t' _ ht' => hf t' ht') hs⟩
  obtain ⟨v,hv,rfl⟩ := edit_answer ha
  exact hf v (hs v hv)

lemma edit_within (hf : ∀ t', Alike t t' → Alike t (f t')) :
    Keeps (Within t) (onTask (edit () f) : Prog System ρ _) :=
  (triple_edit_within hf).conseq (fun _ h => h) (fun _ _ h => h.2) fun _ _ h => h

lemma writeStatus_within {status : AgentTaskStatus} (h : SameUsage t.status status) :
    Keeps (Within t) (onTask (writeStatus status) : Prog System ρ _) :=
  edit_within fun _ ht' => ⟨ht'.spec,h⟩

lemma writeObject_within (h : task.spec = t.spec) :
    Keeps (Within t) (onTask (writeObject task) : Prog System ρ _) :=
  edit_within fun _ ht' => ⟨h,ht'.usage⟩

lemma delete_within : Keeps (Within t) (onTask (delete ()) : Prog System ρ _) :=
  .onPart fun _ h => delete_every h

variable {κ σ : Type} {r : Reconciler κ σ} {env : Surroundings}

variable {status : AgentTaskStatus}

lemma patchStatus_within (h : SameUsage t.status status) :
    Keeps (Within t) (r.patchStatus status) := .bind (writeStatus_within h) fun _ => .orExit _ _

lemma notify_within (old new : Phase) : Keeps (Within t) (r.notify old new) :=
  .ite (fun _ => emit_within _) fun _ => .pure _

lemma revokeToken_within : Keeps (Within t) (r.revokeToken task) :=
  .bind (onSecrets_within _) fun _ => .orExit _ _

lemma hibernatePreview_within (hibernated : Bool) : Keeps (Within t) (hibernatePreview env hibernated) :=
  .bind (emit_within _) fun _ => .pure _

lemma mintAndSaveToken_within [Scheme κ σ] : Keeps (Within t) (r.mintAndSaveToken env task) := by
  unfold Reconciler.mintAndSaveToken
  cases r.tokenMinter with
  | none => exact .pure _
  | some minter =>
    refine .bind (emit_within _) fun _ => ?_
    cases minter.mint env.nonce (taskClaims env task) with
    | error e => exact .pure _
    | ok token =>
      refine .bind (onSecrets_within _) fun res => ?_
      cases res with
      | error e | ok u => exact .pure _

lemma ensureActiveTokenMatchesSpec_within [Scheme κ σ] [DecidableEq σ] :
    Keeps (Within t) (r.ensureActiveTokenMatchesSpec env task) := by
  unfold Reconciler.ensureActiveTokenMatchesSpec
  cases r.tokenMinter with
  | none => exact .pure _
  | some verifier =>
    refine .bind (onSecrets_within _) fun res => ?_
    cases res with
    | error e => exact mintAndSaveToken_within
    | ok rawTok =>
      dsimp only
      cases verifier.verifyAndExtract r.unmarshal env.now rawTok with
      | error e => exact mintAndSaveToken_within
      | ok claims => exact .ite (fun _ => mintAndSaveToken_within) fun _ => .pure _

lemma haltSandbox_within (provider : SandboxProvider) : Keeps (Within t) (haltSandbox task provider) := by
  unfold haltSandbox
  cases provider.suspender with
  | some pair => exact .bind (emit_within _) fun _ => .orExit _ _
  | none => exact .ite (fun _ => .bind (emit_within _) fun _ => .orExit _ _) fun _ => .pure _

lemma triple_patchAnnotations (edits : List (String × Option String)) :
    Triple (Within t) (patchAnnotations task edits)
      (fun res s => (∀ a, res = .ok a → Alike t a) ∧ Within t s) (fun _ => Within t) := by
  refine .bind (triple_edit_within
    (f := fun u => { u with annotations := edits.foldl editAnnotation u.annotations })
    fun u hu => ⟨hu.spec,hu.usage⟩) fun res => .fact fun ha => ?_
  cases res with
  | error e => exact .pure fun s hs => ⟨fun a h => by contradiction,hs⟩
  | ok answered =>
    refine .pure fun s hs => ⟨fun a h => ?_,hs⟩
    rw [← Except.ok.inj h]
    exact (ha answered rfl).trans ⟨rfl,rfl,rfl,rfl,.inl rfl⟩

lemma triple_linkedPreview (h : Alike t task) : Triple (Within t) (reconcileLinkedPreviewEnvironment env task)
      (fun synced s => Alike t synced ∧ Within t s) (fun _ => Within t) := by
  have hcond : ∀ (a : AgentTask) (c : Option Condition), Alike t a → Alike t (withCondition a c) :=
    fun a c ha => ha.trans ⟨rfl,rfl,rfl,rfl,.inl rfl⟩
  unfold reconcileLinkedPreviewEnvironment
  split
  · exact .pure fun s hs => ⟨h,hs⟩
  · exact .pure fun s hs => ⟨hcond _ _ h,hs⟩
  · refine .bind (triple_patchAnnotations _) fun res => .fact fun ha => ?_
    cases res with
    | error e => exact .pure fun s hs => ⟨h,hs⟩
    | ok answered => exact .pure fun s hs => ⟨hcond _ _ (ha answered rfl),hs⟩

lemma deletion_within (h : task.spec = t.spec) : Keeps (Within t) (r.reconcileDeletion env task) := by
  refine .ite (fun _ => .pure _) fun _ => .bind ?_ fun _ => .bind ?_ fun _ => ?_
  · unfold Reconciler.releaseSandbox
    cases r.resolveSandboxProvider env task with
    | ok provider => exact .bind (emit_within _) fun _ => .orExit _ _
    | error e => exact .pure _
  · refine .bind (onSecrets_within _) fun res => ?_
    split
    · exact .pure _
    · exact .pure _
    · exact .throw _
  · refine .ite (fun _ => ?_) fun _ => ?_
    · exact .bind delete_within fun _ => .bind (.orExit _ _) fun _ => .pure _
    · exact .bind (writeObject_within h) fun _ => .bind (.orExit _ _) fun _ => .pure _

lemma suspended_within (h : Alike t task) : Keeps (Within t) (r.reconcileSuspended env task) := by
  refine .bind ?_ fun _ => .bind (hibernatePreview_within _) fun _ => .bind (.orExit _ _) fun _ =>
    .bind ?_ fun _ => .bind revokeToken_within fun _ => .pure _
  · unfold Reconciler.haltResolved
    cases r.resolveSandboxProvider env task with
    | ok provider => exact haltSandbox_within provider
    | error e => exact .pure _
  · exact .ite (fun _ => .pure _) fun _ => .bind (patchStatus_within
      (h.usage.trans ⟨rfl,rfl,rfl,.inl rfl⟩)) fun _ => notify_within _ _

lemma retryPending_within (h : Alike t task) (what err : String) :
    Keeps (Within t) (retryPending task what err) :=
  .bind (writeStatus_within (h.usage.trans ⟨rfl,rfl,rfl,.inl rfl⟩)) fun _ => .pure _

variable (provider : SandboxProvider)

section
variable (h : Alike t task)
include h

lemma pending_within [Scheme κ σ] : Keeps (Within t) (r.reconcilePending env task provider) := by
  refine .bind mintAndSaveToken_within fun res => ?_
  cases res with
  | error err => exact retryPending_within h _ _
  | ok u =>
    refine .bind (emit_within _) fun _ => ?_
    cases provider.provision with
    | error err => exact retryPending_within h _ _
    | ok res =>
      refine Triple.bind (triple_linkedPreview (h.trans ⟨rfl,rfl,rfl,rfl,.inl rfl⟩)) fun synced =>
        .fact fun hs => ?_
      exact Keeps.bind (patchStatus_within
        (hs.usage.trans ⟨rfl,rfl,rfl,.inl rfl⟩)) fun _ =>
        .bind (notify_within _ _) fun _ => .pure _

lemma handleTerminal_within (sb : SandboxStatus) :
    Keeps (Within t) (r.handleTerminalSandboxPhase env task sb) := by
  have hstatus : SameUsage t.status (terminalStatus task sb) := by
    unfold terminalStatus
    split_ifs
    all_goals exact h.usage.trans ⟨rfl,rfl,rfl,.inl rfl⟩
  exact .bind (patchStatus_within hstatus) fun _ => .bind (notify_within _ _) fun _ =>
    .bind (hibernatePreview_within _) fun _ => .bind revokeToken_within fun _ => .pure _

lemma provisioning_within : Keeps (Within t) (r.reconcileProvisioning env task provider) := by
  unfold Reconciler.reconcileProvisioning
  cases provider.status with
  | error e => exact .pure _
  | ok sb =>
    refine .ite (fun _ => handleTerminal_within h sb) fun _ => ?_
    refine Triple.bind (triple_linkedPreview (h.trans ⟨rfl,rfl,rfl,rfl,.inl rfl⟩)) fun synced =>
      .fact fun hs => ?_
    have hstatus : SameUsage t.status (if sb.ready then
        { synced.status with phase := .active, message := "Sandbox active and ready" }
        else synced.status) := by
      split_ifs
      all_goals exact hs.usage.trans ⟨rfl,rfl,rfl,.inl rfl⟩
    exact Keeps.bind (patchStatus_within hstatus) fun _ => .bind (notify_within _ _) fun _ => .pure _

lemma timeout_within : Keeps (Within t) (r.reconcileTimeout env task provider) := by
  refine .bind (emit_within _) fun _ => ?_
  cases provider.teardown with
  | error err => exact .bind (onSecrets_within _) fun _ => .pure _
  | ok u =>
    exact .bind (patchStatus_within (h.usage.trans ⟨rfl,rfl,rfl,.inl rfl⟩))
      fun _ => .bind (notify_within _ _) fun _ => .bind (hibernatePreview_within _) fun _ =>
        .bind revokeToken_within fun _ => .pure _

omit h in
lemma leavePause_within (old : AgentTask) (h : SameUsage t.status status) :
    Keeps (Within t) (r.leavePause old status) :=
  .bind (patchStatus_within (h.trans ⟨rfl,rfl,rfl,.inr rfl⟩)) fun _ =>
    .bind (notify_within _ _) fun _ => .pure _

lemma resume_within [Scheme κ σ] : Keeps (Within t) (r.resumeTask env task provider) := by
  have hclock : Triple (Within t) (r.restartClock env task)
      (fun a s => Alike t a ∧ Within t s) (fun _ => Within t) := by
    refine .ite (fun _ => ?_) fun _ => .pure fun s hs => ⟨h,hs⟩
    refine .bind (triple_patchAnnotations _) fun res => .orExit ?_ fun _ _ _ hs => hs.2
    rintro a s rfl hs
    exact ⟨hs.1 a rfl,hs.2⟩
  refine Triple.bind hclock fun a => .fact fun ha => ?_
  refine Keeps.bind (hibernatePreview_within _) fun _ => .bind (.orExit _ _) fun _ => .ite ?_ ?_
  · intro _
    refine .bind mintAndSaveToken_within fun _ => .bind (.orExit _ _) fun _ => .bind ?_ fun _ =>
      leavePause_within _ (ha.usage.trans ⟨rfl,rfl,rfl,.inl rfl⟩)
    unfold resumeSandbox
    cases provider.suspender with
    | some pair => exact .bind (emit_within _) fun _ => .orExit _ _
    | none => exact .pure _
  · intro _
    exact leavePause_within _ (ha.usage.trans ⟨rfl,rfl,rfl,.inl rfl⟩)

lemma paused_within [Scheme κ σ] : Keeps (Within t) (r.reconcilePaused env task provider) := by
  unfold Reconciler.reconcilePaused
  cases checkBudgetOrIterationLimit task with
  | some reason => exact .bind revokeToken_within fun _ => .pure _
  | none => exact resume_within provider h

end

variable [Scheme κ σ] [DecidableEq σ]

lemma active_within (h : Alike t task) : Keeps (Within t) (r.reconcileActive env task provider) := by
  have hsync : ∀ u : AgentTask, Alike t u → Keeps (Within t) (do
      let synced ← reconcileLinkedPreviewEnvironment env u
      let _ ← onTask (writeStatus synced.status)
      pure { requeueAfter := 15 } : Step Result) := fun u hu =>
    Triple.bind (triple_linkedPreview hu) fun synced => .fact fun hs =>
      Keeps.bind (writeStatus_within hs.usage) fun _ => .pure _
  refine .ite (fun _ => timeout_within provider h) fun _ => ?_
  cases checkBudgetOrIterationLimit task with
  | some reason =>
    exact .bind (haltSandbox_within provider) fun _ => .bind (hibernatePreview_within _) fun _ =>
      .bind (.orExit _ _) fun _ => .bind (patchStatus_within
        (h.usage.trans ⟨rfl,rfl,rfl,.inl rfl⟩)) fun _ =>
      .bind (notify_within _ _) fun _ => .bind revokeToken_within fun _ => .pure _
  | none =>
    refine .bind ensureActiveTokenMatchesSpec_within fun _ => ?_
    cases provider.status with
    | error e => exact hsync _ h
    | ok sb =>
      exact .ite (fun _ => handleTerminal_within h sb) fun _ =>
        hsync _ (h.trans ⟨rfl,rfl,rfl,rfl,.inl rfl⟩)

lemma phase_within (h : Alike t task) : Keeps (Within t) (r.reconcilePhase env task provider) := by
  unfold Reconciler.reconcilePhase
  cases task.status.phase with
  | unset | pending => exact pending_within provider h
  | provisioning => exact provisioning_within provider h
  | active => exact active_within provider h
  | paused => exact paused_within provider h
  | completed | failed => exact .bind revokeToken_within fun _ => .pure _
  | pausing => exact .pure _

lemma reconcileTask_within (h : Alike t task) : Keeps (Within t) (r.reconcileTask env task) := by
  have hstatus : ∀ phase message, SameUsage t.status
      { task.status with phase := phase, message := message } :=
    fun _ _ => h.usage.trans ⟨rfl,rfl,rfl,.inl rfl⟩
  refine .ite (fun _ => deletion_within h.spec) fun _ => .ite (fun _ => ?_) fun _ =>
    .ite (fun _ => .ite (fun _ => .pure _) fun _ => ?_) fun _ =>
    .ite (fun _ => suspended_within h) fun _ => ?_
  · exact .bind (writeObject_within h.spec) fun _ => .bind (.orExit _ _) fun _ => .pure _
  · exact .bind (patchStatus_within (hstatus _ _)) fun _ => .pure _
  · cases r.resolveSandboxProvider env task with
    | error err =>
      exact .bind (writeStatus_within (hstatus _ _)) fun _ => .bind (notify_within _ _) fun _ => .pure _
    | ok provider => exact phase_within provider h

theorem reconcile_within : Keeps (Within t) (r.reconcile env) := by
  refine Triple.bind (R := fun res s => (∀ a, res = .ok a → Alike t a) ∧ Within t s)
    (.onPart fun s hs => ⟨fun a ha => ?_,get_every hs⟩) fun res => .fact fun ha => ?_
  · have hg : get () s.cell = (.ok a,(get () s.cell).2) := by rw [← ha]
    exact hs a (get_ok hg).1
  · split
    · exact Keeps.pure _
    · exact Keeps.pure _
    · exact reconcileTask_within (ha _ rfl)

lemma reconcile_missing {n : ℕ} : Keeps (fun s => s.stored = none ∧ s.mints = n) (r.reconcile env) := by
  refine Triple.bind (R := fun res s => (∀ a, res ≠ .ok a) ∧ s.stored = none ∧ s.mints = n)
    (.onPart fun s hs => ⟨fun a ha => ?_,?_,hs.2⟩) fun res => .fact fun ha => ?_
  · have hg : get () s.cell = (.ok a,(get () s.cell).2) := by rw [← ha]
    have hsome : s.stored = some a := (get_ok hg).1
    rw [hs.1] at hsome
    contradiction
  · change (get () s.cell).2.objects () = none
    rw [get_objects]
    exact hs.1
  · split
    · exact Keeps.pure _
    · exact Keeps.pure _
    · exact absurd rfl (ha _)

end

variable {κ σ : Type} [Scheme κ σ] [DecidableEq σ] (d : Deployment κ σ) {s : System}

lemma step_missing (a : Act) (hs : s.stored = none) : (d.step s a).stored = none := by
  have hnone : ∀ {c : Cell}, Every (fun _ => False) c → c.objects () = none := fun h =>
    Option.eq_none_iff_forall_ne_some.mpr fun t ht => h t ht
  have hs' : Every (fun _ => False) (a.enter s).cell := fun t ht => by
    rw [show (a.enter s).cell.objects () = none from hs] at ht
    contradiction
  obtain ⟨op,taskFaults,secretFaults⟩ := a
  cases op with
  | reconcile env =>
    exact (reconcile_missing.finish (s := Act.enter ⟨.reconcile env,taskFaults,secretFaults⟩ s)
      ⟨hs,rfl⟩).1
  | meter now req =>
    exact ((serve_cases d now req _).1.of_refusing fun t ht => (hs' t ht).elim).2.trans hs
  | pause | editSpec f => exact hnone (modifyObject_every (fun _ h => h) hs')
  | resume req => exact hnone (resumeTask_every _ _ (fun _ _ _ h => h) (fun _ h => h) hs')
  | delete => exact hnone (deleteTask_every (fun _ h => h) hs')

lemma step_usage {a : Act} (ha : ∀ now req, a.op ≠ .meter now req) {t : AgentTask}
    (hs : s.stored = some t) : Every (fun t' => SameUsage t.status t'.status) (d.step s a).cell := by
  have hstart : Every (fun t' => SameUsage t.status t'.status) (a.enter s).cell :=
    every_of_stored (s := a.enter s) hs (.refl _)
  obtain ⟨op,taskFaults,secretFaults⟩ := a
  cases op with
  | reconcile env =>
    have hwithin : Within t (Act.enter ⟨.reconcile env,taskFaults,secretFaults⟩ s) :=
      every_of_stored (s := Act.enter _ s) hs (.refl t)
    exact fun t' ht' => (reconcile_within.finish hwithin t' ht').usage
  | meter now req => exact absurd rfl (ha now req)
  | pause | editSpec f => exact modifyObject_every (fun _ h => h) hstart
  | resume req =>
    exact resumeTask_every _ _ (fun _ _ _ h => h) (fun _ h => h.trans ⟨rfl,rfl,rfl,.inr rfl⟩) hstart
  | delete => exact deleteTask_every (fun _ h => h) hstart

/-- Nothing but metering changes the usage of a task. -/
theorem usage_kept_without_metering {t : AgentTask} (hs : s.stored = some t) {as : List Act}
    (has : ∀ a ∈ as, ∀ now req, a.op ≠ .meter now req) :
    Every (fun t' => SameUsage t.status t'.status) (Transition.run d.step s as).cell := by
  have hstart : Every (fun t' => SameUsage t.status t'.status) s.cell := every_of_stored hs (.refl _)
  clear hs
  induction as generalizing s with
  | nil => exact hstart
  | cons a as ih =>
    obtain ⟨ha,has⟩ := List.forall_mem_cons.mp has
    refine ih has ?_
    cases hst : s.stored with
    | none => exact fun u hu => absurd ((step_missing d a hst).symm.trans hu) nofun
    | some u => exact fun t' ht' => (hstart u hst).trans (step_usage d ha hst t' ht')

theorem reconciled_usage_kept : Every (fun t => t.status.tokensConsumed = 7)
    (Transition.run sampleDeployment.step (systemOf { name := "fix", ns := "team", status := { tokensConsumed := 7 } })
      [⟨.reconcile calm,[.fail .conflict],[]⟩,⟨.resume {},[],[]⟩]).cell :=
  fun t ht => (usage_kept_without_metering sampleDeployment rfl (by simp) t ht).tokens

end Diverge.Tasks
