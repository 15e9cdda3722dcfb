import Diverge.Tasks.Reconcile

/-! The guards of the reconciler that stand before the switch over the phase: what each leaves of
the stored task. -/
namespace Diverge.Tasks
open Kube Program Hmac

/-- The stored task and the number of tokens asked for, at the end of a call. -/
def Leaves (t : AgentTask) (n : ℕ) (s : System) : Prop := s.stored = some t ∧ s.mints = n

lemma Holds.leaves {t : AgentTask} {faults : List Fault} {n : ℕ} {s : System}
    (h : Holds t faults n s) : Leaves t n s := ⟨h.stored,h.mints⟩

/-- From a stored task, a call leaves another one, however it ends. -/
def TakesTo (t : AgentTask) (faults : List Fault) (n : ℕ) (m : Step Result) (t' : AgentTask) : Prop :=
  Triple (Holds t faults n) m (fun _ => Leaves t' n) (fun _ => Leaves t' n)

section
variable {κ σ : Type} {r : Reconciler κ σ} {env : Surroundings} {t : AgentTask} {faults : List Fault}
  {n : ℕ}

lemma triple_patchStatus (status : AgentTaskStatus) : Triple (Holds t faults n) (r.patchStatus status)
      (fun _ s => takesEffect faults = true ∧ Holds { t with status := status } faults.tail n s)
      (fun _ s => Holds (if takesEffect faults then { t with status := status } else t) faults.tail n s) := by
  refine .bind (triple_edit _) fun res => .orExit ?_ ?_
  · rintro a s rfl ⟨hs,⟨hp,-⟩ | ⟨-,e,he⟩⟩
    · have he := takesEffect_of_passes hp
      rw [if_pos he] at hs
      exact ⟨he,hs⟩
    · contradiction
  · exact fun e s _ hs => hs.1

variable {E : Result → System → Prop}

lemma triple_notify (old new : Phase) :
    Triple (Holds t faults n) (r.notify old new) (fun _ => Holds t faults n) E :=
  .ite (fun _ => triple_emit rfl) fun _ => .pure fun _ h => h

variable (task : AgentTask)

lemma triple_revokeToken : Triple (Holds t faults n) (r.revokeToken task) (fun _ => Holds t faults n)
      (fun _ => Holds t faults n) :=
  .bind (triple_onSecrets _) fun _ => .orExit (fun _ _ _ h => h) fun _ _ _ h => h

lemma triple_hibernatePreview (hibernated : Bool) :
    Triple (Holds t faults n) (hibernatePreview env hibernated)
      (fun res s => res = env.hibernate ∧ Holds t faults n s) E :=
  .bind (triple_emit rfl) fun _ => .pure fun _ h => ⟨rfl,h⟩

/-- Whether a sandbox is halted: suspended where it can be, taken down where it is a pod. -/
def halts (task : AgentTask) (provider : SandboxProvider) : Bool :=
  match provider.suspender with
  | some (suspended,_) => suspended.isOk
  | none => !usesPod task || provider.teardown.isOk

lemma triple_haltSandbox (provider : SandboxProvider) : Triple (Holds t faults n) (haltSandbox task provider)
      (fun _ s => halts task provider = true ∧ Holds t faults n s)
      (fun _ s => halts task provider = false ∧ Holds t faults n s) := by
  unfold haltSandbox halts
  cases provider.suspender with
  | some pair =>
    refine .bind (triple_emit rfl) fun _ => .orExit ?_ ?_
    · intro a s ha h
      exact ⟨by simp only [ha]; rfl,h⟩
    · intro e s he h
      exact ⟨by simp only [he]; rfl,h⟩
  | none =>
    refine .ite (fun hp => ?_) fun hp => .pure fun _ h => ⟨by simp [hp],h⟩
    refine .bind (triple_emit rfl) fun _ => .orExit ?_ ?_
    · intro a s ha h
      exact ⟨by simp only [hp,ha]; rfl,h⟩
    · intro e s he h
      exact ⟨by simp only [hp,he]; rfl,h⟩

/-- Whether the sandbox of a suspended task is halted; one that cannot be had needs nothing. -/
def Reconciler.haltsResolved (r : Reconciler κ σ) (env : Surroundings) (task : AgentTask) : Bool :=
  match r.resolveSandboxProvider env task with
  | .ok provider => halts task provider
  | .error _ => true

lemma triple_haltResolved : Triple (Holds t faults n) (r.haltResolved env task)
      (fun _ s => r.haltsResolved env task = true ∧ Holds t faults n s)
      (fun _ s => r.haltsResolved env task = false ∧ Holds t faults n s) := by
  unfold Reconciler.haltResolved Reconciler.haltsResolved
  cases r.resolveSandboxProvider env task with
  | ok provider => exact triple_haltSandbox task provider
  | error e => exact .pure fun _ h => ⟨rfl,h⟩

lemma terminal_takesTo : TakesTo t faults n (r.reconcileTerminal task) t :=
  .seq (triple_revokeToken task) (fun _ _ h => h.leaves) fun _ => .pure fun _ h => h.leaves

/-- The task after a call while sandboxes are switched off. -/
def gatedTask (t : AgentTask) (faults : List Fault) : AgentTask :=
  if t.status.phase ≠ .paused ∧ takesEffect faults = true then { t with status := gatedStatus t } else t

lemma gateDisabled_takesTo : TakesTo t faults n (r.reconcileGateDisabled t) (gatedTask t faults) := by
  unfold gatedTask
  refine .ite (fun hp => .pure fun s h => ?_) fun hp => ?_
  · rw [if_neg (by simp [hp])]
    exact h.leaves
  · refine .seq (triple_patchStatus _) ?_ fun _ => .fact fun he => .pure fun s h => ?_
    · intro e s h
      simpa [hp] using h.leaves
    · rw [if_pos ⟨hp,he⟩]
      exact h.leaves

/-- A suspended task is paused when its sandbox is halted, its preview hibernated and the patch
made. -/
def Reconciler.pauses (r : Reconciler κ σ) (env : Surroundings) (t : AgentTask)
    (faults : List Fault) : Prop :=
  t.status.phase ≠ .paused ∧ r.haltsResolved env t = true ∧ env.hibernate.isOk = true ∧
    takesEffect faults = true

instance : Decidable (r.pauses env t faults) := inferInstanceAs (Decidable (_ ∧ _ ∧ _ ∧ _))

/-- The task after a call while it is suspended. -/
def Reconciler.suspendedTask (r : Reconciler κ σ) (env : Surroundings) (t : AgentTask)
    (faults : List Fault) : AgentTask :=
  if r.pauses env t faults then
    { t with status := pausedStatus t (suspendedMessage t.status.message) }
  else t

lemma triple_pauseSuspended (hh : r.haltsResolved env t = true) (hb : env.hibernate.isOk = true) :
    Triple (Holds t faults n) (r.pauseSuspended t)
      (fun _ s => ∃ rest, Holds (r.suspendedTask env t faults) rest n s)
      (fun _ s => ∃ rest, Holds (r.suspendedTask env t faults) rest n s) := by
  have hpauses : r.pauses env t faults ↔ t.status.phase ≠ .paused ∧ takesEffect faults = true := by
    simp [Reconciler.pauses,hh,hb]
  unfold Reconciler.suspendedTask
  refine .ite (fun hp => .pure fun s h => ⟨faults,?_⟩) fun hp => ?_
  · rwa [if_neg (by simp [hpauses,hp])]
  · refine .seq (triple_patchStatus _) ?_ fun _ => .fact fun he => ?_
    · intro e s h
      exact ⟨faults.tail,by simpa [hpauses,hp] using h⟩
    · rw [if_pos (hpauses.mpr ⟨hp,he⟩)]
      exact (triple_notify _ _).conseq (fun _ h => h) (fun _ _ h => ⟨_,h⟩) fun _ _ h => h

lemma suspended_takesTo : TakesTo t faults n (r.reconcileSuspended env t) (r.suspendedTask env t faults) := by
  refine .seq (triple_haltResolved t) ?_ fun _ => .fact fun hh => ?_
  · rintro e s ⟨hh,h⟩
    rw [Reconciler.suspendedTask,if_neg (by simp [Reconciler.pauses,hh])]
    exact h.leaves
  · refine .bind (triple_hibernatePreview true) fun res => .fact ?_
    rintro rfl
    refine .bind (R := fun _ s => env.hibernate.isOk = true ∧ Holds t faults n s) ?_ fun _ => .fact fun hb => ?_
    · refine .orExit ?_ ?_
      · intro a s ha h
        exact ⟨by rw [ha]; rfl,h⟩
      · intro e s he h
        rw [Reconciler.suspendedTask,if_neg (by simp [Reconciler.pauses,he,Except.isOk,Except.toBool])]
        exact h.leaves
    · refine .seq (triple_pauseSuspended hh hb) (fun _ _ ⟨_,h⟩ => h.leaves) fun _ => ?_
      rintro s ⟨rest,h⟩
      exact terminal_takesTo t s h

/-- The task after a call that could not have its provider. -/
def unresolvedTask (t : AgentTask) (err : String) (faults : List Fault) : AgentTask :=
  if takesEffect faults then { t with status := unresolvedStatus t err } else t

lemma unresolved_takesTo (err : String) :
    TakesTo t faults n (r.reconcileUnresolved t err) (unresolvedTask t err faults) :=
  .bind (triple_edit _) fun _ => .conseq
    (.bind (triple_notify _ _) fun _ => .pure fun _ h => h.leaves) (fun _ h => h.1) (fun _ _ h => h)
    fun _ _ h => h

lemma ensureFinalizer_takesTo : TakesTo t faults n (r.ensureFinalizer t)
      (if takesEffect faults then { t with finalizers := t.finalizers ++ [agentTaskFinalizer] } else t) :=
  .bind (triple_edit _) fun _ => .bind (.orExit (fun _ _ _ h => h.1) fun _ _ _ h => h.1.leaves)
    fun _ => .pure fun _ h => h.leaves

/-- What a deletion leaves: nothing, or the task but for its finalizers. -/
def LeavesDeleted (t : AgentTask) (n : ℕ) (s : System) : Prop :=
  (∀ t', s.stored = some t' → t'.spec = t.spec ∧ t'.status = t.status) ∧ s.mints = n

lemma Leaves.deleted {t' : AgentTask} {s : System} (h : Leaves t' n s) (hspec : t'.spec = t.spec)
    (hstatus : t'.status = t.status) : LeavesDeleted t n s := by
  refine ⟨fun u hu => ?_,h.2⟩
  rw [h.1,Option.some.injEq] at hu
  rw [← hu]
  exact ⟨hspec,hstatus⟩

lemma triple_delete {E : Result → System → Prop} :
    Triple (Holds t faults n) (onTask (delete ())) (fun _ => LeavesDeleted t n) E := by
  refine .onPart fun s h => ⟨fun t' ht' => ?_,h.mints⟩
  have hs : s.cell.objects () = some t := h.stored
  change (delete () s.cell).2.objects () = some t' at ht'
  have hserve : (∀ u, (delete () s.cell).2.objects () = some u → u = t) := by
    intro u hu
    rcases request_cases (fun objects : Unit → Option AgentTask => if (objects ()).isSome then
        ((.ok (),Function.update objects () none) : Except ApiError Unit × (Unit → Option AgentTask))
        else (.error .notFound,objects)) s.cell with ⟨-,he⟩ | ⟨-,f,objects,he,ho⟩
    · rw [delete,he,hs] at hu
      simp at hu
    · rw [delete,he] at hu
      rcases ho with rfl | rfl
      · rw [hs] at hu
        exact (Option.some.inj hu).symm
      · simp [hs] at hu
  rw [hserve t' ht']
  exact ⟨rfl,rfl⟩

lemma triple_releaseSandbox :
    Triple (Holds t faults n) (r.releaseSandbox env task) (fun _ => Holds t faults n)
      (fun _ => Holds t faults n) := by
  unfold Reconciler.releaseSandbox
  cases r.resolveSandboxProvider env task with
  | ok provider =>
    exact .bind (triple_emit rfl) fun _ => .orExit (fun _ _ _ h => h) fun _ _ _ h => h
  | error e => exact .pure fun _ h => h

lemma triple_deleteTaskToken : Triple (Holds t faults n) (r.deleteTaskToken task) (fun _ => Holds t faults n)
      (fun _ => Holds t faults n) := by
  refine .bind (triple_onSecrets _) fun res => ?_
  split
  · exact .pure fun _ h => h
  · exact .pure fun _ h => h
  · exact .throw fun _ h => h

lemma triple_removeFinalizer : Triple (Holds t faults n) (r.removeFinalizer t) (fun _ => LeavesDeleted t n)
      (fun _ => LeavesDeleted t n) := by
  refine .ite (fun _ => ?_) fun _ => ?_
  · refine .bind triple_delete fun res => .bind (R := fun _ => LeavesDeleted t n) ?_ fun _ =>
      .pure fun _ h => h
    exact .orExit (fun _ _ _ h => h) fun _ _ _ h => h
  · refine .bind (triple_edit _) fun res => .bind (R := fun _ => LeavesDeleted t n) ?_ fun _ =>
      .pure fun _ h => h
    refine .orExit (fun _ s _ h => ?_) fun _ s _ h => ?_
    all_goals
      refine h.1.leaves.deleted ?_ ?_
      all_goals split_ifs <;> rfl

lemma deletion_leaves : Triple (Holds t faults n) (r.reconcileDeletion env t) (fun _ => LeavesDeleted t n)
      (fun _ => LeavesDeleted t n) := by
  refine .ite (fun _ => .pure fun _ h => h.leaves.deleted rfl rfl) fun _ => ?_
  refine .seq (triple_releaseSandbox t) (fun _ _ h => h.leaves.deleted rfl rfl) fun _ => ?_
  exact .seq (triple_deleteTaskToken t) (fun _ _ h => h.leaves.deleted rfl rfl) fun _ =>
    triple_removeFinalizer

end

variable {κ σ : Type} [Scheme κ σ] [DecidableEq σ] {r : Reconciler κ σ} {env : Surroundings}
  {t : AgentTask} {faults : List Fault} {n : ℕ} {Q : System → Prop}

lemma triple_reconcile (hfail : passesNext faults = false → ∀ s, Leaves t n s → Q s)
    (htask : passesNext faults = true →
      Triple (Holds t faults.tail n) (r.reconcileTask env t) (fun _ => Q) (fun _ => Q)) :
    Triple (Holds t faults n) (r.reconcile env) (fun _ => Q) (fun _ => Q) := by
  refine .bind triple_get fun res => ?_
  rintro s ⟨hs,⟨hp,rfl⟩ | ⟨hp,e,rfl,hne⟩⟩
  · exact htask hp s hs
  · cases e with
    | notFound => exact absurd rfl hne
    | alreadyExists | conflict | other m => exact hfail hp s hs.leaves

lemma triple_reconcileTask (hdeleted : t.deleting = true → ∀ s, LeavesDeleted t n s → Q s)
    (hfinalizer : ∀ finalizers s, Leaves { t with finalizers := finalizers } n s → Q s)
    (hgate : t.deleting = false → agentTaskFinalizer ∈ t.finalizers → env.gate = some false →
      ∀ s, Leaves (gatedTask t faults) n s → Q s)
    (hsuspended : t.deleting = false → agentTaskFinalizer ∈ t.finalizers → env.gate ≠ some false →
      t.spec.suspended = true → ∀ s, Leaves (r.suspendedTask env t faults) n s → Q s)
    (hunresolved : t.deleting = false → agentTaskFinalizer ∈ t.finalizers → env.gate ≠ some false →
      t.spec.suspended = false → ∀ err, r.resolveSandboxProvider env t = .error err →
      ∀ s, Leaves (unresolvedTask t err faults) n s → Q s)
    (hphase : t.deleting = false → agentTaskFinalizer ∈ t.finalizers → env.gate ≠ some false →
      t.spec.suspended = false → ∀ provider, r.resolveSandboxProvider env t = .ok provider →
      Triple (Holds t faults n) (r.reconcilePhase env t provider) (fun _ => Q) (fun _ => Q)) :
    Triple (Holds t faults n) (r.reconcileTask env t) (fun _ => Q) (fun _ => Q) := by
  refine .ite (fun hd => ?_) fun hd => .ite (fun hf => ?_) fun hf => .ite (fun hg => ?_) fun hg =>
    .ite (fun hs => ?_) fun hs => ?_
  · exact deletion_leaves.conseq (fun _ h => h) (fun _ s h => hdeleted hd s h)
      fun _ s h => hdeleted hd s h
  · refine ensureFinalizer_takesTo.conseq (fun _ h => h) (fun _ s h => ?_) fun _ s h => ?_
    all_goals
      split_ifs at h
      · exact hfinalizer _ s h
      · exact hfinalizer t.finalizers s h
  · have hfin := not_not.mp hf
    exact gateDisabled_takesTo.conseq (fun _ h => h)
      (fun _ s h => hgate (by simpa using hd) hfin hg s h)
      fun _ s h => hgate (by simpa using hd) hfin hg s h
  · have hfin := not_not.mp hf
    exact suspended_takesTo.conseq (fun _ h => h)
      (fun _ s h => hsuspended (by simpa using hd) hfin hg hs s h)
      fun _ s h => hsuspended (by simpa using hd) hfin hg hs s h
  · have hfin := not_not.mp hf
    have hd' : t.deleting = false := by simpa using hd
    have hs' : t.spec.suspended = false := by simpa using hs
    cases hr : r.resolveSandboxProvider env t with
    | error err =>
      exact (unresolved_takesTo err).conseq (fun _ h => h)
        (fun _ s h => hunresolved hd' hfin hg hs' err hr s h)
        fun _ s h => hunresolved hd' hfin hg hs' err hr s h
    | ok provider => exact hphase hd' hfin hg hs' provider hr

end Diverge.Tasks
