import Diverge.Tasks.Budget
import Diverge.Tasks.Guards

/-! Pauses for a limit of the spec. The meter compares the exact total with the budget, and the
reconciler the rounded one that is stored; both find the same tasks beyond their limits, so that a
pause lasts as long as the limits do. -/
namespace Diverge.Tasks
open Text Kube Program TokenStore Auth Hmac
  Transition

def Limited (t : AgentTask) : Prop := checkBudgetOrIterationLimit t ≠ none

structure SameLimits (t t' : AgentTask) : Prop where
  budgetUSD : t'.spec.budgetUSD = t.spec.budgetUSD
  budgetTokens : t'.spec.budgetTokens = t.spec.budgetTokens
  maxIterations : t'.spec.maxIterations = t.spec.maxIterations

section
variable (m : Rounding) {claims : Claims} {req : LLMMeterRequest} (prURL : String) {t t' : AgentTask}
  {B : ℚ}

lemma Limited.congr (h : Limited t) (hl : SameLimits t t') (hcost : t'.status.costUSD = t.status.costUSD)
    (htokens : t'.status.tokensConsumed = t.status.tokensConsumed)
    (hiteration : t'.status.iteration = t.status.iteration) : Limited t' := by
  have heq : checkBudgetOrIterationLimit t' = checkBudgetOrIterationLimit t := by
    unfold checkBudgetOrIterationLimit
    dsimp only
    rw [hl.budgetUSD,hl.budgetTokens,hl.maxIterations,hcost,htokens,hiteration]
  unfold Limited
  rw [heq]
  exact h

lemma limited_of_iterations (hmax : 0 < t.spec.maxIterations)
    (h : t.spec.maxIterations < t.status.iteration) : Limited t := by
  unfold Limited checkBudgetOrIterationLimit
  dsimp only
  rw [if_pos ⟨hmax,h⟩]
  exact Option.some_ne_none _

lemma limited_of_tokens (hmax : 0 < t.spec.budgetTokens)
    (h : t.spec.budgetTokens ≤ t.status.tokensConsumed) : Limited t := by
  unfold Limited checkBudgetOrIterationLimit
  dsimp only
  split_ifs with h1 h2 h3
  · exact Option.some_ne_none _
  · exact Option.some_ne_none _
  · exact Option.some_ne_none _
  · exact absurd ⟨hmax,h⟩ h3

lemma limited_of_cost {cost : ℚ} (hB : parseFloat t.spec.budgetUSD = some (.finite B)) (hpos : 0 < B)
    (hcost : parseFloat t.status.costUSD = some (.finite cost)) (h : B ≤ cost) : Limited t := by
  have hspec := ne_empty_of_parseFloat hB
  have hstatus := ne_empty_of_parseFloat hcost
  unfold Limited checkBudgetOrIterationLimit
  dsimp only
  rw [hB,hcost]
  split_ifs with h1 h2
  · exact Option.some_ne_none _
  · exact Option.some_ne_none _
  · exact Option.some_ne_none _
  · exact absurd ⟨hspec,hstatus,by simp [Number.lt,Number.le,hpos,h]⟩ h2

lemma parseFloat_of_readCost {s : String} (h : readCost s ≠ 0) :
    parseFloat s = some (.finite (readCost s)) := by
  unfold readCost at h ⊢
  split at h
  · assumption
  · exact absurd rfl h

lemma stored_cost_of_exceeded (hpos : 0 < B) (hB : ∃ n : ℤ, B = n / 10 ^ 4)
    (h : B < meteredCost req t.status) :
    ∃ cost, parseFloat (meteredStatus m req prURL t.status).costUSD = some (.finite cost) ∧ B ≤ cost := by
  unfold meteredCost at h
  unfold meteredStatus
  by_cases hold : alreadyCounted req t.status = true
  · rw [if_pos hold,add_zero] at h
    rw [if_pos hold]
    exact ⟨_,parseFloat_of_readCost (by linarith),h.le⟩
  · rw [if_neg hold] at h
    rw [if_neg hold]
    refine ⟨_,parseFloat_formatFixed m (by decide) (by linarith),?_⟩
    obtain ⟨n,rfl⟩ := hB
    exact m.le_roundTo h.le

lemma limited_of_exceeded {reason : String} (hB : parseFloat t.spec.budgetUSD = some (.finite B))
    (hpos : 0 < B) (hB4 : ∃ n : ℤ, B = n / 10 ^ 4) (htokens : 0 < t.spec.budgetTokens ∨ claims.maxTokens ≤ 0)
    (hx : (meterDecision m claims req prURL t).exceeded = some reason) :
    Limited { t with status := (meterDecision m claims req prURL t).status } := by
  change exceedReason t.spec claims (meteredCost req t.status)
    (meteredStatus m req prURL t.status).tokensConsumed
    (meteredStatus m req prURL t.status).iteration = some reason at hx
  unfold exceedReason at hx
  split_ifs at hx with hbudget hiter
  · rw [Bool.or_eq_true] at hbudget
    rcases hbudget with husd | htok
    · rw [usdExceeded,specBudgetUSD_eq hB hpos] at husd
      have hlt : B < meteredCost req t.status := by simpa [Number.lt] using husd
      obtain ⟨cost,hcost,hle⟩ := stored_cost_of_exceeded m prURL hpos hB4 hlt
      rw [← meterDecision_costUSD m claims req prURL t] at hcost
      exact limited_of_cost hB hpos hcost hle
    · unfold tokensExceeded at htok
      split_ifs at htok with hspecTokens
      · refine limited_of_tokens hspecTokens ?_
        rw [meterDecision_tokensConsumed]
        exact (of_decide_eq_true htok).le
      · rw [Bool.and_eq_true,decide_eq_true_eq] at htok
        rcases htokens with htokens | htokens
        · exact absurd htokens hspecTokens
        · exact absurd htok.1 (by omega)
  · rw [iterationsExceeded,Bool.and_eq_true,decide_eq_true_eq,decide_eq_true_eq] at hiter
    refine limited_of_iterations hiter.1 ?_
    rw [meterDecision_iteration]
    exact hiter.2

end

section
variable {κ σ : Type} [Scheme κ σ] [DecidableEq σ] {d : Deployment κ σ} {now : ℤ} {req : HTTPRequest}
  {c : Cell} {reply : MeterReply} {o : Option AgentTask} {t : AgentTask} {B : ℚ}

/-- The limits of a task as they were, and a task that is paused is limited. -/
structure PausedLimited (t t' : AgentTask) : Prop where
  limits : SameLimits t t'
  limited : t'.status.phase = .paused → Limited t'

lemma recordUsage_pausedLimited (m : Rounding) (claims : Claims) (body : LLMMeterRequest) (prURL : String)
    (hc : c.objects () = some t) (hphase : t.status.phase ≠ .paused)
    (hB : parseFloat t.spec.budgetUSD = some (.finite B)) (hpos : 0 < B)
    (hB4 : ∃ n : ℤ, B = n / 10 ^ 4) (htokens : 0 < t.spec.budgetTokens ∨ claims.maxTokens ≤ 0) :
    Every (PausedLimited t) (recordUsage m claims body prURL c).2 := by
  have hstart : ∃ u, c.objects () = some u ∧ PausedLimited t u :=
    ⟨t,hc,⟨rfl,rfl,rfl⟩,fun h => absurd h hphase⟩
  have hattempt : ∀ c' : Cell, (∃ u, c'.objects () = some u ∧ PausedLimited t u) →
      ∃ u, (meterAttempt m claims body prURL c').2.objects () = some u ∧ PausedLimited t u := by
    rintro c' ⟨u,hu,hpaused⟩
    rcases meterAttempt_cases m claims body prURL hu with ⟨ho,-⟩ | ⟨hm,-,ho,-⟩
    · exact ⟨u,ho,hpaused⟩
    · refine ⟨_,ho,⟨hpaused.limits.1,hpaused.limits.2,hpaused.limits.3⟩,fun hp => ?_⟩
      cases hx : (meterDecision m claims body prURL u).exceeded with
      | some reason =>
        refine limited_of_exceeded m prURL (by rw [hpaused.limits.budgetUSD]; exact hB) hpos hB4 ?_ hx
        rw [hpaused.limits.budgetTokens]
        exact htokens
      | none =>
        have hne : u.status.phase ≠ .paused := by
          intro he
          simp [meterable,he] at hm
        exact absurd hp (by rwa [← meterDecision_phase hx] at hne)
  obtain ⟨⟨u,hu,hpaused⟩,-⟩ := retryOnConflict_rule MeterFailure.isConflict
    (meterAttempt m claims body prURL) (I := fun c' => ∃ u, c'.objects () = some u ∧ PausedLimited t u)
    (Q := fun _ _ => True) (fun c' hc' => ⟨hattempt c' hc',trivial⟩) defaultRetries c hstart
  intro v hv
  obtain rfl := Option.some.inj (hu.symm.trans hv)
  exact hpaused

lemma Deployment.Served.pausedLimited (h : d.Served now req c reply o) (hc : c.objects () = some t)
    (hphase : t.status.phase ≠ .paused) (hB : parseFloat t.spec.budgetUSD = some (.finite B))
    (hpos : 0 < B) (hB4 : ∃ n : ℤ, B = n / 10 ^ 4)
    (htokens : ∀ claims, d.handler.requestClaims d.reconciler.unmarshal now req.method
      req.authorization = .ok claims → 0 < t.spec.budgetTokens ∨ claims.maxTokens ≤ 0) :
    ∀ u, o = some u → PausedLimited t u := by
  have hrecord : ∀ {claims body result c'}, d.Records now req c claims body result c' →
      Every (PausedLimited t) c' := by
    intro claims body result c' hr
    have hevery := recordUsage_pausedLimited d.rounding claims body (trimSpace body.prURL) hc hphase hB
      hpos hB4 (htokens claims hr.verified)
    rwa [hr.records] at hevery
  cases h with
  | refused hr =>
    intro u hu
    obtain rfl := Option.some.inj (hc.symm.trans hu)
    exact ⟨⟨rfl,rfl,rfl⟩,fun hp => absurd hp hphase⟩
  | failed hr | allowed hr hx => exact hrecord hr
  | suspended hr hx hrep =>
    refine modifyObject_every (fun u hu => ⟨⟨hu.limits.1,hu.limits.2,hu.limits.3⟩,fun hp => ?_⟩)
      (hrecord hr)
    exact (hu.limited hp).congr ⟨rfl,rfl,rfl⟩ rfl rfl rfl

end

section
variable {κ σ : Type}

/-- The status of a task at a limit that does not run: it is paused, or has failed for want of its
provider. -/
structure Held (t : AgentTask) (status : AgentTaskStatus) : Prop where
  limited : Limited { t with status := status }
  phase : status.phase = .paused ∨ status.phase = .failed

lemma Held.congr {t : AgentTask} {u v : AgentTaskStatus} (h : Held t u) (husage : SameUsage u v)
    (hphase : v.phase = .paused ∨ v.phase = .failed) : Held t v :=
  ⟨h.limited.congr ⟨rfl,rfl,rfl⟩ husage.cost husage.tokens husage.iteration,hphase⟩

/-- A reconcile fails a task that is not running when it cannot have its provider. -/
def Reconciler.Strands (r : Reconciler κ σ) (env : Surroundings) (faults : List Fault)
    (t : AgentTask) : Prop :=
  passesNext faults = true ∧ takesEffect faults.tail = true ∧ t.deleting = false ∧
    agentTaskFinalizer ∈ t.finalizers ∧ env.gate ≠ some false ∧ t.spec.suspended = false ∧
    (r.resolveSandboxProvider env t).isOk = false

variable {r : Reconciler κ σ} {env : Surroundings} {t : AgentTask} {faults : List Fault} {n : ℕ}

/-- What is known after a reconcile of a limited task that does not run. -/
def StillHeld (r : Reconciler κ σ) (env : Surroundings) (faults : List Fault) (t : AgentTask) (n : ℕ)
    (s : System) : Prop :=
  s.mints = n ∧ Every (fun t' => (t'.status.phase = .paused ∨ t'.status.phase = .failed) ∧
    (t.status.phase = .paused → ¬r.Strands env faults t → t'.status.phase = .paused)) s.cell

lemma Leaves.stillHeld {t' : AgentTask} {s : System} (h : Leaves t' n s)
    (hphase : t'.status.phase = .paused ∨ t'.status.phase = .failed)
    (hkept : t.status.phase = .paused → ¬r.Strands env faults t → t'.status.phase = .paused) :
    StillHeld r env faults t n s := ⟨h.2,every_of_stored h.1 ⟨hphase,hkept⟩⟩

variable [Scheme κ σ] [DecidableEq σ]

lemma reconcile_stillHeld (hlimited : Limited t)
    (hphase : t.status.phase = .paused ∨ t.status.phase = .failed) :
    Triple (Holds t faults n) (r.reconcile env) (fun _ => StillHeld r env faults t n)
      (fun _ => StillHeld r env faults t n) := by
  refine triple_reconcile (fun _ s h => h.stillHeld hphase fun hp _ => hp) fun hpass => ?_
  refine triple_reconcileTask ?_ (fun _ s h => h.stillHeld hphase fun hp _ => hp) ?_ ?_ ?_ ?_
  · intro _ s h
    refine ⟨h.2,fun t' ht' => ?_⟩
    have hsame : t'.status.phase = t.status.phase := congrArg _ (h.1 t' ht').2
    exact ⟨hsame ▸ hphase,fun hp _ => hsame.trans hp⟩
  · intro _ _ _ s h
    refine h.stillHeld ?_ fun hp _ => ?_
    · unfold gatedTask
      split_ifs
      · exact .inl rfl
      · exact hphase
    · rw [gatedTask,if_neg (by simp [hp])]
      exact hp
  · intro _ _ _ _ s h
    refine h.stillHeld ?_ fun hp _ => ?_
    · unfold Reconciler.suspendedTask
      split_ifs
      · exact .inl rfl
      · exact hphase
    · rw [Reconciler.suspendedTask,if_neg (by simp [Reconciler.pauses,hp])]
      exact hp
  · intro hdel hfin hg hs err hr s h
    refine h.stillHeld ?_ fun hp hno => ?_
    · unfold unresolvedTask
      split_ifs
      · exact .inr rfl
      · exact hphase
    · have he : ¬takesEffect faults.tail = true := fun he =>
        hno ⟨hpass,he,hdel,hfin,hg,hs,by rw [hr]; rfl⟩
      rw [unresolvedTask,if_neg he]
      exact hp
  · intro _ _ _ _ provider _
    have hstop : TakesTo t faults.tail n (r.reconcilePhase env t provider) t := by
      unfold Reconciler.reconcilePhase
      rcases hphase with hp | hp
      · rw [hp]
        dsimp only
        unfold Reconciler.reconcilePaused
        cases hcheck : checkBudgetOrIterationLimit t with
        | none => exact absurd hcheck hlimited
        | some reason => exact terminal_takesTo t
      · rw [hp]
        exact terminal_takesTo t
    exact hstop.conseq (fun _ h => h) (fun _ s h => h.stillHeld hphase fun hp _ => hp)
      fun _ s h => h.stillHeld hphase fun hp _ => hp

variable (d : Deployment κ σ) {s : System} {a : Act}

/-- Since the pause no token was asked for, and the task is held. -/
def HeldSince (t : AgentTask) (n : ℕ) (s : System) : Prop :=
  s.mints = n ∧ Every (fun u => Held t u.status) s.cell

lemma Held.refuses {u : AgentTask} (h : Held t u.status) : meterable u = false := by
  rcases h.phase with hp | hp
  · simp [meterable,hp]
  · simp [meterable,hp,Phase.isTerminal]

lemma reconcile_heldSince (r : Reconciler κ σ) (env : Surroundings) (h : HeldSince t n s)
    (hlimits : Every (SameLimits t) s.cell) : HeldSince t n (finish (r.reconcile env) s).2 ∧
      ((∀ u, s.stored = some u → ¬r.Strands env s.cell.script u) → InPhase .paused s →
        InPhase .paused (finish (r.reconcile env) s).2) := by
  cases hst : s.stored with
  | none =>
    have hmissing : Keeps (fun s => s.stored = none ∧ s.mints = n) (r.reconcile env) := reconcile_missing
    obtain ⟨hnone,hmints⟩ := hmissing.finish ⟨hst,h.1⟩
    have hgone : ∀ P, Every P (finish (r.reconcile env) s).2.cell := by
      intro P u hu
      rw [show (finish (r.reconcile env) s).2.cell.objects () = none from hnone] at hu
      contradiction
    exact ⟨⟨hmints,hgone _⟩,fun _ _ => hgone _⟩
  | some u =>
    have hu := h.2 u hst
    have hsame := hlimits u hst
    have hlim : Limited u := hu.limited.congr ⟨hsame.1,hsame.2,hsame.3⟩ rfl rfl rfl
    have hwithin : Within u (finish (r.reconcile env) s).2 :=
      reconcile_within.finish (every_of_stored hst (.refl u))
    have hstill : StillHeld r env s.cell.script u n (finish (r.reconcile env) s).2 :=
      (reconcile_stillHeld hlim hu.phase).finish ⟨hst,rfl,h.1⟩
    refine ⟨⟨hstill.1,fun v hv => ?_⟩,fun hno hp v hv => ?_⟩
    · exact hu.congr (hwithin v hv).usage (hstill.2 v hv).1
    · exact (hstill.2 v hv).2 (hp u hst) (hno u rfl)

lemma step_heldSince (h : HeldSince t n s) (hlimits : Every (SameLimits t) s.cell) :
    HeldSince t n (d.step s a) ∧ ((∀ env u, a.op = .reconcile env → s.stored = some u →
        ¬d.reconciler.Strands env a.taskFaults u) → InPhase .paused s → InPhase .paused (d.step s a)) := by
  obtain ⟨op,taskFaults,secretFaults⟩ := a
  cases op with
  | reconcile env =>
    obtain ⟨hheld,hpaused⟩ := reconcile_heldSince d.reconciler env
      (s := Act.enter ⟨.reconcile env,taskFaults,secretFaults⟩ s) h hlimits
    exact ⟨hheld,fun hno => hpaused fun u hu => hno env u rfl hu⟩
  | meter now req =>
    obtain ⟨hserved,htrace⟩ :=
      serve_cases d now req (Act.enter ⟨.meter now req,taskFaults,secretFaults⟩ s)
    have hsame := (hserved.of_refusing fun u hu => (h.2 u hu).refuses).2
    refine ⟨⟨(congrArg (List.countP Effect.isMint) htrace).trans h.1,?_⟩,fun _ hp u hu => ?_⟩
    · exact fun u hu => h.2 u (hsame.symm.trans hu)
    · exact hp u (hsame.symm.trans hu)
  | pause | editSpec f =>
    exact ⟨⟨h.1,modifyObject_every (fun _ hu => hu) h.2⟩,fun _ hp =>
      modifyObject_every (fun _ hu => hu) hp⟩
  | resume req =>
    refine ⟨⟨h.1,resumeTask_every _ _ (fun _ _ _ hu => hu) (fun u hu => ?_) h.2⟩,fun _ hp =>
      resumeTask_every _ _ (fun _ _ _ hu => hu) (fun _ hu => hu) hp⟩
    exact hu.congr ⟨rfl,rfl,rfl,.inr rfl⟩ hu.phase
  | delete =>
    exact ⟨⟨h.1,deleteTask_every (fun _ hu => hu) h.2⟩,fun _ hp =>
      deleteTask_every (fun _ hu => hu) hp⟩

/-- A task that a request has paused stays without a new token for as long as its limits stand, in
every later history. Its phase stays the pause, but for a reconcile that cannot have its provider,
which fails the task. -/
theorem budget_pause_sticks (t t₁ : AgentTask) (now : ℤ) (req : HTTPRequest)
    (taskFaults secretFaults : List Fault) (B : ℚ) (acts : List Act) (hs : s.stored = some t)
    (hrunning : t.status.phase ≠ .paused)
    (hpaused : (d.step s ⟨.meter now req,taskFaults,secretFaults⟩).stored = some t₁)
    (hphase : t₁.status.phase = .paused)
    (hB : parseFloat t.spec.budgetUSD = some (.finite B)) (hpos : 0 < B) (hB4 : ∃ n : ℤ, B = n / 10 ^ 4)
    (htokens : ∀ claims, d.handler.requestClaims d.reconciler.unmarshal now req.method
      req.authorization = .ok claims → 0 < t.spec.budgetTokens ∨ claims.maxTokens ≤ 0)
    (hlimits : ∀ pre, pre <+: acts → ∀ u, (run d.step
      (d.step s ⟨.meter now req,taskFaults,secretFaults⟩) pre).stored = some u → SameLimits t₁ u) :
    (∀ pre, pre <+: acts →
      (run d.step (d.step s ⟨.meter now req,taskFaults,secretFaults⟩) pre).mints =
        (d.step s ⟨.meter now req,taskFaults,secretFaults⟩).mints ∧
      ∀ u, (run d.step (d.step s ⟨.meter now req,taskFaults,secretFaults⟩) pre).stored = some u →
        u.status.phase = .paused ∨ u.status.phase = .failed) ∧
    (EveryStep d.step (fun s a => ∀ env u, a.op = .reconcile env → s.stored = some u →
        ¬d.reconciler.Strands env a.taskFaults u)
        (d.step s ⟨.meter now req,taskFaults,secretFaults⟩) acts → ∀ pre, pre <+: acts → ∀ u,
        (run d.step (d.step s ⟨.meter now req,taskFaults,secretFaults⟩) pre).stored = some u →
          u.status.phase = .paused) := by
  have hserved := (serve_cases d now req
    (Act.enter ⟨.meter now req,taskFaults,secretFaults⟩ s)).1
  have hlimited := (hserved.pausedLimited hs hrunning hB hpos hB4 htokens t₁ hpaused).limited hphase
  generalize hs₁ : d.step s ⟨.meter now req,taskFaults,secretFaults⟩ = s₁ at hpaused hlimits ⊢
  have hstart : HeldSince t₁ s₁.mints s₁ := ⟨rfl,every_of_stored hpaused ⟨hlimited,.inl hphase⟩⟩
  have hkept : EveryStep d.step (fun s _ => Every (SameLimits t₁) s.cell) s₁ acts :=
    everyStep_of_reached fun pre a hpre => hlimits pre ((List.prefix_append pre [a]).trans hpre)
  constructor
  · intro pre hpre
    have hheld := hkept.reaches (P := HeldSince t₁ s₁.mints)
      (fun s a hl h => (step_heldSince d h hl).1) hstart pre hpre
    exact ⟨hheld.1,fun u hu => (hheld.2 u hu).phase⟩
  · intro hno pre hpre
    have hheld := (hkept.and hno).reaches (P := fun s => HeldSince t₁ s₁.mints s ∧ InPhase .paused s)
      (fun s a hc h => ⟨(step_heldSince d h.1 hc.1).1,(step_heldSince d h.1 hc.1).2 hc.2 h.2⟩)
      ⟨hstart,every_of_stored hpaused hphase⟩ pre hpre
    exact hheld.2

end

def unsuspend : Act := { op := .editSpec fun spec => { spec with suspended := false } }

def overdrawnTask : AgentTask :=
  { thriftyTask with
    spec := { thriftyTask.spec with suspended := true }
    status :=
      { phase := .paused, costUSD := "0.0002", message := "Budget exceeded"
        lastMeterRequestIDs := ["r1"] } }

/-- The task is resumed by hand and reconciled, and is still paused, without a new token. -/
theorem overdrawn_task_stays_paused :
    (meteringDeployment.step (systemOf thriftyTask) (spend "r1" (2/10000))).stored =
      some overdrawnTask ∧ ∀ pre, pre <+: [unsuspend,⟨.reconcile calm,[],[]⟩] →
      (run meteringDeployment.step (meteringDeployment.step (systemOf thriftyTask)
        (spend "r1" (2/10000))) pre).mints = 0 := by
  have hpaused : (meteringDeployment.step (systemOf thriftyTask) (spend "r1" (2/10000))).stored =
      some overdrawnTask := by
    rw [step_spend]
    decide +kernel
  have hmints : (meteringDeployment.step (systemOf thriftyTask) (spend "r1" (2/10000))).mints = 0 := by
    rw [step_spend]
    decide +kernel
  have hsticks := budget_pause_sticks meteringDeployment thriftyTask overdrawnTask 0
    ⟨"POST",bearerHeader (rotationText [1]),some { requestID := "r1", costUSD := 2/10000 }⟩ [] []
    (1/10000) [unsuspend,⟨.reconcile calm,[],[]⟩] (s := systemOf thriftyTask) rfl (by decide) hpaused rfl
    (by decide +kernel) (by decide +kernel) ⟨1,by norm_num⟩ ?_ ?_
  · exact ⟨hpaused,fun pre hpre => ((hsticks.1 pre hpre).1).trans hmints⟩
  · intro claims hclaims
    rw [requestClaims_spend] at hclaims
    obtain rfl := Except.ok.inj hclaims
    exact .inr (by decide)
  · intro pre hpre u hu
    have hview : (run meteringDeployment.step (spendOutcome (systemOf thriftyTask) "r1" (2/10000)).2
        pre).stored.map (fun u => (u.spec.budgetUSD,u.spec.budgetTokens,u.spec.maxIterations)) =
          some ("0.0001",0,0) := by
      rcases List.prefix_cons_iff.mp hpre with rfl | ⟨rest,rfl,hrest⟩
      · decide +kernel
      · rcases List.prefix_cons_iff.mp hrest with rfl | ⟨rest',rfl,hnil⟩
        · decide +kernel
        · rw [List.prefix_nil.mp hnil]
          decide +kernel
    rw [← step_spend,spend] at hview
    rw [hu,Option.map_some,Option.some.injEq,Prod.mk.injEq,Prod.mk.injEq] at hview
    exact ⟨hview.1,hview.2.1,hview.2.2⟩

def cappedToken : Macaroon Key :=
  let caveats := mintCaveats rotationClaims [1] ++ [⟨"max_tokens",opLessThan,"10"⟩]
  ⟨"fix-login","diverge-cluster",caveats,signatureOf Key.secret "fix-login" caveats⟩

def cappedClaims : Claims := { rotationClaims with maxTokens := 10 }

def cappedDeployment : Deployment Key Key :=
  { sampleDeployment with
    reconciler := { sampleDeployment.reconciler with unmarshal := decoderOf [cappedToken] } }

def unlimitedTask : AgentTask :=
  { name := "fix-login"
    ns := "team-a"
    finalizers := [agentTaskFinalizer]
    spec := { repositoryURL := "https://example.com/app.git", budgetUSD := "5" }
    status := { phase := .active, sandboxPodName := "fix-login-pod" } }

def burn (tokensUsed : ℤ) : Act :=
  { op := .meter 0 ⟨"POST",bearerHeader (cappedToken.serialize Key.text),
      some { requestID := "r1", tokensUsed := tokensUsed }⟩ }

def burnOutcome (s : System) (tokensUsed : ℤ) : MeterReply × System :=
  finish (cappedDeployment.handler.serveClaims sampleSum256 .halfEven
    cappedDeployment.reconciler.quote cappedDeployment.isHTTPURL cappedClaims
    (some { requestID := "r1", tokensUsed := tokensUsed }))
      ⟨⟨s.cell.objects,[]⟩,⟨s.secrets.objects,[]⟩,s.trace⟩

lemma step_burn (s : System) (tokensUsed : ℤ) :
    cappedDeployment.step s (burn tokensUsed) = (burnOutcome s tokensUsed).2 := by
  have hclaims : cappedDeployment.handler.requestClaims cappedDeployment.reconciler.unmarshal 0 "POST"
      (bearerHeader (cappedToken.serialize Key.text)) = .ok cappedClaims :=
    requestClaims_bearer cappedDeployment (by decide +kernel) (by decide +kernel) rfl
      (show secretProvider.verifyAndExtract (decoderOf [cappedToken]) 0 (cappedToken.serialize Key.text) =
        .ok (cappedToken,cappedClaims) by decide +kernel)
  rw [burn,step_meter,serve_verified cappedDeployment hclaims]
  rfl

/-- A pause for the budget ends in a failure where the provider is missing. A pause for the limit
that only the token states is not seen by the reconciler, which gives the task a new token. -/
theorem budget_pause_ends :
    (meteringDeployment.step (systemOf thriftyTask) (spend "r1" (2/10000))).stored =
      some overdrawnTask ∧
    (run meteringDeployment.step (meteringDeployment.step (systemOf thriftyTask)
      (spend "r1" (2/10000))) [unsuspend,⟨.reconcile { calm with providers := fun _ => none },[],[]⟩]
        ).stored.map (fun u => (u.spec.budgetUSD,u.status.phase)) = some ("0.0001",.failed) ∧
    (cappedDeployment.step (systemOf unlimitedTask) (burn 11)).stored.map (·.status.phase) =
      some .paused ∧
    (cappedDeployment.step (systemOf unlimitedTask) (burn 11)).mints = 0 ∧
    (run cappedDeployment.step (cappedDeployment.step (systemOf unlimitedTask) (burn 11))
      [unsuspend,⟨.reconcile calm,[],[]⟩]).stored.map (fun u => (u.spec.budgetTokens,u.status.phase)) =
        some (0,.active) ∧
    (run cappedDeployment.step (cappedDeployment.step (systemOf unlimitedTask) (burn 11))
      [unsuspend,⟨.reconcile calm,[],[]⟩]).mints = 1 := by
  rw [step_spend,step_burn]
  refine ⟨by decide +kernel,by decide +kernel,by decide +kernel,by decide +kernel,by decide +kernel,
    by decide +kernel⟩

end Diverge.Tasks
