import Diverge.Environments.Histories

/-! The database provider of an environment along its history: which one a run resolves to, and
when all runs resolve to the one that provisioned first. -/
namespace Diverge.Environments
open Text Transition

/-- The provider that a database call goes to. -/
def databaseChoice : ProviderCall → Option DatabaseChoice
  | .provisionDatabase c | .teardownDatabase c => some c
  | _ => none

def pinned (calls : List ProviderCall) : Option DatabaseChoice :=
  calls.findSome? fun
    | .provisionDatabase c => some c
    | _ => none

/-- All database calls go to the provider that provisioned first. -/
def OneProvider (calls : List ProviderCall) : Prop :=
  ∀ p ∈ pinned calls, ∀ call ∈ calls, ∀ c ∈ databaseChoice call, c = p

section
variable (op : Operator) (env : Environment)

/-- The annotation names a provider, or the mode does where the operator has none of its own. -/
def asksFor (name : String) : Bool :=
  let explicit := trimSpace ( env.annotation annotationDatabaseProvider)
  if explicit = "" then
    trimSpace env.spec.database.mode == name && ["snapshot","cnpg","fresh"].contains name &&
      op.databaseProvider.getD true
  else explicit == name

/-- Neither the annotation nor the mode asks for a provider. -/
def asksForNone : Bool :=
  trimSpace ( env.annotation annotationDatabaseProvider) == "" &&
    !(["snapshot","cnpg","fresh"].contains (trimSpace env.spec.database.mode) &&
      op.databaseProvider.getD true)

/-- To a named provider by the status, or while that is empty by the annotation or mode; to the
operator's own by nothing. -/
def pointsTo : DatabaseChoice → Bool
  | .operator => trimSpace env.status.databaseProvider == "" && asksForNone op env
  | .named name => name != "" &&
      (trimSpace env.status.databaseProvider == name ||
        (trimSpace env.status.databaseProvider == "" && asksFor op env name))

/-- A reconcile reads an object that points to the provider that provisioned first. -/
def PointsToPinned (s : Ledger) : LedgerAction → Prop
  | .reconcile _ _ =>
    (s.stored.all fun env => (pinned s.calls).all (pointsTo op env)) = true
  | _ => True

instance (s : Ledger) (a : LedgerAction) : Decidable (PointsToPinned op s a) := by
  cases a with
  | reconcile _ _ => exact inferInstanceAs (Decidable (_ = true))
  | edit _ _ | delete _ => exact inferInstanceAs (Decidable True)

end

section
variable {op : Operator} {env : Environment} {create : String → Except String Unit}
  {forTeardown : Bool} {c : DatabaseChoice}

variable {name : String}

lemma createDatabaseProvider_eq_ok (h : createDatabaseProvider op create name = .ok c) : c = .named name := by
  unfold createDatabaseProvider at h
  split_ifs at h
  cases hcreate : create name with
  | error e => simp [hcreate] at h
  | ok _ =>
    rw [hcreate] at h
    exact (Except.ok.inj h).symm

lemma databaseCandidate_of_asksForNone (h : asksForNone op env = true) :
    databaseCandidate op env = .ok none := by
  simp only [asksForNone,Bool.and_eq_true,beq_iff_eq,Bool.not_eq_true',Bool.and_eq_false_iff] at h
  unfold databaseCandidate
  rw [if_neg (by simp [h.1]),if_neg]
  rintro ⟨hmode,hdefault⟩
  rcases h.2 with h | h
  · simp [hmode] at h
  · simp [hdefault] at h

lemma databaseCandidate_of_asksFor (h : asksFor op env name = true)
    {o : Option String} (ho : databaseCandidate op env = .ok o) : o = some name := by
  unfold asksFor at h
  unfold databaseCandidate at ho
  dsimp only at h ho
  by_cases hexplicit : trimSpace ( env.annotation annotationDatabaseProvider) = ""
  · simp only [hexplicit,if_true,Bool.and_eq_true,beq_iff_eq,List.contains_iff_mem] at h
    obtain ⟨⟨hmode,hmem⟩,hdefault⟩ := h
    rw [if_neg (by simp [hexplicit]),if_pos ⟨hmode ▸ hmem,hdefault⟩] at ho
    rw [← Except.ok.inj ho,hmode]
  · rw [if_neg hexplicit,beq_iff_eq] at h
    rw [if_pos hexplicit] at ho
    split_ifs at ho
    rw [← Except.ok.inj ho,h]

lemma resolve_unrecorded (h : trimSpace env.status.databaseProvider = "") :
    resolveDatabaseProvider op env create forTeardown = (databaseCandidate op env >>= fun candidate =>
        match candidate with
        | some name => createDatabaseProvider op create name
        | none => .ok .operator) := by
  unfold resolveDatabaseProvider
  have hrecorded : ¬(forTeardown = true ∧ trimSpace env.status.databaseProvider ≠ "" ∧
      op.databaseRegistered (trimSpace env.status.databaseProvider) = true) := fun hr => hr.2.1 h
  rw [if_neg hrecorded]
  refine bind_congr fun candidate => ?_
  exact if_neg (not_not.mpr h)

lemma resolve_recorded (hname : name ≠ "") (hrec : trimSpace env.status.databaseProvider = name)
    (h : resolveDatabaseProvider op env create forTeardown = .ok c) : c = .named name := by
  unfold resolveDatabaseProvider at h
  dsimp only at h
  rw [hrec] at h
  split_ifs at h with hteardown
  · cases hcreate : create name with
    | error e => simp [hcreate] at h
    | ok _ =>
      rw [hcreate] at h
      exact (Except.ok.inj h).symm
  · cases hcand : databaseCandidate op env with
    | error e =>
      rw [hcand] at h
      cases h
    | ok candidate =>
      rw [hcand] at h
      change (if candidate.any (· != name) = true then _ else _) = _ at h
      split_ifs at h
      exact createDatabaseProvider_eq_ok h

theorem resolves_to_pointed {p : DatabaseChoice} (hp : pointsTo op env p = true)
    (h : resolveDatabaseProvider op env create forTeardown = .ok c) : c = p := by
  cases p with
  | operator =>
    simp only [pointsTo,Bool.and_eq_true,beq_iff_eq] at hp
    rw [resolve_unrecorded hp.1,databaseCandidate_of_asksForNone hp.2] at h
    exact (Except.ok.inj h).symm
  | named name =>
    simp only [pointsTo,Bool.and_eq_true,Bool.or_eq_true,beq_iff_eq,bne_iff_ne] at hp
    rcases hp with ⟨hname,hrec | ⟨hrec,hasks⟩⟩
    · exact resolve_recorded hname hrec h
    · rw [resolve_unrecorded hrec] at h
      cases hcand : databaseCandidate op env with
      | error e =>
        rw [hcand] at h
        cases h
      | ok candidate =>
        rw [hcand] at h
        obtain rfl := databaseCandidate_of_asksFor hasks hcand
        exact createDatabaseProvider_eq_ok h

variable {ans : Answers} {tans : TeardownAnswers} {calls later : List ProviderCall}

lemma reconcile_databaseChoice {call : ProviderCall} {c : DatabaseChoice}
    (hcall : call ∈ (reconcile op ans tans env).1) (hc : c ∈ databaseChoice call) :
    c.present op = true ∧ (env.deleting = true ∧ call = .teardownDatabase c ∧
        resolveDatabaseProvider op env tans.createDatabase true = .ok c ∨
      env.deleting = false ∧ call = .provisionDatabase c ∧
        resolveDatabaseProvider op env ans.createDatabase false = .ok c) := by
  rcases reconcile_calls hcall with ⟨hdel,⟨-,route,-,rfl⟩ | ⟨choice,hres,hpresent,rfl⟩ | ⟨f,-,rfl⟩⟩ |
    ⟨hdel,⟨choice,rfl,hpresent,hres⟩ | ⟨route,-,rfl⟩ | ⟨f,o,rfl,-⟩⟩
  · cases hc
  · obtain rfl := Option.mem_some_iff.mp hc
    exact ⟨hpresent,.inl ⟨hdel,rfl,hres⟩⟩
  · cases hc
  · obtain rfl := Option.mem_some_iff.mp hc
    exact ⟨hpresent,.inr ⟨hdel,rfl,hres⟩⟩
  · cases hc
  · cases hc

lemma pinned_append : pinned (calls ++ later) = (pinned calls).or (pinned later) :=
  List.findSome?_append

lemma mem_of_pinned {p : DatabaseChoice} (h : pinned calls = some p) : .provisionDatabase p ∈ calls := by
  obtain ⟨call,hcall,hsome⟩ := List.exists_of_findSome?_eq_some h
  cases call with
  | provisionDatabase c =>
    obtain rfl := Option.some.inj hsome
    exact hcall
  | _ => cases hsome

lemma not_mem_of_pinned_eq_none (h : pinned calls = none) (c : DatabaseChoice) :
    .provisionDatabase c ∉ calls := fun hc =>
  absurd (List.findSome?_eq_none_iff.mp h _ hc) (by simp)

/-- What holds along a history whose reconciles read objects that point to the provider that
provisioned first. -/
structure PinnedSoFar (op : Operator) (s : Ledger) : Prop where
  one : OneProvider s.calls
  present : ∀ p ∈ pinned s.calls, p.present op = true
  torn : ∀ c, .teardownDatabase c ∈ s.calls → ∀ env ∈ s.stored, env.deleting = true

lemma reconcile_oneChoice {x y : ProviderCall} {c d : DatabaseChoice}
    (hx : x ∈ (reconcile op ans tans env).1) (hc : c ∈ databaseChoice x)
    (hy : y ∈ (reconcile op ans tans env).1) (hd : d ∈ databaseChoice y) : c = d := by
  rcases (reconcile_databaseChoice hx hc).2 with ⟨h₁,-,hc⟩ | ⟨h₁,-,hc⟩ <;>
    rcases (reconcile_databaseChoice hy hd).2 with ⟨h₂,-,hd⟩ | ⟨h₂,-,hd⟩
  · exact Except.ok.inj (hc.symm.trans hd)
  · rw [h₁] at h₂
    cases h₂
  · rw [h₁] at h₂
    cases h₂
  · exact Except.ok.inj (hc.symm.trans hd)

lemma reconcile_deleting (h : env.deleting = true) :
    ∀ env' ∈ ((reconcile op ans tans env).2.stored ans env).remaining, env'.deleting = true := by
  have hend : (reconcile op ans tans env).2 = .tornDown (handleTeardown op tans env).2 := by
    simp only [reconcile,h,if_true]
  have hstored : ((reconcile op ans tans env).2.stored ans env).deleting = true := by
    rw [hend]
    change ((handleTeardown op tans env).2.stored env).deleting = true
    cases (handleTeardown op tans env).2 <;> exact h
  intro env' henv'
  unfold Environment.remaining at henv'
  split_ifs at henv'
  · cases henv'
  · rw [← Option.mem_some_iff.mp henv']
    exact hstored

lemma reconcile_oneProvider (h : PinnedSoFar op ⟨some env,calls⟩)
    (hpoints : ∀ p ∈ pinned calls, pointsTo op env p = true) :
    OneProvider (calls ++ (reconcile op ans tans env).1) := by
  intro p hp call hcall c hc
  rw [pinned_append] at hp
  cases hfirst : pinned calls with
  | some q =>
    rw [hfirst] at hp
    obtain rfl : q = p := Option.some.inj hp
    rcases List.mem_append.mp hcall with hcall | hcall
    · exact h.one q hfirst call hcall c hc
    · rcases (reconcile_databaseChoice hcall hc).2 with ⟨-,-,hres⟩ | ⟨-,-,hres⟩
      · exact resolves_to_pointed (hpoints q hfirst) hres
      · exact resolves_to_pointed (hpoints q hfirst) hres
  | none =>
    rw [hfirst] at hp
    have hnew := mem_of_pinned hp
    rcases List.mem_append.mp hcall with hcall | hcall
    · cases call with
      | provisionDatabase d => exact absurd hcall (not_mem_of_pinned_eq_none hfirst d)
      | teardownDatabase d =>
        have hdel := h.torn d hcall env rfl
        rcases (reconcile_databaseChoice hnew rfl).2 with ⟨-,hne,-⟩ | ⟨hlive,-,-⟩
        · cases hne
        · rw [hdel] at hlive
          cases hlive
      | _ => cases hc
    · exact reconcile_oneChoice hcall hc hnew rfl

theorem step_pinnedSoFar {s : Ledger} {a : LedgerAction} (h : PinnedSoFar op s)
    (hpoints : PointsToPinned op s a) : PinnedSoFar op (s.step op a) := by
  obtain ⟨stored,calls⟩ := s
  cases stored with
  | none => exact h
  | some env =>
    cases a with
    | edit annotations spec =>
      refine ⟨h.one,h.present,fun c hc env' henv' => ?_⟩
      rw [← Option.mem_some_iff.mp henv']
      exact h.torn c hc env rfl
    | delete now =>
      refine ⟨h.one,h.present,fun c hc env' henv' => ?_⟩
      change env' ∈ requestDeletion now env at henv'
      unfold requestDeletion at henv'
      split_ifs at henv'
      · cases henv'
      · rw [← Option.mem_some_iff.mp henv']
        rfl
    | reconcile ans tans =>
      have hpoints : ∀ p ∈ pinned calls, pointsTo op env p = true := by
        intro p hp
        simpa [PointsToPinned,Option.mem_def.mp hp] using hpoints
      refine ⟨reconcile_oneProvider h hpoints,fun p hp => ?_,fun c hc => ?_⟩
      · change p ∈ pinned (calls ++ _) at hp
        rw [pinned_append] at hp
        cases hfirst : pinned calls with
        | some q =>
          rw [hfirst] at hp
          exact Option.some.inj hp ▸ h.present q hfirst
        | none =>
          rw [hfirst] at hp
          exact (reconcile_databaseChoice (mem_of_pinned hp) rfl).1
      · rcases List.mem_append.mp hc with hc | hc
        · exact reconcile_deleting (h.torn c hc env rfl)
        · rcases (reconcile_databaseChoice hc rfl).2 with ⟨hdel,-,-⟩ | ⟨-,hne,-⟩
          · exact reconcile_deleting hdel
          · cases hne

lemma released_tearsDown_pinned {s : Ledger} (h : PinnedSoFar op s)
    (hreleased : (handleTeardown op tans env).2 = .released []) {p : DatabaseChoice}
    (hp : p ∈ pinned s.calls) (hpoints : pointsTo op env p = true) :
    .teardownDatabase p ∈ (handleTeardown op tans env).1 := by
  obtain ⟨choice,hres⟩ := released_resolves hreleased
  obtain rfl := resolves_to_pointed hpoints hres
  exact (mem_released_calls hreleased).mpr (.inr (.inl ⟨choice,hres,h.present choice hp,rfl⟩))

end

section
variable (op : Operator) (created : Environment) (history : List LedgerAction)

/-- Along a history whose reconciles all read an object that points to the provider that
provisioned first, all database calls go to that provider, and its teardown has succeeded where
the finalizer is removed without a bypass. -/
theorem database_pinned
    (h : EveryStep (Ledger.step op) (PointsToPinned op) ⟨some created,[]⟩ history) :
    (∀ pre, pre <+: history → OneProvider (run (Ledger.step op) ⟨some created,[]⟩ pre).calls) ∧
    ∀ pre ans tans env, pre ++ [.reconcile ans tans] <+: history →
      (run (Ledger.step op) ⟨some created,[]⟩ pre).stored = some env → env.deleting = true →
      (handleTeardown op tans env).2 = .released [] →
      ∀ p ∈ pinned (run (Ledger.step op) ⟨some created,[]⟩ pre).calls,
        .teardownDatabase p ∈ (reconcile op ans tans env).1 := by
  have hinit : PinnedSoFar op ⟨some created,[]⟩ :=
    ⟨fun _ hp => absurd hp nofun,fun _ hp => absurd hp nofun,fun _ hc => absurd hc List.not_mem_nil⟩
  have hso := h.reaches (P := PinnedSoFar op) (fun _ _ hc hs => step_pinnedSoFar hs hc) hinit
  refine ⟨fun pre hpre => (hso pre hpre).one,?_⟩
  intro pre ans tans env hpre hstored hdel hreleased p hp
  have hpoints := h.reached pre _ hpre
  simp only [PointsToPinned,hstored,Option.all_some,Option.mem_def.mp hp] at hpoints
  have hmem := released_tearsDown_pinned (hso pre ((List.prefix_append _ _).trans hpre)) hreleased hp
    hpoints
  simpa only [reconcile,hdel,if_true] using hmem

end

def databaseOperator : Operator :=
  { plainOperator with databaseProvider := some false, databaseRegistered := (· == "cnpg") }

def annotated : Environment where
  name := "preview"
  ns := "team"
  annotations := [(annotationDatabaseProvider,"cnpg")]
  finalizers := [environmentFinalizer]

def unannotated : Environment := { annotated with annotations := [] }

def reconcileTwice : List LedgerAction :=
  [.reconcile { now := 0 } { now := 0 },.reconcile { now := 0 } { now := 0 },.delete 0,
    .reconcile { now := 0 } { now := 0 }]

def annotateBetween : List LedgerAction :=
  [.reconcile { now := 0 } { now := 0 },.edit [(annotationDatabaseProvider,"cnpg")] {},
    .reconcile { now := 0 } { now := 0 }]

theorem annotated_pinned :
    EveryStep (Ledger.step databaseOperator) (PointsToPinned databaseOperator)
      ⟨some annotated,[]⟩ reconcileTwice ∧ ∀ pre, pre <+: reconcileTwice →
      OneProvider (run (Ledger.step databaseOperator) ⟨some annotated,[]⟩ pre).calls := by
  have h : EveryStep (Ledger.step databaseOperator) (PointsToPinned databaseOperator)
      ⟨some annotated,[]⟩ reconcileTwice := by decide +kernel
  exact ⟨h,(database_pinned databaseOperator annotated reconcileTwice h).1⟩

/-- The operator's own provider is replaced once the annotation names another. -/
theorem annotation_switches_provider :
    (run (Ledger.step databaseOperator) ⟨some unannotated,[]⟩ annotateBetween).calls =
      [.provisionDatabase .operator,.provisionDatabase (.named "cnpg")] ∧
    ¬ OneProvider (run (Ledger.step databaseOperator) ⟨some unannotated,[]⟩
      annotateBetween).calls := by
  have hcalls : (run (Ledger.step databaseOperator) ⟨some unannotated,[]⟩ annotateBetween).calls =
      [.provisionDatabase .operator,.provisionDatabase (.named "cnpg")] := by decide +kernel
  refine ⟨hcalls,fun h => ?_⟩
  rw [hcalls] at h
  exact absurd (h .operator rfl (.provisionDatabase (.named "cnpg")) (by simp) _ rfl) (by decide)

end Diverge.Environments
