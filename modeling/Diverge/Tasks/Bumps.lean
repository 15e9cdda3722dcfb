import Diverge.Tasks.Service
import Diverge.Text.Amounts

/-! Raising the limits of a task: the request to resume it, and the comments `/diverge resume` and
`/diverge budget`. The three read and write the limits in their own ways; a task is limited to what
the metering endpoint reads from its spec. -/
namespace Diverge.Tasks
open Text

structure Bump where
  usd : Option Number := none
  tokens : ℤ := 0
  deriving DecidableEq

/-- Why the arguments of a comment are refused, with the argument. -/
inductive ResumeArgError
  | invalidBudgetAmount (arg : String)
  | unrecognizedArgument (arg : String)
  deriving DecidableEq

/-- One argument: an amount with a sign, a currency or a point, a number of tokens, or an amount
that is no integer. -/
def readResumeArg (bump : Bump) (arg : String) : Except ResumeArgError Bump :=
  let clean := trimSpace arg
  if hasPrefix clean "+$" || hasPrefix clean "$" || hasPrefix clean "+" || contains clean "." then
    match parseFloat (trimPrefix (trimPrefix (trimPrefix clean "+") "$") "+") with
    | some val =>
      if val.le (.finite 0) then .error (.invalidBudgetAmount arg) else .ok { bump with usd := some val }
    | none => .error (.invalidBudgetAmount arg)
  else
    match (parseInt clean).filter (0 < ·) with
    | some tokens => .ok { bump with tokens := tokens }
    | none =>
      match (parseFloat clean).filter (Number.lt (.finite 0)) with
      | some val => .ok { bump with usd := some val }
      | none => .error (.unrecognizedArgument arg)

/-- The amounts that the words of a comment ask for; the first word is the command. -/
def readResumeArgs (fields : List String) : Except ResumeArgError Bump :=
  fields.tail.foldlM readResumeArg {}

/-- `parseResumeArgs`: the amount is passed on with two decimals. -/
def parseResumeArgs (m : Rounding) (fields : List String) : Except ResumeArgError (String × ℤ) :=
  (readResumeArgs fields).map fun bump => ((bump.usd.map (formatNumber m 2)).getD "",bump.tokens)

/-- The budget that a comment adds to. -/
def currentBudget (spec : AgentTaskSpec) : Number :=
  if spec.budgetUSD = "" then .finite 0
  else (parseFloat (trimPrefix (trimSpace spec.budgetUSD) "$")).getD (.finite 0)

/-- The spec that `executeBudgetCommand` writes. -/
def budgetSpec (m : Rounding) (budgetUSD : String) (tokens : ℤ) (task : AgentTask) : AgentTaskSpec :=
  { task.spec with
    budgetUSD :=
      if budgetUSD = "" then task.spec.budgetUSD
      else formatNumber m 2 ((currentBudget task.spec).add ((parseFloat budgetUSD).getD (.finite 0)))
    budgetTokens :=
      if 0 < tokens then int64 (task.spec.budgetTokens + tokens) else task.spec.budgetTokens }

/-- The spec that `executeSuspendTaskCommand` writes for `/diverge resume`. -/
def commentResumedSpec (m : Rounding) (budgetUSD : String) (tokens : ℤ) (task : AgentTask) : AgentTaskSpec :=
  { budgetSpec m budgetUSD tokens task with
    suspended := false
    maxIterations :=
      if 0 < task.spec.maxIterations ∧ task.spec.maxIterations ≤ task.status.iteration then
        int32 (task.status.iteration + 5)
      else task.spec.maxIterations }

/-- The ways to raise the limits of a task. -/
inductive RaiseCommand
  | resumeTask (req : ResumeTaskRequest)
  | resumeComment (fields : List String)
  | budgetComment (fields : List String)

/-- What a command asks to add, if it is accepted. -/
def RaiseCommand.bump : RaiseCommand → Option Bump
  | .resumeTask req => (readBump req).toOption.map fun usd => ⟨usd.map .finite,req.budgetTokensBump⟩
  | .resumeComment fields => (readResumeArgs fields).toOption
  | .budgetComment fields => (readResumeArgs fields).toOption

/-- The spec that an accepted command writes. -/
def RaiseCommand.spec (m : Rounding) (task : AgentTask) : RaiseCommand → Option AgentTaskSpec
  | .resumeTask req => (readBump req).toOption.map fun usd => resumedSpec m usd req.budgetTokensBump task
  | .resumeComment fields =>
    (parseResumeArgs m fields).toOption.map fun args => commentResumedSpec m args.1 args.2 task
  | .budgetComment fields =>
    (parseResumeArgs m fields).toOption.map fun args => budgetSpec m args.1 args.2 task

/-- Whether a command resumes the task. -/
def RaiseCommand.resumes : RaiseCommand → Bool
  | .budgetComment _ => false
  | _ => true

/-- The amount that a command reads from the spec. -/
def RaiseCommand.existing (spec : AgentTaskSpec) : RaiseCommand → Number
  | .resumeTask _ => .finite ((readAmount (normalizeBudgetBumpString spec.budgetUSD)).getD 0)
  | _ => currentBudget spec

/-- The amount that a command adds: comments round it first. -/
def RaiseCommand.increment (m : Rounding) (q : ℚ) : RaiseCommand → ℚ
  | .resumeTask _ => q
  | _ => m.roundTo 2 q

section

/-- The limit on the cost; none is no limit. -/
def usdLimit (spec : AgentTaskSpec) : Option ℚ :=
  match specBudgetUSD spec with
  | some (.finite q) => some q
  | _ => none

/-- A limit on the cost is raised by an amount, or stays absent. -/
def RaisedUSD : Option ℚ → Number → Option ℚ → Prop
  | none,_,new => new = none
  | some _,_,none => True
  | some old,.finite q,some new => old + q ≤ new
  | some _,_,some _ => False

/-- All limits are raised as asked: a limit of zero or less is none. -/
structure Raised (old : AgentTaskSpec) (bump : Bump) (new : AgentTaskSpec) : Prop where
  usd : RaisedUSD (usdLimit old) (bump.usd.getD (.finite 0)) (usdLimit new)
  tokens : if 0 < old.budgetTokens then old.budgetTokens + bump.tokens ≤ new.budgetTokens
    else new.budgetTokens ≤ 0
  iterations : if 0 < old.maxIterations then old.maxIterations ≤ new.maxIterations
    else new.maxIterations ≤ 0

/-- The condition under which a command raises the limits of a task. -/
structure Raisable (m : Rounding) (cmd : RaiseCommand) (task : AgentTask) (bump : Bump) : Prop where
  usd : ∀ q, bump.usd = some (.finite q) →
    match usdLimit task.spec with
    | some limit =>
      m.roundTo 2 (limit + cmd.increment m q) ≤ 0 ∨ limit + q ≤ m.roundTo 2 (limit + cmd.increment m q)
    | none => ∀ e, cmd.existing task.spec = .finite e → m.roundTo 2 (e + cmd.increment m q) ≤ 0
  tokens : 0 < bump.tokens →
    if 0 < task.spec.budgetTokens then task.spec.budgetTokens + bump.tokens ≤ maxInt64
    else task.spec.budgetTokens + bump.tokens ≤ 0
  iterations : cmd.resumes = true → 0 < task.spec.maxIterations →
    task.spec.maxIterations ≤ task.status.iteration → task.status.iteration + 5 ≤ 2147483647

variable {m : Rounding} {spec : AgentTaskSpec}

/-- The limit that a number stands for. -/
def numberLimit : Number → Option ℚ
  | .finite q => if 0 < q then some q else none
  | _ => none

variable {n : Number} {limit : ℚ} {s : String}

lemma usdLimit_of_parse (h : parseFloat spec.budgetUSD = some n) : usdLimit spec = numberLimit n := by
  unfold usdLimit specBudgetUSD
  rw [if_neg (ne_empty_of_parseFloat h),h,Option.filter_some]
  cases n with
  | finite q =>
    by_cases hq : 0 < q
    · simp [Number.lt,numberLimit,hq]
    · simp [Number.lt,numberLimit,hq]
  | inf negative => cases negative <;> rfl
  | nan => rfl

lemma parse_of_usdLimit (h : usdLimit spec = some limit) :
    parseFloat spec.budgetUSD = some (.finite limit) := by
  cases hparse : parseFloat spec.budgetUSD with
  | none =>
    unfold usdLimit specBudgetUSD at h
    rw [hparse] at h
    split_ifs at h
    all_goals cases h
  | some n =>
    rw [usdLimit_of_parse hparse] at h
    cases n with
    | finite q =>
      simp only [numberLimit] at h
      split_ifs at h
      cases h
      rfl
    | inf negative | nan => cases h

lemma usdLimit_of_finite {q : ℚ} (h : spec.budgetUSD = formatNumber m 2 (.finite q)) :
    usdLimit spec = numberLimit (.finite (m.roundTo 2 q)) := by
  have hformat : spec.budgetUSD = formatFixed m 2 q := h
  by_cases hq : 0 ≤ q
  · exact usdLimit_of_parse (hformat ▸ parseFloat_formatFixed m (by decide) hq)
  · obtain ⟨r,hr,hparse⟩ := parseFloat_formatFixed_neg m (k := 2) (by decide) (not_le.mp hq)
    rw [usdLimit_of_parse (hformat ▸ hparse)]
    simp only [numberLimit,hr.not_gt,(roundTo_nonpos m 2 (not_le.mp hq).le).not_gt,if_false]

lemma usdLimit_of_infinite (h : spec.budgetUSD = formatNumber m 2 n)
    (hn : ∀ q, n ≠ .finite q) : usdLimit spec = none := by
  rw [usdLimit_of_parse (h ▸ parseFloat_formatNumber m 2 hn)]
  cases n with
  | finite q => exact absurd rfl (hn q)
  | inf negative | nan => rfl

lemma trimSpace_of_parse (h : parseFloat s = some n) : trimSpace s = s := by
  refine trimSpace_eq_self fun c hc => ?_
  have hchar := parseFloat_chars h c hc
  have hall : ∀ k < 128, isNumberChar (Char.ofNat k) = true → isSpace (Char.ofNat k) = false := by decide
  have hspace := hall c.toNat (numberChar_lt hchar)
  rw [Char.ofNat_toNat] at hspace
  exact hspace hchar

lemma trimPrefix_of_parse (h : parseFloat s = some n) : trimPrefix s "$" = s := by
  unfold trimPrefix
  rw [if_neg]
  intro hpre
  obtain ⟨rest,hrest⟩ := List.isPrefixOf_iff_prefix.mp hpre
  have hdollar := parseFloat_chars h '$' (hrest ▸ by simp)
  exact absurd hdollar (by decide)

lemma parse_normalized (h : parseFloat s = some n) : parseFloat (normalizeBudgetBumpString s) = some n := by
  unfold normalizeBudgetBumpString
  dsimp only
  rw [trimSpace_of_parse h]
  by_cases hplus : hasPrefix s "+" = true
  · obtain ⟨rest,hrest⟩ := List.isPrefixOf_iff_prefix.mp hplus
    have hs : s = String.ofList ('+' :: rest) := by
      rw [← String.toList_inj,String.toList_ofList,← hrest]
      rfl
    obtain ⟨hparse,hhead⟩ := parseFloat_plus (hs ▸ h)
    have htrim : trimPrefix s "+" = String.ofList rest := by
      rw [trimPrefix,if_pos hplus,← hrest]
      rfl
    have hno : hasPrefix (String.ofList rest) "+" = false := by
      rw [← Bool.not_eq_true]
      intro hpre
      obtain ⟨more,hmore⟩ := List.isPrefixOf_iff_prefix.mp hpre
      have hrest' : '+' :: more = rest := hmore.trans String.toList_ofList
      rw [← hrest'] at hhead
      exact hhead rfl
    rw [htrim,trimSpace_of_parse hparse,trimPrefix_of_parse hparse,trimPrefix,if_neg (by rw [hno]; decide),
      trimSpace_of_parse hparse,hparse]
  · have htrim : trimPrefix s "+" = s := by rw [trimPrefix,if_neg hplus]
    rw [htrim,trimSpace_of_parse h,trimPrefix_of_parse h,htrim,trimSpace_of_parse h,h]

lemma existing_of_limit (h : usdLimit spec = some limit) (cmd : RaiseCommand) :
    cmd.existing spec = .finite limit := by
  have hparse := parse_of_usdLimit h
  have hcomment : currentBudget spec = .finite limit := by
    rw [currentBudget,if_neg (ne_empty_of_parseFloat hparse),trimSpace_of_parse hparse,trimPrefix_of_parse hparse,hparse]
    rfl
  cases cmd with
  | resumeTask req =>
    rw [RaiseCommand.existing,readAmount,parse_normalized hparse]
    rfl
  | resumeComment fields | budgetComment fields => exact hcomment

end

variable {m : Rounding} {cmd : RaiseCommand} {task : AgentTask} {bump : Bump} {spec : AgentTaskSpec}

/-- The amount that a command adds to the budget, as a number. -/
def RaiseCommand.added (m : Rounding) (cmd : RaiseCommand) : Number → Number
  | .finite q => .finite (cmd.increment m q)
  | n => n

lemma parse_formatted {n : Number} (hpos : Number.lt (.finite 0) n = true) :
    formatNumber m 2 n ≠ "" ∧ (parseFloat (formatNumber m 2 n)).getD (.finite 0) =
      RaiseCommand.added m (.resumeComment []) n := by
  cases n with
  | finite q =>
    have hparse : parseFloat (formatNumber m 2 (.finite q)) = some (.finite (m.roundTo 2 q)) :=
      parseFloat_formatFixed m (by decide) (of_decide_eq_true hpos).le
    exact ⟨ne_empty_of_parseFloat hparse,by rw [hparse]; rfl⟩
  | inf negative =>
    have hparse := parseFloat_formatNumber m 2 (n := .inf negative) (by simp)
    exact ⟨ne_empty_of_parseFloat hparse,by rw [hparse]; rfl⟩
  | nan => cases hpos

lemma parseResumeArgs_of_bump {fields : List String} (h : (readResumeArgs fields).toOption = some bump) :
    parseResumeArgs m fields = .ok ((bump.usd.map (formatNumber m 2)).getD "",bump.tokens) := by
  unfold parseResumeArgs
  cases hread : readResumeArgs fields with
  | error e =>
    rw [hread] at h
    cases h
  | ok b =>
    rw [hread] at h
    cases h
    rfl

lemma budgetSpec_usd (hpos : ∀ b, bump.usd = some b → Number.lt (.finite 0) b = true) {args : String × ℤ}
    (hargs : args = ((bump.usd.map (formatNumber m 2)).getD "",bump.tokens)) :
    (∀ b, bump.usd = some b → (budgetSpec m args.1 args.2 task).budgetUSD =
      formatNumber m 2 ((currentBudget task.spec).add (RaiseCommand.added m (.resumeComment []) b))) ∧
    (bump.usd = none → (budgetSpec m args.1 args.2 task).budgetUSD = task.spec.budgetUSD) := by
  subst hargs
  constructor
  · intro b hb
    obtain ⟨hne,hparse⟩ := @parse_formatted m b (hpos b hb)
    simp only [budgetSpec,hb,Option.map_some,Option.getD_some]
    rw [if_neg hne,hparse]
  · intro hnone
    simp only [budgetSpec,hnone,Option.map_none,Option.getD_none]
    rw [if_pos trivial]

lemma spec_fields (hbump : cmd.bump = some bump) (hspec : cmd.spec m task = some spec)
    (hpos : ∀ b, bump.usd = some b → Number.lt (.finite 0) b = true) : ((∀ b, bump.usd = some b →
      spec.budgetUSD = formatNumber m 2 ((cmd.existing task.spec).add (cmd.added m b))) ∧
    (bump.usd = none → spec.budgetUSD = task.spec.budgetUSD)) ∧ spec.budgetTokens =
      (if 0 < bump.tokens then int64 (task.spec.budgetTokens + bump.tokens) else task.spec.budgetTokens) ∧
    spec.maxIterations =
      (if cmd.resumes = true ∧ 0 < task.spec.maxIterations ∧ task.spec.maxIterations ≤ task.status.iteration then
        int32 (task.status.iteration + 5) else task.spec.maxIterations) := by
  cases cmd with
  | resumeTask req =>
    obtain ⟨usd,husd,rfl⟩ := Option.map_eq_some_iff.mp hbump
    obtain ⟨usd',husd',rfl⟩ := Option.map_eq_some_iff.mp hspec
    rw [husd] at husd'
    cases husd'
    refine ⟨⟨?_,?_⟩,rfl,by simp [resumedSpec,RaiseCommand.resumes]⟩
    · intro b hb
      obtain ⟨q,rfl,rfl⟩ := Option.map_eq_some_iff.mp hb
      rfl
    · intro hnone
      rw [Option.map_eq_none_iff.mp hnone]
      rfl
  | resumeComment fields | budgetComment fields =>
    obtain ⟨args,hargs,rfl⟩ := Option.map_eq_some_iff.mp hspec
    rw [parseResumeArgs_of_bump hbump] at hargs
    have husd := @budgetSpec_usd m task bump hpos args (Option.some.inj hargs).symm
    have htokens := congrArg Prod.snd (Option.some.inj hargs)
    refine ⟨husd,?_,by simp [commentResumedSpec,budgetSpec,RaiseCommand.resumes]⟩
    rw [show bump.tokens = args.2 from htokens]
    rfl

lemma usdLimit_congr {spec' : AgentTaskSpec} (h : spec'.budgetUSD = spec.budgetUSD) :
    usdLimit spec' = usdLimit spec := by
  unfold usdLimit specBudgetUSD
  rw [h]

lemma raised_usd_iff (hbump : cmd.bump = some bump) (hspec : cmd.spec m task = some spec)
    (hpos : ∀ b, bump.usd = some b → Number.lt (.finite 0) b = true) :
    RaisedUSD (usdLimit task.spec) (bump.usd.getD (.finite 0)) (usdLimit spec) ↔
      ∀ q, bump.usd = some (.finite q) →
        match usdLimit task.spec with
        | some limit =>
          m.roundTo 2 (limit + cmd.increment m q) ≤ 0 ∨ limit + q ≤ m.roundTo 2 (limit + cmd.increment m q)
        | none => ∀ e, cmd.existing task.spec = .finite e → m.roundTo 2 (e + cmd.increment m q) ≤ 0 := by
  obtain ⟨⟨hsome,hnone⟩,-,-⟩ := spec_fields hbump hspec hpos
  cases husd : bump.usd with
  | none =>
    rw [usdLimit_congr (hnone husd)]
    refine iff_of_true ?_ (fun q hq => by cases hq)
    cases usdLimit task.spec with
    | none => rfl
    | some limit => exact (add_zero limit).le
  | some b =>
    have hbudget := hsome b husd
    cases b with
    | finite q =>
      simp only [Option.getD_some,Option.some.injEq,Number.finite.injEq,forall_eq']
      cases hlimit : usdLimit task.spec with
      | some limit =>
        rw [existing_of_limit hlimit] at hbudget
        rw [usdLimit_of_finite hbudget]
        simp only [numberLimit]
        split_ifs with hround
        · exact ⟨.inr,fun h => h.resolve_left hround.not_ge⟩
        · exact iff_of_true trivial (.inl (not_lt.mp hround))
      | none =>
        cases hexist : cmd.existing task.spec with
        | finite e =>
          rw [hexist] at hbudget
          rw [usdLimit_of_finite hbudget]
          simp only [numberLimit,RaisedUSD,Number.finite.injEq,forall_eq']
          split_ifs with hround
          · exact iff_of_false (by simp) hround.not_ge
          · exact iff_of_true rfl (not_lt.mp hround)
        | inf negative | nan =>
          rw [hexist] at hbudget
          rw [usdLimit_of_infinite hbudget (by simp [Number.add,RaiseCommand.added])]
          exact iff_of_true rfl (by simp)
    | inf negative =>
      have hsum : ∀ q, (cmd.existing task.spec).add (cmd.added m (.inf negative)) ≠ .finite q := by
        intro q
        cases cmd.existing task.spec with
        | finite e => simp [Number.add,RaiseCommand.added]
        | inf negative' =>
          simp only [Number.add,RaiseCommand.added]
          split_ifs
          all_goals simp
        | nan => simp [Number.add]
      rw [usdLimit_of_infinite hbudget hsum]
      refine iff_of_true ?_ (fun q hq => by cases hq)
      cases usdLimit task.spec with
      | none => rfl
      | some limit => trivial
    | nan => cases hpos _ husd

lemma raised_tokens_iff {old n : ℤ} (hold : minInt64 ≤ old ∧ old ≤ maxInt64) (hn : 0 ≤ n ∧ n ≤ maxInt64) :
    (if 0 < old then old + n ≤ (if 0 < n then int64 (old + n) else old)
      else (if 0 < n then int64 (old + n) else old) ≤ 0) ↔
    (0 < n → if 0 < old then old + n ≤ maxInt64 else old + n ≤ 0) := by
  unfold minInt64 maxInt64 at *
  by_cases hpos : 0 < n
  · simp only [hpos,if_true,true_implies]
    split_ifs with hlimited
    · exact le_int64_iff (by unfold minInt64; omega)
    · rw [int64_of_range (by unfold minInt64; omega) (by unfold maxInt64; omega)]
  · simp only [hpos,if_false,false_implies,iff_true]
    split_ifs
    all_goals omega

lemma raised_iterations_iff {limit iteration : ℤ} (hrange : iteration ≤ 2147483647) (resumes : Bool) :
    (if 0 < limit then
      limit ≤ (if resumes = true ∧ 0 < limit ∧ limit ≤ iteration then int32 (iteration + 5) else limit)
      else (if resumes = true ∧ 0 < limit ∧ limit ≤ iteration then int32 (iteration + 5) else limit) ≤ 0) ↔
    (resumes = true → 0 < limit → limit ≤ iteration → iteration + 5 ≤ 2147483647) := by
  by_cases hraise : resumes = true ∧ 0 < limit ∧ limit ≤ iteration
  · obtain ⟨hr,hpos,hle⟩ := hraise
    simp only [hr,hpos,hle,and_self,if_true,true_implies]
    have hwrap : int32 (iteration + 5) =
        if iteration + 5 ≤ 2147483647 then iteration + 5 else iteration + 5 - 4294967296 := by
      unfold int32
      rw [Int.bmod_def]
      split_ifs
      all_goals omega
    rw [hwrap]
    split_ifs
    all_goals omega
  · rw [if_neg hraise]
    refine iff_of_true ?_ (fun hr hpos hle => absurd ⟨hr,hpos,hle⟩ hraise)
    split_ifs
    all_goals omega

/-- An accepted command raises the limits of a task as asked exactly when no limit was absent that
the command writes, no amount is rounded down and no sum wraps. -/
theorem limits_raised_iff (m : Rounding) (cmd : RaiseCommand) (task : AgentTask) {bump : Bump}
    {spec : AgentTaskSpec} (hbump : cmd.bump = some bump) (hspec : cmd.spec m task = some spec)
    (hpos : ∀ b, bump.usd = some b → Number.lt (.finite 0) b = true)
    (htokens : 0 ≤ bump.tokens ∧ bump.tokens ≤ maxInt64)
    (hbudget : minInt64 ≤ task.spec.budgetTokens ∧ task.spec.budgetTokens ≤ maxInt64)
    (hiteration : task.status.iteration ≤ 2147483647) :
    Raised task.spec bump spec ↔ Raisable m cmd task bump := by
  obtain ⟨-,htok,hiter⟩ := spec_fields hbump hspec hpos
  have husd := raised_usd_iff hbump hspec hpos
  have htok' := raised_tokens_iff hbudget htokens
  have hiter' := @raised_iterations_iff task.spec.maxIterations _ hiteration cmd.resumes
  rw [← htok] at htok'
  rw [← hiter] at hiter'
  exact ⟨fun h => ⟨husd.mp h.usd,htok'.mp h.tokens,hiter'.mp h.iterations⟩,
    fun h => ⟨husd.mpr h.usd,htok'.mpr h.tokens,hiter'.mpr h.iterations⟩⟩

def fiveDollarTask : AgentTask := { name := "fix-login", ns := "team-a", spec := { budgetUSD := "5.00" } }

theorem two_dollars_added :
    Raised fiveDollarTask.spec ⟨some (.finite 2),0⟩ { fiveDollarTask.spec with budgetUSD := "7.00" } := by
  refine (limits_raised_iff .halfEven (.resumeComment ["resume","+$2"]) fiveDollarTask (by decide +kernel)
    (by decide +kernel) ?_ (by decide) (by decide) (by decide)).mpr ⟨?_,by decide,by decide⟩
  · rintro b ⟨⟩
    decide +kernel
  · rintro q ⟨⟩
    have hlimit : usdLimit fiveDollarTask.spec = some 5 := by decide +kernel
    rw [hlimit]
    exact .inr (by decide +kernel)

/-- A million tokens added to a task without a limit on tokens become its limit, and a comment that
adds to the tokens of a task near the largest number leaves a negative one. -/
theorem unlimited_task_limited :
    (RaiseCommand.resumeTask { budgetTokensBump := 1000000 }).bump = some ⟨none,1000000⟩ ∧
      (RaiseCommand.resumeTask { budgetTokensBump := 1000000 }).spec .halfEven fiveDollarTask =
        some { fiveDollarTask.spec with budgetTokens := 1000000 } ∧
      ¬Raised fiveDollarTask.spec ⟨none,1000000⟩ { fiveDollarTask.spec with budgetTokens := 1000000 } ∧
      (RaiseCommand.budgetComment ["budget","1"]).spec .halfEven
        { fiveDollarTask with spec := { fiveDollarTask.spec with budgetTokens := maxInt64 } } =
        some { fiveDollarTask.spec with budgetTokens := minInt64 } := by
  refine ⟨by decide +kernel,by decide +kernel,fun h => ?_,by decide +kernel⟩
  exact absurd h.tokens (by decide)

end Diverge.Tasks
