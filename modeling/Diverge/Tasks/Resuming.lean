import Diverge.Tasks.Bumps
import Diverge.Text.Durations

/-! The commands of a comment, and the two ways of resuming a task: the comment `/diverge resume` and
the request `ResumeTask` with the amount and the tokens that the comment was read as. -/
namespace Diverge.Tasks
open Text

/-- What a comment asks for. The duration is in nanoseconds. -/
inductive SlashCommand
  | fix (objective : String)
  | guide (guidance : String)
  | preview
  | teardown
  | status
  | help
  | extendTTL (duration : ℤ)
  | pause
  | resume (budgetUSD : String) (tokens : ℤ)
  | budget (budgetUSD : String) (tokens : ℤ)
  deriving DecidableEq

def defaultExtendTTLDuration : ℤ := 86400000000000

/-- The words of a line after `/diverge`, and the text after the first. Lines for somebody else,
without a word or with no command are passed over. -/
def commandLine (raw : String) : Option (List String × String) :=
  let line := trimSpace raw
  if hasPrefix line "/diverge" = false then none
  else
    let rest := trimSpace (trimPrefix line "/diverge")
    match fields rest with
    | [] => none
    | word :: words =>
      if toLower word ∈ ["fix","guide","preview","teardown","status","help","extend-ttl","pause","resume","budget"] then
        some (word :: words,trimSpace (String.ofList (rest.toList.drop word.length)))
      else none

/-- The switch over the first word. -/
def readCommand (m : Rounding) (words : List String) (argStr : String) : Option SlashCommand :=
  match toLower (words.headD "") with
  | "fix" => if argStr = "" then none else some (.fix argStr)
  | "guide" => if argStr = "" then none else some (.guide argStr)
  | "preview" => some .preview
  | "teardown" => some .teardown
  | "status" => some .status
  | "help" => some .help
  | "extend-ttl" =>
    if argStr = "" then some (.extendTTL defaultExtendTTLDuration)
    else ((parseDuration (words.getD 1 "")).filter (0 < ·)).map .extendTTL
  | "pause" => some .pause
  | "resume" => (parseResumeArgs m words).toOption.map fun args => .resume args.1 args.2
  | "budget" => (parseResumeArgs m words).toOption.map fun args => .budget args.1 args.2
  | _ => none

/-- `ParseSlashCommand`: the first line that is a command decides. -/
def parseSlashCommand (m : Rounding) (commentBody : String) : Option SlashCommand :=
  ((split '\n' commentBody).findSome? commandLine).bind fun line => readCommand m line.1 line.2

def writtenBump (commentBody : String) : Bump :=
  (((split '\n' commentBody).findSome? commandLine).bind fun line => (readResumeArgs line.1).toOption).getD {}

/-- The amount and the tokens of a command to resume a task or to raise its budget. -/
def SlashCommand.amounts : SlashCommand → Option (String × ℤ)
  | .resume budgetUSD tokens => some (budgetUSD,tokens)
  | .budget budgetUSD tokens => some (budgetUSD,tokens)
  | _ => none

example : parseSlashCommand .halfEven "Thanks!\n/diverge Resume +$5 20000" = some (.resume "5.00" 20000) := by decide +kernel

section
variable {m : Rounding} {commentBody : String} {cmd : SlashCommand} {args : String × ℤ}

/-- A number that is not below zero or zero, as the reading of an argument tests it. -/
def NotNonPositive (v : Number) : Prop := v.le (.finite 0) = false

def Bump.Sound (bump : Bump) : Prop := (∀ v, bump.usd = some v → NotNonPositive v) ∧ 0 ≤ bump.tokens

variable {v : Number} {bump bump' : Bump} {words : List String}

lemma Bump.Sound.setUSD {bump : Bump} (h : bump.Sound) (hv : NotNonPositive v) :
    Bump.Sound { bump with usd := some v } := by
  refine ⟨fun w hw => ?_,h.2⟩
  rw [← Option.some.inj hw]
  exact hv

lemma notNonPositive_of_lt (h : Number.lt (.finite 0) v = true) : NotNonPositive v := by
  cases v with
  | finite q => exact decide_eq_false (not_le.mpr (of_decide_eq_true h))
  | inf negative =>
    cases negative with
    | true => cases h
    | false => rfl
  | nan => cases h

lemma readResumeArg_sound {arg : String} (hsound : bump.Sound)
    (h : readResumeArg bump arg = .ok bump') : bump'.Sound := by
  unfold readResumeArg at h
  dsimp only at h
  split_ifs at h with hsigned
  · split at h
    · split_ifs at h with hle
      cases h
      exact hsound.setUSD ((Bool.not_eq_true _).mp hle)
    · cases h
  · split at h
    · rename_i tokens htokens
      cases h
      have hpos : 0 < tokens := of_decide_eq_true (Option.filter_eq_some_iff.mp htokens).2
      exact ⟨hsound.1,hpos.le⟩
    · split at h
      · rename_i val hval
        cases h
        exact hsound.setUSD (notNonPositive_of_lt (Option.filter_eq_some_iff.mp hval).2)
      · cases h

lemma foldlM_readResumeArg_sound (hsound : bump.Sound)
    (h : words.foldlM readResumeArg bump = .ok bump') : bump'.Sound := by
  induction words generalizing bump with
  | nil =>
    cases h
    exact hsound
  | cons word words ih =>
    rw [List.foldlM_cons] at h
    cases hread : readResumeArg bump word with
    | error e =>
      rw [hread] at h
      cases h
    | ok next =>
      rw [hread] at h
      exact ih (readResumeArg_sound hsound hread) h

lemma parseResumeArgs_of_read {argStr : String} (h : readCommand m words argStr = some cmd)
    (hargs : cmd.amounts = some args) : parseResumeArgs m words = .ok args := by
  have hparsed : ∀ make : String → ℤ → SlashCommand, (∀ x n, (make x n).amounts = some (x,n)) →
      (parseResumeArgs m words).toOption.map (fun args => make args.1 args.2) = some cmd →
      parseResumeArgs m words = .ok args := by
    intro make hmake h
    obtain ⟨read,hread,rfl⟩ := Option.map_eq_some_iff.mp h
    rw [hmake] at hargs
    cases hresult : parseResumeArgs m words with
    | error e =>
      rw [hresult] at hread
      cases hread
    | ok result =>
      rw [hresult] at hread
      cases hread
      exact congrArg Except.ok (Option.some.inj hargs)
  unfold readCommand at h
  split at h
  case h_9 => exact hparsed .resume (fun _ _ => rfl) h
  case h_10 => exact hparsed .budget (fun _ _ => rfl) h
  case h_7 =>
    split_ifs at h
    · cases h
      cases hargs
    · obtain ⟨d,-,rfl⟩ := Option.map_eq_some_iff.mp h
      cases hargs
  all_goals
    try split_ifs at h
    all_goals
      cases h
      try cases hargs

lemma amounts_of_parse (h : parseSlashCommand m commentBody = some cmd) (hargs : cmd.amounts = some args) :
    (writtenBump commentBody).Sound ∧
      args = (((writtenBump commentBody).usd.map (formatNumber m 2)).getD "",(writtenBump commentBody).tokens) := by
  obtain ⟨line,hline,hread⟩ := Option.bind_eq_some_iff.mp h
  have hparse := parseResumeArgs_of_read hread hargs
  cases hargs' : readResumeArgs line.1 with
  | error e =>
    rw [parseResumeArgs,hargs'] at hparse
    cases hparse
  | ok bump =>
    rw [parseResumeArgs,hargs'] at hparse
    cases hparse
    have hwritten : writtenBump commentBody = bump := by
      rw [writtenBump,hline,Option.bind_some,hargs']
      rfl
    rw [hwritten]
    have hempty : ({} : Bump).Sound := ⟨by simp,le_rfl⟩
    exact ⟨foldlM_readResumeArg_sound hempty hargs',rfl⟩

end

section

/-- The amount and the tokens of a command are positive where they are given. -/
def PositiveAmounts (budgetUSD : String) (tokens : ℤ) : Prop :=
  (budgetUSD ≠ "" → ∃ q, 0 < q ∧ parseFloat budgetUSD = some (.finite q)) ∧ (tokens ≠ 0 → 0 < tokens)

/-- Specs with the same limits, the cost as a number. -/
structure SameBudgets (spec spec' : AgentTaskSpec) : Prop where
  suspended : spec.suspended = spec'.suspended
  usd : parseFloat spec.budgetUSD = parseFloat spec'.budgetUSD
  tokens : spec.budgetTokens = spec'.budgetTokens
  iterations : spec.maxIterations = spec'.maxIterations

/-- The request with the amount and the tokens of a comment is accepted and writes the same limits. -/
def ResumesAlike (m : Rounding) (budgetUSD : String) (tokens : ℤ) (task : AgentTask) : Prop :=
  ∃ usd, readBump ⟨budgetUSD,tokens⟩ = .ok usd ∧
    SameBudgets (commentResumedSpec m budgetUSD tokens task) (resumedSpec m usd tokens task)

def requestBudget (spec : AgentTaskSpec) : ℚ := (readAmount (normalizeBudgetBumpString spec.budgetUSD)).getD 0

variable {m : Rounding} {task : AgentTask}

variable {q : ℚ} {tokens : ℤ}

lemma readBump_written (hq : 0 < m.roundTo 2 q) (htokens : 0 ≤ tokens) :
    readBump ⟨formatFixed m 2 q,tokens⟩ = .ok (some (m.roundTo 2 q)) := by
  have hparse := parse_normalized (parseFloat_formatFixed_round m (k := 2) (by decide) q)
  have hne := ne_empty_of_parseFloat hparse
  rw [readBump]
  dsimp only
  rw [if_neg (not_lt.mpr htokens),if_neg hne,readAmount,hparse]
  simp only [Option.filter_some,decide_eq_true hq,if_true]

/-- With an amount the two ways write the same limits exactly when they read the same budget up to rounding. -/
lemma resumesAlike_iff (hq : 0 < m.roundTo 2 q) (htokens : 0 ≤ tokens) :
    ResumesAlike m (formatFixed m 2 q) tokens task ↔ ∃ e, currentBudget task.spec = .finite e ∧
        m.roundTo 2 (e + m.roundTo 2 q) = m.roundTo 2 (requestBudget task.spec + m.roundTo 2 q) := by
  have hparse := parseFloat_formatFixed_round m (k := 2) (by decide) q
  have hne := ne_empty_of_parseFloat hparse
  have hcomment : (commentResumedSpec m (formatFixed m 2 q) tokens task).budgetUSD =
      formatNumber m 2 ((currentBudget task.spec).add (.finite (m.roundTo 2 q))) := by
    simp only [commentResumedSpec,budgetSpec]
    rw [if_neg hne,hparse,Option.getD_some]
  have hrequest : parseFloat (resumedSpec m (some (m.roundTo 2 q)) tokens task).budgetUSD =
      some (.finite (m.roundTo 2 (requestBudget task.spec + m.roundTo 2 q))) :=
    parseFloat_formatFixed_round m (by decide) _
  have hsame : ResumesAlike m (formatFixed m 2 q) tokens task ↔
      parseFloat (formatNumber m 2 ((currentBudget task.spec).add (.finite (m.roundTo 2 q)))) =
        some (.finite (m.roundTo 2 (requestBudget task.spec + m.roundTo 2 q))) := by
    rw [← hcomment,← hrequest]
    constructor
    · rintro ⟨usd,husd,h⟩
      rw [readBump_written hq htokens] at husd
      cases husd
      exact h.usd
    · intro h
      exact ⟨_,readBump_written hq htokens,rfl,h,rfl,rfl⟩
  rw [hsame]
  cases currentBudget task.spec with
  | finite e =>
    have hsum : parseFloat (formatNumber m 2 ((Number.finite e).add (.finite (m.roundTo 2 q)))) =
        some (.finite (m.roundTo 2 (e + m.roundTo 2 q))) := parseFloat_formatFixed_round m (by decide) _
    rw [hsum]
    constructor
    · intro h
      exact ⟨e,rfl,Number.finite.inj (Option.some.inj h)⟩
    · rintro ⟨e',he,h⟩
      cases he
      rw [h]
  | inf negative | nan =>
    rw [parseFloat_formatNumber m 2 (by simp [Number.add])]
    exact iff_of_false (by simp [Number.add]) (by simp)

lemma resumesAlike_without (htokens : 0 ≤ tokens) : ResumesAlike m "" tokens task := by
  have hread : readBump ⟨"",tokens⟩ = .ok none := by
    rw [readBump]
    dsimp only
    rw [if_neg (not_lt.mpr htokens),if_pos (by decide),if_pos (by decide)]
  exact ⟨none,hread,rfl,rfl,rfl,rfl⟩

end

end Diverge.Tasks
