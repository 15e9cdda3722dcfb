import Diverge.Environments.Names
import Diverge.Environments.Provisioning
import Diverge.Transition.Runs

/-! Migration Jobs: the hook that creates and watches them, the Job controller that finishes them
and the TTL controller that deletes them. -/
namespace Diverge.Environments
open Text Tasks TokenStore Transition Program

structure SecretKey where
  name : String
  key : String
  deriving DecidableEq

structure MigrationJobSpec extends MigrationSpec where
  image : String
  args : List String := []
  envFrom : List SecretKey := []
  timeoutSeconds : ℤ := 0
  deriving DecidableEq

def MigrationJobSpec.version (spec : MigrationJobSpec) : String × List String :=
  (spec.image,spec.args)

inductive EnvSource
  | value (text : String)
  | secret (ref : SecretKey)
  deriving DecidableEq

structure JobCondition where
  kind : String
  status : String
  reason : String := ""
  deriving DecidableEq

structure HookJob where
  name : String
  image : String
  args : List String
  env : List (String × EnvSource)
  labels : List (String × String)
  activeDeadline : Option ℤ
  ttlSecondsAfterFinished : ℤ
  conditions : List JobCondition := []
  finishedAt : Option ℤ := none
  deriving DecidableEq

def defaultMigrationTimeout : ℤ := 120

def jobTTLAfterFinished : ℤ := 1800

def truncateLabel (val : String) : String :=
  String.ofList ((val.toList.take 63).reverse.dropWhile
    fun c => ['-','_','.'].contains c).reverse

section

/-- What a migration run reads besides its spec, and what the API server answers. -/
structure MigrationAnswers where
  database : Option String
  mode : String := ""
  traceparent : String := ""
  atlas : Bool := false
  get : Except String Unit := .ok ()
  secret : Except String Unit := .ok ()
  create : Except String Unit := .ok ()

variable (sum256 : Sum256) (name : String)

def MigrationJobSpec.hashInput (spec : MigrationJobSpec) : String := spec.image ++ join "" spec.args

def migrationJobName (spec : MigrationJobSpec) : String :=
  generateHookJobName sum256 name ("migration-" ++ digest8 sum256 spec.hashInput)

def migrationJob (spec : MigrationJobSpec) (ans : MigrationAnswers) (dsn : String) : HookJob where
  name := migrationJobName sum256 name spec
  image := spec.image
  args := spec.args
  env :=
    (if dsn = "" then []
      else [("DATABASE_URL",.secret ⟨sanitizeK8sName sum256 ("diverge-db-" ++ name) dsn 253,"url"⟩)]) ++
    spec.envFrom.map (fun ref => (ref.key,.secret ref)) ++
    if ans.traceparent = "" then [] else [("TRACEPARENT",.value ans.traceparent)]
  labels := [("divergedev.com/hook-type","migration"),
    ("divergedev.com/environment",truncateLabel name)]
  activeDeadline :=
    some (if 0 < spec.timeoutSeconds then spec.timeoutSeconds else defaultMigrationTimeout)
  ttlSecondsAfterFinished := jobTTLAfterFinished

/-- The first condition that says how a Job ended. -/
def jobResult (job : HookJob) : Except HookError Unit :=
  match job.conditions.find? fun c =>
      (c.kind == "Complete" || c.kind == "Failed") && c.status == "True" with
  | none => .error (.inProgress
      ("migration job " ++ job.name ++ " is still running: hook in progress"))
  | some c =>
    if c.kind = "Complete" then .ok ()
    else .error (.failed ("migration job " ++ job.name ++ " failed: " ++ c.reason ++ ": hook failed"))

/-- The Job of a migration: the one that exists, or a new one. -/
def ensureMigrationJob (spec : MigrationJobSpec) (ans : MigrationAnswers) (dsn : String)
    (jobs : List HookJob) : Except String HookJob × List HookJob :=
  match ans.get with
  | .error e => (.error ("failed to get migration job: " ++ e),jobs)
  | .ok _ =>
    match jobs.find? fun job => job.name == migrationJobName sum256 name spec with
    | some job => (.ok job,jobs)
    | none =>
      match if dsn = "" then .ok () else ans.secret with
      | .error e => (.error ("failed to create DSN secret for migration: " ++ e),jobs)
      | .ok _ =>
        match ans.create with
        | .error e => (.error ("failed to create migration job: " ++ e),jobs)
        | .ok _ =>
          let job := migrationJob sum256 name spec ans dsn
          (.ok job,jobs ++ [job])

def runMigrationJob (spec : MigrationJobSpec) (ans : MigrationAnswers) (jobs : List HookJob) :
    Except HookError Unit × List HookJob :=
  match ans.database.filter fun dsn => dsn != "" || ans.mode == "shared" with
  | none => (.error (.other "migration job requires a provisioned database with DSN"),jobs)
  | some dsn =>
    match ensureMigrationJob sum256 name spec ans dsn jobs with
    | (.error e,jobs) => (.error (.other e),jobs)
    | (.ok job,jobs) => (if spec.blocking.getD true then jobResult job else .ok (),jobs)

def runMigrations (spec : MigrationJobSpec) (ans : MigrationAnswers) (jobs : List HookJob) :
    Except HookError Unit × List HookJob :=
  if ans.atlas then
    (.error (.other "cannot configure both Atlas and MigrationJob for database hooks"),jobs)
  else runMigrationJob sum256 name spec ans jobs

end

section

/-- The migration that the spec asks for, the Jobs of the namespace, and the versions whose Job
has completed. -/
structure Migrations where
  spec : Option MigrationJobSpec
  jobs : List HookJob := []
  completed : List (String × List String) := []

inductive MigrationEvent
  | edit (spec : Option MigrationJobSpec)
  | reconcile (ans : MigrationAnswers)
  /-- The Job controller. -/
  | finish (name : String) (succeeded : Bool) (now : ℤ)
  | expire (name : String) (now : ℤ)

def HookJob.finish (succeeded : Bool) (now : ℤ) (job : HookJob) : HookJob :=
  { job with
    conditions := job.conditions ++ [{ kind := if succeeded then "Complete" else "Failed", status := "True" }]
    finishedAt := some now }

def HookJob.outlived (now : ℤ) (job : HookJob) : Bool :=
  job.finishedAt.any fun t => decide (t + job.ttlSecondsAfterFinished * second ≤ now)

variable (sum256 : Sum256) (name : String)

def Migrations.step (s : Migrations) : MigrationEvent → Migrations
  | .edit spec => { s with spec := spec }
  | .reconcile ans =>
    match s.spec with
    | none => s
    | some spec => { s with jobs := (runMigrations sum256 name spec ans s.jobs).2 }
  | .finish job succeeded now =>
    let running := fun j : HookJob => j.name == job && j.finishedAt.isNone
    { s with
      jobs := s.jobs.map fun j => if running j then j.finish succeeded now else j
      completed :=
        s.completed ++ if succeeded then (s.jobs.filter running).map (fun j => (j.image,j.args)) else [] }
  | .expire job now => { s with jobs := s.jobs.filter fun j => !(j.name == job && j.outlived now) }

/-- A reconcile creates no Job for a version whose Job has completed. -/
def NoRepeat (s : Migrations) : MigrationEvent → Prop
  | .reconcile ans => ∀ spec ∈ s.spec, spec.version ∈ s.completed →
      (s.step sum256 name (.reconcile ans)).jobs = s.jobs
  | _ => True

/-- The answers of a reconcile let it create a Job. -/
def MigrationAnswers.Creates (ans : MigrationAnswers) : Prop :=
  ans.atlas = false ∧ ans.get = .ok () ∧ ans.create = .ok () ∧
    ∃ dsn ∈ ans.database, (dsn = "" → ans.mode = "shared") ∧ (dsn ≠ "" → ans.secret = .ok ())

/-- The Job of a version that has completed still exists when the version is reconciled. -/
def JobRemains (s : Migrations) : MigrationEvent → Prop
  | .reconcile ans => ∀ spec ∈ s.spec, spec.version ∈ s.completed → ans.Creates →
      ∃ job ∈ s.jobs, job.name = migrationJobName sum256 name spec
  | _ => True

def specsOf (s : Migrations) (events : List MigrationEvent) : List MigrationJobSpec :=
  s.spec.toList ++ events.filterMap fun
    | .edit spec => spec
    | _ => none

/-- The texts whose digests are used in the names of these migrations. -/
def digestInputs (specs : List MigrationJobSpec) : Set String :=
  { s | ∃ spec ∈ specs, s = spec.hashInput ∨
    s = name ++ "/" ++ ("migration-" ++ digest8 sum256 spec.hashInput) }

end

section
variable {sum256 : Sum256} {name : String}

variable (spec : MigrationJobSpec)

lemma ensureMigrationJob_jobs (ans : MigrationAnswers) (dsn : String)
    (jobs : List HookJob) : (ensureMigrationJob sum256 name spec ans dsn jobs).2 = jobs ↔
      (ans.get = .ok () → ans.create = .ok () → (dsn ≠ "" → ans.secret = .ok ()) →
        ∃ job ∈ jobs, job.name = migrationJobName sum256 name spec) := by
  unfold ensureMigrationJob
  cases ans.get with
  | error e => simp
  | ok _ =>
    cases hfind : jobs.find? fun job => job.name == migrationJobName sum256 name spec with
    | some job =>
      have hmem := List.mem_of_find?_eq_some hfind
      have hname := List.find?_some hfind
      simp only [true_iff]
      exact fun _ _ _ => ⟨job,hmem,by simpa using hname⟩
    | none =>
      have hnone : ¬∃ job ∈ jobs, job.name = migrationJobName sum256 name spec := by
        simpa using List.find?_eq_none.mp hfind
      by_cases hdsn : dsn = ""
      · cases ans.create <;> simp [hdsn,hnone]
      · cases ans.secret <;> cases ans.create <;> simp [hdsn,hnone]

lemma runMigrationJob_jobs (ans : MigrationAnswers) (jobs : List HookJob) :
    (runMigrationJob sum256 name spec ans jobs).2 =
      ((ans.database.filter fun dsn => dsn != "" || ans.mode == "shared").map fun dsn =>
        (ensureMigrationJob sum256 name spec ans dsn jobs).2).getD jobs := by
  unfold runMigrationJob
  cases ans.database.filter fun dsn => dsn != "" || ans.mode == "shared" with
  | none => rfl
  | some dsn =>
    rcases h : ensureMigrationJob sum256 name spec ans dsn jobs with ⟨_ | _,_⟩ <;> simp [h]

lemma runMigrations_jobs (ans : MigrationAnswers) (jobs : List HookJob) :
    (runMigrations sum256 name spec ans jobs).2 = jobs ↔
      (ans.Creates → ∃ job ∈ jobs, job.name = migrationJobName sum256 name spec) := by
  unfold runMigrations MigrationAnswers.Creates
  cases hatlas : ans.atlas with
  | true => simp
  | false =>
    simp only [Bool.false_eq_true,if_false,runMigrationJob_jobs,true_and]
    cases ans.database with
    | none => simp
    | some dsn =>
      by_cases husable : dsn = "" → ans.mode = "shared"
      · have hfilter : (some dsn).filter (fun dsn => dsn != "" || ans.mode == "shared") = some dsn := by
          simpa [Option.filter,or_iff_not_imp_left] using husable
        simp only [hfilter,Option.map_some,Option.getD_some,ensureMigrationJob_jobs]
        constructor
        · rintro h ⟨hget,hcreate,dsn',hdsn,-,hsecret⟩
          obtain rfl : dsn = dsn' := by simpa using hdsn
          exact h hget hcreate hsecret
        · exact fun h hget hcreate hsecret => h ⟨hget,hcreate,dsn,rfl,husable,hsecret⟩
      · have hfilter : (some dsn).filter (fun dsn => dsn != "" || ans.mode == "shared") = none := by
          simpa [Option.filter] using husable
        simp only [hfilter,Option.map_none,Option.getD_none,true_iff]
        rintro ⟨-,-,dsn',hdsn,hmode,-⟩
        obtain rfl : dsn = dsn' := by simpa using hdsn
        exact absurd hmode husable

lemma noRepeat_iff (s : Migrations) (e : MigrationEvent) :
    NoRepeat sum256 name s e ↔ JobRemains sum256 name s e := by
  cases e with
  | reconcile ans =>
    refine forall_congr' fun spec => forall_congr' fun hspec => imp_congr_right fun _ => ?_
    rw [← runMigrations_jobs]
    simp only [Migrations.step,Option.mem_def.mp hspec]
  | edit _ | finish _ _ _ | expire _ _ => exact Iff.rfl

lemma migrationJobName_inj {specs : List MigrationJobSpec}
    (hinj : Set.InjOn (digest8 sum256) (digestInputs sum256 name specs)) {a b : MigrationJobSpec}
    (ha : a ∈ specs) (hb : b ∈ specs) :
    migrationJobName sum256 name a = migrationJobName sum256 name b ↔ a.hashInput = b.hashInput := by
  constructor
  · intro h
    have htexts : name ++ "/" ++ ("migration-" ++ digest8 sum256 a.hashInput) =
        name ++ "/" ++ ("migration-" ++ digest8 sum256 b.hashInput) :=
      hinj ⟨a,ha,.inr rfl⟩ ⟨b,hb,.inr rfl⟩ (sanitizeK8sName_digest h)
    have hdigests : digest8 sum256 a.hashInput = digest8 sum256 b.hashInput := by
      have hl := congrArg String.toList htexts
      simp only [String.toList_append,List.append_cancel_left_eq] at hl
      exact String.toList_inj.mp hl
    exact hinj ⟨a,ha,.inl rfl⟩ ⟨b,hb,.inl rfl⟩ hdigests
  · intro h
    rw [migrationJobName,migrationJobName,h]

/-- Migrations run once per version and different versions have different Jobs exactly when the
Job of a completed version outlives the reconciles of that version, and the concatenation of image
and arguments tells the versions apart. -/
theorem migrated_once_iff (s : Migrations) (events : List MigrationEvent)
    (hinj : Set.InjOn (digest8 sum256) (digestInputs sum256 name (specsOf s events))) :
    (EveryStep (Migrations.step sum256 name) (NoRepeat sum256 name) s events ∧
      ∀ a ∈ specsOf s events, ∀ b ∈ specsOf s events, a.version ≠ b.version →
        migrationJobName sum256 name a ≠ migrationJobName sum256 name b) ↔
    EveryStep (Migrations.step sum256 name) (JobRemains sum256 name) s events ∧
      ∀ a ∈ specsOf s events, ∀ b ∈ specsOf s events, a.version ≠ b.version →
        a.hashInput ≠ b.hashInput := by
  refine and_congr (everyStep_congr noRepeat_iff s events) ?_
  refine forall_congr' fun a => forall_congr' fun ha => forall_congr' fun b =>
    forall_congr' fun hb => imp_congr_right fun _ => ?_
  exact not_congr (migrationJobName_inj hinj ha hb)

end

def lengthSum256 : Sum256 := fun t => Vector.replicate 32 (UInt8.ofNat t.length)

def appMigration : MigrationJobSpec where
  image := "app"
  args := ["up"]

def shopDatabase : MigrationAnswers where
  database := some "postgres://shop"

def appJobName : String := migrationJobName lengthSum256 "shop" appMigration

def appHistory : List MigrationEvent :=
  [.reconcile shopDatabase,.finish appJobName true 0,.reconcile shopDatabase]

def expiredHistory : List MigrationEvent :=
  [.reconcile shopDatabase,.finish appJobName true 0,.expire appJobName (1800 * second),
    .reconcile shopDatabase]

lemma lengthSum256_injOn :
    Set.InjOn (digest8 lengthSum256) (digestInputs lengthSum256 "shop" [appMigration]) := by
  have hne : digest8 lengthSum256 appMigration.hashInput ≠ digest8 lengthSum256
      ("shop" ++ "/" ++ ("migration-" ++ digest8 lengthSum256 appMigration.hashInput)) := by
    decide +kernel
  rintro s ⟨a,ha,hs⟩ t ⟨b,hb,ht⟩ h
  obtain rfl := List.mem_singleton.mp ha
  obtain rfl := List.mem_singleton.mp hb
  rcases hs with rfl | rfl <;> rcases ht with rfl | rfl
  · rfl
  · exact absurd h hne
  · exact absurd h.symm hne
  · rfl

theorem app_migrated_once :
    EveryStep (Migrations.step lengthSum256 "shop") (NoRepeat lengthSum256 "shop")
      { spec := some appMigration } appHistory ∧
    ∀ a ∈ specsOf { spec := some appMigration } appHistory,
      ∀ b ∈ specsOf { spec := some appMigration } appHistory, a.version ≠ b.version →
        migrationJobName lengthSum256 "shop" a ≠ migrationJobName lengthSum256 "shop" b := by
  refine (migrated_once_iff _ _ lengthSum256_injOn).mpr ⟨⟨?_,trivial,?_,trivial⟩,?_⟩
  · intro spec _ hcompleted
    exact absurd hcompleted List.not_mem_nil
  · rintro spec hspec - -
    obtain rfl : appMigration = spec := by simpa [Migrations.step] using hspec
    exact ⟨(migrationJob lengthSum256 "shop" appMigration shopDatabase "postgres://shop").finish true 0,
      by decide +kernel,rfl⟩
  · intro a ha b hb hne
    obtain rfl := List.mem_singleton.mp ha
    obtain rfl := List.mem_singleton.mp hb
    exact absurd rfl hne

/-- The digest has no collision and yet a completed migration gets a second Job; and two argument
lists share a Job whatever the digest is. -/
theorem expired_job_repeats : (Set.InjOn (digest8 lengthSum256)
        (digestInputs lengthSum256 "shop" (specsOf { spec := some appMigration } expiredHistory)) ∧
      ¬EveryStep (Migrations.step lengthSum256 "shop") (NoRepeat lengthSum256 "shop")
        { spec := some appMigration } expiredHistory) ∧
    ∀ (sum256 : Sum256) (name : String),
      migrationJobName sum256 name { image := "app", args := ["b","c"] } =
        migrationJobName sum256 name { image := "app", args := ["bc"] } := by
  refine ⟨⟨lengthSum256_injOn,?_⟩,fun _ _ => rfl⟩
  rintro ⟨-,-,-,hrepeat,-⟩
  have hsame := hrepeat appMigration rfl (by decide +kernel)
  have hlength := congrArg List.length hsame
  exact absurd hlength (by decide +kernel)

variable (sum256 : Sum256) (name : String)

def migrationReport : Except HookError Unit → String × String
  | .ok _ => ("Succeeded","Migrations applied successfully")
  | .error (.inProgress m) => ("Running",m)
  | .error (.failed m) => ("Failed",m)
  | .error (.other m) => ("Failed",m)

/-- The object as a stage leaves it, whether the run goes on or not. -/
def stageEnd (stage : Step Environment) : Environment :=
  match (ending stage []).1 with
  | .ok env => env
  | .error patch => patch.env

def afterMigration (ans : Answers) (env : Environment) : Environment := stageEnd (migrationStage ans env)

/-- An environment whose spec has this migration, next to Atlas or not. -/
def Environment.Migrating (env : Environment) (spec : MigrationJobSpec) (mans : MigrationAnswers) : Prop :=
  env.name = name ∧ env.spec.database.migrationJob = some spec.toMigrationSpec ∧
    env.spec.database.atlas.isSome = mans.atlas

/-- The status or the condition says that the migration has succeeded. -/
def ReportsSuccess (ans : Answers) (env : Environment) : Prop :=
  (migrationReport ans.runMigrations).1 = "Succeeded" ∨
    isStatusConditionTrue (afterMigration ans env).status.conditions "MigrationReady" = true

def HookJob.has (job : HookJob) (kind : String) : Prop :=
  ∃ c ∈ job.conditions, c.kind = kind ∧ c.status = "True"

/-- The Job runs this migration, has completed and has not failed. -/
def HookJob.Applied (job : HookJob) (spec : MigrationJobSpec) : Prop :=
  (job.image,job.args) = spec.version ∧ job.has "Complete" ∧ ¬job.has "Failed"

def storedJob (spec : MigrationJobSpec) (jobs : List HookJob) : Option HookJob :=
  jobs.find? fun job => job.name == migrationJobName sum256 name spec

/-- A reconcile reports success only of a migration whose Job exists and has completed. -/
def Truthful (s : Migrations) : MigrationEvent → Prop
  | .reconcile mans => ∀ spec ∈ s.spec, ∀ (env : Environment) (ans : Answers),
      env.Migrating name spec mans → ans.runMigrations = (runMigrations sum256 name spec mans s.jobs).1 →
        ReportsSuccess ans env →
          ∃ job ∈ storedJob sum256 name spec (s.step sum256 name (.reconcile mans)).jobs, job.Applied spec
  | _ => True

def MigrationAnswers.Reads (ans : MigrationAnswers) : Prop :=
  ans.atlas = false ∧ ans.get = .ok () ∧ ∃ dsn ∈ ans.database, dsn = "" → ans.mode = "shared"

/-- No condition before one that says completed says failed. -/
def HookJob.CompletesFirst (job : HookJob) : Prop :=
  ∃ before c rest, job.conditions = before ++ c :: rest ∧ (c.kind = "Complete" ∧ c.status = "True") ∧
    ∀ d ∈ before, ¬(d.kind = "Failed" ∧ d.status = "True")

/-- A migration blocks until its Job has completed, and a Job that does so or whose migration does not
block has applied the migration of the spec. -/
def Watched (s : Migrations) : MigrationEvent → Prop
  | .reconcile mans => ∀ spec ∈ s.spec,
      (∀ job ∈ storedJob sum256 name spec s.jobs, mans.Reads →
        job.Applied spec ∨ spec.blocking.getD true = true ∧ ¬job.CompletesFirst) ∧
      (storedJob sum256 name spec s.jobs = none → mans.Creates → spec.blocking.getD true = true)
  | _ => True

variable {sum256 name}

lemma jobResult_ok_iff (job : HookJob) : jobResult job = .ok () ↔ job.CompletesFirst := by
  unfold jobResult HookJob.CompletesFirst
  constructor
  · intro h
    cases hfind : job.conditions.find? fun c =>
        (c.kind == "Complete" || c.kind == "Failed") && c.status == "True" with
    | none => simp [hfind] at h
    | some c =>
      obtain ⟨hc,before,rest,hsplit,hbefore⟩ := List.find?_eq_some_iff_append.mp hfind
      have hkind : c.kind = "Complete" := by
        by_contra hne
        simp [hfind,hne] at h
      refine ⟨before,c,rest,hsplit,⟨hkind,by simpa [hkind] using hc⟩,fun d hd hfailed => ?_⟩
      simpa [hfailed] using hbefore d hd
  · rintro ⟨before,c,rest,hsplit,⟨hkind,hstatus⟩,hbefore⟩
    have hfirst : ∃ d, job.conditions.find? (fun c =>
        (c.kind == "Complete" || c.kind == "Failed") && c.status == "True") = some d ∧
          d.kind = "Complete" := by
      rw [hsplit,List.find?_append]
      cases hfind : before.find? fun c =>
          (c.kind == "Complete" || c.kind == "Failed") && c.status == "True" with
      | none => exact ⟨c,by simp [hkind,hstatus],hkind⟩
      | some d =>
        have hd := List.find?_some hfind
        have hnot := hbefore d (List.mem_of_find?_eq_some hfind)
        refine ⟨d,rfl,?_⟩
        simp only [Bool.and_eq_true,Bool.or_eq_true,beq_iff_eq] at hd
        exact hd.1.resolve_right fun hfailed => hnot ⟨hfailed,hd.2⟩
    obtain ⟨d,hfind,hd⟩ := hfirst
    simp [hfind,hd]

variable {mans : MigrationAnswers} {spec : MigrationJobSpec} {jobs : List HookJob}

lemma runMigrations_of_usable {dsn : String} (hatlas : mans.atlas = false)
    (hdsn : dsn ∈ mans.database) (hmode : dsn = "" → mans.mode = "shared") (spec : MigrationJobSpec)
    (jobs : List HookJob) : runMigrations sum256 name spec mans jobs =
      ((ensureMigrationJob sum256 name spec mans dsn jobs).1.mapError HookError.other >>= fun job =>
        if spec.blocking.getD true then jobResult job else .ok (),
        (ensureMigrationJob sum256 name spec mans dsn jobs).2) := by
  have husable : (mans.database.filter fun dsn => dsn != "" || mans.mode == "shared") = some dsn := by
    rw [Option.mem_def.mp hdsn]
    simpa [Option.filter,or_iff_not_imp_left] using hmode
  rw [runMigrations,hatlas,if_neg Bool.false_ne_true,runMigrationJob,husable]
  rcases hensure : ensureMigrationJob sum256 name spec mans dsn jobs with ⟨_ | _,_⟩
  · simp only [hensure]
    rfl
  · simp only [hensure]
    rfl

lemma runMigrations_of_unread (h : ¬mans.Reads) (spec : MigrationJobSpec)
    (jobs : List HookJob) : ∃ e, runMigrations sum256 name spec mans jobs = (.error (.other e),jobs) := by
  by_cases hatlas : mans.atlas = true
  · exact ⟨_,if_pos hatlas⟩
  · cases hdsn : mans.database.filter fun dsn => dsn != "" || mans.mode == "shared" with
    | none =>
      rw [runMigrations,if_neg hatlas,runMigrationJob,hdsn]
      exact ⟨_,rfl⟩
    | some dsn =>
      obtain ⟨hmem,husable⟩ := Option.filter_eq_some_iff.mp hdsn
      have hmode : dsn = "" → mans.mode = "shared" := by
        rintro rfl
        simpa using husable
      rw [runMigrations_of_usable (by simpa using hatlas) hmem hmode]
      cases hget : mans.get with
      | error e =>
        rw [ensureMigrationJob,hget]
        exact ⟨_,rfl⟩
      | ok _ => exact absurd ⟨by simpa using hatlas,hget,dsn,hmem,hmode⟩ h

lemma runMigrations_of_stored {job : HookJob}
    (hjob : storedJob sum256 name spec jobs = some job) (mans : MigrationAnswers) :
    ((runMigrations sum256 name spec mans jobs).1 = .ok () ↔
      mans.Reads ∧ (spec.blocking.getD true = true → job.CompletesFirst)) ∧
    (runMigrations sum256 name spec mans jobs).2 = jobs := by
  by_cases hreads : mans.Reads
  · obtain ⟨hatlas,hget,dsn,hdsn,hmode⟩ := id hreads
    have hensure : ensureMigrationJob sum256 name spec mans dsn jobs = (.ok job,jobs) := by
      unfold ensureMigrationJob
      unfold storedJob at hjob
      simp only [hget,hjob]
    rw [runMigrations_of_usable hatlas hdsn hmode,hensure]
    refine ⟨?_,rfl⟩
    change (if spec.blocking.getD true then jobResult job else .ok ()) = .ok () ↔ _
    cases spec.blocking.getD true with
    | true => simp [hreads,jobResult_ok_iff]
    | false => simp [hreads]
  · obtain ⟨e,hrun⟩ := runMigrations_of_unread hreads spec jobs
    rw [hrun]
    exact ⟨by simp [hreads],rfl⟩

section
variable (hjob : storedJob sum256 name spec jobs = none)
include hjob

lemma ensureMigrationJob_of_missing (hget : mans.get = .ok ()) (dsn : String) :
    if (dsn ≠ "" → mans.secret = .ok ()) ∧ mans.create = .ok () then
      ensureMigrationJob sum256 name spec mans dsn jobs =
        (.ok (migrationJob sum256 name spec mans dsn),jobs ++ [migrationJob sum256 name spec mans dsn])
    else ∃ e, ensureMigrationJob sum256 name spec mans dsn jobs = (.error e,jobs) := by
  unfold storedJob at hjob
  simp only [ensureMigrationJob,hget,hjob]
  by_cases hdsn : dsn = ""
  · cases mans.create <;> simp [hdsn]
  · cases mans.secret <;> cases mans.create <;> simp [hdsn]

lemma eq_of_stored_append {added job : HookJob}
    (h : job ∈ storedJob sum256 name spec (jobs ++ [added])) : job = added := by
  have hmem := List.mem_of_find?_eq_some (Option.mem_def.mp h)
  rcases List.mem_append.mp hmem with hold | hnew
  · exact absurd (List.find?_some (Option.mem_def.mp h)) (List.find?_eq_none.mp hjob job hold)
  · exact List.mem_singleton.mp hnew

lemma runMigrations_of_missing (mans : MigrationAnswers) :
    ((runMigrations sum256 name spec mans jobs).1 = .ok () ↔ mans.Creates ∧ spec.blocking.getD true = false) ∧
    ∀ job ∈ storedJob sum256 name spec (runMigrations sum256 name spec mans jobs).2, ¬job.has "Complete" := by
  by_cases hreads : mans.Reads
  · obtain ⟨hatlas,hget,dsn,hdsn,hmode⟩ := id hreads
    have hcreates : mans.Creates ↔ (dsn ≠ "" → mans.secret = .ok ()) ∧ mans.create = .ok () := by
      refine ⟨fun ⟨_,_,hcreate,dsn',hdsn',_,hsecret⟩ => ?_,fun ⟨hsecret,hcreate⟩ =>
        ⟨hatlas,hget,hcreate,dsn,hdsn,hmode,hsecret⟩⟩
      obtain rfl := Option.mem_unique hdsn hdsn'
      exact ⟨hsecret,hcreate⟩
    have hensure := ensureMigrationJob_of_missing hjob hget dsn
    rw [runMigrations_of_usable hatlas hdsn hmode,hcreates]
    split_ifs at hensure with hcreated
    · rw [hensure]
      constructor
      · change (if spec.blocking.getD true then jobResult (migrationJob sum256 name spec mans dsn)
          else .ok ()) = .ok () ↔ _
        cases spec.blocking.getD true with
        | true => simp [jobResult,migrationJob]
        | false => exact iff_of_true rfl ⟨hcreated,rfl⟩
      · intro job hstored
        rintro ⟨c,hc,-⟩
        rw [eq_of_stored_append hjob hstored] at hc
        exact absurd hc List.not_mem_nil
    · obtain ⟨e,he⟩ := hensure
      rw [he]
      refine ⟨?_,by simp [hjob]⟩
      simp only [hcreated,false_and,iff_false]
      exact fun h => nomatch h
  · obtain ⟨e,hrun⟩ := runMigrations_of_unread hreads spec jobs
    have hcreates : ¬mans.Creates := fun ⟨hatlas,hget,_,dsn,hdsn,hmode,_⟩ => hreads ⟨hatlas,hget,dsn,hdsn,hmode⟩
    rw [hrun]
    exact ⟨by simp [hcreates],by simp [hjob]⟩

end

lemma afterMigration_unmigrated (env : Environment) (reason message : String) (phase : EnvironmentPhase)
    (err : Option String) (requeueAfter : ℤ) :
    isStatusConditionTrue (stageEnd (unmigrated env reason message phase err requeueAfter)).status.conditions
      "MigrationReady" = false := by
  have hmarked : isStatusConditionTrue (env.markFalse "MigrationReady" reason message).status.conditions
      "MigrationReady" = false :=
    congrArg (Option.any fun c : Condition => c.status == "True")
      (findStatusCondition_setCondition_self env.status.conditions ⟨"MigrationReady","False",reason,message⟩)
  unfold unmigrated
  split_ifs
  · exact hmarked
  · exact hmarked

lemma reportsSuccess_iff {env : Environment} (hmig : env.Migrating name spec mans) (ans : Answers) :
    ReportsSuccess ans env ↔ ans.runMigrations = .ok () := by
  have hmigrates : migrates env = true := by simp [migrates,hmig.2.1]
  unfold ReportsSuccess afterMigration migrationStage
  rw [if_pos hmigrates]
  cases ans.runMigrations with
  | ok _ => exact iff_of_true (.inl rfl) rfl
  | error e =>
    refine iff_of_false ?_ (by simp)
    cases e <;> simp [migrationReport,afterMigration_unmigrated]

lemma exists_migrating (name : String) (spec : MigrationJobSpec) (mans : MigrationAnswers) :
    ∃ env : Environment, env.Migrating name spec mans := by
  refine ⟨{ name := name, ns := "", spec := { database := {
    migrationJob := some spec.toMigrationSpec
    atlas := if mans.atlas then some {} else none } } },rfl,rfl,?_⟩
  cases mans.atlas <;> rfl

lemma truthful_iff (s : Migrations) (e : MigrationEvent) :
    Truthful sum256 name s e ↔ Watched sum256 name s e := by
  cases e with
  | reconcile mans =>
    refine forall_congr' fun spec => forall_congr' fun hspec => ?_
    obtain ⟨env,hmig⟩ := exists_migrating name spec mans
    have hjobs : (s.step sum256 name (.reconcile mans)).jobs =
        (runMigrations sum256 name spec mans s.jobs).2 := by
      simp only [Migrations.step,Option.mem_def.mp hspec]
    have hreport : (∀ (env : Environment) (ans : Answers), env.Migrating name spec mans →
        ans.runMigrations = (runMigrations sum256 name spec mans s.jobs).1 → ReportsSuccess ans env →
          ∃ job ∈ storedJob sum256 name spec (s.step sum256 name (.reconcile mans)).jobs, job.Applied spec) ↔
        ((runMigrations sum256 name spec mans s.jobs).1 = .ok () →
          ∃ job ∈ storedJob sum256 name spec (runMigrations sum256 name spec mans s.jobs).2,
            job.Applied spec) := by
      rw [hjobs]
      constructor
      · intro h hok
        exact h env { now := 0, runMigrations := (runMigrations sum256 name spec mans s.jobs).1 } hmig rfl
          ((reportsSuccess_iff hmig _).mpr hok)
      · intro h env ans hmig hans hsuccess
        exact h (hans ▸ (reportsSuccess_iff hmig ans).mp hsuccess)
    rw [hreport]
    cases hstored : storedJob sum256 name spec s.jobs with
    | some job =>
      obtain ⟨hok,hkept⟩ := runMigrations_of_stored hstored mans
      rw [hok,hkept,hstored]
      simp only [Option.mem_def,Option.some.injEq,exists_eq_left',forall_eq',reduceCtorEq,false_imp_iff,and_true]
      constructor
      · intro h hreads
        by_cases hblocks : spec.blocking.getD true = true → job.CompletesFirst
        · exact .inl (h ⟨hreads,hblocks⟩)
        · exact .inr (Classical.not_imp.mp hblocks)
      · rintro h ⟨hreads,hblocks⟩
        exact (h hreads).resolve_right fun ⟨hblocking,hnot⟩ => hnot (hblocks hblocking)
    | none =>
      obtain ⟨hok,hnone⟩ := runMigrations_of_missing hstored mans
      rw [hok]
      simp only [Option.mem_def,reduceCtorEq,false_imp_iff,implies_true,true_and,true_imp_iff]
      constructor
      · intro h hcreates
        by_contra hblocks
        obtain ⟨job,hjob,-,hcomplete,-⟩ := h ⟨hcreates,by simpa using hblocks⟩
        exact hnone job hjob hcomplete
      · rintro h ⟨hcreates,hblocks⟩
        rw [h hcreates] at hblocks
        cases hblocks
  | edit _ | finish _ _ _ | expire _ _ => exact Iff.rfl

/-- In every history the reconciles report success truthfully exactly when each one that sees its Job blocks
until the Job says it has completed, and the Job it believes has applied the migration of the spec. -/
theorem success_truthful_iff (sum256 : Sum256) (name : String) (s : Migrations) (events : List MigrationEvent) :
    EveryStep (Migrations.step sum256 name) (Truthful sum256 name) s events ↔
      EveryStep (Migrations.step sum256 name) (Watched sum256 name) s events :=
  everyStep_congr truthful_iff s events

def eagerMigration : MigrationJobSpec := { appMigration with blocking := some false }

def failedJob : HookJob :=
  (migrationJob lengthSum256 "shop" eagerMigration shopDatabase "postgres://shop").finish false 0

/-- The Job has failed, nothing waits for it, and the migration is reported as succeeded. -/
theorem failed_job_reported : failedJob.has "Failed" ∧
    migrationReport (runMigrations lengthSum256 "shop" eagerMigration shopDatabase [failedJob]).1 =
      ("Succeeded","Migrations applied successfully") ∧
    ¬EveryStep (Migrations.step lengthSum256 "shop") (Truthful lengthSum256 "shop")
      { spec := some eagerMigration, jobs := [failedJob] } [.reconcile shopDatabase] := by
  have hfailed : failedJob.has "Failed" := ⟨{ kind := "Failed", status := "True" },by decide +kernel,rfl,rfl⟩
  have hstored : storedJob lengthSum256 "shop" eagerMigration [failedJob] = some failedJob := by
    decide +kernel
  refine ⟨hfailed,by decide +kernel,?_⟩
  rintro ⟨htruth,-⟩
  have hwatched := ((truthful_iff _ _).mp htruth eagerMigration rfl).1 failedJob hstored
    ⟨rfl,rfl,"postgres://shop",rfl,fun h => absurd h (by decide)⟩
  rcases hwatched with ⟨-,-,hnot⟩ | ⟨hblocks,-⟩
  · exact hnot hfailed
  · exact absurd hblocks (by decide)

end Diverge.Environments
