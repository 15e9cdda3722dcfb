import Diverge.Database.SchemaProvider

/-! Two environments of one schema provider: when they have nothing of each other in the database. -/
namespace Diverge.Database
open Environments Kube Postgres Program Text TokenStore

section
variable {sum256 : Sum256} {p : SchemaDatabaseProvider} {ns roleName : String}
  {random : Except String (Vector UInt8 32)} {server : Server}

def OnServer (server : Server) (s : Session) : Prop := s.server = server

lemma onSecrets_onServer {β : Type} (call : Call (String × String) String ApiError β) :
    Keeps (OnServer server) (onSecrets call) := .onPart fun _ hs => hs

lemma persistPasswordSecret_onServer (secretName password : String) :
    Keeps (OnServer server) (persistPasswordSecret ns secretName password) := by
  refine .bind (onSecrets_onServer _) fun created => ?_
  cases created with
  | ok u => exact .pure _
  | error e =>
    cases e with
    | notFound | conflict | other m => exact .throw _
    | alreadyExists =>
      refine .bind (onSecrets_onServer _) fun found => ?_
      cases found with
      | error e => exact .throw _
      | ok old =>
        refine .bind (onSecrets_onServer _) fun updated => ?_
        cases updated with
        | ok u => exact .pure _
        | error e => exact .throw _

lemma hexText_ne_empty (bytes : Vector UInt8 32) : hexText bytes.toList ≠ "" := by
  intro h
  have hlength := congrArg (fun s => s.toList.length) h
  simp [hexText] at hlength

lemma usable_eq_some {password : Option String} {pw : String} :
    usable password = some pw ↔ password = some pw ∧ pw ≠ "" := by
  simp [usable,Option.filter_eq_some_iff]

def Gives (server : Server) (m : Prog Session SchemaError String) : Prop :=
  Triple (OnServer server) m (fun pw s => pw ≠ "" ∧ OnServer server s) fun _ => OnServer server

lemma saveSecret_onServer (password : String) :
    Keeps (OnServer server) (saveSecret sum256 p ns roleName password) :=
  .ite (fun _ => persistPasswordSecret_onServer _ _) fun _ => .pure _

lemma generatePassword_gives : Gives server (generatePassword sum256 p ns roleName random) := by
  cases random with
  | error e => exact Triple.bind (R := fun _ _ => False) (.throw fun _ hs => hs) fun _ _ hs => hs.elim
  | ok bytes =>
    refine Triple.bind (R := fun b => fun s => b = bytes ∧ OnServer server s)
      (.pure fun s hs => ⟨rfl,hs⟩) fun b => .fact fun hb => ?_
    refine Triple.bind (saveSecret_onServer _) fun _ => ?_
    exact Triple.bind (R := fun _ => OnServer server) (.modify fun _ hs => hs)
      fun _ => .pure fun s hs => ⟨hexText_ne_empty b,hs⟩

lemma durablePassword_gives : Gives server (durablePassword sum256 p ns roleName random) := by
  refine Triple.bind (R := fun _ => OnServer server) (fun s hs => hs) fun s => ?_
  cases hpw : usable (s.durable (durableKey p ns roleName)) with
  | none => exact generatePassword_gives
  | some pw =>
    refine Triple.bind (R := fun _ => OnServer server) (.modify fun _ hs => hs) fun _ => ?_
    exact Triple.bind (saveSecret_onServer _) fun _ => .pure fun s hs => ⟨(usable_eq_some.mp hpw).2,hs⟩

lemma secretPassword_gives : Gives server (secretPassword sum256 p ns roleName random) := by
  refine Triple.ite (fun _ => .bind (onSecrets_onServer _) fun found => ?_) fun _ => durablePassword_gives
  cases found with
  | ok pw =>
    refine .ite (fun hpw => ?_) fun _ => durablePassword_gives
    exact Triple.bind (R := fun _ => OnServer server) (.modify fun _ hs => hs)
      fun _ => .pure fun s hs => ⟨hpw,hs⟩
  | error e =>
    cases e with
    | notFound => exact durablePassword_gives
    | conflict | alreadyExists | other m => exact .throw fun _ hs => hs

lemma getOrCreatePassword_gives : Gives server (getOrCreatePassword sum256 p ns roleName random) := by
  refine Triple.bind (R := fun _ => OnServer server) (fun s hs => hs) fun s => ?_
  cases hpw : usable (s.passwords roleName) with
  | none => exact secretPassword_gives
  | some pw => exact .pure fun s hs => ⟨(usable_eq_some.mp hpw).2,hs⟩

variable {scripts : Scripts} {env : DatabaseEnvironment} {answers : Answers} {e : String}

/-- The plan of an environment with a sanitized name. -/
def PlanOf (sum256 : Sum256) (p : SchemaDatabaseProvider) (env : DatabaseEnvironment)
    (answers : Answers) (e : String) (plan : WorkloadDSN × SeedSQL) : Prop :=
  (∃ password, password ≠ "" ∧
    plan.1 = ⟨p.adminDSN,safeRoleName sum256 (previewSchema e),password,previewSchema e⟩) ∧
  buildSeedSQL p env answers.configMaps = .ok plan.2

lemma prepare_spec (he : sanitizeEnvName sum256 env.name = .ok e) (server : Server) :
    Triple (OnServer server) (prepare sum256 p env answers)
      (fun plan s => PlanOf sum256 p env answers e plan ∧ OnServer server s) fun _ => OnServer server := by
  unfold prepare
  rw [he]
  refine Triple.bind (R := fun envName s => envName = e ∧ OnServer server s)
    (.pure fun s hs => ⟨rfl,hs⟩) fun envName => .fact fun henv => ?_
  subst henv
  refine Triple.bind getOrCreatePassword_gives fun password => .fact fun hpw => ?_
  cases hseed : buildSeedSQL p env answers.configMaps with
  | error err => exact Triple.bind (R := fun _ _ => False) (.throw fun s hs => hs) fun _ _ hs => hs.elim
  | ok seed =>
    refine Triple.bind (R := fun seed' s => seed' = seed ∧ OnServer server s)
      (.pure fun s hs => ⟨rfl,hs⟩) fun seed' => .fact fun hsame => .pure fun s hs => ⟨⟨⟨password,hpw,rfl⟩,?_⟩,hs⟩
    rw [hsame,hseed]

lemma executeSetup_spec (dsn : WorkloadDSN) (seed : SeedSQL) (opened : Option String) (server : Server) :
    Triple (OnServer server) (executeSetup scripts dsn seed opened) (fun result s => result.dsn = dsn ∧
        ((result.setupSQLExecuted = false ∧ s.server.catalog = server.catalog ∧
            (opened = none → ∀ c, provisionSQL scripts dsn seed server.catalog = .ok c →
              takesEffect server.script = false)) ∨
          (opened = none ∧ takesEffect server.script = true ∧
            provisionSQL scripts dsn seed server.catalog = .ok s.server.catalog)))
      fun _ _ => False := by
  cases opened with
  | some err => exact .pure fun s hs => ⟨rfl,.inl ⟨rfl,by rw [hs],fun h => (by cases h)⟩⟩
  | none =>
    refine Triple.bind (R := fun reply s =>
        ((∃ err, reply = .error err) ∧ s.server.catalog = server.catalog ∧
          ∀ c, provisionSQL scripts dsn seed server.catalog = .ok c → takesEffect server.script = false) ∨
        (takesEffect server.script = true ∧
          provisionSQL scripts dsn seed server.catalog = .ok s.server.catalog))
      (.onPart fun s hs => ?_) fun reply => ?_
    · rw [OnServer] at hs
      subst hs
      rcases s.server.exec_cases (provisionSQL scripts dsn seed) with
        ⟨c,hc,heffect,hserver⟩ | ⟨hnot,hfail,hserver⟩
      · refine .inr ⟨heffect,?_⟩
        rw [hc]
        change Except.ok c = Except.ok (s.server.exec _).2.catalog
        rw [hserver]
      · refine .inl ⟨hfail,?_,hnot⟩
        change (s.server.exec _).2.catalog = _
        rw [hserver]
    · cases reply with
      | error err => exact .pure fun s hs => ⟨rfl,hs.imp (fun h => ⟨rfl,h.2.1,fun _ => h.2.2⟩) fun h => ⟨rfl,h⟩⟩
      | ok u =>
        refine .pure fun s hs => ⟨rfl,?_⟩
        rcases hs with ⟨⟨err,herr⟩,-⟩ | h
        · cases herr
        · exact .inr ⟨rfl,h⟩

/-- The catalogs before and after a Provision whose SQL took effect. -/
def Sets (sum256 : Sum256) (scripts : Scripts) (p : SchemaDatabaseProvider) (env : DatabaseEnvironment)
    (answers : Answers) (e : String) (c c' : Catalog) : Prop :=
  ∃ plan, PlanOf sum256 p env answers e plan ∧ answers.opened = none ∧
    provisionSQL scripts plan.1 plan.2 c = .ok c'

lemma provision_catalog (he : sanitizeEnvName sum256 env.name = .ok e) (s : Session) :
    (ending (provision sum256 scripts p env answers) s).2.server.catalog = s.server.catalog ∨
      Sets sum256 scripts p env answers e s.server.catalog
        (ending (provision sum256 scripts p env answers) s).2.server.catalog := by
  refine Triple.ended (R := fun t => t.server.catalog = s.server.catalog ∨
    Sets sum256 scripts p env answers e s.server.catalog t.server.catalog) (P := OnServer s.server) ?_ rfl
  refine Triple.seq (prepare_spec he s.server) (fun _ t ht => .inl (congrArg Server.catalog ht)) fun plan => .fact fun hplan => ?_
  exact (executeSetup_spec plan.1 plan.2 answers.opened s.server).conseq (fun _ ht => ht)
    (fun result t ht => ht.2.imp (fun h => h.2.1) fun h => ⟨plan,hplan,h.1,h.2.2⟩) fun _ _ ht => ht.elim

/-- A quiet session that remembers a password. -/
def quietSession (c : Catalog) (password : String) : Session where
  server := ⟨c,[]⟩
  secrets := ⟨fun _ => none,[]⟩
  passwords := fun _ => some password
  durable := fun _ => none

lemma getOrCreatePassword_remembered {ns roleName password : String} (hpw : password ≠ "")
    (random : Except String (Vector UInt8 32)) (c : Catalog) :
    ending (getOrCreatePassword sum256 p ns roleName random) (quietSession c password) =
      (.ok password,quietSession c password) := by
  unfold getOrCreatePassword
  rw [ending_bind_ok (ending_get _)]
  have husable : usable ((quietSession c password).passwords roleName) = some password :=
    usable_eq_some.mpr ⟨rfl,hpw⟩
  rw [husable]
  rfl

lemma provision_quiet (he : sanitizeEnvName sum256 env.name = .ok e)
    {plan : WorkloadDSN × SeedSQL} (hplan : PlanOf sum256 p env answers e plan)
    (hopen : answers.opened = none) {c c' : Catalog} (hsql : provisionSQL scripts plan.1 plan.2 c = .ok c') :
    (ending (provision sum256 scripts p env answers)
      (quietSession c plan.1.password)).2.server.catalog = c' := by
  obtain ⟨dsn,seed⟩ := plan
  obtain ⟨⟨password,hpw,rfl⟩,hseed⟩ := hplan
  have hprepare : ending (prepare sum256 p env answers) (quietSession c password) =
      (.ok (⟨p.adminDSN,safeRoleName sum256 (previewSchema e),password,previewSchema e⟩,seed),
        quietSession c password) := by
    unfold prepare
    rw [he,hseed]
    refine (ending_bind_ok (ending_pure e (quietSession c password))).trans ?_
    refine (ending_bind_ok (getOrCreatePassword_remembered hpw answers.random c)).trans ?_
    rfl
  unfold provision
  rw [ending_bind_ok hprepare,hopen]
  change (ending (onServer (provisionSQL scripts _ seed) >>= _) (quietSession c password)).2.server.catalog = c'
  have hexec : ending (onServer (provisionSQL scripts ⟨p.adminDSN,safeRoleName sum256 (previewSchema e),
      password,previewSchema e⟩ seed)) (quietSession c password) =
      (.ok (.ok ()),{ quietSession c password with server := ⟨c',[]⟩ }) := by
    have hserver : (quietSession c password).server = ⟨c,[]⟩ := rfl
    rw [onServer,ending_onPart,hserver,Server.exec_quiet,hsql]
  rw [ending_bind_ok hexec]
  rfl

variable {opened : Option String} {I : Catalog → Prop}

lemma onServer_keeps {batch : Catalog → Except String Catalog} (h : ∀ c c', batch c = .ok c' → I c → I c') :
    Keeps (fun s => I s.server.catalog) (onServer batch) := by
  refine .onPart fun s hs => ?_
  change I (s.server.exec batch).2.catalog
  rcases s.server.exec_cases batch with ⟨c,hc,-,hserver⟩ | ⟨-,-,hserver⟩
  · rw [hserver]
    exact h _ c hc hs
  · rw [hserver]
    exact hs

lemma onSecrets_keeps {β : Type} (call : Call (String × String) String ApiError β) :
    Keeps (fun s => I s.server.catalog) (onSecrets call) := .onPart fun _ hs => hs

lemma deletePasswordSecret_keeps (ns roleName : String) :
    Keeps (fun s => I s.server.catalog) (deletePasswordSecret sum256 p ns roleName) := by
  refine .ite (fun _ => .bind (onSecrets_keeps _) fun deleted => ?_) fun _ => .pure _
  cases deleted with
  | ok u => exact .pure _
  | error err =>
    cases err with
    | notFound => exact .pure _
    | conflict | alreadyExists | other m => exact .throw _

lemma forgetPassword_keeps (ns roleName : String) :
    Keeps (fun s => I s.server.catalog) (forgetPassword sum256 p ns roleName) :=
  .bind (deletePasswordSecret_keeps _ _) fun _ => .modify fun _ hs => hs

lemma teardown_keeps (he : sanitizeEnvName sum256 env.name = .ok e)
    (hschema : ∀ c c', exec (.dropSchema (previewSchema e)) c = .ok c' → I c → I c')
    (hrole : ∀ c c', exec (.dropRole (safeRoleName sum256 (previewSchema e))) c = .ok c' → I c → I c') :
    Keeps (fun s => I s.server.catalog) (teardown sum256 p env opened) := by
  unfold teardown
  rw [he]
  cases opened with
  | some err => exact .bind (.pure e) fun _ => .throw _
  | none =>
    refine Triple.bind (R := fun envName s => envName = e ∧ I s.server.catalog)
      (.pure fun s hs => ⟨rfl,hs⟩) fun envName => .fact fun henv => ?_
    subst henv
    refine Keeps.bind (onServer_keeps hschema) fun dropped => .bind (.orExit _ _) fun _ => ?_
    exact .bind (onServer_keeps hrole) fun dropped => .bind (.orExit _ _) fun _ => forgetPassword_keeps _ _

end

lemma previewSchema_ne_public (e : String) : previewSchema e ≠ "public" := by
  intro h
  have htake := congrArg (fun s => s.toList.take 2) h
  simp [previewSchema] at htake

variable {st : Statement} {c c' : Catalog} {other : String}

lemma cloneSQL_schema {schema : String} {c : Catalog} (h : st ∈ cloneSQL schema c) :
    st.schema? = some schema := by
  simp only [cloneSQL,List.mem_append,List.mem_cons,List.mem_map] at h
  rcases h with (((rfl | ⟨name,-,rfl⟩) | ⟨name,-,rfl⟩) | ⟨name,-,rfl⟩) | ⟨name,-,rfl⟩
  all_goals rfl

lemma roleSQL_schema {schema roleName password : String} (h : st ∈ roleSQL schema roleName password) :
    st.schema? = none ∨ st.schema? = some schema ∨ st.schema? = some "public" := by
  simp only [roleSQL,List.mem_cons,List.not_mem_nil,or_false] at h
  rcases h with rfl | rfl | rfl | rfl | rfl | rfl | rfl | rfl | rfl | rfl | rfl
  all_goals simp [Statement.schema?]

lemma setupSQL_sameGrants {schema roleName password other : String} (hs : schema ≠ other)
    (hpublic : other ≠ "public") (h : setupSQL schema roleName password c = .ok c') :
    SameGrants other c c' := by
  refine execAll_relates (.refl other) .trans (fun st hst c c' hrun => exec_sameGrants ?_ hrun) h
  rcases List.mem_append.mp hst with hst | hst
  · rw [cloneSQL_schema hst]
    exact fun heq => hs (Option.some.inj heq)
  · rcases roleSQL_schema hst with hst | hst | hst
    · rw [hst]
      exact Option.some_ne_none other |>.symm
    · rw [hst]
      exact fun heq => hs (Option.some.inj heq)
    · rw [hst]
      exact fun heq => hpublic (Option.some.inj heq).symm

lemma hasSchema_dropSchema {schema other : String} (h : schema ≠ other)
    (hrun : exec (.dropSchema schema) c = .ok c') (hc : c.hasSchema other = true) :
    c'.hasSchema other = true := by
  cases hrun
  simpa [Catalog.hasSchema,Catalog.removeSchema,h.symm] using hc

lemma hasSchema_dropRole {role other : String} (hrun : exec (.dropRole role) c = .ok c')
    (hc : c.hasSchema other = true) : c'.hasSchema other = true := by
  rw [exec] at hrun
  split_ifs at hrun
  · cases hrun
    exact hc
  · cases hrun
    exact hc

lemma hasRole_dropSchema {schema other : String}
    (hrun : exec (.dropSchema schema) c = .ok c') (hc : c.hasRole other = true) :
    c'.hasRole other = true := by
  cases hrun
  exact hc

lemma hasRole_dropRole {role other : String} (h : role ≠ other)
    (hrun : exec (.dropRole role) c = .ok c') (hc : c.hasRole other = true) : c'.hasRole other = true := by
  rw [exec] at hrun
  split_ifs at hrun
  · cases hrun
    exact hc
  · cases hrun
    rw [Catalog.hasRole,findRole_removeRole h.symm]
    exact hc

variable (sum256 : Sum256) (scripts : Scripts) (p : SchemaDatabaseProvider)

/-- What one environment's calls leave of another's: no privilege on its schema is granted, and schema
and role are not dropped. -/
structure Spares (env : DatabaseEnvironment) (answers : Answers) (schema role : String) : Prop where
  grants : ∀ s, AddsNoGrant schema s.server.catalog
    (ending (provision sum256 scripts p env answers) s).2.server.catalog
  keepsSchema : ∀ opened s, s.server.catalog.hasSchema schema = true →
    (ending (teardown sum256 p env opened) s).2.server.catalog.hasSchema schema = true
  keepsRole : ∀ opened s, s.server.catalog.hasRole role = true →
    (ending (teardown sum256 p env opened) s).2.server.catalog.hasRole role = true

structure Separate (env₁ env₂ : DatabaseEnvironment) (answers₁ answers₂ : Answers) (e₁ e₂ : String) :
    Prop where
  schemas : previewSchema e₁ ≠ previewSchema e₂
  roles : safeRoleName sum256 (previewSchema e₁) ≠ safeRoleName sum256 (previewSchema e₂)
  spares₁ : Spares sum256 scripts p env₁ answers₁ (previewSchema e₂) (safeRoleName sum256 (previewSchema e₂))
  spares₂ : Spares sum256 scripts p env₂ answers₂ (previewSchema e₁) (safeRoleName sum256 (previewSchema e₁))

/-- A text of SQL for the seed grants nothing on another schema, when it is run after the setup. -/
def SeedSpares (env : DatabaseEnvironment) (answers : Answers) (e other : String) : Prop :=
  ∀ text, buildSeedSQL p env answers.configMaps = .ok (.script text) → answers.opened = none →
    ∀ password c c' c'', password ≠ "" →
      setupSQL (previewSchema e) (safeRoleName sum256 (previewSchema e)) password c = .ok c' →
        scripts text c' = .ok c'' → AddsNoGrant other c' c''

/-- The names have two texts, or one that is cut and comes from two names; neither is the cut text
of the other with its digest; and the seeds keep to themselves. -/
structure Distinct (env₁ env₂ : DatabaseEnvironment) (answers₁ answers₂ : Answers) (e₁ e₂ : String) :
    Prop where
  texts : ¬SameSchema env₁.name env₂.name
  uncrossed₁ : ¬Crosses sum256 env₁.name env₂.name
  uncrossed₂ : ¬Crosses sum256 env₂.name env₁.name
  seed₁ : SeedSpares sum256 scripts p env₁ answers₁ e₁ (previewSchema e₂)
  seed₂ : SeedSpares sum256 scripts p env₂ answers₂ e₂ (previewSchema e₁)

variable {sum256 scripts p} {env : DatabaseEnvironment} {answers : Answers} {e : String}

section
variable (he : sanitizeEnvName sum256 env.name = .ok e)
include he

lemma schemaOf_of_ok : schemaOf sum256 env.name = previewSchema e := by
  cases h : accepted env.name with
  | false =>
    rw [sanitizeEnvName_of_not_accepted h] at he
    cases he
  | true =>
    have hmap := sanitizeEnvName_of_accepted sum256 h
    rw [he] at hmap
    exact (Except.ok.inj hmap).symm

lemma provision_addsNoGrant_iff (hs : previewSchema e ≠ other) (hpublic : other ≠ "public") :
    (∀ s, AddsNoGrant other s.server.catalog
      (ending (provision sum256 scripts p env answers) s).2.server.catalog) ↔
      SeedSpares sum256 scripts p env answers e other := by
  constructor
  · intro h text hseed hopen password c c' c'' hpw hsetup htext g hg hother
    have hplan : PlanOf sum256 p env answers e
        (⟨p.adminDSN,safeRoleName sum256 (previewSchema e),password,previewSchema e⟩,.script text) :=
      ⟨⟨password,hpw,rfl⟩,hseed⟩
    have hsql : provisionSQL scripts ⟨p.adminDSN,safeRoleName sum256 (previewSchema e),password,
        previewSchema e⟩ (.script text) c = .ok c'' := by
      rw [provisionSQL,hsetup]
      exact htext
    have hrun := h (quietSession c password)
    rw [provision_quiet he hplan hopen hsql] at hrun
    exact (setupSQL_sameGrants hs hpublic hsetup g hother).mpr (hrun g hg hother)
  · intro h s
    rcases provision_catalog he s with hsame | ⟨⟨dsn,seed⟩,⟨⟨password,hpw,rfl⟩,hseed⟩,hopen,hsql⟩
    · rw [hsame]
      exact (SameGrants.refl _ _).addsNoGrant
    · rw [provisionSQL] at hsql
      cases hsetup : setupSQL (previewSchema e) (safeRoleName sum256 (previewSchema e)) password
          s.server.catalog with
      | error err =>
        rw [hsetup] at hsql
        cases hsql
      | ok c' =>
        rw [hsetup] at hsql
        have hsame := setupSQL_sameGrants hs hpublic hsetup
        cases seed with
        | none | copySchema source =>
          cases hsql
          exact hsame.addsNoGrant
        | script text =>
          intro g hg hother
          exact (hsame g hother).mp (h text hseed hopen password _ _ _ hpw hsetup hsql g hg hother)

lemma teardown_keepsSchema (hs : previewSchema e ≠ other) (opened : Option String) (s : Session)
    (h : s.server.catalog.hasSchema other = true) :
    (ending (teardown sum256 p env opened) s).2.server.catalog.hasSchema other = true :=
  Keeps.ending (I := fun s : Session => s.server.catalog.hasSchema other = true)
    (teardown_keeps (I := fun c => c.hasSchema other = true) he
      (fun _ _ hrun hc => hasSchema_dropSchema hs hrun hc) fun _ _ hrun hc => hasSchema_dropRole hrun hc) h

lemma teardown_keepsRole
    (hr : safeRoleName sum256 (previewSchema e) ≠ other) (opened : Option String) (s : Session)
    (h : s.server.catalog.hasRole other = true) :
    (ending (teardown sum256 p env opened) s).2.server.catalog.hasRole other = true :=
  Keeps.ending (I := fun s : Session => s.server.catalog.hasRole other = true)
    (teardown_keeps (I := fun c => c.hasRole other = true) he
      (fun _ _ hrun hc => hasRole_dropSchema hrun hc) fun _ _ hrun hc => hasRole_dropRole hr hrun hc) h

end

/-- Two environments on one database have nothing of each other exactly when their names are
distinct and their seeds keep to themselves; the namespaces do not matter. -/
theorem schemas_isolated_iff (sum256 : Sum256) (scripts : Scripts) (p : SchemaDatabaseProvider)
    (env₁ env₂ : DatabaseEnvironment) (answers₁ answers₂ : Answers) (e₁ e₂ : String)
    (h₁ : sanitizeEnvName sum256 env₁.name = .ok e₁) (h₂ : sanitizeEnvName sum256 env₂.name = .ok e₂)
    (hlower : Set.InjOn (digest8 sum256) {toLower env₁.name,toLower env₂.name})
    (hschema : Set.InjOn (digest8 sum256) {previewSchema e₁,previewSchema e₂}) :
    Separate sum256 scripts p env₁ env₂ answers₁ answers₂ e₁ e₂ ↔
      Distinct sum256 scripts p env₁ env₂ answers₁ answers₂ e₁ e₂ := by
  have hs₁ := schemaOf_of_ok h₁
  have hs₂ := schemaOf_of_ok h₂
  have hsame : previewSchema e₁ = previewSchema e₂ ↔ SameSchema env₁.name env₂.name := by
    rw [← hs₁,← hs₂]
    exact schemaOf_eq_iff fun h => hlower (by simp) (by simp) h
  have hrole : safeRoleName sum256 (previewSchema e₁) = safeRoleName sum256 (previewSchema e₂) ↔
      previewSchema e₁ = previewSchema e₂ ∨ Crosses sum256 env₁.name env₂.name ∨
        Crosses sum256 env₂.name env₁.name := by
    have h := safeRoleName_eq_iff sum256 env₁.name env₂.name
    rw [hs₁,hs₂] at h
    exact h fun h => hschema (by simp) (by simp) h
  constructor
  · rintro ⟨hschemas,hroles,hspares₁,hspares₂⟩
    have hcross := mt hrole.mpr hroles
    rw [not_or,not_or] at hcross
    exact ⟨mt hsame.mpr hschemas,hcross.2.1,hcross.2.2,
      (provision_addsNoGrant_iff h₁ hschemas (previewSchema_ne_public e₂)).mp hspares₁.grants,
      (provision_addsNoGrant_iff h₂ hschemas.symm (previewSchema_ne_public e₁)).mp hspares₂.grants⟩
  · rintro ⟨htexts,hcross₁,hcross₂,hseed₁,hseed₂⟩
    have hschemas : previewSchema e₁ ≠ previewSchema e₂ := mt hsame.mp htexts
    have hroles : safeRoleName sum256 (previewSchema e₁) ≠ safeRoleName sum256 (previewSchema e₂) := by
      rw [Ne,hrole]
      rintro (h | h | h)
      · exact hschemas h
      · exact hcross₁ h
      · exact hcross₂ h
    refine ⟨hschemas,hroles,⟨?_,?_,?_⟩,⟨?_,?_,?_⟩⟩
    · exact (provision_addsNoGrant_iff h₁ hschemas (previewSchema_ne_public e₂)).mpr hseed₁
    · exact fun opened s => teardown_keepsSchema h₁ hschemas opened s
    · exact fun opened s => teardown_keepsRole h₁ hroles opened s
    · exact (provision_addsNoGrant_iff h₂ hschemas.symm (previewSchema_ne_public e₁)).mpr hseed₂
    · exact fun opened s => teardown_keepsSchema h₂ hschemas.symm opened s
    · exact fun opened s => teardown_keepsRole h₂ hroles.symm opened s

def sizeSum256 : Sum256 := fun t => Vector.replicate 32 (UInt8.ofNat t.length)

theorem shop_and_store_isolated :
    sanitizeEnvName sizeSum256 "shop" = .ok "shop" ∧ sanitizeEnvName sizeSum256 "my-store" = .ok "my_store" ∧
      Separate sizeSum256 (fun _ c => .ok c) ⟨"postgres://admin@db/app",true⟩
        { name := "shop", ns := "team-a" } { name := "my-store", ns := "team-a" }
        { random := .error "" } { random := .error "" } "shop" "my_store" := by
  have h₁ : sanitizeEnvName sizeSum256 "shop" = .ok "shop" := by decide +kernel
  have h₂ : sanitizeEnvName sizeSum256 "my-store" = .ok "my_store" := by decide +kernel
  have hlower : digest8 sizeSum256 (toLower "shop") ≠ digest8 sizeSum256 (toLower "my-store") := by
    decide +kernel
  have hschema : digest8 sizeSum256 (previewSchema "shop") ≠ digest8 sizeSum256 (previewSchema "my_store") := by
    decide +kernel
  refine ⟨h₁,h₂,(schemas_isolated_iff sizeSum256 (fun _ c => .ok c) ⟨"postgres://admin@db/app",true⟩
    { name := "shop", ns := "team-a" } { name := "my-store", ns := "team-a" } { random := .error "" }
    { random := .error "" } "shop" "my_store" h₁ h₂ (Set.injOn_pair.mpr fun h => absurd h hlower)
    (Set.injOn_pair.mpr fun h => absurd h hschema)).mpr ⟨?_,?_,?_,?_,?_⟩⟩
  · exact fun h => absurd h.1 (by decide +kernel)
  · exact fun h => absurd h.2.1 (by decide +kernel)
  · exact fun h => absurd h.2.1 (by decide +kernel)
  · exact fun text h => absurd h (by simp [buildSeedSQL,trimSpace])
  · exact fun text h => absurd h (by simp [buildSeedSQL,trimSpace])

def shopCatalog : Catalog where
  schemas := ["public","preview_shop"]
  roles := [{ name := "diverge_preview_preview_shop", password := some "secret" }]

/-- Environments of one name in two namespaces: when the one is torn down, the schema and the role of
the other are dropped. Names that differ in the number of their hyphens only have one schema too. -/
theorem namesake_schema_dropped :
    (let env₁ : DatabaseEnvironment := { name := "shop", ns := "team-a" }
     let env₂ : DatabaseEnvironment := { name := "shop", ns := "team-b" }
     let after := (ending (teardown sizeSum256 ⟨"postgres://admin@db/app",true⟩ env₂ none)
       (quietSession shopCatalog "secret")).2.server.catalog
     (env₁.ns,env₁.name) ≠ (env₂.ns,env₂.name) ∧
       (sanitizeEnvName sizeSum256 env₁.name).map previewSchema = .ok "preview_shop" ∧
       safeRoleName sizeSum256 "preview_shop" = "diverge_preview_preview_shop" ∧
       after.hasSchema "preview_shop" = false ∧
       after.hasRole "diverge_preview_preview_shop" = false) ∧
      sanitizeEnvName sizeSum256 "a--b" = sanitizeEnvName sizeSum256 "a-b" := by
  decide +kernel

end Diverge.Database
