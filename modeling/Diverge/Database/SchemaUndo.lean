import Diverge.Database.SchemaIsolation

/-! What a Teardown of the schema provider can undo: the role can be dropped only when it has no
privilege outside its schema, and the setup gives it one on `public`. -/
namespace Diverge.Database
open Kube Postgres Program Text TokenStore

section
variable {schema roleName password : String} {c c' : Catalog}

lemma setupSQL_grantsPublic (h : setupSQL schema roleName password c = .ok c') :
    ⟨.schema "public",.role roleName,.usage⟩ ∈ c'.grants := by
  have hsplit : cloneSQL schema c ++ roleSQL schema roleName password =
      (cloneSQL schema c ++ (roleSQL schema roleName password).take 8) ++
        (roleSQL schema roleName password).drop 8 := by
    rw [List.append_assoc,List.take_append_drop]
  rw [setupSQL,hsplit,execAll_append,bind_ok_iff] at h
  obtain ⟨c₁,-,h⟩ := h
  change execAll [.grantSchema "public" roleName [.usage],.grantAll .tables "public" roleName [.select],
    .requireReadOnly "public" roleName] c₁ = .ok c' at h
  simp only [execAll_cons,execAll_nil,bind_ok_iff] at h
  obtain ⟨c₂,hgrant,c₃,hselect,c₄,hcheck,hlast⟩ := h
  cases hlast
  rw [exec_requireReadOnly hcheck,needs_ok hselect]
  refine List.mem_append_right _ ?_
  rw [needs_ok hgrant]
  exact List.mem_append_left _ (by simp)

lemma not_confined_of_public {schema : String} (hs : schema ≠ "public")
    (h : ⟨.schema "public",.role roleName,.usage⟩ ∈ c.grants) : confined c schema roleName = false := by
  rw [Bool.eq_false_iff]
  intro hconfined
  exact hs ((confined_iff.mp hconfined).1 _ h rfl).symm

end

section
variable {sum256 : Sum256} {p : SchemaDatabaseProvider} {env : DatabaseEnvironment} {e : String}

/-- The same session with a connection and an API that do not fail. -/
def Session.quiet (s : Session) : Session :=
  { s with server := { s.server with script := [] }, secrets := { s.secrets with script := [] } }

variable (batch : Catalog → Except String Catalog)

lemma onServer_quiet (t : Session)
    (hq : t.server.script = []) {c' : Catalog} (h : batch t.server.catalog = .ok c') :
    ending (onServer batch) t = (.ok (.ok ()),{ t with server := ⟨c',[]⟩ }) := by
  obtain ⟨⟨c,script⟩,secrets,passwords,durable⟩ := t
  change script = [] at hq
  subst hq
  change batch c = .ok c' at h
  rw [onServer,ending_onPart,Server.exec_quiet,h]

lemma onServer_quiet_error (t : Session)
    (hq : t.server.script = []) {err : String} (h : batch t.server.catalog = .error err) :
    ending (onServer batch) t = (.ok (.error err),t) := by
  obtain ⟨⟨c,script⟩,secrets,passwords,durable⟩ := t
  change script = [] at hq
  subst hq
  change batch c = .error err at h
  rw [onServer,ending_onPart,Server.exec_quiet,h]

lemma deletePasswordSecret_quiet (sum256 : Sum256) (p : SchemaDatabaseProvider) (ns roleName : String)
    {t : Session} (hq : t.secrets.script = []) :
    ∃ objects, ending (deletePasswordSecret sum256 p ns roleName) t =
        (.ok (),{ t with secrets := ⟨objects,[]⟩ }) ∧
      (p.client = true → objects (ns,rolePasswordSecretName sum256 roleName) = none) := by
  obtain ⟨server,⟨objects,script⟩,passwords,durable⟩ := t
  change script = [] at hq
  subst hq
  unfold deletePasswordSecret
  cases hclient : p.client with
  | false => exact ⟨objects,rfl,fun h => (by cases h)⟩
  | true =>
    cases hfound : objects (ns,rolePasswordSecretName sum256 roleName) with
    | none =>
      have hdelete : delete (ns,rolePasswordSecretName sum256 roleName)
          (⟨objects,[]⟩ : Cluster (String × String) String) = (.error .notFound,⟨objects,[]⟩) := by
        simp [delete,request,hfound]
      refine ⟨objects,?_,fun _ => hfound⟩
      rw [if_pos rfl,ending_bind,onSecrets,ending_onPart,hdelete]
      rfl
    | some pw =>
      refine ⟨Function.update objects (ns,rolePasswordSecretName sum256 roleName) none,?_,fun _ => by simp⟩
      rw [if_pos rfl,ending_bind,onSecrets,ending_onPart,delete_quiet hfound]
      rfl

lemma teardown_quiet (he : sanitizeEnvName sum256 env.name = .ok e) (s : Session) :
    (∀ err, exec (.dropRole (safeRoleName sum256 (previewSchema e)))
        (s.server.catalog.removeSchema (previewSchema e)) = .error err →
      (ending (teardown sum256 p env none) s.quiet).1 = .error (.database "failed to drop role" err)) ∧
    (∀ c', exec (.dropRole (safeRoleName sum256 (previewSchema e)))
        (s.server.catalog.removeSchema (previewSchema e)) = .ok c' →
      (ending (teardown sum256 p env none) s.quiet).1 = .ok () ∧
      (ending (teardown sum256 p env none) s.quiet).2.server.catalog = c' ∧
      (p.client = true → (ending (teardown sum256 p env none) s.quiet).2.secrets.objects
        (envNamespace env,rolePasswordSecretName sum256 (safeRoleName sum256 (previewSchema e))) = none)) := by
  have hdrop : ending (onServer (exec (.dropSchema (previewSchema e)))) s.quiet =
      (.ok (.ok ()),{ s.quiet with server := ⟨s.server.catalog.removeSchema (previewSchema e),[]⟩ }) :=
    onServer_quiet _ s.quiet rfl rfl
  have hfirst : ending (teardown sum256 p env none) s.quiet =
      ending (do
        orExit (.database "failed to drop role")
          (← onServer (exec (.dropRole (safeRoleName sum256 (previewSchema e)))))
        forgetPassword sum256 p (envNamespace env) (safeRoleName sum256 (previewSchema e)))
        { s.quiet with server := ⟨s.server.catalog.removeSchema (previewSchema e),[]⟩ } := by
    unfold teardown
    rw [he]
    refine (ending_bind_ok (ending_pure e s.quiet)).trans ?_
    refine (ending_bind_ok hdrop).trans ?_
    rfl
  rw [hfirst]
  constructor
  · intro err herr
    rw [ending_bind_ok (onServer_quiet_error _ _ rfl herr)]
    rfl
  · intro c' hc'
    rw [ending_bind_ok (onServer_quiet _ _ rfl hc')]
    obtain ⟨objects,hdelete,hgone⟩ := deletePasswordSecret_quiet sum256 p (envNamespace env)
      (safeRoleName sum256 (previewSchema e)) (t := { s.quiet with server := ⟨c',[]⟩ }) rfl
    have hforget : ending (forgetPassword sum256 p (envNamespace env)
        (safeRoleName sum256 (previewSchema e))) { s.quiet with server := ⟨c',[]⟩ } =
        (.ok (),forget (durableKey p (envNamespace env) (safeRoleName sum256 (previewSchema e)))
          (safeRoleName sum256 (previewSchema e))
          { s.quiet with server := ⟨c',[]⟩, secrets := ⟨objects,[]⟩ }) := by
      unfold forgetPassword
      rw [ending_bind_ok hdelete]
      rfl
    change (ending (forgetPassword sum256 p _ _) _).1 = _ ∧ (ending (forgetPassword sum256 p _ _) _).2.server.catalog = _ ∧
      (_ → (ending (forgetPassword sum256 p _ _) _).2.secrets.objects _ = none)
    rw [hforget]
    exact ⟨rfl,rfl,hgone⟩

end

variable (sum256 : Sum256) (p : SchemaDatabaseProvider) (env : DatabaseEnvironment) (e : String)

/-- A Teardown without a fault succeeds, and nothing of the environment is left. -/
structure Undone (s : Session) : Prop where
  succeeds : (ending (teardown sum256 p env none) s.quiet).1 = .ok ()
  schema : (ending (teardown sum256 p env none) s.quiet).2.server.catalog.hasSchema (previewSchema e) = false
  role : (ending (teardown sum256 p env none) s.quiet).2.server.catalog.hasRole
    (safeRoleName sum256 (previewSchema e)) = false
  secret : p.client = true → (ending (teardown sum256 p env none) s.quiet).2.secrets.objects
    (envNamespace env,rolePasswordSecretName sum256 (safeRoleName sum256 (previewSchema e))) = none
  privileges : (ending (teardown sum256 p env none) s.quiet).2.server.catalog.holds
    (safeRoleName sum256 (previewSchema e)) = false

variable {sum256 p env e}

lemma undone_iff_confined (he : sanitizeEnvName sum256 env.name = .ok e) (s : Session) :
    Undone sum256 p env e s ↔
      confined s.server.catalog (previewSchema e) (safeRoleName sum256 (previewSchema e)) = true := by
  obtain ⟨hfails,hworks⟩ := teardown_quiet (p := p) he s
  rw [← holds_removeSchema]
  cases hdrop : exec (.dropRole (safeRoleName sum256 (previewSchema e)))
      (s.server.catalog.removeSchema (previewSchema e)) with
  | error err =>
    constructor
    · intro h
      have hsucceeds := h.succeeds
      rw [hfails err hdrop] at hsucceeds
      cases hsucceeds
    · intro h
      obtain ⟨c',hc'⟩ := exec_dropRole_ok_iff.mpr (.inr h)
      rw [hdrop] at hc'
      cases hc'
  | ok c' =>
    obtain ⟨hok,hcatalog,hsecret⟩ := hworks c' hdrop
    obtain ⟨hrole,hschemas,hgrants,hdefaults⟩ := exec_dropRole_ok hdrop
    have hholds : c'.holds (safeRoleName sum256 (previewSchema e)) =
        (s.server.catalog.removeSchema (previewSchema e)).holds (safeRoleName sum256 (previewSchema e)) := by
      rw [Catalog.holds,Catalog.holds,hgrants,hdefaults]
    have hschema : c'.hasSchema (previewSchema e) = false := by
      rw [Catalog.hasSchema,hschemas]
      exact hasSchema_removeSchema
    rw [← hholds]
    constructor
    · intro h
      rw [← hcatalog]
      exact h.privileges
    · intro h
      rw [← hcatalog] at hschema hrole h
      exact ⟨hok,hschema,hrole,hsecret,h⟩

/-- The seed is a text of SQL that has left the role without a privilege outside its schema. -/
def SeedWithdraws (sum256 : Sum256) (p : SchemaDatabaseProvider) (env : DatabaseEnvironment)
    (answers : Answers) (e : String) (c : Catalog) : Prop :=
  (∃ text, buildSeedSQL p env answers.configMaps = .ok (.script text)) ∧
    confined c (previewSchema e) (safeRoleName sum256 (previewSchema e)) = true

lemma provision_executed (he : sanitizeEnvName sum256 env.name = .ok e) {scripts : Scripts}
    {answers : Answers} {s : Session} {result : DatabaseResult}
    (hrun : (ending (provision sum256 scripts p env answers) s).1 = .ok result)
    (hexec : result.setupSQLExecuted = true) :
    (∃ text, buildSeedSQL p env answers.configMaps = .ok (.script text)) ∨
      ⟨.schema "public",.role (safeRoleName sum256 (previewSchema e)),.usage⟩ ∈
        (ending (provision sum256 scripts p env answers) s).2.server.catalog.grants := by
  have hspec : Triple (OnServer s.server) (provision sum256 scripts p env answers)
      (fun result t => result.setupSQLExecuted = true →
        (∃ text, buildSeedSQL p env answers.configMaps = .ok (.script text)) ∨
        ⟨.schema "public",.role (safeRoleName sum256 (previewSchema e)),.usage⟩ ∈ t.server.catalog.grants)
      fun _ _ => True := by
    refine Triple.seq (prepare_spec he s.server) (fun _ _ _ => trivial) fun plan => .fact fun hplan => ?_
    refine (executeSetup_spec plan.1 plan.2 answers.opened s.server).conseq (fun _ ht => ht) ?_
      fun _ _ _ => trivial
    intro result t ht hexec
    obtain ⟨dsn,seed⟩ := plan
    obtain ⟨⟨password,hpw,rfl⟩,hseed⟩ := hplan
    rcases ht.2 with ⟨hnot,-⟩ | ⟨-,-,hsql⟩
    · rw [hexec] at hnot
      cases hnot
    · rw [provisionSQL,bind_ok_iff] at hsql
      obtain ⟨c₁,hsetup,hrest⟩ := hsql
      cases seed with
      | script text => exact .inl ⟨text,hseed⟩
      | none | copySchema source =>
        cases hrest
        exact .inr (setupSQL_grantsPublic hsetup)
  exact hspec.returned rfl hrun hexec

/-- After a Provision whose SQL was executed, from any state, a Teardown undoes everything exactly when
the environment has a seed of its own SQL that takes the role's privileges on `public` back. -/
theorem provision_undone_iff (sum256 : Sum256) (scripts : Scripts) (p : SchemaDatabaseProvider)
    (env : DatabaseEnvironment) (answers : Answers) (e : String) (s : Session) (result : DatabaseResult)
    (he : sanitizeEnvName sum256 env.name = .ok e)
    (hrun : (ending (provision sum256 scripts p env answers) s).1 = .ok result)
    (hexec : result.setupSQLExecuted = true) :
    Undone sum256 p env e (ending (provision sum256 scripts p env answers) s).2 ↔
      SeedWithdraws sum256 p env answers e
        (ending (provision sum256 scripts p env answers) s).2.server.catalog := by
  rw [undone_iff_confined he]
  refine ⟨fun h => ⟨?_,h⟩,fun h => h.2⟩
  rcases provision_executed he hrun hexec with hseed | hpublic
  · exact hseed
  · have hnot := not_confined_of_public (previewSchema_ne_public e) hpublic
    rw [h] at hnot
    cases hnot

def emptySession : Session where
  server := ⟨{ schemas := ["public"] },[]⟩
  secrets := ⟨fun _ => none,[]⟩
  passwords := fun _ => none
  durable := fun _ => none

def zeroBytes : Answers where
  random := .ok (Vector.replicate 32 0)
  configMaps := fun _ => .ok [("seed.sql","REVOKE USAGE ON SCHEMA public FROM diverge_preview_preview_shop")]

def revokeScript : Scripts := fun _ => exec (.revokeSchema "public" "diverge_preview_preview_shop" [.usage])

def shopResult : DatabaseResult where
  dsn := ⟨"postgres://admin@db/app","diverge_preview_preview_shop",hexText (List.replicate 32 0),"preview_shop"⟩
  ready := true
  message := "Schema Provisioned SQL executed"
  setupSQLExecuted := true

/-- A seed that takes the privilege on `public` back. -/
theorem revoking_seed_undone : sanitizeEnvName sizeSum256 "shop" = .ok "shop" ∧
      (ending (provision sizeSum256 revokeScript ⟨"postgres://admin@db/app",true⟩
        { name := "shop", ns := "team-a", seedSource := "configmap:seed" } zeroBytes) emptySession).1 =
        .ok shopResult ∧
      Undone sizeSum256 ⟨"postgres://admin@db/app",true⟩
        { name := "shop", ns := "team-a", seedSource := "configmap:seed" } "shop"
        (ending (provision sizeSum256 revokeScript ⟨"postgres://admin@db/app",true⟩
          { name := "shop", ns := "team-a", seedSource := "configmap:seed" } zeroBytes) emptySession).2 := by
  have he : sanitizeEnvName sizeSum256 "shop" = .ok "shop" := by decide +kernel
  have hrun : (ending (provision sizeSum256 revokeScript ⟨"postgres://admin@db/app",true⟩
      { name := "shop", ns := "team-a", seedSource := "configmap:seed" } zeroBytes) emptySession).1 =
      .ok shopResult := by decide +kernel
  exact ⟨he,hrun,(provision_undone_iff sizeSum256 revokeScript ⟨"postgres://admin@db/app",true⟩
    { name := "shop", ns := "team-a", seedSource := "configmap:seed" } zeroBytes "shop" emptySession
    shopResult he hrun rfl).mpr ⟨⟨"REVOKE USAGE ON SCHEMA public FROM diverge_preview_preview_shop",
      by decide +kernel⟩,by decide +kernel⟩⟩

/-- Without a seed the role cannot be dropped: it may still use `public`. -/
theorem provisioned_role_not_dropped :
    (let p : SchemaDatabaseProvider := ⟨"postgres://admin@db/app",true⟩
     let env : DatabaseEnvironment := { name := "shop", ns := "team-a" }
     let given := ending (provision sizeSum256 revokeScript p env zeroBytes) emptySession
     let after := ending (teardown sizeSum256 p env none) given.2.quiet
     given.1 = .ok shopResult ∧
       after.1 = .error (.database "failed to drop role"
         "role \"diverge_preview_preview_shop\" cannot be dropped because some objects depend on it") ∧
       after.2.server.catalog.hasRole "diverge_preview_preview_shop" = true) := by
  decide +kernel

end Diverge.Database
