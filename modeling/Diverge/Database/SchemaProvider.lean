import Diverge.Database.SchemaNames
import Diverge.Environments.Types
import Diverge.Postgres.Catalog
import Diverge.Program.Rules

/-! The provider that gives every preview environment a schema and a role in one PostgreSQL
database: its passwords, its setup SQL and its teardown. -/
namespace Diverge.Database
open Environments Kube Postgres Program Text TokenStore

/-- An environment with the field of its database spec that only the providers read. -/
structure DatabaseEnvironment extends Environment where
  seedSource : String := ""
  deriving DecidableEq

structure SchemaDatabaseProvider where
  adminDSN : String
  /-- Whether a Kubernetes client is configured. -/
  client : Bool
  deriving DecidableEq

/-- What `buildWorkloadDSN` makes a connection string of. -/
structure WorkloadDSN where
  adminDSN : String
  roleName : String
  password : String
  schema : String
  deriving DecidableEq

structure DatabaseResult where
  dsn : WorkloadDSN
  ready : Bool
  message : String
  setupSQLExecuted : Bool
  deriving DecidableEq

inductive SchemaError
  | name (e : String)
  | secret (context ns object : String) (e : ApiError)
  | random (e : String)
  | seed (problem : String)
  | configMap (ns object : String) (e : ApiError)
  | database (context e : String)
  | deleteSecret (e : ApiError)
  deriving DecidableEq

/-- The database, the Secrets by namespace and name with their password, the passwords of the instance
by role and those of its process by key. -/
structure Session where
  server : Server
  secrets : Cluster (String × String) String
  passwords : String → Option String
  durable : String → Option String

/-- What a Provision asks for once: random bytes, the ConfigMaps, and the error of opening the
database. -/
structure Answers where
  random : Except String (Vector UInt8 32)
  configMaps : String × String → Except ApiError (List (String × String)) := fun _ => .error .notFound
  opened : Option String := none

def onServer (batch : Catalog → Except String Catalog) : Prog Session SchemaError (Except String Unit) :=
  onPart Session.server (fun server s => { s with server := server }) (Server.exec batch)

def onSecrets {β : Type} (call : Call (String × String) String ApiError β) :
    Prog Session SchemaError (Except ApiError β) :=
  onPart Session.secrets (fun secrets s => { s with secrets := secrets }) call

section

def envNamespace (env : DatabaseEnvironment) : String := if env.ns = "" then "default" else env.ns

def durableKey (p : SchemaDatabaseProvider) (ns roleName : String) : String :=
  p.adminDSN ++ "/" ++ ns ++ "/" ++ roleName

def persistPasswordSecret (ns secretName password : String) : Prog Session SchemaError Unit := do
  match ← onSecrets (create (ns,secretName) password) with
  | .ok _ => return
  | .error .alreadyExists =>
    match ← onSecrets (get (ns,secretName)) with
    | .error e => throw (.secret "failed to get existing role password secret" ns secretName e)
    | .ok _ =>
      match ← onSecrets (update (ns,secretName) password) with
      | .ok _ => return
      | .error e => throw (.secret "failed to update role password secret" ns secretName e)
  | .error e => throw (.secret "failed to create role password secret" ns secretName e)

def remember (roleName password : String) (s : Session) : Session :=
  { s with passwords := Function.update s.passwords roleName (some password) }

def storeDurable (key password : String) (s : Session) : Session :=
  { s with durable := Function.update s.durable key (some password) }

def usable (password : Option String) : Option String := password.filter (· ≠ "")

variable (sum256 : Sum256) (p : SchemaDatabaseProvider) (ns roleName : String)

/-- The Secret of the role gets the password, where there is a client. -/
def saveSecret (password : String) : Prog Session SchemaError Unit :=
  if p.client then persistPasswordSecret ns (rolePasswordSecretName sum256 roleName) password else pure ()

/-- A new password, written to the Secret before it is remembered. -/
def generatePassword (random : Except String (Vector UInt8 32)) : Prog Session SchemaError String := do
  let bytes ← orExit .random random
  let pw := hexText bytes.toList
  saveSecret sum256 p ns roleName pw
  modify fun s => storeDurable (durableKey p ns roleName) pw (remember roleName pw s)
  return pw

/-- The password of the process, remembered before it is written to the Secret. -/
def durablePassword (random : Except String (Vector UInt8 32)) : Prog Session SchemaError String := do
  match usable ((← get).durable (durableKey p ns roleName)) with
  | some pw =>
    modify (remember roleName pw)
    saveSecret sum256 p ns roleName pw
    return pw
  | none => generatePassword sum256 p ns roleName random

/-- The password of the Secret, where there is a client. -/
def secretPassword (random : Except String (Vector UInt8 32)) : Prog Session SchemaError String := do
  if p.client then
    match ← onSecrets (Kube.get (ns,rolePasswordSecretName sum256 roleName)) with
    | .ok pw =>
      if pw ≠ "" then
        modify fun s => storeDurable (durableKey p ns roleName) pw (remember roleName pw s)
        return pw
      else durablePassword sum256 p ns roleName random
    | .error .notFound => durablePassword sum256 p ns roleName random
    | .error e =>
      throw (.secret "failed to get role password secret" ns (rolePasswordSecretName sum256 roleName) e)
  else durablePassword sum256 p ns roleName random

def getOrCreatePassword (random : Except String (Vector UInt8 32)) : Prog Session SchemaError String := do
  match usable ((← get).passwords roleName) with
  | some pw => return pw
  | none => secretPassword sum256 p ns roleName random

end

/-- What the seed SQL does: nothing, copy the rows of a schema, or run a text. -/
inductive SeedSQL
  | none
  | copySchema (source : String)
  | script (text : String)
  deriving DecidableEq

def inQuotes (s : String) : String := "\"" ++ s ++ "\""

/-- The text of a ConfigMap under a key, or the only text that is SQL. -/
def seedText (data : List (String × String)) (key : String) : Option String :=
  match data.lookup key with
  | some text => some text
  | none =>
    if key = "seed.sql" then
      match data.filter fun d => hasSuffix d.1 ".sql" with
      | [d] => some d.2
      | _ => none
    else none

/-- The name and the key of a ConfigMap in a seed source. -/
def seedRef (cmSpec : String) : String × String :=
  if cmSpec.toList.contains '/' then
    let name := trimSpace (String.ofList (cmSpec.toList.takeWhile (· ≠ '/')))
    let key := trimSpace (String.ofList ((cmSpec.toList.dropWhile (· ≠ '/')).tail))
    (name,if key = "" then "seed.sql" else key)
  else (cmSpec,"seed.sql")

def buildSeedSQL (p : SchemaDatabaseProvider) (env : DatabaseEnvironment)
    (configMaps : String × String → Except ApiError (List (String × String))) :
    Except SchemaError SeedSQL :=
  let seedSource := trimSpace env.seedSource
  if seedSource = "" then .ok .none
  else if seedSource = "public" ∨ hasPrefix seedSource "schema:" = true then
    let srcSchema := if hasPrefix seedSource "schema:" then trimSpace (trimPrefix seedSource "schema:")
      else "public"
    if srcSchema = "" ∨ validSchemaName srcSchema = false then
      .error (.seed ("invalid seedSource schema " ++ inQuotes srcSchema ++ ": " ++ errInvalidSchemaName))
    else .ok (.copySchema srcSchema)
  else
    let cmSpec := trimSpace (trimPrefix seedSource "configmap:")
    let ref := seedRef cmSpec
    if ref.1 = "" then
      .error (.seed ("invalid seedSource " ++ inQuotes seedSource ++ ": configmap name cannot be empty"))
    else if p.client = false then
      .error (.seed ("kubernetes client is required to load seedSource ConfigMap " ++ inQuotes cmSpec))
    else
      match configMaps (envNamespace env,ref.1) with
      | .error e => .error (.configMap (envNamespace env) ref.1 e)
      | .ok data =>
        let text := trimSpace ((seedText data ref.2).getD "")
        if text = "" then
          .error (.seed ("seedSource ConfigMap " ++ envNamespace env ++ "/" ++ ref.1 ++
            " does not contain non-empty SQL in key " ++ inQuotes ref.2))
        else .ok (.script text)

def namesOf (c : Catalog) (kind : RelKind) : List String :=
  (c.relations.filter fun r => r.schema == "public" && decide (r.kind = kind)).map Relation.name

/-- The first block of the setup: the schema, and in it a copy of every table, sequence and view of
`public`. -/
def cloneSQL (schema : String) (c : Catalog) : List Statement :=
  .createSchema schema ::
    (namesOf c .table).map (fun name => .createRelation schema name .table) ++
    (namesOf c .sequence).map (fun name => .createRelation schema name .sequence) ++
    (namesOf c .view).map (fun name => .replaceView schema name) ++
    (namesOf c .matview).map fun name => .recreateMatview schema name

def roleSQL (schema roleName password : String) : List Statement :=
  [.createRole roleName password,
    .grantSchema schema roleName [.usage],
    .grantSchema schema roleName [.create],
    .grantAll .tables schema roleName tablePrivileges,
    .grantAll .sequences schema roleName sequencePrivileges,
    .grantDefault .tables schema roleName tablePrivileges,
    .revokeSchema "public" roleName [.create],
    .revokeAll .tables "public" roleName writePrivileges,
    .grantSchema "public" roleName [.usage],
    .grantAll .tables "public" roleName [.select],
    .requireReadOnly "public" roleName]

def setupSQL (schema roleName password : String) (c : Catalog) : Except String Catalog :=
  execAll (cloneSQL schema c ++ roleSQL schema roleName password) c

abbrev Scripts := String → Catalog → Except String Catalog

/-- Rows that are copied do not change the catalog. -/
def seedCatalog (scripts : Scripts) : SeedSQL → Catalog → Except String Catalog
  | .script text,c => scripts text c
  | _,c => .ok c

variable (sum256 : Sum256) (scripts : Scripts) (p : SchemaDatabaseProvider)

/-- The first part of `Provision`: the connection of the workloads and the seed. -/
def prepare (env : DatabaseEnvironment) (answers : Answers) :
    Prog Session SchemaError (WorkloadDSN × SeedSQL) := do
  let envName ← orExit .name (sanitizeEnvName sum256 env.name)
  let schema := previewSchema envName
  let roleName := safeRoleName sum256 schema
  let password ← getOrCreatePassword sum256 p (envNamespace env) roleName answers.random
  let seed ← orExit id (buildSeedSQL p env answers.configMaps)
  return (⟨p.adminDSN,roleName,password,schema⟩,seed)

def provisionSQL (dsn : WorkloadDSN) (seed : SeedSQL) (c : Catalog) : Except String Catalog :=
  (setupSQL dsn.schema dsn.roleName dsn.password c).bind (seedCatalog scripts seed)

/-- The second part of `Provision`: the SQL is executed, and a failure is told in the result. -/
def executeSetup (dsn : WorkloadDSN) (seed : SeedSQL) (opened : Option String) :
    Prog Session SchemaError DatabaseResult := do
  match opened with
  | some e => return ⟨dsn,false,"failed to open database: " ++ e,false⟩
  | none =>
    match ← onServer (provisionSQL scripts dsn seed) with
    | .error e => return ⟨dsn,false,"failed to execute setup SQL: " ++ e,false⟩
    | .ok _ => return ⟨dsn,true,"Schema Provisioned SQL executed",true⟩

def provision (env : DatabaseEnvironment) (answers : Answers) :
    Prog Session SchemaError DatabaseResult := do
  let plan ← prepare sum256 p env answers
  executeSetup scripts plan.1 plan.2 answers.opened

def deletePasswordSecret (ns roleName : String) : Prog Session SchemaError Unit := do
  if p.client then
    match ← onSecrets (delete (ns,rolePasswordSecretName sum256 roleName)) with
    | .ok _ => return
    | .error .notFound => return
    | .error e => throw (.deleteSecret e)
  else return

/-- The instance and its process remember the password no more. -/
def forget (key roleName : String) (s : Session) : Session :=
  { s with
    passwords := Function.update s.passwords roleName none
    durable := Function.update s.durable key none }

/-- The end of `Teardown`: the Secret, and the passwords that are remembered. -/
def forgetPassword (ns roleName : String) : Prog Session SchemaError Unit := do
  deletePasswordSecret sum256 p ns roleName
  modify (forget (durableKey p ns roleName) roleName)

def teardown (env : DatabaseEnvironment) (opened : Option String) : Prog Session SchemaError Unit := do
  let envName ← orExit .name (sanitizeEnvName sum256 env.name)
  let schema := previewSchema envName
  let roleName := safeRoleName sum256 schema
  match opened with
  | some e => throw (.database "failed to open database" e)
  | none =>
    orExit (.database "failed to drop schema") (← onServer (exec (.dropSchema schema)))
    orExit (.database "failed to drop role") (← onServer (exec (.dropRole roleName)))
    forgetPassword sum256 p (envNamespace env) roleName

end Diverge.Database
