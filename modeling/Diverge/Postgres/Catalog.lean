import Mathlib.Data.List.Basic

/-! The catalog of a PostgreSQL database as far as schemas, roles and privileges go, and the
statements that change it. A batch is one transaction. There is one grantor, and rows, columns and the
texts of views are left out. -/
namespace Diverge.Postgres

inductive RelKind
  | table
  | view
  | matview
  | sequence
  deriving DecidableEq

/-- Tables, views and sequences of a schema share their names. -/
structure Relation where
  schema : String
  name : String
  kind : RelKind
  deriving DecidableEq

inductive Object
  | schema (name : String)
  | relation (schema name : String)
  deriving DecidableEq

def Object.schemaName : Object → String
  | .schema name => name
  | .relation owner _ => owner

inductive Privilege
  | usage
  | create
  | select
  | insert
  | update
  | delete
  | truncate
  | references
  | trigger
  deriving DecidableEq

/-- `PUBLIC` or a role. -/
inductive Grantee
  | everyone
  | role (name : String)
  deriving DecidableEq

structure Grant where
  object : Object
  grantee : Grantee
  privilege : Privilege
  deriving DecidableEq

inductive ObjectKind
  | tables
  | sequences
  | schemas
  deriving DecidableEq

def RelKind.objectKind : RelKind → ObjectKind
  | .sequence => .sequences
  | _ => .tables

/-- A privilege that new objects come with, in one schema or in all of them. -/
structure DefaultGrant where
  schema : Option String
  objects : ObjectKind
  grantee : Grantee
  privilege : Privilege
  deriving DecidableEq

structure Role where
  name : String
  password : Option String
  superuser : Bool := false
  deriving DecidableEq

structure Catalog where
  schemas : List String := []
  relations : List Relation := []
  roles : List Role := []
  /-- A member and the role it is a member of. -/
  members : List (String × String) := []
  grants : List Grant := []
  defaults : List DefaultGrant := []
  deriving DecidableEq

inductive Statement
  /-- `CREATE SCHEMA IF NOT EXISTS`. -/
  | createSchema (schema : String)
  /-- `CREATE TABLE IF NOT EXISTS` and `CREATE SEQUENCE IF NOT EXISTS`. -/
  | createRelation (schema name : String) (kind : RelKind)
  /-- `CREATE OR REPLACE VIEW`. -/
  | replaceView (schema name : String)
  /-- `DROP MATERIALIZED VIEW IF EXISTS` and `CREATE MATERIALIZED VIEW`. -/
  | recreateMatview (schema name : String)
  /-- `CREATE ROLE … WITH LOGIN PASSWORD`, if there is no such role. -/
  | createRole (role password : String)
  | grantSchema (schema role : String) (privileges : List Privilege)
  /-- `GRANT … ON ALL TABLES IN SCHEMA`, or `… SEQUENCES …`. -/
  | grantAll (objects : ObjectKind) (schema role : String) (privileges : List Privilege)
  /-- `ALTER DEFAULT PRIVILEGES IN SCHEMA … GRANT`. -/
  | grantDefault (objects : ObjectKind) (schema role : String) (privileges : List Privilege)
  | revokeSchema (schema role : String) (privileges : List Privilege)
  /-- `REVOKE … ON ALL TABLES IN SCHEMA`. -/
  | revokeAll (objects : ObjectKind) (schema role : String) (privileges : List Privilege)
  /-- Raise an exception if the role can create objects in the schema or write to its tables. -/
  | requireReadOnly (schema role : String)
  /-- `DROP SCHEMA IF EXISTS … CASCADE`; a schema that does not exist has no objects. -/
  | dropSchema (schema : String)
  /-- `DROP ROLE IF EXISTS`. -/
  | dropRole (role : String)
  deriving DecidableEq

/-- `ALL` on tables. -/
def tablePrivileges : List Privilege :=
  [.select,.insert,.update,.delete,.truncate,.references,.trigger]

/-- `ALL` on sequences. -/
def sequencePrivileges : List Privilege := [.usage,.select,.update]

def writePrivileges : List Privilege := [.insert,.update,.delete,.truncate]

namespace Catalog

def hasSchema (c : Catalog) (schema : String) : Bool := c.schemas.contains schema

def findRole (c : Catalog) (role : String) : Option Role := c.roles.find? fun r => r.name == role

def hasRole (c : Catalog) (role : String) : Bool := (c.findRole role).isSome

def findRelation (c : Catalog) (schema name : String) : Option Relation :=
  c.relations.find? fun r => r.schema == schema && r.name == name

/-- The relations of a schema that a statement on all its tables or all its sequences is about. -/
def relationsOf (c : Catalog) (objects : ObjectKind) (schema : String) : List Relation :=
  c.relations.filter fun r => r.schema == schema && decide (r.kind.objectKind = objects)

/-- The privileges that a new object comes with. -/
def defaultsFor (c : Catalog) (objects : ObjectKind) (object : Object) : List Grant :=
  (c.defaults.filter fun d => decide (d.objects = objects) && d.schema.all (· == object.schemaName)).map
    fun d => ⟨object,d.grantee,d.privilege⟩

/-- The roles that a list of roles reaches by membership, in a number of steps. -/
def inherits (members : List (String × String)) : ℕ → List String → List String
  | 0,roles => roles
  | n+1,roles =>
    inherits members n (roles ++ (members.filter fun m => roles.contains m.1).map Prod.snd)

/-- `has_schema_privilege` and `has_table_privilege`. -/
def effective (c : Catalog) (role : String) (object : Object) (privilege : Privilege) : Bool :=
  let roles := inherits c.members c.members.length [role]
  roles.any (fun r => (c.findRole r).any Role.superuser) ||
    c.grants.any fun g => decide (g.object = object) && decide (g.privilege = privilege) &&
      (decide (g.grantee = .everyone) || roles.any fun r => decide (g.grantee = .role r))

def holds (c : Catalog) (role : String) : Bool :=
  c.grants.any (fun g => decide (g.grantee = .role role)) ||
    c.defaults.any fun d => decide (d.grantee = .role role)

def grant (c : Catalog) (objects : List Object) (role : String) (privileges : List Privilege) : Catalog :=
  { c with grants :=
      (objects.flatMap fun o => privileges.map fun p => ⟨o,.role role,p⟩) ++ c.grants }

def revoke (c : Catalog) (objects : List Object) (role : String) (privileges : List Privilege) : Catalog :=
  { c with grants := c.grants.filter fun g =>
      !(objects.contains g.object && decide (g.grantee = .role role) && privileges.contains g.privilege) }

/-- A new relation, with the privileges that it comes with. -/
def addRelation (c : Catalog) (r : Relation) : Catalog :=
  { c with
    relations := r :: c.relations
    grants := c.defaultsFor r.kind.objectKind (.relation r.schema r.name) ++ c.grants }

def removeSchema (c : Catalog) (schema : String) : Catalog :=
  { c with
    schemas := c.schemas.filter (· ≠ schema)
    relations := c.relations.filter fun r => r.schema ≠ schema
    grants := c.grants.filter fun g => g.object.schemaName ≠ schema
    defaults := c.defaults.filter fun d => d.schema ≠ some schema }

def removeRelation (c : Catalog) (schema name : String) : Catalog :=
  { c with
    relations := c.relations.filter fun r => ¬(r.schema = schema ∧ r.name = name)
    grants := c.grants.filter fun g => g.object ≠ .relation schema name }

def removeRole (c : Catalog) (role : String) : Catalog :=
  { c with
    roles := c.roles.filter fun r => r.name ≠ role
    members := c.members.filter fun m => m.1 ≠ role ∧ m.2 ≠ role }

end Catalog

open Catalog

def noSchema (schema : String) : String := "schema \"" ++ schema ++ "\" does not exist"

def noRole (role : String) : String := "role \"" ++ role ++ "\" does not exist"

/-- What a statement needs to find before it grants or revokes. -/
def needs (c : Catalog) (schema role : String) (c' : Catalog) : Except String Catalog :=
  if c.hasSchema schema = false then .error (noSchema schema)
  else if c.hasRole role = false then .error (noRole role)
  else .ok c'

def exec : Statement → Catalog → Except String Catalog
  | .createSchema schema,c =>
    if c.hasSchema schema then .ok c
    else .ok { c with
      schemas := schema :: c.schemas
      grants := c.defaultsFor .schemas (.schema schema) ++ c.grants }
  | .createRelation schema name kind,c =>
    if (c.findRelation schema name).isSome then .ok c else .ok (c.addRelation ⟨schema,name,kind⟩)
  | .replaceView schema name,c =>
    match c.findRelation schema name with
    | none => .ok (c.addRelation ⟨schema,name,.view⟩)
    | some r => if r.kind = .view then .ok c else .error ("\"" ++ name ++ "\" is not a view")
  | .recreateMatview schema name,c =>
    match c.findRelation schema name with
    | none => .ok (c.addRelation ⟨schema,name,.matview⟩)
    | some r =>
      if r.kind = .matview then .ok ((c.removeRelation schema name).addRelation ⟨schema,name,.matview⟩)
      else .error ("\"" ++ name ++ "\" is not a materialized view")
  | .createRole role password,c =>
    if c.hasRole role then .ok c
    else .ok { c with roles := { name := role, password := some password } :: c.roles }
  | .grantSchema schema role privileges,c =>
    needs c schema role (c.grant [.schema schema] role privileges)
  | .grantAll objects schema role privileges,c =>
    needs c schema role (c.grant
      ((c.relationsOf objects schema).map fun r => .relation r.schema r.name) role privileges)
  | .grantDefault objects schema role privileges,c =>
    needs c schema role { c with defaults :=
      (privileges.map fun p => ⟨some schema,objects,.role role,p⟩) ++ c.defaults }
  | .revokeSchema schema role privileges,c =>
    needs c schema role (c.revoke [.schema schema] role privileges)
  | .revokeAll objects schema role privileges,c =>
    needs c schema role (c.revoke
      ((c.relationsOf objects schema).map fun r => .relation r.schema r.name) role privileges)
  | .requireReadOnly schema role,c =>
    if c.effective role (.schema schema) .create then
      .error ("role " ++ role ++ " still has effective CREATE privilege on schema " ++ schema)
    else
      match c.relations.find? fun r => r.schema == schema && decide (r.kind = .table) &&
          writePrivileges.any fun p => c.effective role (.relation r.schema r.name) p with
      | some r => .error ("role " ++ role ++ " still has effective write privilege on table " ++ r.name)
      | none => .ok c
  | .dropSchema schema,c => .ok (c.removeSchema schema)
  | .dropRole role,c =>
    if c.hasRole role = false then .ok c
    else if c.holds role then
      .error ("role \"" ++ role ++ "\" cannot be dropped because some objects depend on it")
    else .ok (c.removeRole role)

def execAll (statements : List Statement) (c : Catalog) : Except String Catalog :=
  statements.foldlM (fun c st => exec st c) c

@[simp] lemma execAll_nil (c : Catalog) : execAll [] c = .ok c := rfl

@[simp] lemma execAll_cons (st : Statement) (statements : List Statement) (c : Catalog) :
    execAll (st :: statements) c = (exec st c).bind (execAll statements) := rfl

lemma execAll_append (as bs : List Statement) (c : Catalog) :
    execAll (as ++ bs) c = (execAll as c).bind (execAll bs) := by
  unfold execAll
  rw [List.foldlM_append]
  rfl

lemma bind_ok_iff {x : Except String Catalog} {f : Catalog → Except String Catalog} {c : Catalog} :
    x.bind f = .ok c ↔ ∃ c₁, x = .ok c₁ ∧ f c₁ = .ok c := by
  cases x with
  | error e => exact ⟨fun h => (by cases h),fun ⟨_,h,_⟩ => (by cases h)⟩
  | ok c₁ => exact ⟨fun h => ⟨c₁,rfl,h⟩,fun ⟨_,h,hf⟩ => (by cases h; exact hf)⟩

/-- A reflexive and transitive relation that every statement of a batch keeps, the batch keeps. -/
theorem execAll_relates {R : Catalog → Catalog → Prop} (hrefl : ∀ c, R c c)
    (htrans : ∀ {a b c}, R a b → R b c → R a c) {statements : List Statement}
    (h : ∀ st ∈ statements, ∀ c c', exec st c = .ok c' → R c c') {c c' : Catalog}
    (hrun : execAll statements c = .ok c') : R c c' := by
  induction statements generalizing c with
  | nil =>
    cases hrun
    exact hrefl _
  | cons st statements ih =>
    rw [execAll_cons,bind_ok_iff] at hrun
    obtain ⟨c₁,hst,hrest⟩ := hrun
    exact htrans (h st (by simp) c c₁ hst) (ih (fun t ht => h t (by simp [ht])) hrest)

lemma needs_ok {c c' c'' : Catalog} {schema role : String} (h : needs c schema role c' = .ok c'') :
    c'' = c' := by
  unfold needs at h
  split_ifs at h
  cases h
  rfl

lemma exec_requireReadOnly {schema role : String} {c c' : Catalog}
    (h : exec (.requireReadOnly schema role) c = .ok c') : c' = c := by
  rw [exec] at h
  split_ifs at h
  split at h
  · cases h
  · cases h
    rfl

/-- What becomes of a batch: it runs, the connection fails before it has an effect, or it takes
effect and its answer is lost. -/
inductive Outcome
  | runs
  | fails (e : String)
  | lost (e : String)
  deriving DecidableEq

/-- A database and the outcomes of the batches to come; when they are used up all batches run. -/
structure Server where
  catalog : Catalog
  script : List Outcome := []

def Server.exec (batch : Catalog → Except String Catalog) (s : Server) : Except String Unit × Server :=
  match s.script.head? with
  | some (.fails e) => (.error e,{ s with script := s.script.tail })
  | some (.lost e) =>
    (.error e,{ catalog := ((batch s.catalog).toOption).getD s.catalog, script := s.script.tail })
  | _ =>
    match batch s.catalog with
    | .ok c => (.ok (),{ catalog := c, script := s.script.tail })
    | .error e => (.error e,{ s with script := s.script.tail })

/-- The next batch is carried out, whether or not its answer arrives. -/
def takesEffect (script : List Outcome) : Bool :=
  match script.head? with
  | some (.fails _) => false
  | _ => true

variable (batch : Catalog → Except String Catalog)

lemma Server.exec_cases (s : Server) : (∃ c, batch s.catalog = .ok c ∧ takesEffect s.script = true ∧
      (s.exec batch).2 = ⟨c,s.script.tail⟩) ∨ ((∀ c, batch s.catalog = .ok c → takesEffect s.script = false) ∧
      (∃ e, (s.exec batch).1 = .error e) ∧ (s.exec batch).2 = ⟨s.catalog,s.script.tail⟩) := by
  unfold exec takesEffect
  cases batch s.catalog with
  | ok c =>
    rcases s.script.head? with _ | ⟨⟩ | e | e
    · exact .inl ⟨c,rfl,rfl,rfl⟩
    · exact .inl ⟨c,rfl,rfl,rfl⟩
    · exact .inr ⟨fun _ _ => rfl,⟨e,rfl⟩,rfl⟩
    · exact .inl ⟨c,rfl,rfl,rfl⟩
  | error e =>
    refine .inr ⟨fun c hc => (by cases hc),?_⟩
    rcases s.script.head? with _ | ⟨⟩ | e' | e'
    all_goals exact ⟨⟨_,rfl⟩,rfl⟩

lemma Server.exec_quiet (c : Catalog) : Server.exec batch ⟨c,[]⟩ = match batch c with
      | .ok c' => (.ok (),⟨c',[]⟩)
      | .error e => (.error e,⟨c,[]⟩) := rfl

section

/-- The schema that a statement acts on; roles are in none. -/
def Statement.schema? : Statement → Option String
  | .createSchema schema => some schema
  | .createRelation schema _ _ => some schema
  | .replaceView schema _ => some schema
  | .recreateMatview schema _ => some schema
  | .createRole _ _ => none
  | .grantSchema schema _ _ => some schema
  | .grantAll _ schema _ _ => some schema
  | .grantDefault _ schema _ _ => some schema
  | .revokeSchema schema _ _ => some schema
  | .revokeAll _ schema _ _ => some schema
  | .requireReadOnly schema _ => some schema
  | .dropSchema schema => some schema
  | .dropRole _ => none

/-- No privilege on the schema or on what is in it is added. -/
def AddsNoGrant (schema : String) (c c' : Catalog) : Prop :=
  ∀ g ∈ c'.grants, g.object.schemaName = schema → g ∈ c.grants

/-- The privileges on the schema and on what is in it are the same. -/
def SameGrants (schema : String) (c c' : Catalog) : Prop :=
  ∀ g, g.object.schemaName = schema → (g ∈ c'.grants ↔ g ∈ c.grants)

namespace SameGrants

variable {schema : String} {a b c : Catalog}

lemma refl (schema : String) (c : Catalog) : SameGrants schema c c := fun _ _ => Iff.rfl

lemma trans (hab : SameGrants schema a b) (hbc : SameGrants schema b c) : SameGrants schema a c :=
  fun g hg => (hbc g hg).trans (hab g hg)

lemma append {grants : List Grant} (h : ∀ g ∈ grants, g.object.schemaName ≠ schema) (c : Catalog) :
    SameGrants schema c { c with grants := grants ++ c.grants } := by
  intro g hg
  rw [List.mem_append]
  exact or_iff_right fun hmem => h g hmem hg

lemma filter {q : Grant → Bool} (h : ∀ g, q g = false → g.object.schemaName ≠ schema) (c : Catalog) :
    SameGrants schema c { c with grants := c.grants.filter q } := by
  intro g hg
  rw [List.mem_filter]
  refine and_iff_left ?_
  cases hq : q g with
  | true => rfl
  | false => exact absurd hg (h g hq)

lemma of_eq (h : b.grants = a.grants) : SameGrants schema a b := fun g _ => by rw [h]

lemma addsNoGrant (h : SameGrants schema a b) : AddsNoGrant schema a b :=
  fun g hg hs => (h g hs).mp hg

end SameGrants

variable {c : Catalog} {schema : String}

lemma defaultsFor_object {objects : ObjectKind} {object : Object} {g : Grant}
    (h : g ∈ c.defaultsFor objects object) : g.object = object := by
  obtain ⟨d,-,rfl⟩ := List.mem_map.mp h
  rfl

lemma addRelation_sameGrants {r : Relation} (h : r.schema ≠ schema) (c : Catalog) :
    SameGrants schema c (c.addRelation r) :=
  (SameGrants.append (fun g hg => by rw [defaultsFor_object hg]; exact h) c).trans (.of_eq rfl)

lemma removeRelation_sameGrants {schema s : String} (h : s ≠ schema) (c : Catalog) (name : String) :
    SameGrants schema c (c.removeRelation s name) := by
  refine (SameGrants.filter (fun g hg => ?_) c).trans (.of_eq rfl)
  have hobject : g.object = .relation s name := by simpa using hg
  rw [hobject]
  exact h

variable {objects : List Object} {privileges : List Privilege}

lemma grant_sameGrants {schema role : String} (h : ∀ o ∈ objects, o.schemaName ≠ schema) (c : Catalog) :
    SameGrants schema c (c.grant objects role privileges) := by
  refine .append (fun g hg => ?_) c
  obtain ⟨o,ho,hg⟩ := List.mem_flatMap.mp hg
  obtain ⟨p,-,rfl⟩ := List.mem_map.mp hg
  exact h o ho

lemma revoke_sameGrants {schema role : String} (h : ∀ o ∈ objects, o.schemaName ≠ schema) (c : Catalog) :
    SameGrants schema c (c.revoke objects role privileges) := by
  refine .filter (fun g hg => ?_) c
  rw [Bool.not_eq_false',Bool.and_eq_true,Bool.and_eq_true] at hg
  exact h _ (by simpa using hg.1.1)

lemma relationsOf_schema {objects : ObjectKind} {o : Object}
    (h : o ∈ (c.relationsOf objects schema).map fun r => Object.relation r.schema r.name) :
    o.schemaName = schema := by
  obtain ⟨r,hr,rfl⟩ := List.mem_map.mp h
  have hr := (List.mem_filter.mp hr).2
  simp only [Bool.and_eq_true,beq_iff_eq] at hr
  exact hr.1

/-- A statement on one schema changes no privilege on another. -/
theorem exec_sameGrants {st : Statement} (h : st.schema? ≠ some schema)
    {c c' : Catalog} (hrun : exec st c = .ok c') : SameGrants schema c c' := by
  cases st with
  | createSchema s =>
    rw [exec] at hrun
    split_ifs at hrun
    · cases hrun
      exact .refl _ _
    · cases hrun
      refine (SameGrants.append (fun g hg hs => ?_) c).trans (.of_eq rfl)
      rw [defaultsFor_object hg] at hs
      exact h (congrArg some hs)
  | createRelation s name kind =>
    rw [exec] at hrun
    split_ifs at hrun
    · cases hrun
      exact .refl _ _
    · cases hrun
      exact addRelation_sameGrants (fun hs => h (congrArg some hs)) c
  | replaceView s name =>
    rw [exec] at hrun
    split at hrun
    · cases hrun
      exact addRelation_sameGrants (fun hs => h (congrArg some hs)) c
    · split_ifs at hrun
      cases hrun
      exact .refl _ _
  | recreateMatview s name =>
    rw [exec] at hrun
    split at hrun
    · cases hrun
      exact addRelation_sameGrants (fun hs => h (congrArg some hs)) c
    · split_ifs at hrun
      cases hrun
      exact (removeRelation_sameGrants (fun hs => h (congrArg some hs)) c name).trans
        (addRelation_sameGrants (fun hs => h (congrArg some hs)) _)
  | createRole role password | dropRole role =>
    rw [exec] at hrun
    split_ifs at hrun
    · cases hrun
      exact .refl _ _
    · cases hrun
      exact .refl _ _
  | grantSchema s role privileges =>
    rw [needs_ok hrun]
    exact grant_sameGrants (by simpa [Object.schemaName] using fun hs => h (congrArg some hs)) c
  | grantAll objects s role privileges =>
    rw [needs_ok hrun]
    exact grant_sameGrants (fun o ho hs => h (congrArg some ((relationsOf_schema ho).symm.trans hs))) c
  | grantDefault objects s role privileges =>
    rw [needs_ok hrun]
    exact .refl _ _
  | revokeSchema s role privileges =>
    rw [needs_ok hrun]
    exact revoke_sameGrants (by simpa [Object.schemaName] using fun hs => h (congrArg some hs)) c
  | revokeAll objects s role privileges =>
    rw [needs_ok hrun]
    exact revoke_sameGrants (fun o ho hs => h (congrArg some ((relationsOf_schema ho).symm.trans hs))) c
  | requireReadOnly s role =>
    rw [exec_requireReadOnly hrun]
    exact .refl _ _
  | dropSchema s =>
    cases hrun
    refine (SameGrants.filter (fun g hg hs => ?_) c).trans (.of_eq rfl)
    have hsame : g.object.schemaName = s := by simpa using hg
    exact h (congrArg some (hsame.symm.trans hs))

end

namespace Creates

variable {role password : String} {a b c c' : Catalog}

end Creates

variable {schema role : String} {c : Catalog}

/-- The role has no privilege but on the schema and what is in it. -/
def confined (c : Catalog) (schema role : String) : Bool :=
  c.grants.all (fun g => decide (g.grantee = .role role → g.object.schemaName = schema)) &&
    c.defaults.all fun d => decide (d.grantee = .role role → d.schema = some schema)

lemma confined_iff : confined c schema role = true ↔
    (∀ g ∈ c.grants, g.grantee = .role role → g.object.schemaName = schema) ∧
      ∀ d ∈ c.defaults, d.grantee = .role role → d.schema = some schema := by
  simp only [confined,Bool.and_eq_true,List.all_eq_true,decide_eq_true_eq]

lemma holds_eq_false_iff : c.holds role = false ↔
    (∀ g ∈ c.grants, g.grantee ≠ .role role) ∧ ∀ d ∈ c.defaults, d.grantee ≠ .role role := by
  simp [holds]

lemma holds_removeSchema : (c.removeSchema schema).holds role = false ↔ confined c schema role = true := by
  rw [holds_eq_false_iff,confined_iff]
  simp only [removeSchema,List.mem_filter,decide_eq_true_eq,and_imp]
  refine and_congr (forall_congr' fun g => ?_) (forall_congr' fun d => ?_)
  · exact ⟨fun h hg hr => by_contra fun hs => h hg hs hr,fun h hg hs hr => hs (h hg hr)⟩
  · exact ⟨fun h hd hr => by_contra fun hs => h hd hs hr,fun h hd hs hr => hs (h hd hr)⟩

@[simp] lemma hasSchema_removeSchema : (c.removeSchema schema).hasSchema schema = false := by
  simp [hasSchema,removeSchema]

@[simp] lemma hasRole_removeRole : (c.removeRole role).hasRole role = false := by
  simp [hasRole,findRole,removeRole,List.find?_eq_none]

lemma exec_dropRole_ok_iff : (∃ c', exec (.dropRole role) c = .ok c') ↔
    c.hasRole role = false ∨ c.holds role = false := by
  rw [exec]
  split_ifs with hrole hholds
  · exact ⟨fun _ => .inl hrole,fun _ => ⟨c,rfl⟩⟩
  · exact ⟨fun ⟨_,h⟩ => (by cases h),fun h => absurd h (by simp [hrole,hholds])⟩
  · exact ⟨fun _ => .inr (by simpa using hholds),fun _ => ⟨_,rfl⟩⟩

lemma exec_dropRole_ok {c' : Catalog} (h : exec (.dropRole role) c = .ok c') :
    c'.hasRole role = false ∧ c'.schemas = c.schemas ∧ c'.grants = c.grants ∧ c'.defaults = c.defaults := by
  rw [exec] at h
  split_ifs at h with hrole
  · cases h
    exact ⟨hrole,rfl,rfl,rfl⟩
  · cases h
    exact ⟨hasRole_removeRole,rfl,rfl,rfl⟩

lemma findRole_removeRole {other : String} (h : other ≠ role) :
    (c.removeRole role).findRole other = c.findRole other := by
  unfold findRole removeRole
  rw [List.find?_filter]
  congr 1
  funext r
  by_cases hr : r.name = other
  · simp [hr,h]
  · simp [hr]

end Diverge.Postgres
