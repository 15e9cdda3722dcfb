import Diverge.Async.Redis

/-! Key prefixes of preview environments in a shared bucket: the prefix that a route is given, and the
deletion of the objects under it when the route is torn down. -/
namespace Diverge.Async
open Environments Kube Program Text

def annotationStorageEndpoint : String := "divergedev.com/storage-endpoint"

def annotationStorageBucket : String := "divergedev.com/storage-bucket"

structure StorageProvisioner where
  endpoint : String := ""
  bucket : String := ""
  provider : String := ""
  gcsToken : String := ""
  deriving DecidableEq

section

/-- `strings.Trim(strings.TrimSpace(s), "/")`. -/
def trimSlashes (s : String) : String := trimChar (trimSpace s) '/'

/-- The first of some texts that is more than white space, trimmed. -/
def firstSet : List String → String
  | [] => ""
  | s :: rest => if trimSpace s ≠ "" then trimSpace s else firstSet rest

variable (s : StorageProvisioner) (environ : Environ) (env : Environment) (route : AsyncRouteSpec)

def StorageProvisioner.name : String := if trimSpace s.provider ≠ "" then trimSpace s.provider else "s3"

@[irreducible] def StorageProvisioner.resolveEndpoint : String :=
  firstSet [ env.annotation annotationStorageEndpoint,s.endpoint,environ "DIVERGE_STORAGE_ENDPOINT"]

@[irreducible] def StorageProvisioner.resolveBucket : String :=
  let configured := firstSet [ env.annotation annotationStorageBucket,s.bucket,environ "DIVERGE_STORAGE_BUCKET"]
  if configured ≠ "" then configured
  else if trimSlashes route.target ≠ "" ∧ trimSlashes route.target ≠ "default" then trimSlashes route.target
  else ""

def StorageProvisioner.resolveGCSToken : String := firstSet [s.gcsToken,environ "DIVERGE_GCS_TOKEN"]

end

/-- `FormatStorageKeyPrefix`; without a namespace it is the empty one. -/
def formatStorageKeyPrefix (target envName ns : String) : String :=
  let trimmedTarget := trimSlashes target
  let trimmedEnv := trimSlashes envName
  let ns := trimSlashes ns
  if ns ≠ "" then
    if trimmedTarget = "" ∨ trimmedTarget = "default" then "previews/" ++ ns ++ "/" ++ trimmedEnv ++ "/"
    else "previews/" ++ ns ++ "/" ++ trimmedEnv ++ "/" ++ trimmedTarget ++ "/"
  else if trimmedTarget = "" ∨ trimmedTarget = "default" then "previews/" ++ trimmedEnv ++ "/"
  else "previews/" ++ trimmedEnv ++ "/" ++ trimmedTarget ++ "/"

def formatNamespacedStorageKeyPrefix (ns target envName : String) : String :=
  formatStorageKeyPrefix target envName (if trimSlashes ns = "" then "default" else trimSlashes ns)

def isStorageProtocol (protocol : String) : Bool :=
  ["s3","gcs","minio"].contains (toLower (trimSpace protocol))

def upperChar (c : Char) : Char :=
  if c.toNat = 0x131 then 'I' else if c.toNat = 0x17f then 'S' else c.toUpper

/-- Runs of other characters than capitals and digits become one underscore. -/
def underscored (cs : List Char) : List Char :=
  cs.foldr (fun c rest =>
    if c.isUpper || c.isDigit then c :: rest else if rest.head? = some '_' then rest else '_' :: rest) []

def sanitizeStorageTargetEnvSuffix (target : String) : String :=
  let trimmed := trimSlashes target
  if trimmed = "" ∨ equalFold trimmed "default" = true then "DEFAULT"
  else
    let text := trimChar (String.ofList (underscored (trimmed.toList.map upperChar))) '_'
    if text = "" then "DEFAULT" else text

def prefixVariables : List String := ["DIVERGE_STORAGE_PREFIX","S3_KEY_PREFIX","AWS_S3_PREFIX","GCS_KEY_PREFIX"]

/-- The variables of a route, with a text after each of their names. -/
def storageVariables (tail keyPrefix bucket endpoint : String) : List (String × String) :=
  ( prefixVariables.map fun v => (v ++ tail,keyPrefix)) ++
    (if bucket ≠ "" then [("DIVERGE_STORAGE_BUCKET" ++ tail,bucket)] else []) ++
    (if endpoint ≠ "" then [("DIVERGE_STORAGE_ENDPOINT" ++ tail,endpoint)] else [])

/-- The storage routes of an environment that have no mapping of their own. -/
def defaultRoutes (env : Environment) : List AsyncRouteSpec :=
  env.spec.routing.asyncRoutes.filter fun r => isStorageProtocol r.protocol && decide (r.envVarMapping = [])

def namedTarget (route : AsyncRouteSpec) : Bool :=
  decide (trimSlashes route.target ≠ "") && !equalFold (trimSlashes route.target) "default"

/-- The variables of a route without a mapping. Where several routes have none, each needs its own names. -/
def defaultVariables (env : Environment) (route : AsyncRouteSpec) (keyPrefix bucket endpoint : String) :
    Except String (List (String × String)) :=
  let suffix := sanitizeStorageTargetEnvSuffix route.target
  let routes := (defaultRoutes env).length
  let sameSuffix := (defaultRoutes env).countP fun r => sanitizeStorageTargetEnvSuffix r.target == suffix
  if 1 < routes ∧ 1 < sameSuffix then
    .error ("multiple storage async routes with target \"" ++ route.target ++ "\" require explicit envVarMapping")
  else
    .ok ((if routes ≤ 1 ∨ namedTarget route = false then storageVariables "" keyPrefix bucket endpoint else []) ++
      if namedTarget route then storageVariables ("_" ++ suffix) keyPrefix bucket endpoint else [])

/-- The variables of a mapping, with the prefix for the template and for an empty text. -/
def mappedVariables (route : AsyncRouteSpec) (keyPrefix : String) : List (String × String) :=
  route.envVarMapping.map fun m =>
    (m.1,if m.2 = resolvedTemplate ∨ m.2 = "" then keyPrefix else replaceAll m.2 resolvedTemplate keyPrefix)

@[irreducible] def routePrefix (env : Environment) (route : AsyncRouteSpec) : String :=
  formatNamespacedStorageKeyPrefix env.ns route.target env.name

def StorageProvisioner.provision (s : StorageProvisioner) (environ : Environ) (env : Environment)
    (route : AsyncRouteSpec) : Except String ProvisionResult :=
  if trimSpace env.name = "" then .error missingName
  else
    (if route.envVarMapping = [] then
      defaultVariables env route (routePrefix env route) (s.resolveBucket environ env route)
        (s.resolveEndpoint environ env)
    else .ok (mappedVariables route (routePrefix env route))).map (ProvisionResult.mk (routePrefix env route))

abbrev Object := String × String

/-- A page of a list: its keys and how it goes on. -/
structure ObjectPage where
  items : List String
  next : String := ""
  truncated : Bool := false
  deriving DecidableEq

/-- An HTTP answer, with what its body decodes to: a page, or the failures of a batch. -/
structure Response where
  status : ℕ
  body : String := ""
  readError : Option String := none
  page : Except String ObjectPage := .ok ⟨[],"",false⟩
  failures : List (String × String × String) := []

/-- The objects, the lists that were asked for and the answers to come. A request may have its effect
although its answer is lost. -/
structure Storage where
  objects : List Object
  listed : List Object := []
  replies : List (Bool × Except String Response)

def send (effect : List Object → List Object) : Prog Storage String (Except String Response) :=
  onPart id (fun s _ => s) fun s =>
    match s.replies with
    | [] => (.error "EOF",s)
    | (effective,answer) :: replies =>
      (answer,{ s with objects := if effective then effect s.objects else s.objects, replies := replies })

def removeObjects (bucket : String) (keys : List String) : Prog Storage String (Except String Response) :=
  send fun objects => objects.filter fun o => ¬(o.1 = bucket ∧ o.2 ∈ keys)

/-- The objects of a bucket under a prefix: a page has only such. -/
def listObjects (bucket keyPrefix : String) : Prog Storage String (Except String Response) := do
  modify fun s => { s with listed := s.listed ++ [(bucket,keyPrefix)] }
  let objects := (← get).objects
  let answer ← send id
  return answer.map fun r =>
    { r with
      page := r.page.map fun page =>
        { page with items := page.items.filter fun k => (bucket,k) ∈ objects ∧ hasPrefix k keyPrefix = true } }

def Response.success (r : Response) : Bool := decide (200 ≤ r.status) && decide (r.status < 300)

def Response.failure (r : Response) (what : String) : String :=
  what ++ " returned status " ++ toString r.status ++ ": " ++ trimSpace r.body

/-- A page of a list, or the failure of the list of a service. -/
def readPage (service : String) (answer : Except String Response) : Except String ObjectPage :=
  match answer with
  | .error e => .error (service ++ " list objects failed: " ++ e)
  | .ok r =>
    match r.readError with
    | some e => .error (service ++ " read list response failed: " ++ e)
    | none =>
      if r.success = false then .error (r.failure (service ++ " list objects"))
      else
        match r.page with
        | .error e => .error (service ++ " decode list response failed: " ++ e)
        | .ok page => .ok { page with items := page.items.filter (· ≠ "") }

/-- One object, as both services delete it. -/
def deleteObject (service bucket key : String) : Prog Storage String Unit := do
  match ← removeObjects bucket [key] with
  | .error e => throw (service ++ " delete object \"" ++ key ++ "\" failed: " ++ e)
  | .ok r =>
    if r.status ≠ 404 ∧ r.success = false then throw (r.failure (service ++ " delete object \"" ++ key ++ "\""))

def deleteEachObject (service bucket : String) : List String → Prog Storage String Unit
  | [] => return
  | key :: keys => do
    deleteObject service bucket key
    deleteEachObject service bucket keys

/-- `deleteS3Batch`; a service without it gets one request for each object. -/
def deleteS3Batch (bucket : String) (keys : List String) : Prog Storage String Unit := do
  match ← removeObjects bucket keys with
  | .error e => throw ("s3 batch delete failed: " ++ e)
  | .ok r =>
    if r.status = 405 ∨ r.status = 501 then deleteEachObject "s3" bucket keys
    else if r.success = false then throw (r.failure "s3 batch delete")
    else
      match r.failures with
      | [] => return
      | (key,code,message) :: more =>
        throw ("s3 batch delete failed for " ++ toString (more.length + 1) ++ " object(s) (first key \"" ++ key ++
          "\": " ++ code ++ " - " ++ message ++ ")")

/-- `teardownGCS`: the loop over the pages; every turn takes an answer, and `turns` is a bound on them. -/
def teardownGCS (bucket keyPrefix : String) : ℕ → Prog Storage String Unit
  | 0 => throw "gcs list objects failed: EOF"
  | turns+1 => do
    let page ← orExit id (readPage "gcs" (← listObjects bucket keyPrefix))
    deleteEachObject "gcs" bucket page.items
    if trimSpace page.next = "" then return else teardownGCS bucket keyPrefix turns

def teardownS3 (bucket keyPrefix : String) : ℕ → Prog Storage String Unit
  | 0 => throw "s3 list objects failed: EOF"
  | turns+1 => do
    let page ← orExit id (readPage "s3" (← listObjects bucket keyPrefix))
    if page.items ≠ [] then deleteS3Batch bucket page.items
    if page.truncated = false ∨ trimSpace page.next = "" then return else teardownS3 bucket keyPrefix turns

/-- The deletion under a prefix; `malformed` is the error of a request that cannot be built. -/
@[irreducible] def teardownObjects (gcs : Bool) (malformed : Option String) (bucket keyPrefix : String) :
    Prog Storage String Unit :=
  match malformed with
  | some e => throw ((if gcs then "gcs" else "s3") ++ " build list request failed: " ++ e)
  | none => do
    let turns := (← get).replies.length + 1
    if gcs then teardownGCS bucket keyPrefix turns else teardownS3 bucket keyPrefix turns

/-- There is an endpoint: one that is configured, or the public one for a token. -/
@[irreducible] def StorageProvisioner.hasEndpoint (s : StorageProvisioner) (environ : Environ) (env : Environment) : Bool :=
  decide (s.resolveEndpoint environ env ≠ "") ||
    (equalFold s.name "gcs" && decide (s.resolveGCSToken environ ≠ ""))

def StorageProvisioner.teardown (s : StorageProvisioner) (environ : Environ) (malformed : Option String)
    (env : Environment) (route : AsyncRouteSpec) : Prog Storage String Unit :=
  if trimSpace env.name = "" then throw missingName
  else if s.resolveBucket environ env route = "" ∨ s.hasEndpoint environ env = false then return
  else
    teardownObjects (equalFold s.name "gcs") malformed (s.resolveBucket environ env route) (routePrefix env route)

section

lemma trimChar_eq_self {s : String} {c : Char} (h : c ∉ s.toList) : trimChar s c = s := by
  have hdrop (cs : List Char) (hcs : c ∉ cs) : cs.dropWhile (· == c) = cs := by
    cases cs with
    | nil => rfl
    | cons d cs => exact List.dropWhile_cons_of_neg (by simpa using fun heq : d = c => hcs (by simp [heq]))
  rw [trimChar,hdrop _ h,hdrop _ (by simpa using h),List.reverse_reverse,String.ofList_toList]

lemma trimSlashes_name {s : String} (h : ∀ c ∈ s.toList, isNameChar c = true) : trimSlashes s = s := by
  have hslash : '/' ∉ s.toList := fun hmem => absurd (h _ hmem) (by decide)
  rw [trimSlashes,trimSpace_eq_self fun c hc => nameChar_not_space (h c hc),trimChar_eq_self hslash]

def targetPart (target : String) : List Char :=
  if trimSlashes target = "" ∨ trimSlashes target = "default" then [] else (trimSlashes target).toList ++ ['/']

/-- The namespace and the name of an environment, as the API server admits them. -/
structure Admitted (env : Environment) : Prop where
  ns : isDNS1123Label env.ns = true
  name : isDNS1123Subdomain env.name = true

variable {env env' : Environment} (h : Admitted env) (h' : Admitted env') (route route' : AsyncRouteSpec)

include h in
lemma routePrefix_toList : (routePrefix env route).toList =
      "previews/".toList ++ (env.ns.toList ++ '/' :: (env.name.toList ++ '/' :: targetPart route.target)) := by
  have hns : trimSlashes env.ns = env.ns := trimSlashes_name fun c hc => nameChar_of_label h.ns hc
  have hname : trimSlashes env.name = env.name := trimSlashes_name fun c hc => nameChar_of_subdomain h.name hc
  have hne : env.ns ≠ "" := by
    intro heq
    have hlabel := h.ns
    rw [heq] at hlabel
    exact absurd hlabel (by decide)
  unfold routePrefix formatNamespacedStorageKeyPrefix formatStorageKeyPrefix targetPart
  simp only [hns,hname,hne,if_false,ne_eq,not_false_eq_true,if_true]
  split_ifs <;> simp

include h h' in
lemma same_of_start (hpre : (routePrefix env route).toList <+: (routePrefix env' route').toList) :
    (env.ns,env.name) = (env'.ns,env'.name) := by
  have hns {e : Environment} (he : Admitted e) : '/' ∉ e.ns.toList := fun hmem =>
    absurd (nameChar_of_label he.ns hmem) (by decide)
  have hname {e : Environment} (he : Admitted e) : '/' ∉ e.name.toList := fun hmem =>
    absurd (nameChar_of_subdomain he.name hmem) (by decide)
  rw [routePrefix_toList h,routePrefix_toList h',List.prefix_append_right_inj] at hpre
  obtain ⟨more,heq⟩ := hpre
  simp only [List.append_assoc,List.cons_append] at heq
  obtain ⟨hspace,hrest⟩ := append_separator_inj (hns h) (hns h') heq
  obtain ⟨hname,-⟩ := append_separator_inj (hname h) (hname h') hrest
  rw [String.toList_inj.mp hspace,String.toList_inj.mp hname]

end

/-- A provisioning gives a prefix to the workload: as the resolved target, by the variables, and in
the templates that stand for it. -/
structure Injects (route : AsyncRouteSpec) (given : ProvisionResult) (keyPrefix : String) : Prop where
  target : given.resolvedTarget = keyPrefix
  named : route.envVarMapping = [] → ∀ v ∈ prefixVariables, ∀ tail value,
    (v ++ tail,value) ∈ given.envVars → value = keyPrefix
  mapped : ∀ m ∈ route.envVarMapping, m.2 = resolvedTemplate ∨ m.2 = "" → (m.1,keyPrefix) ∈ given.envVars

lemma append_ne_of_take {v w tail tail' : String} (n : ℕ) (hv : n ≤ v.toList.length) (hw : n ≤ w.toList.length)
    (h : v.toList.take n ≠ w.toList.take n) : v ++ tail ≠ w ++ tail' := by
  intro heq
  have htake := congrArg (fun s : String => s.toList.take n) heq
  simp only [String.toList_append,List.take_append_of_le_length hv,List.take_append_of_le_length hw] at htake
  exact h htake

lemma storageVariables_prefix {v tail keyPrefix bucket endpoint tail' value : String} (hv : v ∈ prefixVariables)
    (h : (v ++ tail',value) ∈ storageVariables tail keyPrefix bucket endpoint) : value = keyPrefix := by
  have hstart : ∀ v ∈ prefixVariables, ∀ w ∈ ["DIVERGE_STORAGE_BUCKET","DIVERGE_STORAGE_ENDPOINT"], ∃ n ∈ [1,17],
      n ≤ v.toList.length ∧ n ≤ w.toList.length ∧ v.toList.take n ≠ w.toList.take n := by decide
  have hne (w : String) (hw : w ∈ ["DIVERGE_STORAGE_BUCKET","DIVERGE_STORAGE_ENDPOINT"]) : v ++ tail' ≠ w ++ tail := by
    obtain ⟨n,-,hlv,hlw,hn⟩ := hstart v hv w hw
    exact append_ne_of_take n hlv hlw hn
  unfold storageVariables at h
  simp only [List.mem_append,List.mem_map] at h
  rcases h with (⟨w,-,heq⟩ | h) | h
  · exact (Prod.mk.inj heq).2.symm
  all_goals
    split_ifs at h
    · exact absurd (Prod.mk.inj (List.mem_singleton.mp h)).1 (hne _ (by simp))
    · cases h

lemma provision_injects {s : StorageProvisioner} {environ : Environ} {env : Environment} {route : AsyncRouteSpec}
    {given : ProvisionResult} (h : s.provision environ env route = .ok given) :
    Injects route given (routePrefix env route) := by
  unfold StorageProvisioner.provision at h
  split_ifs at h with hname hmapping
  · cases hvars : defaultVariables env route (routePrefix env route) (s.resolveBucket environ env route)
        (s.resolveEndpoint environ env) with
    | error e => simp [hvars,Except.map] at h
    | ok vars =>
      rw [hvars] at h
      cases h
      refine ⟨rfl,fun _ v hv tail value hmem => ?_,by simp [hmapping]⟩
      unfold defaultVariables at hvars
      dsimp only at hvars hmem
      split_ifs at hvars
      all_goals
        cases hvars
        simp only [List.append_nil,List.nil_append,List.mem_append,List.not_mem_nil] at hmem
      · rcases hmem with hmem | hmem
        · exact storageVariables_prefix hv hmem
        · exact storageVariables_prefix hv hmem
      · exact storageVariables_prefix hv hmem
      · exact storageVariables_prefix hv hmem
  · cases h
    refine ⟨rfl,fun hnil => absurd hnil hmapping,fun m hm htemplate => ?_⟩
    exact List.mem_map.mpr ⟨m,hm,by rw [if_pos htemplate]⟩

section

/-- An object is stored, and all lists that were asked for are those of one prefix in one bucket. -/
structure Spared (bucket keyPrefix : String) (o : Object) (s : Storage) : Prop where
  stored : o ∈ s.objects
  asked : ∀ l ∈ s.listed, l = (bucket,keyPrefix)

variable {bucket keyPrefix : String} {o : Object}

lemma send_keeps {effect : List Object → List Object} (h : ∀ objects, o ∈ objects → o ∈ effect objects) :
    Keeps (Spared bucket keyPrefix o) (send effect) := by
  refine .onPart fun s hs => ?_
  change Spared bucket keyPrefix o (id s) at hs
  rcases hr : (id s).replies with _ | ⟨⟨effective,answer⟩,replies⟩
  · exact hs
  · cases effective
    · exact ⟨hs.stored,hs.asked⟩
    · exact ⟨h _ hs.stored,hs.asked⟩

variable {keys : List String} {service : String}

lemma removeObjects_keeps (h : ¬(o.1 = bucket ∧ o.2 ∈ keys)) :
    Keeps (Spared bucket keyPrefix o) (removeObjects bucket keys) :=
  send_keeps fun _ hmem => List.mem_filter.mpr ⟨hmem,decide_eq_true h⟩

def PageUnder (keyPrefix : String) (answer : Except String Response) : Prop :=
  ∀ r, answer = .ok r → ∀ page, r.page = .ok page → ∀ k ∈ page.items, hasPrefix k keyPrefix = true

lemma listObjects_spec : Triple (Spared bucket keyPrefix o) (listObjects bucket keyPrefix)
      (fun answer s => Spared bucket keyPrefix o s ∧ PageUnder keyPrefix answer) fun _ => Spared bucket keyPrefix o := by
  refine .bind (R := fun _ => Spared bucket keyPrefix o) (.modify fun s hs => ⟨hs.stored,fun l hl => ?_⟩) fun _ => ?_
  · rcases List.mem_append.mp hl with hl | hl
    · exact hs.asked l hl
    · exact List.mem_singleton.mp hl
  · refine .bind (R := fun _ => Spared bucket keyPrefix o) (fun s hs => hs) fun before => ?_
    refine .bind (send_keeps fun _ h => h) fun answer => .pure fun s hs => ⟨hs,?_⟩
    rintro r hr page hpage k hk
    cases answer with
    | error e => cases hr
    | ok sent =>
      cases hr
      dsimp only at hpage
      cases hsent : sent.page with
      | error e => simp [hsent,Except.map] at hpage
      | ok items =>
        rw [hsent] at hpage
        cases hpage
        exact (of_decide_eq_true (List.mem_filter.mp hk).2).2

lemma readPage_under {answer : Except String Response} {page : ObjectPage}
    (hunder : PageUnder keyPrefix answer) (h : readPage service answer = .ok page) :
    ∀ k ∈ page.items, hasPrefix k keyPrefix = true := by
  cases answer with
  | error e => cases h
  | ok r =>
    unfold readPage at h
    dsimp only at h
    cases hread : r.readError with
    | some e => simp [hread] at h
    | none =>
      simp only [hread] at h
      split_ifs at h
      cases hpage : r.page with
      | error e => simp [hpage] at h
      | ok items =>
        simp only [hpage] at h
        cases h
        intro k hk
        exact hunder r rfl items hpage k (List.mem_of_mem_filter hk)

variable (hout : ¬(o.1 = bucket ∧ hasPrefix o.2 keyPrefix = true))

include hout in
lemma not_listed (hkeys : ∀ k ∈ keys, hasPrefix k keyPrefix = true) :
    ¬(o.1 = bucket ∧ o.2 ∈ keys) := fun h => hout ⟨h.1,hkeys o.2 h.2⟩

lemma deleteObject_keeps {service key : String} (h : ¬(o.1 = bucket ∧ o.2 ∈ [key])) :
    Keeps (Spared bucket keyPrefix o) (deleteObject service bucket key) := by
  refine .bind (removeObjects_keeps h) fun answer => ?_
  cases answer with
  | error e => exact .throw _
  | ok r => exact .ite (fun _ => .throw _) fun _ => .pure _

lemma deleteEachObject_keeps (h : ¬(o.1 = bucket ∧ o.2 ∈ keys)) :
    Keeps (Spared bucket keyPrefix o) (deleteEachObject service bucket keys) := by
  induction keys with
  | nil => exact .pure ()
  | cons key keys ih =>
    have hone : ¬(o.1 = bucket ∧ o.2 ∈ [key]) := fun hb =>
      h ⟨hb.1,List.mem_cons.mpr (.inl (List.mem_singleton.mp hb.2))⟩
    exact .bind (deleteObject_keeps hone) fun _ => ih fun hb => h ⟨hb.1,List.mem_cons_of_mem key hb.2⟩

lemma deleteS3Batch_keeps (h : ¬(o.1 = bucket ∧ o.2 ∈ keys)) :
    Keeps (Spared bucket keyPrefix o) (deleteS3Batch bucket keys) := by
  refine .bind (removeObjects_keeps h) fun answer => ?_
  cases answer with
  | error e => exact .throw _
  | ok r =>
    refine .ite (fun _ => deleteEachObject_keeps h) fun _ => .ite (fun _ => .throw _) fun _ => ?_
    cases r.failures with
    | nil => exact .pure ()
    | cons failure more => exact .throw _

lemma page_keeps {next : ObjectPage → Prog Storage String Unit}
    (hnext : ∀ page : ObjectPage, (∀ k ∈ page.items, hasPrefix k keyPrefix = true) →
      Keeps (Spared bucket keyPrefix o) (next page)) : Keeps (Spared bucket keyPrefix o) (do
      let answer ← listObjects bucket keyPrefix let page ← orExit id (readPage service answer)
      next page) := by
  refine Triple.bind listObjects_spec fun answer => ?_
  cases hpage : readPage service answer with
  | error e => exact fun s hs => hs.1
  | ok page => exact fun s hs => hnext page (readPage_under hs.2 hpage) s hs.1

include hout in
lemma teardownGCS_keeps (turns : ℕ) : Keeps (Spared bucket keyPrefix o) (teardownGCS bucket keyPrefix turns) := by
  induction turns with
  | zero => exact .throw _
  | succ turns ih =>
    refine page_keeps fun page hpage => ?_
    exact .bind (deleteEachObject_keeps (not_listed hout hpage)) fun _ => .ite (fun _ => .pure ()) fun _ => ih

include hout in
lemma teardownS3_keeps (turns : ℕ) : Keeps (Spared bucket keyPrefix o) (teardownS3 bucket keyPrefix turns) := by
  induction turns with
  | zero => exact .throw _
  | succ turns ih =>
    refine page_keeps fun page hpage => ?_
    have hrest : Keeps (Spared bucket keyPrefix o) (if page.truncated = false ∨ trimSpace page.next = "" then
        (return : Prog Storage String Unit) else teardownS3 bucket keyPrefix turns) :=
      .ite (fun _ => .pure ()) fun _ => ih
    exact .ite (fun _ => .bind (deleteS3Batch_keeps (not_listed hout hpage)) fun _ => hrest) fun _ => hrest

include hout in
lemma teardownObjects_keeps (gcs : Bool) (malformed : Option String) :
    Keeps (Spared bucket keyPrefix o) (teardownObjects gcs malformed bucket keyPrefix) := by
  unfold teardownObjects
  cases malformed with
  | some e => exact .throw _
  | none =>
    refine .bind (fun s hs => hs) fun before => ?_
    exact .ite (fun _ => teardownGCS_keeps hout _) fun _ => teardownS3_keeps hout _

lemma storage_teardown_keeps (s : StorageProvisioner) (environ : Environ) (malformed : Option String)
    (env : Environment) (route : AsyncRouteSpec)
    (hout : ¬(o.1 = s.resolveBucket environ env route ∧ hasPrefix o.2 (routePrefix env route) = true)) :
    Keeps (Spared (s.resolveBucket environ env route) (routePrefix env route) o)
      (s.teardown environ malformed env route) := by
  unfold StorageProvisioner.teardown
  split_ifs
  · exact .throw _
  · exact .pure ()
  · exact teardownObjects_keeps hout _ malformed

end

/-- The storage of two environments. Neither of their prefixes starts the other; a teardown of the one asks
for the objects under the prefix that its own provisioning injects and keeps what the other has under its
prefix. -/
theorem storage_isolated (s : StorageProvisioner) (environ : Environ) {env env' : Environment} (h : Admitted env)
    (h' : Admitted env') (hne : (env.ns,env.name) ≠ (env'.ns,env'.name)) (route route' : AsyncRouteSpec) :
    (¬(routePrefix env route).toList <+: (routePrefix env' route').toList ∧
      ¬(routePrefix env' route').toList <+: (routePrefix env route).toList) ∧
    (∀ given, s.provision environ env route = .ok given → Injects route given (routePrefix env route)) ∧
    ∀ malformed bucket key, hasPrefix key (routePrefix env' route') = true →
      Keeps (Spared (s.resolveBucket environ env route) (routePrefix env route) (bucket,key))
        (s.teardown environ malformed env route) := by
  have hpre := fun hpre => hne (same_of_start h h' route route' hpre)
  have hpre' := fun hpre => hne (same_of_start h' h route' route hpre).symm
  refine ⟨⟨hpre,hpre'⟩,fun given => provision_injects,fun malformed bucket key hkey => ?_⟩
  refine storage_teardown_keeps s environ malformed env route fun hboth => ?_
  rcases List.prefix_or_prefix_of_prefix (List.isPrefixOf_iff_prefix.mp hboth.2)
    (List.isPrefixOf_iff_prefix.mp hkey) with hstarts | hstarts
  · exact hpre hstarts
  · exact hpre' hstarts

theorem namesakes_stored_apart :
    (¬(routePrefix { name := "shop", ns := "team-a" } ⟨"s3","media",[]⟩).toList <+:
        (routePrefix { name := "shop", ns := "team-b" } ⟨"s3","",[]⟩).toList ∧
      ¬(routePrefix { name := "shop", ns := "team-b" } ⟨"s3","",[]⟩).toList <+:
        (routePrefix { name := "shop", ns := "team-a" } ⟨"s3","media",[]⟩).toList) ∧
    (∀ given, StorageProvisioner.provision {} (fun _ => "") { name := "shop", ns := "team-a" } ⟨"s3","media",[]⟩ =
        .ok given → Injects ⟨"s3","media",[]⟩ given (routePrefix { name := "shop", ns := "team-a" } ⟨"s3","media",[]⟩)) ∧
    ∀ malformed bucket key, hasPrefix key (routePrefix { name := "shop", ns := "team-b" } ⟨"s3","",[]⟩) = true →
      Keeps (Spared (StorageProvisioner.resolveBucket {} (fun _ => "") { name := "shop", ns := "team-a" }
          ⟨"s3","media",[]⟩) (routePrefix { name := "shop", ns := "team-a" } ⟨"s3","media",[]⟩) (bucket,key))
        (StorageProvisioner.teardown {} (fun _ => "") malformed { name := "shop", ns := "team-a" } ⟨"s3","media",[]⟩) :=
  storage_isolated {} (fun _ => "") ⟨by decide,by decide⟩ ⟨by decide,by decide⟩ (by decide) _ _

end Diverge.Async
