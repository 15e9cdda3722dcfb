import Diverge.TokenStore.Names
import Diverge.Kube.Cluster

/-! The Kubernetes token store. A task's token stands in a Secret of its own and in the index Secret
of its namespace; a revocation is a label on the first and an annotation on the second. The store
reads both or, index-only, the index alone. -/
namespace Diverge.TokenStore
open Text Kube

structure Secret where
  labels : Bytes → Option Bytes
  annotations : Bytes → Option Bytes
  data : Bytes → Option Bytes

abbrev ObjectKey := Bytes × Bytes

abbrev World := Cluster ObjectKey Secret

inductive StoreError
  | tokenNotFound
  | tokenRevoked
  | notOwned (name taskID : Bytes)
  | api (e : ApiError)
  | wrapped (context : String) (name : Bytes) (e : ApiError)
  deriving DecidableEq

/-- Conflicts are recognized through wrapped errors too. -/
def StoreError.isConflict : StoreError → Bool
  | .api .conflict => true
  | .wrapped _ _ .conflict => true
  | _ => false

def labelAgentTask : Bytes := utf8 "divergedev.com/agent-task"
def labelRevoked : Bytes := utf8 "divergedev.com/revoked"
def managedByLabel : Bytes := utf8 "app.kubernetes.io/managed-by"
def tokenField : Bytes := utf8 "token"

/-- A lookup in a map of strings: a missing key reads as the empty string. -/
def lookup (m : Bytes → Option Bytes) (k : Bytes) : Bytes := (m k).getD []

/-- A value read as `"true"`. -/
def isTrue (m : Bytes → Option Bytes) (k : Bytes) : Bool := lookup m k == utf8 "true"

/-- A token read from a data map: absent and empty ones are not found. -/
def readToken (data : Bytes → Option Bytes) (k : Bytes) : Except StoreError Bytes :=
  if lookup data k = [] then .error .tokenNotFound else .ok (lookup data k)

variable (sum256 : Sum256)

def matchesTaskLabel (labels : Bytes → Option Bytes) (taskID : Bytes) : Bool :=
  let actual := lookup labels labelAgentTask
  actual != [] &&
    (actual == taskLabelValue sum256 taskID || actual == legacyTaskLabelValue sum256 taskID)

def secretKey (taskID ns : Bytes) : ObjectKey := (ns,secretName sum256 taskID)

def indexKey (ns : Bytes) : ObjectKey := (ns,tokenIndexSecretName)

def indexRetries : ℕ := 24

/-- The index of a namespace before its first entry. -/
def blankIndex : Secret :=
  { labels := Function.update (fun _ => none) managedByLabel (some (utf8 "diverge"))
    annotations := fun _ => none
    data := fun _ => none }

/-- A task's entries in the index: its token and the mark against it, each set or deleted. -/
def editEntry (idx : Secret) (taskID : Bytes) (token mark : Option Bytes) : Secret :=
  { idx with
    data := Function.update idx.data taskID token
    annotations := Function.update idx.annotations (revokedIndexKey sum256 taskID) mark }

/-- A task's Secret with its first token. -/
def newSecret (taskID token : Bytes) : Secret :=
  { labels := Function.update
      (Function.update (fun _ => none) labelAgentTask (some (taskLabelValue sum256 taskID)))
      managedByLabel (some (utf8 "diverge"))
    annotations := fun _ => none
    data := Function.update (fun _ => none) tokenField (some token) }

/-- A task's Secret with its token replaced and its revocation taken back. -/
def resavedSecret (sec : Secret) (taskID token : Bytes) : Secret :=
  { sec with
    labels := Function.update
      (Function.update sec.labels labelAgentTask (some (taskLabelValue sum256 taskID)))
      labelRevoked none
    data := Function.update sec.data tokenField (some token) }

def revokedSecret (sec : Secret) (taskID : Bytes) : Secret :=
  { sec with
    labels := Function.update
      (Function.update sec.labels labelAgentTask (some (taskLabelValue sum256 taskID)))
      labelRevoked (some (utf8 "true")) }

def upsertAttempt (taskID ns token : Bytes) : Call ObjectKey Secret StoreError Unit := fun w =>
  match get (indexKey ns) w with
  | (.error .notFound,w) =>
    match create (indexKey ns) (editEntry sum256 blankIndex taskID (some token) none) w with
    | (.error .alreadyExists,w) => (.error (.api .conflict),w)
    | (.error e,w) => (.error (.api e),w)
    | (.ok _,w) => (.ok (),w)
  | (.error e,w) => (.error (.wrapped "get token index secret" tokenIndexSecretName e),w)
  | (.ok idx,w) =>
    match update (indexKey ns) (editEntry sum256 idx taskID (some token) none) w with
    | (.error e,w) => (.error (.api e),w)
    | (.ok _,w) => (.ok (),w)

def upsertTokenIndex (taskID ns token : Bytes) : Call ObjectKey Secret StoreError Unit :=
  retryOnConflict StoreError.isConflict (upsertAttempt sum256 taskID ns token) indexRetries

def markAttempt (indexOnly : Bool) (taskID ns : Bytes) : Call ObjectKey Secret StoreError Unit :=
  fun w =>
    match get (indexKey ns) w with
    | (.error .notFound,w) => (if indexOnly then .error .tokenNotFound else .ok (),w)
    | (.error e,w) => (.error (.wrapped "get token index secret" tokenIndexSecretName e),w)
    | (.ok idx,w) =>
      match update (indexKey ns) (editEntry sum256 idx taskID none (some (utf8 "true"))) w with
      | (.error e,w) => (.error (.api e),w)
      | (.ok _,w) => (.ok (),w)

def markRevokedInIndex (indexOnly : Bool) (taskID ns : Bytes) :
    Call ObjectKey Secret StoreError Unit :=
  retryOnConflict StoreError.isConflict (markAttempt sum256 indexOnly taskID ns) indexRetries

def removeAttempt (taskID ns : Bytes) : Call ObjectKey Secret StoreError Unit := fun w =>
  match get (indexKey ns) w with
  | (.error .notFound,w) => (.ok (),w)
  | (.error e,w) => (.error (.wrapped "get token index secret" tokenIndexSecretName e),w)
  | (.ok idx,w) =>
    match update (indexKey ns) (editEntry sum256 idx taskID none none) w with
    | (.error e,w) => (.error (.api e),w)
    | (.ok _,w) => (.ok (),w)

def removeFromTokenIndex (taskID ns : Bytes) : Call ObjectKey Secret StoreError Unit :=
  retryOnConflict StoreError.isConflict (removeAttempt sum256 taskID ns) indexRetries

def saveToken (taskID ns token : Bytes) : Call ObjectKey Secret StoreError Unit := fun w =>
  let name := secretName sum256 taskID
  match get (secretKey sum256 taskID ns) w with
  | (.error .notFound,w) =>
    match create (secretKey sum256 taskID ns) (newSecret sum256 taskID token) w with
    | (.error e,w) => (.error (.api e),w)
    | (.ok _,w) => upsertTokenIndex sum256 taskID ns token w
  | (.error e,w) => (.error (.wrapped "get token secret" name e),w)
  | (.ok sec,w) =>
    if matchesTaskLabel sum256 sec.labels taskID = false then (.error (.notOwned name taskID),w)
    else
      match update (secretKey sum256 taskID ns) (resavedSecret sum256 sec taskID token) w with
      | (.error e,w) => (.error (.api e),w)
      | (.ok _,w) => upsertTokenIndex sum256 taskID ns token w

def isRevokedInIndex (taskID ns : Bytes) : Call ObjectKey Secret StoreError Bool := fun w =>
  match get (indexKey ns) w with
  | (.error .notFound,w) => (.ok false,w)
  | (.error e,w) => (.error (.wrapped "get token index secret" tokenIndexSecretName e),w)
  | (.ok sec,w) => (.ok (isTrue sec.annotations (revokedIndexKey sum256 taskID)),w)

def getTokenFromIndex (taskID ns : Bytes) : Call ObjectKey Secret StoreError Bytes := fun w =>
  match get (indexKey ns) w with
  | (.error .notFound,w) => (.error .tokenNotFound,w)
  | (.error e,w) => (.error (.wrapped "get token index secret" tokenIndexSecretName e),w)
  | (.ok sec,w) =>
    if isTrue sec.annotations (revokedIndexKey sum256 taskID) then (.error .tokenRevoked,w)
    else (readToken sec.data taskID,w)

def getToken (indexOnly : Bool) (taskID ns : Bytes) : Call ObjectKey Secret StoreError Bytes :=
  fun w =>
    if indexOnly then getTokenFromIndex sum256 taskID ns w
    else
      match get (secretKey sum256 taskID ns) w with
      | (.error .notFound,w) => (.error .tokenNotFound,w)
      | (.error e,w) => (.error (.wrapped "get token secret" (secretName sum256 taskID) e),w)
      | (.ok sec,w) =>
        if matchesTaskLabel sum256 sec.labels taskID = false then (.error .tokenNotFound,w)
        else if isTrue sec.labels labelRevoked then (.error .tokenRevoked,w)
        else
          match isRevokedInIndex sum256 taskID ns w with
          | (.error e,w) => (.error e,w)
          | (.ok true,w) => (.error .tokenRevoked,w)
          | (.ok false,w) => (readToken sec.data tokenField,w)

def deleteToken (taskID ns : Bytes) : Call ObjectKey Secret StoreError Unit := fun w =>
  let name := secretName sum256 taskID
  match get (secretKey sum256 taskID ns) w with
  | (.error .notFound,w) => removeFromTokenIndex sum256 taskID ns w
  | (.error e,w) => (.error (.wrapped "get token secret" name e),w)
  | (.ok sec,w) =>
    if matchesTaskLabel sum256 sec.labels taskID = false then (.error (.notOwned name taskID),w)
    else
      match delete (secretKey sum256 taskID ns) w with
      | (.ok _,w) => removeFromTokenIndex sum256 taskID ns w
      | (.error .notFound,w) => removeFromTokenIndex sum256 taskID ns w
      | (.error e,w) => (.error (.wrapped "delete token secret" name e),w)

def revokeToken (indexOnly : Bool) (taskID ns : Bytes) : Call ObjectKey Secret StoreError Unit :=
  fun w =>
    if indexOnly then markRevokedInIndex sum256 true taskID ns w
    else
      let name := secretName sum256 taskID
      match get (secretKey sum256 taskID ns) w with
      | (.error .notFound,w) => (.error .tokenNotFound,w)
      | (.error e,w) => (.error (.wrapped "get token secret for revocation" name e),w)
      | (.ok sec,w) =>
        if matchesTaskLabel sum256 sec.labels taskID = false then (.error (.notOwned name taskID),w)
        else
          match update (secretKey sum256 taskID ns) (revokedSecret sum256 sec taskID) w with
          | (.error e,w) => (.error (.api e),w)
          | (.ok _,w) => markRevokedInIndex sum256 false taskID ns w

def checkRevoked (indexOnly : Bool) (taskID ns : Bytes) : Call ObjectKey Secret StoreError Bool :=
  fun w =>
    if indexOnly then isRevokedInIndex sum256 taskID ns w
    else
      match get (secretKey sum256 taskID ns) w with
      | (.error .notFound,w) => isRevokedInIndex sum256 taskID ns w
      | (.error e,w) => (.error (.wrapped "get token secret" (secretName sum256 taskID) e),w)
      | (.ok sec,w) =>
        if matchesTaskLabel sum256 sec.labels taskID = false then (.ok false,w)
        else if isTrue sec.labels labelRevoked then (.ok true,w)
        else isRevokedInIndex sum256 taskID ns w

/-- Read errors count as not revoked. -/
def isRevoked (indexOnly : Bool) (taskID ns : Bytes) (w : World) : Bool × World :=
  match checkRevoked sum256 indexOnly taskID ns w with
  | (.ok revoked,w) => (revoked,w)
  | (.error _,w) => (false,w)

end Diverge.TokenStore
