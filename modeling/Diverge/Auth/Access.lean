import Diverge.Auth.Types
import Diverge.Glob.Pattern

/-! What a token may do on the API server: the identity its claims stand for, and the checks of
namespace and tool that every request of such an identity passes. -/
namespace Diverge.Auth
open Text Glob

def extraKeyAuthType : String := "divergedev.com/auth-type"
def extraKeyTaskID : String := "divergedev.com/task-id"
def extraKeyNamespace : String := "divergedev.com/namespace"
def extraKeyAllowedTools : String := "divergedev.com/allowed-tools"

structure UserInfo where
  username : String
  uid : String
  groups : List String
  extra : List (String × List String)
  deriving DecidableEq

/-- The values of a key of `Extra`; a missing key has none. -/
def UserInfo.extraValues (user : UserInfo) (key : String) : List String :=
  (user.extra.lookup key).getD []

/-- The tool patterns of a claim set; without any, all tools of the server. -/
def grantedTools (claims : Claims) : List String :=
  if claims.allowedTools = [] then ["diverge_*"] else claims.allowedTools

/-- The identity that `Authenticate` derives from accepted claims. -/
def claimsUser (claims : Claims) : UserInfo :=
  let ns := if claims.ns = "" then "default" else claims.ns
  { username := "system:agenttask:" ++ ns ++ ":" ++ claims.taskID
    uid := claims.taskID
    groups := ["system:authenticated","divergedev:agenttasks"]
    extra :=
      [(extraKeyAuthType,["macaroon"]),(extraKeyTaskID,[claims.taskID]),(extraKeyNamespace,[ns]),
        (extraKeyAllowedTools,grantedTools claims)] }

/-- The refusal of a request, with its message. -/
inductive ConnectError
  | permissionDenied (message : String)
  deriving DecidableEq

/-- The tools that authorize a verb on a resource. -/
def candidateToolsForAction (verb resource : String) : List String :=
  match resource,verb with
  | "environments","get" =>
    ["diverge_get_environment","diverge_wait_for_ready","diverge_fetch_errors",
      "diverge_list_hook_jobs","diverge_doctor"]
  | "environments","list" | "environments","watch" =>
    ["diverge_list_environments","diverge_watch_environments"]
  | "environments","create" => ["diverge_create_environment"]
  | "environments","update" => ["diverge_update_environment","diverge_extend_ttl"]
  | "environments","retry-hook" => ["diverge_retry_hook"]
  | "environments","delete" => ["diverge_delete_environment"]
  | "jobs","get" | "jobs","list" | "jobs","watch" => ["diverge_list_hook_jobs","diverge_fetch_errors"]
  | "jobs","retry-hook" => ["diverge_retry_hook"]
  | "previewgroups","get" => ["diverge_get_preview_group"]
  | "previewgroups","list" | "previewgroups","watch" =>
    ["diverge_list_preview_groups","diverge_watch_preview_groups"]
  | "previewgroups","create" => ["diverge_create_preview_group"]
  | "previewgroups","update" => ["diverge_update_preview_group"]
  | "previewgroups","delete" => ["diverge_delete_preview_group"]
  | "agenttasks","get" => ["diverge_get_task","diverge_stream_task_logs"]
  | "agenttasks","list" | "agenttasks","watch" => ["diverge_list_tasks"]
  | "agenttasks","create" => ["diverge_create_task"]
  | "agenttasks","update" => ["diverge_pause_task","diverge_resume_task","diverge_guide_task"]
  | "agenttasks","delete" => ["diverge_delete_task"]
  | "pods/log",_ =>
    ["diverge_stream_logs","diverge_stream_task_logs","diverge_fetch_errors","diverge_get_task",
      "diverge_get_environment"]
  | resource,verb =>
    ["diverge_" ++ verb ++ "_" ++ trimSuffix resource "s","diverge_" ++ verb ++ "_" ++ resource]

/-- Some allowed pattern matches some tool of the action. -/
def toolAllowed (allowedPatterns : List String) (verb resource : String) : Bool :=
  allowedPatterns.any fun pattern =>
    (candidateToolsForAction verb resource).any fun candidate => decide (Matches pattern candidate)

/-- Namespace binding, the task lifecycle restriction and the tool patterns, without the log. -/
def authorizeMacaroon (user : UserInfo) (verb ns resource denialMsg : String) :
    Except ConnectError Unit :=
  let boundNS := (user.extraValues extraKeyNamespace).headD ""
  if resource = "agenttasks" ∧ verb ≠ "get" then .error (.permissionDenied denialMsg)
  else if boundNS = "" ∨ ns = "" ∨ ns ≠ boundNS then .error (.permissionDenied denialMsg)
  else if toolAllowed (user.extraValues extraKeyAllowedTools) verb resource then .ok ()
  else .error (.permissionDenied denialMsg)

lemma mem_candidateTools {verb resource name : String} (h : name ∈ candidateToolsForAction verb resource) :
    ∃ rest, name.toList = "diverge_".toList ++ rest := by
  have hfix : ∀ names : List String, (names.all fun n => "diverge_".toList.isPrefixOf n.toList) = true →
      name ∈ names → ∃ rest, name.toList = "diverge_".toList ++ rest := by
    intro names hall hn
    obtain ⟨rest,hr⟩ := List.isPrefixOf_iff_prefix.mp (List.all_eq_true.mp hall name hn)
    exact ⟨rest,hr.symm⟩
  have hdyn : ∀ tail, name = "diverge_" ++ verb ++ "_" ++ tail →
      ∃ rest, name.toList = "diverge_".toList ++ rest := by
    rintro tail rfl
    exact ⟨verb.toList ++ '_' :: tail.toList,by simp⟩
  unfold candidateToolsForAction at h
  split at h
  case h_25 =>
    rcases List.mem_cons.mp h with h | h
    · exact hdyn _ h
    · exact hdyn _ (List.mem_singleton.mp h)
  all_goals exact hfix _ (by decide) h

lemma toolAllowed_iff (patterns : List String) (verb resource : String) :
    toolAllowed patterns verb resource = true ↔
      ∃ pattern ∈ patterns, ∃ name ∈ candidateToolsForAction verb resource, Matches pattern name := by
  simp [toolAllowed]

lemma authorizeMacaroon_claimsUser (claims : Claims) (verb ns resource denialMsg : String) :
    authorizeMacaroon (claimsUser claims) verb ns resource denialMsg = .ok () ↔
      (resource = "agenttasks" → verb = "get") ∧ ns ≠ "" ∧
        ns = (if claims.ns = "" then "default" else claims.ns) ∧
        toolAllowed (grantedTools claims) verb resource = true := by
  have hns : ((claimsUser claims).extraValues extraKeyNamespace).headD "" =
      if claims.ns = "" then "default" else claims.ns := by rfl
  have htools : (claimsUser claims).extraValues extraKeyAllowedTools = grantedTools claims := by rfl
  have hne : (if claims.ns = "" then "default" else claims.ns) ≠ "" := by
    split_ifs with h
    · decide
    · exact h
  unfold authorizeMacaroon
  rw [hns,htools]
  generalize (if claims.ns = "" then "default" else claims.ns) = bound at hne ⊢
  by_cases hr : resource = "agenttasks" ∧ verb ≠ "get"
  · simp [hr.1,hr.2]
  · have hr' : resource = "agenttasks" → verb = "get" := fun h => by
      by_contra hv
      exact hr ⟨h,hv⟩
    simp only [hr,if_false,hne,false_or]
    by_cases hb : ns = "" ∨ ns ≠ bound
    · rw [if_pos hb]
      constructor
      · intro h
        contradiction
      · rintro ⟨-,h1,h2,-⟩
        rcases hb with hb | hb
        · exact absurd hb h1
        · exact absurd h2 hb
    · obtain ⟨h1,h2⟩ := not_or.mp hb
      rw [if_neg hb]
      by_cases ht : toolAllowed (grantedTools claims) verb resource = true
      · rw [if_pos ht]
        exact ⟨fun _ => ⟨hr',h1,not_not.mp h2,ht⟩,fun _ => rfl⟩
      · simp [ht]

end Diverge.Auth
