import Diverge.Environments.Lifetime
import Diverge.Text.Durations
import Mathlib

/-! The slash command `/diverge extend-ttl`: it stores its duration as the TTL of the previews of
a pull request, and the reconcilers measure the TTL from the creation of each. -/
namespace Diverge.Environments
open Text Tasks Kube

def defaultExtendTTLDuration : Duration := .ofInt (24 * 3600 * second)

/-- The duration of the command, from the text after its name in the comment. -/
def parseExtendTTL (argStr : String) : Option Duration :=
  match fields argStr with
  | [] => some defaultExtendTTLDuration
  | arg :: _ => ((parseDuration arg).filter (0 < ·)).map .ofInt

/-- The previews of the cluster. -/
structure Previews where
  environments : List Environment
  previewGroups : List PreviewGroup
  deriving DecidableEq

/-- The previews that `findMatchingEnvironments` and `findMatchingPreviewGroups` pick. -/
structure Selection where
  environment : Environment → Bool
  previewGroup : PreviewGroup → Bool

/-- Update the matching objects one after the other, up to the first failure; the number of updates
and the rest of the faults. -/
def updateMatching {α : Type} (matching : α → Bool) (f : α → α) :
    List Fault → List α → Except ApiError (ℕ × List Fault) × List α
  | script,[] => (.ok (0,script),[])
  | script,x :: xs =>
    if matching x then
      match script with
      | .fail e :: _ => (.error e.toError,x :: xs)
      | .lost e :: _ => (.error e.toError,f x :: xs)
      | script =>
        match updateMatching matching f script.tail xs with
        | (answer,ys) => (answer.map fun n => (n.1 + 1,n.2),f x :: ys)
    else
      match updateMatching matching f script xs with
      | (answer,ys) => (answer,x :: ys)

def listCall (script : List Fault) : Except ApiError (List Fault) :=
  match script with
  | .fail e :: _ | .lost e :: _ => .error e.toError
  | script => .ok script.tail

def PreviewGroup.setTTL (pg : PreviewGroup) (ttl : Duration) : PreviewGroup :=
  { pg with lifecycle := some { pg.lifecycle.getD {} with ttl := some ttl } }

def commandTTL (dur : Duration) : Duration :=
  if dur.toInt ≤ 0 then defaultExtendTTLDuration else dur

def executeExtendTTLCommand (sel : Selection) (dur : Duration) (script : List Fault)
    (s : Previews) : Except ApiError String × Previews :=
  match listCall script with
  | .error e => (.error e,s)
  | .ok script =>
    match updateMatching sel.environment (·.setTTL (commandTTL dur)) script s.environments with
    | (.error e,envs) => (.error e,{ s with environments := envs })
    | (.ok (n,script),envs) =>
      match listCall script with
      | .error e => (.error e,{ s with environments := envs })
      | .ok script =>
        match updateMatching sel.previewGroup (·.setTTL (commandTTL dur)) script
          s.previewGroups with
        | (.error e,pgs) => (.error e,⟨envs,pgs⟩)
        | (.ok (m,_),pgs) =>
          (.ok ("⏳ **Preview TTL extended** by " ++ durationString (commandTTL dur).toInt ++
            " for " ++ formatInt (n + m) ++ " environment(s)."),⟨envs,pgs⟩)

/-- The expiry that the `PreviewGroup` reconciler computes. -/
def PreviewGroup.expiryTime (now : ℤ) (pg : PreviewGroup) : Option ℤ :=
  (pg.lifecycle.bind (·.ttl)).map fun ttl => pg.createdAt.getD now + ttl.toInt

def lifeEnd (expiry : Option ℤ) : WithTop ℤ := expiry.elim ⊤ (fun e => (e : WithTop ℤ))

/-- At a time, a life has not been shortened, does not end before, and has not ended. -/
def LifeKept (t : ℤ) (before after : Option ℤ) : Prop :=
  lifeEnd before ≤ lifeEnd after ∧ (t : WithTop ℤ) ≤ lifeEnd after ∧ after.any (· < t) = false

/-- A TTL is replaced by one that is no shorter and that reaches the present. -/
def Covered (t : ℤ) (dur : Duration) (ttl : Option Duration) (createdAt : Option ℤ) : Prop :=
  (∃ old ∈ ttl, old.toInt ≤ dur.toInt) ∧ t ≤ createdAt.getD t + dur.toInt

instance (t : ℤ) (before after : Option ℤ) : Decidable (LifeKept t before after) :=
  -- Named, since the order of the integers is also found as a complete one, which is noncomputable.
  have order (x y : WithTop ℤ) : Decidable (x ≤ y) := @WithTop.decidableLE ℤ Int.instLEInt Int.decLe x y
  @instDecidableAnd _ _ (order _ _) (@instDecidableAnd _ _ (order _ _) inferInstance)

instance (t : ℤ) (dur : Duration) (ttl : Option Duration) (createdAt : Option ℤ) :
    Decidable (Covered t dur ttl createdAt) := inferInstanceAs (Decidable (_ ∧ _))

lemma lifeKept_iff (t : ℤ) (dur : Duration) (ttl : Option Duration) (createdAt : Option ℤ) :
    LifeKept t (ttl.map fun d => createdAt.getD t + d.toInt) (some (createdAt.getD t + dur.toInt)) ↔
      Covered t dur ttl createdAt := by
  cases ttl with
  | none => simp [LifeKept,Covered,lifeEnd]
  | some old =>
    simp only [LifeKept,Covered,lifeEnd,Option.map_some,Option.elim_some,WithTop.coe_le_coe,
      Option.any_some,Option.mem_some_iff,exists_eq_left',decide_eq_false_iff_not]
    omega

lemma updateMatching_ok {α : Type} {matching : α → Bool} {f : α → α} {xs : List α} :
    ∀ {script : List Fault} {n : ℕ × List Fault}, (updateMatching matching f script xs).1 = .ok n →
      (updateMatching matching f script xs).2 = xs.map fun x => if matching x then f x else x := by
  induction xs with
  | nil => exact fun _ => rfl
  | cons x xs ih =>
    intro script n h
    have hgo : ∀ {rest : List Fault}, (∃ m, (updateMatching matching f rest xs).1 = .ok m) →
        f x :: (updateMatching matching f rest xs).2 =
          f x :: xs.map fun x => if matching x then f x else x := fun ⟨m,hm⟩ => by rw [ih hm]
    have hok : ∀ {answer : Except ApiError (ℕ × List Fault)},
        answer.map (fun n => (n.1 + 1,n.2)) = .ok n → ∃ m, answer = .ok m := by
      intro answer ha
      cases answer with
      | error e => cases ha
      | ok m => exact ⟨m,rfl⟩
    rw [List.map_cons]
    rw [updateMatching.eq_def] at h ⊢
    by_cases hx : matching x
    · simp only [hx,if_true] at h ⊢
      rcases script with _ | ⟨⟨⟩ | e | e,script⟩
      · exact hgo (hok h)
      · exact hgo (hok h)
      · cases h
      · cases h
    · simp only [hx,if_false,Bool.false_eq_true] at h ⊢
      rw [← ih h]

lemma executeExtendTTLCommand_ok {sel : Selection} {dur : Duration} {script : List Fault}
    {s : Previews} {feedback : String} (h : (executeExtendTTLCommand sel dur script s).1 = .ok feedback) :
    (executeExtendTTLCommand sel dur script s).2 = ⟨s.environments.map fun env =>
          if sel.environment env then env.setTTL (commandTTL dur) else env,
        s.previewGroups.map fun pg =>
          if sel.previewGroup pg then pg.setTTL (commandTTL dur) else pg⟩ := by
  rw [executeExtendTTLCommand] at h ⊢
  split at h
  · cases h
  split at h
  · cases h
  rename_i henv
  have hok := updateMatching_ok (congrArg Prod.fst henv)
  rw [henv] at hok
  split at h
  · cases h
  split at h
  · cases h
  rename_i hpg
  have hok' := updateMatching_ok (congrArg Prod.fst hpg)
  rw [hpg] at hok'
  simp_all

/-- The command keeps the lives of the previews that it matches. -/
def KeepsLives (sel : Selection) (t : ℤ) (before after : Previews) : Prop :=
  List.Forall₂ (fun env env' => sel.environment env = true →
    LifeKept t (expiryTime t env) (expiryTime t env')) before.environments after.environments ∧
  List.Forall₂ (fun pg pg' => sel.previewGroup pg = true →
    LifeKept t (pg.expiryTime t) (pg'.expiryTime t)) before.previewGroups after.previewGroups

instance (sel : Selection) (t : ℤ) (before after : Previews) :
    Decidable (KeepsLives sel t before after) := inferInstanceAs (Decidable (_ ∧ _))

/-- The command that succeeds never shortens a life exactly when every preview it matches has a
TTL that is no longer than the duration and is not older than the duration. -/
theorem extendTTLCommand_keeps_lives_iff (sel : Selection) (dur : Duration) (t : ℤ)
    (script : List Fault) (s : Previews) (feedback : String)
    (h : (executeExtendTTLCommand sel dur script s).1 = .ok feedback) :
    KeepsLives sel t s (executeExtendTTLCommand sel dur script s).2 ↔
      (∀ env ∈ s.environments, sel.environment env = true →
        Covered t (commandTTL dur) env.spec.lifecycle.ttl env.status.createdAt) ∧
      ∀ pg ∈ s.previewGroups, sel.previewGroup pg = true →
        Covered t (commandTTL dur) (pg.lifecycle.bind (·.ttl)) pg.createdAt := by
  have henv : ∀ env : Environment,
      LifeKept t (expiryTime t env) (expiryTime t (env.setTTL (commandTTL dur))) ↔
        Covered t (commandTTL dur) env.spec.lifecycle.ttl env.status.createdAt :=
    fun env => lifeKept_iff t (commandTTL dur) env.spec.lifecycle.ttl env.status.createdAt
  have hpg : ∀ pg : PreviewGroup,
      LifeKept t (pg.expiryTime t) ((pg.setTTL (commandTTL dur)).expiryTime t) ↔
        Covered t (commandTTL dur) (pg.lifecycle.bind (·.ttl)) pg.createdAt :=
    fun pg => lifeKept_iff t (commandTTL dur) (pg.lifecycle.bind (·.ttl)) pg.createdAt
  rw [executeExtendTTLCommand_ok h,KeepsLives,List.forall₂_map_right_iff,List.forall₂_same,
    List.forall₂_map_right_iff,List.forall₂_same]
  refine and_congr (forall₂_congr fun env _ => ?_) (forall₂_congr fun pg _ => ?_)
  · exact imp_congr_right fun hsel => by rw [if_pos hsel,henv]
  · exact imp_congr_right fun hsel => by rw [if_pos hsel,hpg]

def bornAtZero (ttl : Duration) : Previews :=
  ⟨[{ hourly with spec := { lifecycle := { ttl := some ttl } } }],[]⟩

def everything : Selection := ⟨fun _ => true,fun _ => true⟩

theorem extendTTLCommand_keeps_lives_day :
    (executeExtendTTLCommand everything defaultExtendTTLDuration []
      (bornAtZero (.ofInt (3600 * second)))).1.toOption.isSome = true ∧
    KeepsLives everything (3600 * second) (bornAtZero (.ofInt (3600 * second)))
      (executeExtendTTLCommand everything defaultExtendTTLDuration []
        (bornAtZero (.ofInt (3600 * second)))).2 :=
  ⟨by decide +kernel,(extendTTLCommand_keeps_lives_iff everything defaultExtendTTLDuration _ [] _ _
    rfl).mpr (by decide +kernel)⟩

/-- `/diverge extend-ttl 1h` on a preview that has lived for two hours of its day: it has expired
by the next reconcile. -/
theorem hour_ends_life : parseExtendTTL "1h" = some (.ofInt (3600 * second)) ∧
    ¬ KeepsLives everything (7200 * second) (bornAtZero defaultExtendTTLDuration)
      (executeExtendTTLCommand everything (.ofInt (3600 * second)) []
        (bornAtZero defaultExtendTTLDuration)).2 := by
  decide +kernel

end Diverge.Environments
