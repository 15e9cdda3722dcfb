import Diverge.Kube.Cluster
import Diverge.Order.Enumerations
import Diverge.Text.Strings
import Diverge.Transition.Runs

/-! The feature provider that keeps the overrides of an environment as strategies of Unleash. Only
the strategies under the environment's title are part of the state. -/
namespace Diverge.Features.Unleash
open Text Kube Transition Diverge.Order

/-- Whether it is enabled, and the value of its variant. -/
abbrev Strategy := Bool × String

/-- The strategies by feature, and the environment's object; an empty annotation is none. -/
structure State where
  strategies : String → Option Strategy := fun _ => none
  annotation : String := ""
  overrides : Listing String := .empty

def strategyOf (v : String) : Strategy :=
  let word := toLower (trimSpace v)
  if word = "true" then (true,"") else if word = "false" then (false,"") else (true,v)

inductive Call
  | connect
  | ensure (feature : String)
  | upsert (feature : String) (strategy : Strategy)
  | enable (feature : String)
  | delete (feature : String)

/-- A feature without a name is refused by the first call for it. -/
def Call.refused : Call → Bool
  | .ensure feature => trimSpace feature == ""
  | _ => false

def Call.apply (strategies : String → Option Strategy) : Call → String → Option Strategy
  | .upsert feature strategy => Function.update strategies feature (some strategy)
  | .delete feature => Function.update strategies feature none
  | _ => strategies

/-- The calls up to the first that fails, before or after it has taken effect. -/
def perform (strategies : String → Option Strategy) :
    List Call → List Fault → Bool × (String → Option Strategy)
  | [],_ => (true,strategies)
  | call :: calls,faults =>
    match faults.headD .pass with
    | .pass => if call.refused then (false,strategies) else perform (call.apply strategies) calls faults.tail
    | .fail _ => (false,strategies)
    | .lost _ => (false,call.apply strategies)

def State.managed (s : State) : List String := ((split ',' s.annotation).map trimSpace).filter (· ≠ "")

def State.calls (s : State) : List Call :=
  .connect :: s.overrides.sortedKeys.flatMap (fun k =>
    [.ensure k,.upsert k (strategyOf ((s.overrides.get? k).getD "")),.enable k]) ++
  (s.managed.filter fun k => (s.overrides.get? k).isNone).map .delete

/-- Whether it returns no error, and the state it leaves. The annotation may be lost. -/
def provision (faults : List Fault) (saved : Bool) (s : State) : Bool × State :=
  let done := perform s.strategies s.calls faults
  let keys := if done.1 && saved then join "," s.overrides.sortedKeys else s.annotation
  (done.1,{ s with strategies := done.2, annotation := keys })

inductive Event
  | edit (overrides : Listing String)
  | provision (faults : List Fault) (saved : Bool)

def step (s : State) : Event → State
  | .edit overrides => { s with overrides }
  | .provision faults saved => (Unleash.provision faults saved s).2

def Converged (s : State) : Prop := ∀ k, s.strategies k = (s.overrides.get? k).map strategyOf

variable {strategies : String → Option Strategy}

lemma perform_ok {calls : List Call} {faults : List Fault} (h : (perform strategies calls faults).1 = true) :
    (perform strategies calls faults).2 = calls.foldl Call.apply strategies := by
  induction calls generalizing strategies faults with
  | nil => rfl
  | cons call calls ih =>
    unfold perform at h ⊢
    split at h
    · split_ifs at h with hrefused
      rw [if_neg hrefused]
      exact ih h
    · cases h
    · cases h

lemma foldl_configure (f : String → Strategy) (keys : List String) (k : String) :
    (keys.flatMap fun k => [.ensure k,.upsert k (f k),.enable k]).foldl Call.apply strategies k =
      if k ∈ keys then some (f k) else strategies k := by
  induction keys generalizing strategies with
  | nil => rfl
  | cons l keys ih =>
    rw [List.flatMap_cons,List.foldl_append,ih]
    change (if k ∈ keys then _ else Function.update strategies l (some (f l)) k) = _
    by_cases hk : k = l
    · subst hk
      simp
    · simp [hk]

lemma foldl_delete (keys : List String) (k : String) :
    (keys.map Call.delete).foldl Call.apply strategies k = if k ∈ keys then none else strategies k := by
  induction keys generalizing strategies with
  | nil => rfl
  | cons l keys ih =>
    rw [List.map_cons,List.foldl_cons,ih,Call.apply]
    by_cases hk : k = l
    · subst hk
      simp
    · simp [hk]

lemma mem_sortedKeys {m : Listing String} {k : String} : k ∈ m.sortedKeys ↔ ∃ v, m.get? k = some v := by
  simp [Listing.sortedKeys,Listing.keys,mem_sortBy,Listing.get?_eq_some_iff]

lemma provision_strategies {faults : List Fault} {saved : Bool} {s : State}
    (h : (provision faults saved s).1 = true) (k : String) : (provision faults saved s).2.strategies k =
      match s.overrides.get? k with
      | some v => some (strategyOf v)
      | none => if k ∈ s.managed then none else s.strategies k := by
  have hcalls : (provision faults saved s).2.strategies = s.calls.foldl Call.apply s.strategies :=
    perform_ok h
  rw [hcalls,State.calls,List.foldl_append,foldl_delete,List.foldl_cons,foldl_configure]
  cases hget : s.overrides.get? k <;> simp [hget,mem_sortedKeys,Call.apply]

theorem provision_converges_iff (start : State) (history : List Event) (faults : List Fault)
    (saved : Bool) (h : (provision faults saved (run step start history)).1 = true) :
    Converged (provision faults saved (run step start history)).2 ↔
      ∀ k, (run step start history).overrides.get? k = none → k ∉ (run step start history).managed →
        (run step start history).strategies k = none := by
  generalize run step start history = s at h ⊢
  refine forall_congr' fun k => ?_
  rw [provision_strategies h]
  change _ = (s.overrides.get? k).map strategyOf ↔ _
  cases s.overrides.get? k with
  | some v => simp
  | none => simp

def alphaOn : Listing String := ⟨[("alpha","on")],by decide⟩

theorem provision_converges_alphaOn :
    Converged (provision [] true (run step {} [.edit alphaOn])).2 :=
  (provision_converges_iff {} [.edit alphaOn] [] true (by decide +kernel)).mpr fun _ _ _ => rfl

/-- Enabling the feature fails after its strategy is set, so the annotation never names it. -/
theorem failed_provision_leaves_strategy : ∃ history faults saved,
    (provision faults saved (run step {} history)).1 = true ∧
      ¬ Converged (provision faults saved (run step {} history)).2 := by
  refine ⟨[.edit alphaOn,.provision [.pass,.pass,.pass,.fail (.other "")] true,.edit .empty],[],true,?_,?_⟩
  · decide +kernel
  · exact fun h => absurd (h "alpha") (by decide +kernel)

/-- The annotation can list the key. -/
def Listable (k : String) : Prop := ',' ∉ k.toList ∧ trimSpace k = k ∧ k ≠ ""

/-- Every Provision succeeds and its annotation is stored, and the keys can be listed. -/
def Undisturbed (s : State) : Event → Prop
  | .edit overrides => ∀ k ∈ overrides.sortedKeys, Listable k
  | .provision faults saved => (Unleash.provision faults saved s).1 = true ∧ saved = true

/-- The annotation lists every strategy that there is. -/
structure Recorded (s : State) : Prop where
  listable : ∀ k ∈ s.overrides.sortedKeys, Listable k
  listed : ∀ k ∉ s.managed, s.strategies k = none

lemma managed_joined {keys : List String} (h : ∀ k ∈ keys, Listable k) :
    ((split ',' (join "," keys)).map trimSpace).filter (· ≠ "") = keys := by
  by_cases hnil : keys = []
  · subst hnil
    decide
  · rw [(split_join hnil).mpr fun k hk => (h k hk).1,List.map_congr_left fun k hk => (h k hk).2.1,List.map_id',
      List.filter_eq_self]
    exact fun k hk => decide_eq_true (h k hk).2.2

lemma Recorded.converged {s : State} {faults : List Fault} {saved : Bool} (hs : Recorded s)
    (h : (provision faults saved s).1 = true) : Converged (provision faults saved s).2 := by
  intro k
  rw [provision_strategies h]
  change _ = (s.overrides.get? k).map strategyOf
  cases s.overrides.get? k with
  | some v => rfl
  | none =>
    change (if k ∈ s.managed then none else s.strategies k) = none
    split_ifs with hk
    · rfl
    · exact hs.listed k hk

lemma recorded_step (s : State) (e : Event) (he : Undisturbed s e) (hs : Recorded s) : Recorded (step s e) := by
  cases e with
  | edit overrides => exact ⟨he,hs.listed⟩
  | provision faults saved =>
    obtain ⟨hok,rfl⟩ := he
    refine ⟨hs.listable,fun k hk => ?_⟩
    have hmanaged : (Unleash.provision faults true s).2.managed = s.overrides.sortedKeys := by
      have hlist : State.annotation (Unleash.provision faults true s).2 = join "," s.overrides.sortedKeys := by
        change (if (perform s.strategies s.calls faults).1 && true then _ else _) = _
        rw [show (perform s.strategies s.calls faults).1 = true from hok]
        rfl
      rw [State.managed,hlist,managed_joined hs.listable]
    change k ∉ (Unleash.provision faults true s).2.managed at hk
    rw [hmanaged,mem_sortedKeys,not_exists] at hk
    change (Unleash.provision faults true s).2.strategies k = none
    rw [hs.converged hok k,Option.map_eq_none_iff]
    exact Option.eq_none_iff_forall_ne_some.mpr hk

/-- As long as no Provision fails or loses its annotation, each of them leaves the strategies of the
overrides and no other. -/
theorem undisturbed_provisions_converge {history : List Event} (h : EveryStep step Undisturbed {} history)
    {pre : List Event} {faults : List Fault} {saved : Bool} (hpre : pre ++ [.provision faults saved] <+: history) :
    Converged (run step {} (pre ++ [.provision faults saved])) := by
  have hs : Recorded (run step {} pre) :=
    h.reaches recorded_step ⟨nofun,fun _ _ => rfl⟩ pre ((List.prefix_append _ _).trans hpre)
  rw [run_append]
  exact hs.converged (h.reached pre _ hpre).1

theorem removed_strategy_deleted :
    Converged (run step {} [.edit alphaOn,.provision [] true,.edit .empty,.provision [] true]) := by
  refine @undisturbed_provisions_converge [.edit alphaOn,.provision [] true,.edit .empty,.provision [] true] ?_
    [.edit alphaOn,.provision [] true,.edit .empty] [] true List.prefix_rfl
  refine ⟨?_,⟨by decide +kernel,rfl⟩,nofun,⟨by decide +kernel,rfl⟩,trivial⟩
  intro k hk
  obtain rfl : k = "alpha" := List.mem_singleton.mp hk
  exact ⟨by decide,by decide,by decide⟩

end Diverge.Features.Unleash
