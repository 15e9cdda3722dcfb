import Diverge.Program.Rules
import Diverge.Tasks.Types
import Diverge.TokenStore.Store
import Diverge.Auth.Types

/-! What the controller and the server of one agent task act on: the task's object, the Secrets
of the token store, and a trace of the effects beyond the API server. -/
namespace Diverge.Tasks
open Kube Program TokenStore Auth

inductive Effect
  | suspend
  | resume
  | teardown
  | provision
  | hibernate (hibernated : Bool)
  | mint (claims : Claims)
  | notify (old new : Phase)
  deriving DecidableEq

def Effect.isMint : Effect → Bool
  | .mint _ => true
  | _ => false

structure System where
  cell : Cell
  secrets : World
  trace : List Effect

def System.stored (s : System) : Option AgentTask := s.cell.objects ()

def System.mints (s : System) : ℕ := s.trace.countP Effect.isMint

section
variable {ρ α : Type}

def onTask (call : Call Unit AgentTask ApiError α) : Prog System ρ (Except ApiError α) :=
  onPart System.cell (fun c s => { s with cell := c }) call

def onSecrets (call : Call ObjectKey Secret StoreError α) : Prog System ρ (Except StoreError α) :=
  onPart System.secrets (fun w s => { s with secrets := w }) call

def emit (e : Effect) : Prog System ρ PUnit := modify fun s => { s with trace := s.trace ++ [e] }

end

/-- A task is stored, with the faults to come, and a token was asked for `n` times. -/
structure Holds (t : AgentTask) (faults : List Fault) (n : ℕ) (s : System) : Prop where
  stored : s.stored = some t
  faults : s.cell.script = faults
  mints : s.mints = n

variable {ρ α : Type} {t : AgentTask} {faults : List Fault} {n : ℕ} {E : ρ → System → Prop}

lemma triple_onSecrets (call : Call ObjectKey Secret StoreError α) :
    Triple (Holds t faults n) (onSecrets call) (fun _ => Holds t faults n) E :=
  .onPart fun _ h => ⟨h.stored,h.faults,h.mints⟩

lemma triple_emit {e : Effect} (he : e.isMint = false) :
    Triple (Holds t faults n) (emit e) (fun _ => Holds t faults n) E := by
  refine .modify fun s h => ⟨h.stored,h.faults,?_⟩
  have hm := h.mints
  unfold System.mints at hm ⊢
  simp [hm,he]

lemma triple_get : Triple (Holds t faults n) (onTask (get ())) (fun r s => Holds t faults.tail n s ∧
        ((passesNext faults = true ∧ r = .ok t) ∨
          (passesNext faults = false ∧ ∃ e, r = .error e ∧ e ≠ .notFound))) E := by
  refine .onPart fun s h => ?_
  have hs : s.cell.objects () = some t := h.stored
  have hafter : Holds t faults.tail n { s with cell := ⟨s.cell.objects,s.cell.script.tail⟩ } :=
    ⟨hs,congrArg List.tail h.faults,h.mints⟩
  rw [← h.faults] at hafter ⊢
  rcases get_cases () s.cell with ⟨-,hn,-⟩ | ⟨hp,v,hv,hg⟩ | ⟨hp,hg | ⟨m,hg⟩⟩
  · rw [hs] at hn
    contradiction
  · rw [hs,Option.some.injEq] at hv
    rw [hg]
    exact ⟨hafter,.inl ⟨hp,by rw [hv]⟩⟩
  · rw [hg]
    exact ⟨hafter,.inr ⟨hp,_,rfl,by simp⟩⟩
  · rw [hg]
    exact ⟨hafter,.inr ⟨hp,_,rfl,by simp⟩⟩

lemma triple_edit (f : AgentTask → AgentTask) : Triple (Holds t faults n) (onTask (edit () f))
      (fun r s => Holds (if takesEffect faults then f t else t) faults.tail n s ∧
        ((passesNext faults = true ∧ r = .ok (f t)) ∨ (passesNext faults = false ∧ ∃ e, r = .error e)))
      E := by
  refine .onPart fun s h => ?_
  obtain ⟨hcell,hanswer⟩ := edit_spec f h.stored
  rw [h.faults] at hcell hanswer
  refine ⟨⟨?_,by rw [hcell],h.mints⟩,?_⟩
  · change (edit () f s.cell).2.objects () = _
    rw [hcell]
    split_ifs with he
    · simp
    · exact h.stored
  · rcases hanswer with ha | ⟨hp,e,he⟩
    · exact .inl ha
    · exact .inr ⟨hp,_,he⟩

end Diverge.Tasks
