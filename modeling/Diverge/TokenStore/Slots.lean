import Diverge.TokenStore.Revocation

/-! The store as a machine over slots. When no call fails, each task has no token, an active token, or
a revoked one. The two Secrets represent these states, and the four operations follow the machine. -/
namespace Diverge.TokenStore
open Text Kube

inductive StoreOp
  | save (taskID ns token : Bytes)
  | revoke (taskID ns : Bytes)
  | delete (taskID ns : Bytes)
  | revokeIndex (taskID ns : Bytes)
  deriving DecidableEq

def StoreOp.taskID : StoreOp → Bytes
  | .save t _ _ | .revoke t _ | .delete t _ | .revokeIndex t _ => t

def StoreOp.ns : StoreOp → Bytes
  | .save _ n _ | .revoke _ n | .delete _ n | .revokeIndex _ n => n

def StoreOp.NonEmpty : StoreOp → Prop
  | .save _ _ token => token ≠ []
  | _ => True

/-- An operation of the full store, or a revocation by an index-only one. -/
def StoreOp.apply (sum256 : Sum256) (w : World) : StoreOp → World
  | .save t n token => (saveToken sum256 t n token w).2
  | .revoke t n => (revokeToken sum256 false t n w).2
  | .delete t n => (deleteToken sum256 t n w).2
  | .revokeIndex t n => (revokeToken sum256 true t n w).2

inductive Slot
  | absent
  | active (token : Bytes)
  | revoked
  deriving DecidableEq

/-- The slots of all tasks, and the namespaces that have an index. -/
structure Registry where
  indexed : Bytes → Bool
  slot : Bytes → Bytes → Slot

def Registry.empty : Registry := ⟨fun _ => false,fun _ _ => .absent⟩

def Registry.set (r : Registry) (t n : Bytes) (s : Slot) : Registry :=
  { r with slot := fun t' n' => if t' = t ∧ n' = n then s else r.slot t' n' }

@[simp] lemma Registry.set_slot (r : Registry) (t n : Bytes) (s : Slot) (t' n' : Bytes) :
    (r.set t n s).slot t' n' = if t' = t ∧ n' = n then s else r.slot t' n' := rfl

@[simp] lemma Registry.set_indexed (r : Registry) (t n : Bytes) (s : Slot) :
    (r.set t n s).indexed = r.indexed := rfl

/-- What an operation means for the slots: a full revocation needs a saved token, an index-only
one an index. -/
def Registry.apply (r : Registry) : StoreOp → Registry
  | .save t n token => { r.set t n (.active token) with indexed := Function.update r.indexed n true }
  | .revoke t n => if r.slot t n = .absent then r else r.set t n .revoked
  | .delete t n => r.set t n .absent
  | .revokeIndex t n => if r.indexed n then r.set t n .revoked else r

section
variable (sum256 : Sum256) (objects : ObjectKey → Option Secret) (t n : Bytes)

def indexData : Option Bytes := (objects (indexKey n)).bind fun idx => idx.data t

def indexMark : Bool :=
  (objects (indexKey n)).any fun idx => isTrue idx.annotations (revokedIndexKey sum256 t)

def Owned (sec : Secret) : Prop := lookup sec.labels labelAgentTask = taskLabelValue sum256 t

/-- How the Secrets of a namespace represent a slot. -/
def Represents : Slot → Prop
  | .absent =>
    objects (secretKey sum256 t n) = none ∧ indexData objects t n = none ∧
      indexMark sum256 objects t n = false
  | .active token =>
    (∃ sec, objects (secretKey sum256 t n) = some sec ∧ Owned sum256 t sec ∧
      isTrue sec.labels labelRevoked = false ∧ sec.data tokenField = some token) ∧
      indexData objects t n = some token ∧ indexMark sum256 objects t n = false
  | .revoked =>
    (∀ sec, objects (secretKey sum256 t n) = some sec → Owned sum256 t sec) ∧
      indexData objects t n = none ∧ indexMark sum256 objects t n = true

end

/-- The Secrets of all namespaces represent the slots of the tasks in use. -/
structure Refines (sum256 : Sum256) (tasks : Set Bytes) (w : World) (r : Registry) : Prop where
  quiet : w.script = []
  indexed : ∀ n, (w.objects (indexKey n)).isSome = r.indexed n
  slot : ∀ t ∈ tasks, ∀ n, Represents sum256 w.objects t n (r.slot t n)

/-- The objects after an edit of a task's index entries, the index created where it is missing. -/
def withEntry (sum256 : Sum256) (objects : ObjectKey → Option Secret) (t n : Bytes)
    (token mark : Option Bytes) : ObjectKey → Option Secret :=
  Function.update objects (indexKey n)
    (some (editEntry sum256 ((objects (indexKey n)).getD blankIndex) t token mark))

section
variable {sum256 : Sum256} {objects : ObjectKey → Option Secret} {t n : Bytes}

lemma indexKey_injective : Function.Injective indexKey := fun _ _ h => congrArg Prod.fst h

lemma secretKey_ne_indexKey' (t n m : Bytes) : secretKey sum256 t n ≠ indexKey m := fun h =>
  secretName_ne_index t (congrArg Prod.snd h)

variable (token mark : Option Bytes)

lemma withEntry_secret (t' n' : Bytes) : withEntry sum256 objects t n token mark (secretKey sum256 t' n') =
      objects (secretKey sum256 t' n') :=
  Function.update_of_ne (secretKey_ne_indexKey' t' n' n) _ _

lemma withEntry_isSome (m : Bytes) : (withEntry sum256 objects t n token mark (indexKey m)).isSome =
      if m = n then true else (objects (indexKey m)).isSome := by
  by_cases h : m = n
  · simp [withEntry,h]
  · simp [withEntry,Function.update_of_ne (indexKey_injective.ne h),h]

lemma indexData_withEntry (t' n' : Bytes) : indexData (withEntry sum256 objects t n token mark) t' n' =
      if t' = t ∧ n' = n then token else indexData objects t' n' := by
  by_cases hn : n' = n
  · subst hn
    by_cases ht : t' = t
    · simp [indexData,withEntry,editEntry,ht]
    · cases hi : objects (indexKey n') <;>
        simp [indexData,withEntry,editEntry,ht,hi,blankIndex]
  · simp [indexData,withEntry,Function.update_of_ne (indexKey_injective.ne hn),hn]

lemma indexMark_withEntry_self :
    indexMark sum256 (withEntry sum256 objects t n token mark) t n = (mark.getD [] == utf8 "true") := by
  simp [indexMark,withEntry,editEntry,isTrue,lookup]

lemma indexMark_withEntry_of_ne {token mark : Option Bytes} {t' n' : Bytes}
    (h : n' ≠ n ∨ revokedIndexKey sum256 t' ≠ revokedIndexKey sum256 t) :
    indexMark sum256 (withEntry sum256 objects t n token mark) t' n' = indexMark sum256 objects t' n' := by
  by_cases hn : n' = n
  · subst hn
    have hk := h.resolve_left (fun hne => hne rfl)
    cases hi : objects (indexKey n') <;>
      simp [indexMark,withEntry,editEntry,isTrue,lookup,Function.update_of_ne hk,hi,blankIndex]
    decide
  · simp [indexMark,withEntry,Function.update_of_ne (indexKey_injective.ne hn)]

lemma upsertTokenIndex_quiet (token : Bytes) : upsertTokenIndex sum256 t n token ⟨objects,[]⟩ =
      (.ok (),⟨withEntry sum256 objects t n (some token) none,[]⟩) := by
  have ha : upsertAttempt sum256 t n token ⟨objects,[]⟩ =
      (.ok (),⟨withEntry sum256 objects t n (some token) none,[]⟩) := by
    cases hi : objects (indexKey n) with
    | none => simp [upsertAttempt,hi,create_quiet,withEntry]
    | some idx => simp [upsertAttempt,hi,update_quiet hi,withEntry]
  rw [upsertTokenIndex,retryOnConflict_once (by simp [ha]),ha]

lemma markRevokedInIndex_quiet {indexOnly : Bool} (h : (objects (indexKey n)).isSome = true) :
    markRevokedInIndex sum256 indexOnly t n ⟨objects,[]⟩ =
      (.ok (),⟨withEntry sum256 objects t n none (some (utf8 "true")),[]⟩) := by
  have ha : markAttempt sum256 indexOnly t n ⟨objects,[]⟩ =
      (.ok (),⟨withEntry sum256 objects t n none (some (utf8 "true")),[]⟩) := by
    obtain ⟨idx,hi⟩ := Option.isSome_iff_exists.mp h
    simp [markAttempt,hi,update_quiet hi,withEntry]
  rw [markRevokedInIndex,retryOnConflict_once (by simp [ha]),ha]

lemma markRevokedInIndex_quiet_missing (h : objects (indexKey n) = none) :
    markRevokedInIndex sum256 true t n ⟨objects,[]⟩ = (.error .tokenNotFound,⟨objects,[]⟩) := by
  have ha : markAttempt sum256 true t n ⟨objects,[]⟩ = (.error .tokenNotFound,⟨objects,[]⟩) := by
    simp [markAttempt,h]
  rw [markRevokedInIndex,retryOnConflict_once (by simp [ha,StoreError.isConflict]),ha]

lemma removeFromTokenIndex_quiet : removeFromTokenIndex sum256 t n ⟨objects,[]⟩ =
      (.ok (),⟨if (objects (indexKey n)).isSome then withEntry sum256 objects t n none none
        else objects,[]⟩) := by
  have ha : removeAttempt sum256 t n ⟨objects,[]⟩ =
      (.ok (),⟨if (objects (indexKey n)).isSome then withEntry sum256 objects t n none none
        else objects,[]⟩) := by
    cases hi : objects (indexKey n) with
    | none => simp [removeAttempt,hi]
    | some idx => simp [removeAttempt,hi,update_quiet hi,withEntry]
  rw [removeFromTokenIndex,retryOnConflict_once (by simp [ha]),ha]

lemma matchesTaskLabel_of_owned {sec : Secret} (h : Owned sum256 t sec) :
    matchesTaskLabel sum256 sec.labels t = true := by
  have hl : lookup sec.labels labelAgentTask = taskLabelValue sum256 t := h
  simp [matchesTaskLabel,hl,taskLabelValue_ne_nil]

def savedSecret (sum256 : Sum256) (old : Option Secret) (t token : Bytes) : Secret :=
  old.elim (newSecret sum256 t token) fun sec => resavedSecret sum256 sec t token

lemma saveToken_quiet (token : Bytes)
    (hown : ∀ sec, objects (secretKey sum256 t n) = some sec → Owned sum256 t sec) :
    saveToken sum256 t n token ⟨objects,[]⟩ =
      (.ok (),⟨withEntry sum256 (Function.update objects (secretKey sum256 t n)
        (some (savedSecret sum256 (objects (secretKey sum256 t n)) t token))) t n (some token) none,[]⟩) := by
  cases hs : objects (secretKey sum256 t n) with
  | none => simp [saveToken,hs,create_quiet hs,upsertTokenIndex_quiet,savedSecret]
  | some sec =>
    simp [saveToken,hs,matchesTaskLabel_of_owned (hown sec hs),update_quiet hs,
      upsertTokenIndex_quiet,savedSecret]

lemma revokeToken_quiet_missing (h : objects (secretKey sum256 t n) = none) :
    revokeToken sum256 false t n ⟨objects,[]⟩ = (.error .tokenNotFound,⟨objects,[]⟩) := by
  simp [revokeToken,h]

lemma revokeToken_quiet {sec : Secret} (hs : objects (secretKey sum256 t n) = some sec)
    (hown : Owned sum256 t sec) (hi : (objects (indexKey n)).isSome = true) :
    revokeToken sum256 false t n ⟨objects,[]⟩ =
      (.ok (),⟨withEntry sum256 (Function.update objects (secretKey sum256 t n)
        (some (revokedSecret sum256 sec t))) t n none (some (utf8 "true")),[]⟩) := by
  have hi' : (Function.update objects (secretKey sum256 t n) (some (revokedSecret sum256 sec t))
      (indexKey n)).isSome = true := by
    rwa [Function.update_of_ne (secretKey_ne_indexKey' t n n).symm]
  simp [revokeToken,hs,matchesTaskLabel_of_owned hown,update_quiet hs,markRevokedInIndex_quiet hi']

lemma deleteToken_quiet (hown : ∀ sec, objects (secretKey sum256 t n) = some sec → Owned sum256 t sec) :
    deleteToken sum256 t n ⟨objects,[]⟩ = removeFromTokenIndex sum256 t n
        ⟨Function.update objects (secretKey sum256 t n) none,[]⟩ := by
  cases hs : objects (secretKey sum256 t n) with
  | none =>
    have hsame : Function.update objects (secretKey sum256 t n) none = objects := by
      rw [← hs]
      exact Function.update_eq_self _ _
    simp [deleteToken,hs,hsame]
  | some sec => simp [deleteToken,hs,matchesTaskLabel_of_owned (hown sec hs),delete_quiet hs]

variable (old : Option Secret)

lemma owned_savedSecret (token : Bytes) : Owned sum256 t (savedSecret sum256 old t token) := by
  have h1 : labelAgentTask ≠ managedByLabel := by decide
  cases old with
  | none =>
    simp [Owned,savedSecret,newSecret,lookup_update_of_ne h1,lookup_update_self]
  | some sec =>
    simp [Owned,savedSecret,resavedSecret,lookup_update_of_ne labelAgentTask_ne_labelRevoked,
      lookup_update_self]

lemma isTrue_of_missing {m : Bytes → Option Bytes} {k : Bytes} (h : m k = none) : isTrue m k = false := by
  rw [isTrue,lookup,h]
  decide

lemma savedSecret_not_revoked (token : Bytes) :
    isTrue (savedSecret sum256 old t token).labels labelRevoked = false := by
  have h1 : labelRevoked ≠ managedByLabel := by decide
  apply isTrue_of_missing
  cases old with
  | none =>
    simp [savedSecret,newSecret,Function.update_of_ne h1,
      Function.update_of_ne labelAgentTask_ne_labelRevoked.symm]
  | some sec => simp [savedSecret,resavedSecret]

lemma savedSecret_token (token : Bytes) : (savedSecret sum256 old t token).data tokenField = some token := by
  cases old <;> simp [savedSecret,newSecret,resavedSecret]

lemma owned_revokedSecret (sec : Secret) : Owned sum256 t (revokedSecret sum256 sec t) := by
  simp [Owned,revokedSecret,lookup_update_of_ne labelAgentTask_ne_labelRevoked,lookup_update_self]

end

variable {sum256 : Sum256} {tasks : Set Bytes} {objects : ObjectKey → Option Secret} {t n : Bytes}

variable {s : Slot} {t' n' : Bytes} {r : Registry}

lemma Represents.owned (h : Represents sum256 objects t n s) :
    ∀ sec, objects (secretKey sum256 t n) = some sec → Owned sum256 t sec := by
  intro sec hsec
  cases s with
  | absent => simp [h.1] at hsec
  | active token =>
    obtain ⟨⟨sec',hs,hown,-⟩,-⟩ := h
    rw [hs,Option.some.injEq] at hsec
    rwa [← hsec]
  | revoked => exact h.1 sec hsec

lemma represents_congr {objects' : ObjectKey → Option Secret}
    (h1 : objects' (secretKey sum256 t n) = objects (secretKey sum256 t n))
    (h2 : indexData objects' t n = indexData objects t n)
    (h3 : indexMark sum256 objects' t n = indexMark sum256 objects t n)
    (h : Represents sum256 objects t n s) : Represents sum256 objects' t n s := by
  cases s <;> simpa [Represents,h1,h2,h3] using h

lemma indexData_update_secret (sec : Option Secret) (t' n' : Bytes) :
    indexData (Function.update objects (secretKey sum256 t n) sec) t' n' = indexData objects t' n' := by
  simp [indexData,Function.update_of_ne (secretKey_ne_indexKey' t n n').symm]

lemma indexMark_update_secret (sec : Option Secret) (t' n' : Bytes) :
    indexMark sum256 (Function.update objects (secretKey sum256 t n) sec) t' n' =
      indexMark sum256 objects t' n' := by
  simp [indexMark,Function.update_of_ne (secretKey_ne_indexKey' t n n').symm]

lemma represents_of_ne (hcf : CollisionFree sum256 tasks) (ht : t ∈ tasks)
    (ht' : t' ∈ tasks) (hne : ¬(t' = t ∧ n' = n)) (sec : Option Secret)
    (h : Represents sum256 objects t' n' s) :
    Represents sum256 (Function.update objects (secretKey sum256 t n) sec) t' n' s := by
  have hkey : secretKey sum256 t' n' ≠ secretKey sum256 t n := by
    intro he
    obtain ⟨hn,hname⟩ := Prod.mk.inj he
    exact hne ⟨secretName_injOn hcf ht' ht hname,hn⟩
  exact represents_congr (Function.update_of_ne hkey _ _) (indexData_update_secret _ _ _)
    (indexMark_update_secret _ _ _) h

lemma represents_withEntry_of_ne (hcf : CollisionFree sum256 tasks) (ht : t ∈ tasks)
    (ht' : t' ∈ tasks) (hne : ¬(t' = t ∧ n' = n)) (token mark : Option Bytes) (h : Represents sum256 objects t' n' s) :
    Represents sum256 (withEntry sum256 objects t n token mark) t' n' s := by
  refine represents_congr (withEntry_secret _ _ _ _) ?_ (indexMark_withEntry_of_ne ?_) h
  · rw [indexData_withEntry,if_neg hne]
  · by_cases hn : n' = n
    · exact .inr fun hk => hne ⟨revokedIndexKey_injOn hcf ht' ht hk,hn⟩
    · exact .inl hn

lemma Refines.edit (hcf : CollisionFree sum256 tasks) (ht : t ∈ tasks)
    (hR : Refines sum256 tasks ⟨objects,[]⟩ r) (sec : Option Secret) (token mark : Option Bytes) {s : Slot}
    (hs : Represents sum256
      (withEntry sum256 (Function.update objects (secretKey sum256 t n) sec) t n token mark) t n s) :
    Refines sum256 tasks
      ⟨withEntry sum256 (Function.update objects (secretKey sum256 t n) sec) t n token mark,[]⟩
      { r.set t n s with indexed := Function.update r.indexed n true } where
  quiet := rfl
  indexed m := by
    rw [withEntry_isSome,Function.update_of_ne (secretKey_ne_indexKey' t n m).symm,hR.indexed m]
    by_cases hm : m = n
    · simp [hm]
    · simp [hm]
  slot t' ht' n' := by
    by_cases hne : t' = t ∧ n' = n
    · obtain ⟨rfl,rfl⟩ := hne
      simpa [Registry.set] using hs
    · simp only [Registry.set,hne,if_false]
      exact represents_withEntry_of_ne hcf ht ht' hne token mark
        (represents_of_ne hcf ht ht' hne sec (hR.slot t' ht' n'))

lemma represents_active (token : Bytes) (old : Option Secret) :
    Represents sum256 (withEntry sum256 (Function.update objects (secretKey sum256 t n)
      (some (savedSecret sum256 old t token))) t n (some token) none) t n (.active token) := by
  refine ⟨⟨savedSecret sum256 old t token,?_,owned_savedSecret old token,
    savedSecret_not_revoked old token,savedSecret_token old token⟩,?_,?_⟩
  · rw [withEntry_secret,Function.update_self]
  · rw [indexData_withEntry,if_pos ⟨rfl,rfl⟩]
  · rw [indexMark_withEntry_self]
    decide

lemma represents_revoked {sec : Option Secret} (h : ∀ s, sec = some s → Owned sum256 t s) :
    Represents sum256 (withEntry sum256 (Function.update objects (secretKey sum256 t n) sec)
      t n none (some (utf8 "true"))) t n .revoked := by
  refine ⟨?_,?_,?_⟩
  · rw [withEntry_secret,Function.update_self]
    exact h
  · rw [indexData_withEntry,if_pos ⟨rfl,rfl⟩]
  · rw [indexMark_withEntry_self]
    decide

lemma represents_absent :
    Represents sum256 (withEntry sum256 (Function.update objects (secretKey sum256 t n) none)
      t n none none) t n .absent := by
  refine ⟨?_,?_,?_⟩
  · rw [withEntry_secret,Function.update_self]
  · rw [indexData_withEntry,if_pos ⟨rfl,rfl⟩]
  · rw [indexMark_withEntry_self]
    decide

lemma Registry.set_self (h : r.slot t n = s) : r.set t n s = r := by
  obtain ⟨indexed,slot⟩ := r
  simp only [Registry.set,Registry.mk.injEq,true_and]
  funext t' n'
  by_cases hne : t' = t ∧ n' = n
  · rw [if_pos hne,hne.1,hne.2]
    exact h.symm
  · rw [if_neg hne]

lemma Refines.edit_indexed (hcf : CollisionFree sum256 tasks) (ht : t ∈ tasks)
    (hR : Refines sum256 tasks ⟨objects,[]⟩ r) (hi : (objects (indexKey n)).isSome = true)
    (sec : Option Secret) (token mark : Option Bytes) {s : Slot} (hs : Represents sum256
      (withEntry sum256 (Function.update objects (secretKey sum256 t n) sec) t n token mark) t n s) :
    Refines sum256 tasks
      ⟨withEntry sum256 (Function.update objects (secretKey sum256 t n) sec) t n token mark,[]⟩
      (r.set t n s) := by
  have hsame : Function.update r.indexed n true = r.indexed := by
    rw [← hi,hR.indexed n]
    exact Function.update_eq_self _ _
  have he := hR.edit hcf ht sec token mark hs
  rw [hsame] at he
  exact he

lemma Refines.drop_secret (hcf : CollisionFree sum256 tasks) (ht : t ∈ tasks)
    (hR : Refines sum256 tasks ⟨objects,[]⟩ r) (hi : objects (indexKey n) = none) :
    Refines sum256 tasks ⟨Function.update objects (secretKey sum256 t n) none,[]⟩ (r.set t n .absent) where
  quiet := rfl
  indexed m := by
    dsimp only
    rw [Function.update_of_ne (secretKey_ne_indexKey' t n m).symm]
    exact hR.indexed m
  slot t' ht' n' := by
    by_cases hne : t' = t ∧ n' = n
    · obtain ⟨rfl,rfl⟩ := hne
      simp only [Registry.set,and_self,if_true]
      refine ⟨Function.update_self _ _ _,?_,?_⟩
      · rw [indexData_update_secret]
        simp [indexData,hi]
      · rw [indexMark_update_secret]
        simp [indexMark,hi]
    · simp only [Registry.set,hne,if_false]
      exact represents_of_ne hcf ht ht' hne none (hR.slot t' ht' n')

lemma Represents.indexed (h : Represents sum256 objects t n s) (hs : s ≠ .absent) :
    (objects (indexKey n)).isSome = true := by
  cases hi : objects (indexKey n) with
  | some idx => rfl
  | none =>
    cases s with
    | absent => contradiction
    | active token => simp [Represents,indexData,hi] at h
    | revoked => simp [Represents,indexMark,hi] at h

/-- Each operation does to the Secrets what the machine does to the slots. -/
theorem Refines.apply {w : World} (hcf : CollisionFree sum256 tasks)
    (hR : Refines sum256 tasks w r) {op : StoreOp} (ht : op.taskID ∈ tasks) :
    Refines sum256 tasks (op.apply sum256 w) (r.apply op) := by
  obtain ⟨objects,script⟩ := w
  obtain rfl : script = [] := hR.quiet
  cases op with
  | save t n token =>
    have hown := (hR.slot t ht n).owned
    simp only [StoreOp.apply,saveToken_quiet token hown]
    exact hR.edit hcf ht _ _ _ (represents_active token _)
  | revoke t n =>
    have hslot := hR.slot t ht n
    by_cases habs : r.slot t n = .absent
    · rw [habs] at hslot
      simp only [StoreOp.apply,revokeToken_quiet_missing hslot.1,Registry.apply,habs,if_true]
      exact hR
    · have hi := hslot.indexed habs
      simp only [Registry.apply,habs,if_false]
      cases hs : objects (secretKey sum256 t n) with
      | none =>
        have hrev : r.slot t n = .revoked := by
          cases hsl : r.slot t n with
          | absent => exact absurd hsl habs
          | active token => simp [hsl,Represents,hs] at hslot
          | revoked => rfl
        simp only [StoreOp.apply,revokeToken_quiet_missing hs,Registry.set_self hrev]
        exact hR
      | some sec =>
        simp only [StoreOp.apply,revokeToken_quiet hs (hslot.owned sec hs) hi]
        refine hR.edit_indexed hcf ht hi _ _ _ (represents_revoked ?_)
        rintro s ⟨⟩
        exact owned_revokedSecret sec
  | delete t n =>
    simp only [StoreOp.apply,deleteToken_quiet (hR.slot t ht n).owned,removeFromTokenIndex_quiet,
      Function.update_of_ne (secretKey_ne_indexKey' t n n).symm,Registry.apply]
    cases hi : objects (indexKey n) with
    | none => exact hR.drop_secret hcf ht hi
    | some idx => exact hR.edit_indexed hcf ht (by simp [hi]) _ _ _ represents_absent
  | revokeIndex t n =>
    change t ∈ tasks at ht
    have hidx := hR.indexed n
    simp only [StoreOp.apply,revokeToken,if_true,Registry.apply,← hidx]
    cases hi : objects (indexKey n) with
    | none =>
      simp only [markRevokedInIndex_quiet_missing hi]
      exact hR
    | some idx =>
      have hsome : (objects (indexKey n)).isSome = true := by simp [hi]
      have hsame := Function.update_eq_self (secretKey sum256 t n) objects
      have he := hR.edit_indexed hcf ht hsome (objects (secretKey sum256 t n)) none
        (some (utf8 "true")) (represents_revoked (hR.slot t ht n).owned)
      rw [hsame] at he
      simpa [markRevokedInIndex_quiet hsome] using he

end Diverge.TokenStore
