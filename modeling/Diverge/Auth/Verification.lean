import Diverge.Auth.Macaroon

/-! What the verification loop does with an accepted caveat, and with a list of them. -/
namespace Diverge.Auth
open Text Hmac

/-- The one operator each recognized caveat key is accepted with. -/
def caveatOp (key : String) : Option String :=
  match key with
  | "task_id" | "namespace" | "repo" | "branch" | "nonce" => some opEqual
  | "expires_at" => some opBefore
  | "allowed_tools" => some opGlob
  | "allowed_models" => some opIn
  | "max_cost_usd" | "max_tokens" => some opLessThan
  | _ => none

def Caveat.Recognized (c : Caveat) : Prop := caveatOp c.key = some c.op

lemma mem_claimCaveats {claims : Claims} {c : Caveat} (h : c ∈ claimCaveats claims) :
    c.Recognized ∧ c.key ≠ "nonce" := by
  have hif : ∀ {q : Prop} [Decidable q] {d : Caveat}, c ∈ (if q then [d] else []) →
      d.Recognized ∧ d.key ≠ "nonce" → c.Recognized ∧ c.key ≠ "nonce" := by
    intro q _ d hc hd
    split_ifs at hc
    · rwa [List.mem_singleton.mp hc]
    · simp at hc
  simp only [claimCaveats,List.mem_append] at h
  obtain (((((((hc | hc) | hc) | hc) | hc) | hc) | hc) | hc) := h
  · rcases List.mem_cons.mp hc with rfl | hc
    · exact ⟨rfl,by simp⟩
    · rw [List.mem_singleton.mp hc]
      exact ⟨rfl,by simp⟩
  · exact hif hc ⟨rfl,by simp⟩
  · exact hif hc ⟨rfl,by simp⟩
  · split at hc
    · rw [List.mem_singleton.mp hc]
      exact ⟨rfl,by simp⟩
    · simp at hc
  · exact hif hc ⟨rfl,by simp⟩
  · exact hif hc ⟨rfl,by simp⟩
  · exact hif hc ⟨rfl,by simp⟩
  · exact hif hc ⟨rfl,by simp⟩

section
variable {κ σ : Type} [Scheme κ σ]

/-- The patterns that a caveat leaves: all it lists when it is the first, else those that the text
test keeps. -/
def keptTools (c : Caveat) (st : Extract κ) : List String :=
  if st.hasAllowedTools then narrowTools st.claims.allowedTools (split ',' c.value)
  else split ',' c.value

/-- What an accepted caveat makes of the state. -/
structure Accepted (tokenID : String) (c : Caveat) (st st' : Extract κ) : Prop where
  op : caveatOp c.key = some c.op
  sig : st'.sig = st.sig
  task : st.claims.taskID = tokenID → st'.claims.taskID = tokenID
  taskID : c.key = "task_id" ∨ st.hasTaskID = true → st'.hasTaskID = true
  hasNamespace : c.key = "namespace" ∨ st.hasNamespace = true → st'.hasNamespace = true
  ns : st.claims.ns ≠ "" → st'.claims.ns = st.claims.ns
  nsValue : c.key = "namespace" → c.value ≠ "" ∧ st'.claims.ns = c.value
  tools : c.key ≠ "allowed_tools" → st'.claims.allowedTools = st.claims.allowedTools
  kept : c.key = "allowed_tools" → st'.claims.allowedTools = keptTools c st ∧ keptTools c st ≠ []

variable {c : Caveat} {st st' : Extract κ} {tokenID : String} {i : ℕ} {cs : List Caveat} {claims : Claims}

lemma Accepted.of_frame {tokenID key op : String} (hk : c.key = key)
    (hkey : key ≠ "task_id" ∧ key ≠ "namespace" ∧ key ≠ "allowed_tools") (ho : c.op = op)
    (hop : caveatOp key = some op) (hsig : st'.sig = st.sig)
    (hid : st'.claims.taskID = st.claims.taskID) (htask : st'.hasTaskID = st.hasTaskID)
    (hflag : st'.hasNamespace = st.hasNamespace) (hns : st'.claims.ns = st.claims.ns)
    (htools : st'.claims.allowedTools = st.claims.allowedTools) : Accepted tokenID c st st' where
  op := by rw [hk,ho,hop]
  sig := hsig
  task h := hid.trans h
  taskID h := htask ▸ h.resolve_left (hk ▸ hkey.1)
  hasNamespace h := hflag ▸ h.resolve_left (hk ▸ hkey.2.1)
  ns _ := hns
  nsValue h := absurd h (hk ▸ hkey.2.1)
  tools _ := htools
  kept h := absurd h (hk ▸ hkey.2.2)

lemma Accepted.of_tools (hk : c.key = "allowed_tools") (ho : c.op = opGlob) (hsig : st'.sig = st.sig)
    (hid : st'.claims.taskID = st.claims.taskID) (htask : st'.hasTaskID = st.hasTaskID)
    (hflag : st'.hasNamespace = st.hasNamespace) (hns : st'.claims.ns = st.claims.ns)
    (htools : st'.claims.allowedTools = keptTools c st) (hne : keptTools c st ≠ []) :
    Accepted tokenID c st st' where
  op := by rw [hk,ho]; rfl
  sig := hsig
  task h := hid.trans h
  taskID h := htask ▸ h.resolve_left (by rw [hk]; decide)
  hasNamespace h := hflag ▸ h.resolve_left (by rw [hk]; decide)
  ns _ := hns
  nsValue h := absurd h (by rw [hk]; decide)
  tools h := absurd hk h
  kept _ := ⟨htools,hne⟩

lemma allowedToolsCaveat_accepted (hkey : c.key = "allowed_tools") (h : allowedToolsCaveat c st = .ok st') :
    Accepted tokenID c st st' := by
  unfold allowedToolsCaveat at h
  simp only at h
  split_ifs at h with hc he hf hn
  · cases h
    have hk : keptTools c st = split ',' c.value := by simp [keptTools,hf]
    refine .of_tools hkey (not_not.mp (not_or.mp hc).1) rfl rfl rfl rfl rfl hk.symm ?_
    rw [hk]
    simp [split]
  · cases h
    have hk : keptTools c st = narrowTools st.claims.allowedTools (split ',' c.value) := by
      simp [keptTools,Bool.not_eq_false _ ▸ hf]
    exact .of_tools hkey (not_not.mp (not_or.mp hc).1) rfl rfl rfl rfl rfl hk.symm (hk ▸ hn)

lemma taskIDCaveat_accepted (hkey : c.key = "task_id") (h : taskIDCaveat tokenID i c st = .ok st') :
    Accepted tokenID c st st' := by
  unfold taskIDCaveat at h
  split_ifs at h with hc
  cases h
  obtain ⟨ho,hv⟩ := not_or.mp hc
  exact
    { op := by rw [hkey,not_not.mp ho]; rfl
      sig := rfl
      task := fun _ => not_not.mp (not_or.mp (not_or.mp hv).2).1
      taskID := fun _ => rfl
      hasNamespace := fun h => h.resolve_left (by rw [hkey]; decide)
      ns := fun _ => rfl
      nsValue := fun h => absurd h (by rw [hkey]; decide)
      tools := fun _ => rfl
      kept := fun h => absurd h (by rw [hkey]; decide) }

lemma namespaceCaveat_accepted (hkey : c.key = "namespace") (h : namespaceCaveat i c st = .ok st') :
    Accepted tokenID c st st' := by
  unfold namespaceCaveat at h
  split_ifs at h with hc hd
  cases h
  obtain ⟨ho,hv⟩ := not_or.mp hc
  exact
    { op := by rw [hkey,not_not.mp ho]; rfl
      sig := rfl
      task := fun h => h
      taskID := fun h => h.resolve_left (by rw [hkey]; decide)
      hasNamespace := fun _ => rfl
      ns := fun hne => (not_not.mp fun h => hd ⟨hne,h⟩).symm
      nsValue := fun _ => ⟨(not_or.mp hv).1,rfl⟩
      tools := fun _ => rfl
      kept := fun h => absurd h (by rw [hkey]; decide) }

variable {now : ℤ}

lemma checkCaveat_accepted (h : checkCaveat now tokenID i c st = .ok st') : Accepted tokenID c st st' := by
  unfold checkCaveat at h
  split at h <;> rename_i hk
  · exact taskIDCaveat_accepted hk h
  · exact namespaceCaveat_accepted hk h
  · unfold repoCaveat at h
    split_ifs at h with hc hd
    cases h
    exact .of_frame hk (by decide) (not_not.mp (not_or.mp hc).1) rfl rfl rfl rfl rfl rfl rfl
  · unfold branchCaveat at h
    split_ifs at h with hc hd
    cases h
    exact .of_frame hk (by decide) (not_not.mp (not_or.mp hc).1) rfl rfl rfl rfl rfl rfl rfl
  · unfold expiresAtCaveat at h
    split_ifs at h with hc
    split at h
    · contradiction
    · split_ifs at h
      all_goals
        cases h
        exact .of_frame hk (by decide) (not_not.mp hc) rfl rfl rfl rfl rfl rfl rfl
  · exact allowedToolsCaveat_accepted hk h
  · unfold allowedModelsCaveat at h
    simp only at h
    split_ifs at h with hc
    all_goals
      cases h
      exact .of_frame hk (by decide) (not_not.mp (not_or.mp hc).1) rfl rfl rfl rfl rfl rfl rfl
  · unfold maxCostUSDCaveat at h
    split_ifs at h with hc
    split at h
    · contradiction
    · split_ifs at h
      all_goals
        cases h
        exact .of_frame hk (by decide) (not_not.mp hc) rfl rfl rfl rfl rfl rfl rfl
    · contradiction
  · unfold maxTokensCaveat at h
    split_ifs at h with hc
    split at h
    · contradiction
    · split_ifs at h
      all_goals
        cases h
        exact .of_frame hk (by decide) (not_not.mp hc) rfl rfl rfl rfl rfl rfl rfl
  · unfold nonceCaveat at h
    split_ifs at h with hc
    cases h
    exact .of_frame hk (by decide) (not_not.mp (not_or.mp hc).1) rfl rfl rfl rfl rfl rfl rfl
  · contradiction

lemma caveatStep_accepted (h : caveatStep now tokenID i c st = .ok st') :
    Accepted tokenID c { st with sig := Scheme.computeHMAC st.sig (serializeCaveatCanonical c) } st' :=
  checkCaveat_accepted h

lemma caveatLoop_cons (h : caveatLoop now tokenID i (c :: cs) st = .ok st') :
    ∃ mid, caveatStep now tokenID i c st = .ok mid ∧ caveatLoop now tokenID (i+1) cs mid = .ok st' := by
  unfold caveatLoop at h
  cases hs : caveatStep now tokenID i c st with
  | error e =>
    rw [hs] at h
    contradiction
  | ok mid =>
    rw [hs] at h
    exact ⟨mid,rfl,h⟩

lemma caveatLoop_append (xs : List Caveat) : ∀ {i : ℕ} {ys : List Caveat} {st st' : Extract κ},
      caveatLoop now tokenID i (xs ++ ys) st = .ok st' → ∃ mid, caveatLoop now tokenID i xs st = .ok mid ∧
        caveatLoop now tokenID (i + xs.length) ys mid = .ok st' := by
  induction xs with
  | nil => exact fun h => ⟨_,rfl,h⟩
  | cons c xs ih =>
    intro i ys st st' h
    obtain ⟨s1,hs,hrest⟩ := caveatLoop_cons h
    obtain ⟨mid,hm,hy⟩ := ih hrest
    refine ⟨mid,?_,?_⟩
    · rw [caveatLoop,hs]
      exact hm
    · rw [List.length_cons,← Nat.add_assoc,Nat.add_right_comm]
      exact hy

lemma caveatLoop_invariant {P : Extract κ → Prop}
    (step : ∀ i c st st', P st → caveatStep now tokenID i c st = .ok st' → P st') :
    ∀ {cs : List Caveat} {i : ℕ} {st st' : Extract κ}, P st →
      caveatLoop now tokenID i cs st = .ok st' → P st' := by
  intro cs
  induction cs with
  | nil =>
    intro i st st' hP h
    cases h
    exact hP
  | cons c cs ih =>
    intro i st st' hP h
    obtain ⟨mid,hs,hrest⟩ := caveatLoop_cons h
    exact ih (step i c st mid hP hs) hrest

lemma caveatLoop_sig :
    ∀ {cs : List Caveat} {i : ℕ} {st st' : Extract κ}, caveatLoop now tokenID i cs st = .ok st' →
      st'.sig = chain st.sig (cs.map serializeCaveatCanonical) := by
  intro cs
  induction cs with
  | nil =>
    intro i st st' h
    cases h
    rfl
  | cons c cs ih =>
    intro i st st' h
    obtain ⟨mid,hs,hrest⟩ := caveatLoop_cons h
    rw [ih hrest,(caveatStep_accepted hs).sig]
    rfl

lemma caveatLoop_ops :
    ∀ {cs : List Caveat} {i : ℕ} {st st' : Extract κ}, caveatLoop now tokenID i cs st = .ok st' →
      ∀ c ∈ cs, caveatOp c.key = some c.op := by
  intro cs
  induction cs with
  | nil => simp
  | cons d cs ih =>
    intro i st st' h c hc
    obtain ⟨mid,hs,hrest⟩ := caveatLoop_cons h
    rcases List.mem_cons.mp hc with rfl | hc
    · exact (caveatStep_accepted hs).op
    · exact ih hrest c hc

lemma caveatLoop_ns (hne : st.claims.ns ≠ "") (h : caveatLoop now tokenID i cs st = .ok st') :
    st'.claims.ns = st.claims.ns := by
  refine caveatLoop_invariant (P := fun s => s.claims.ns = st.claims.ns) ?_ rfl h
  intro j c s s' hs hstep
  rw [← hs] at hne ⊢
  exact (caveatStep_accepted hstep).ns hne

lemma caveatLoop_task (hst : st.claims.taskID = tokenID) (h : caveatLoop now tokenID i cs st = .ok st') :
    st'.claims.taskID = tokenID :=
  caveatLoop_invariant (P := fun s => s.claims.taskID = tokenID)
    (fun _ _ _ _ hs hstep => (caveatStep_accepted hstep).task hs) hst h

lemma caveatLoop_mintCaveats {nonce : List UInt8}
    (h : caveatLoop now tokenID 0 (mintCaveats claims nonce) st = .ok st') :
    st'.hasTaskID = true ∧ st'.hasNamespace = true ∧ st'.claims.ns ≠ "" ∧ st'.claims.ns = claims.ns := by
  obtain ⟨cs,hcs⟩ : ∃ cs, mintCaveats claims nonce =
      ⟨"task_id",opEqual,claims.taskID⟩ :: ⟨"namespace",opEqual,claims.ns⟩ :: cs := ⟨_,rfl⟩
  rw [hcs] at h
  obtain ⟨s1,h1,h⟩ := caveatLoop_cons h
  obtain ⟨s2,h2,h⟩ := caveatLoop_cons h
  have ht := (caveatStep_accepted h1).taskID (.inl rfl)
  have ha := caveatStep_accepted h2
  obtain ⟨hv,hns⟩ := ha.nsValue rfl
  have hne : s2.claims.ns ≠ "" := hns ▸ hv
  have hkeep := caveatLoop_ns hne h
  obtain ⟨hhas,hhasNs⟩ := caveatLoop_invariant
    (P := fun s => s.hasTaskID = true ∧ s.hasNamespace = true)
    (fun _ _ _ _ hs hstep => ⟨(caveatStep_accepted hstep).taskID (.inr hs.1),
      (caveatStep_accepted hstep).hasNamespace (.inr hs.2)⟩)
    ⟨ha.taskID (.inr ht),ha.hasNamespace (.inl rfl)⟩ h
  exact ⟨hhas,hhasNs,hkeep ▸ hne,hkeep.trans hns⟩

lemma mint_ok {p : MacaroonProvider κ} {nonce : Except String (List UInt8)}
    {root : Macaroon σ} (h : p.mint nonce claims = .ok root) :
    minMacaroonRootKeyLen ≤ Scheme.keyLen p.rootKey ∧ claims.taskID ≠ "" ∧ claims.ns ≠ "" ∧
      ∃ bytes, nonce = .ok bytes ∧ root = ⟨claims.taskID,"diverge-cluster",mintCaveats claims bytes,
          Scheme.encodeHex (signatureOf p.rootKey claims.taskID (mintCaveats claims bytes))⟩ := by
  unfold MacaroonProvider.mint at h
  split_ifs at h with h1 h2 h3
  cases nonce with
  | error e => contradiction
  | ok bytes =>
    cases h
    exact ⟨Nat.le_of_not_lt h1,h2,h3,bytes,rfl,rfl⟩

lemma attenuate_ok {root att : Macaroon σ} (h : attenuate (κ := κ) root cs = .ok att) :
    att.tokenID = root.tokenID ∧ att.caveatSeq = root.caveatSeq ++ cs := by
  unfold attenuate at h
  cases hd : Scheme.decodeHex (κ := κ) root.signature with
  | none =>
    rw [hd] at h
    contradiction
  | some sig =>
    rw [hd] at h
    cases h
    exact ⟨rfl,rfl⟩

variable [DecidableEq σ] {p : MacaroonProvider κ} {now : ℤ} {mac : Macaroon σ}

lemma verifyMacaroon_ok_iff {claims : Claims} : p.verifyMacaroon now mac = .ok claims ↔
      mac.tokenID ≠ "" ∧ ∃ st,
        caveatLoop now mac.tokenID 0 mac.caveatSeq (.start p.rootKey mac.tokenID) = .ok st ∧
        Scheme.encodeHex st.sig = mac.signature ∧ st.hasTaskID = true ∧ st.hasNamespace = true ∧
        st.claims = claims := by
  unfold MacaroonProvider.verifyMacaroon
  by_cases hid : mac.tokenID = ""
  · simp [hid]
  · rw [if_neg hid]
    cases hl : caveatLoop now mac.tokenID 0 mac.caveatSeq (.start p.rootKey mac.tokenID) with
    | error e => simp [Except.bind]
    | ok st =>
      simp only [Except.bind]
      split_ifs with h1 h2 h3 <;> simp_all

lemma verifyAndExtract_ok_iff {unmarshal : List UInt8 → Option (Macaroon σ)} {raw : List UInt8}
    {claims : Claims} : p.verifyAndExtract unmarshal now raw = .ok (mac,claims) ↔
      minMacaroonRootKeyLen ≤ Scheme.keyLen p.rootKey ∧ unmarshal raw = some mac ∧
        p.verifyMacaroon now mac = .ok claims := by
  unfold MacaroonProvider.verifyAndExtract
  split_ifs with hk
  · simp [Nat.not_le.mpr hk]
  · cases hu : unmarshal raw with
    | none => simp
    | some m =>
      cases hv : p.verifyMacaroon now m with
      | error e =>
        simp only [hv,Except.map,reduceCtorEq,Option.some.injEq,false_iff,not_and]
        rintro - rfl h
        rw [hv] at h
        contradiction
      | ok cl =>
        simp only [hv,Except.map,Except.ok.injEq,Prod.mk.injEq,Option.some.injEq]
        constructor
        · rintro ⟨rfl,rfl⟩
          exact ⟨Nat.le_of_not_lt hk,rfl,hv⟩
        · rintro ⟨-,rfl,h⟩
          rw [hv] at h
          exact ⟨rfl,Except.ok.inj h⟩

lemma verifyMacaroon_attenuated {nonce : Except String (List UInt8)} {claims attClaims : Claims}
    {root att : Macaroon σ} {cs : List Caveat} (hmint : p.mint nonce claims = .ok root)
    (hatt : attenuate (κ := κ) root cs = .ok att) (hv : p.verifyMacaroon now att = .ok attClaims) :
    attClaims.taskID = claims.taskID ∧ attClaims.ns = claims.ns := by
  obtain ⟨-,-,-,bytes,-,rfl⟩ := mint_ok hmint
  obtain ⟨hid,hseq⟩ := attenuate_ok hatt
  obtain ⟨-,st,hloop,-,-,-,rfl⟩ := verifyMacaroon_ok_iff.mp hv
  have htask : st.claims.taskID = att.tokenID := caveatLoop_task (Eq.refl att.tokenID) hloop
  refine ⟨htask.trans hid,?_⟩
  rw [hseq,hid] at hloop
  obtain ⟨mid,hmid,hrest⟩ := caveatLoop_append _ hloop
  obtain ⟨-,-,hne,hns⟩ := caveatLoop_mintCaveats hmid
  rw [caveatLoop_ns hne hrest,hns]

end
end Diverge.Auth
