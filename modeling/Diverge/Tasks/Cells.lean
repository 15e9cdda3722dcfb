import Diverge.Tasks.Service

/-! What the calls of the service and the meter leave of the stored task, whatever the faults. -/
namespace Diverge.Tasks
open Text Kube Auth

section

lemma edit_objects (f : AgentTask → AgentTask) (c : Cell) : (edit () f c).2.objects () = c.objects () ∨
      (edit () f c).2.objects () = (c.objects ()).map f := by
  cases hc : c.objects () with
  | some t =>
    rw [(edit_spec f hc).1]
    split_ifs
    · exact .inr (by simp)
    · exact .inl hc
  | none =>
    obtain ⟨objects,script⟩ := c
    change objects () = none at hc
    rcases script with _ | ⟨⟨⟩ | e | e,rest⟩
    all_goals simp [edit,request,hc]

lemma get_objects (c : Cell) : (get () c).2.objects = c.objects := by
  rcases get_cases () c with ⟨-,-,h⟩ | ⟨-,v,-,h⟩ | ⟨-,h | ⟨m,h⟩⟩ <;> rw [h]

variable {t : AgentTask} {f : AgentTask → AgentTask}

lemma get_ok {c : Cell} {c' : Cell} (h : get () c = (.ok t,c')) :
    c.objects () = some t ∧ c'.objects = c.objects := by
  refine ⟨?_,by rw [← get_objects c,h]⟩
  rcases get_cases () c with ⟨-,-,hg⟩ | ⟨-,v,hv,hg⟩ | ⟨-,hg | ⟨m,hg⟩⟩
  all_goals
    rw [h,Prod.mk.injEq] at hg
    obtain ⟨hr,-⟩ := hg
  · contradiction
  · rw [hv,Except.ok.inj hr]
  · contradiction
  · contradiction

def Every (P : AgentTask → Prop) (c : Cell) : Prop := ∀ t, c.objects () = some t → P t

variable {P : AgentTask → Prop} {c : Cell}

lemma every_of_stored {s : System} (hs : s.stored = some t) (ht : P t) : Every P s.cell := by
  intro t' ht'
  obtain rfl : t = t' := Option.some.inj (hs.symm.trans ht')
  exact ht

def InPhase (p : Phase) (s : System) : Prop := Every (·.status.phase = p) s.cell

lemma get_every (h : Every P c) : Every P (get () c).2 := by
  intro t ht
  rw [get_objects] at ht
  exact h t ht

lemma edit_every (hf : ∀ t, c.objects () = some t → P t → P (f t))
    (h : Every P c) : Every P (edit () f c).2 := by
  intro t ht
  rcases edit_objects f c with he | he
  · exact h t (he.symm.trans ht)
  · rw [he,Option.map_eq_some_iff] at ht
    obtain ⟨v,hv,rfl⟩ := ht
    exact hf v hv (h v hv)

lemma delete_every (h : Every P c) : Every P (delete () c).2 := by
  have hcases : (delete () c).2.objects () = c.objects () ∨ (delete () c).2.objects () = none := by
    obtain ⟨objects,script⟩ := c
    cases hc : objects () with
    | some v | none => rcases script with _ | ⟨⟨⟩ | e | e,rest⟩ <;> simp [delete,request,hc]
  intro t ht
  rcases hcases with he | he
  · exact h t (he.symm.trans ht)
  · rw [he] at ht
    contradiction

lemma modifyObject_every (hf : ∀ t, P t → P { f t with status := t.status })
    (h : Every P c) : Every P (modifyObject f c).2 := by
  refine (retryOnConflict_rule _ (modifyAttempt f) (I := Every P) (Q := fun _ _ => True)
    (fun c hc => ⟨?_,trivial⟩) defaultRetries c h).1
  unfold modifyAttempt
  split
  · rename_i e c1 he
    have hc1 := get_every hc
    rw [he] at hc1
    exact hc1
  · rename_i t c1 he
    obtain ⟨ht,ho⟩ := get_ok he
    rw [← ho] at ht
    refine edit_every (fun u hu _ => ?_) fun u hu => hc u (ho ▸ hu)
    obtain rfl : t = u := Option.some.inj (ht.symm.trans hu)
    exact hf t (hc t (ho ▸ ht))

lemma updateTaskStatus_spec (status : AgentTaskStatus) (hc : c.objects () = some t) :
    (updateTaskStatus { t with status := status } c).2.objects () =
        some (if takesEffect c.script then { t with status := status } else t) ∧
      ((takesEffect c.script = true ∧ ∃ u, (updateTaskStatus { t with status := status } c).1 = .ok u) ∨
        ∃ e, (updateTaskStatus { t with status := status } c).1 = .error e) := by
  obtain ⟨hcell,hanswer⟩ := edit_spec (fun stored => { stored with status := status }) hc
  have hupdate : updateTaskStatus { t with status := status } c = writeStatus status c := by
    unfold updateTaskStatus
    split
    · rename_i c1 he
      rcases hanswer with ⟨-,ha⟩ | ⟨-,e,ha⟩
      · change (writeStatus status c).1 = _ at ha
        rw [he] at ha
        contradiction
      · change (writeStatus status c).1 = _ at ha
        rw [he] at ha
        exact absurd (Except.error.inj ha).symm e.toError_ne_notFound
    · rfl
  rw [hupdate]
  constructor
  · change (edit () (fun stored => { stored with status := status }) c).2.objects () = _
    rw [hcell]
    split_ifs
    · simp
    · exact hc
  · rcases hanswer with ⟨hp,ha⟩ | ⟨-,e,ha⟩
    · exact .inl ⟨takesEffect_of_passes hp,_,ha⟩
    · exact .inr ⟨_,ha⟩

lemma clearAttempt_every (hclear : ∀ t : AgentTask, P t →
      P { t with status := { t.status with message := "", lastMeterRequestIDs := [] } })
    (h : Every P c) : Every P (clearAttempt c).2 := by
  have hget := get_every h
  unfold clearAttempt
  split
  · rename_i e c1 he
    rw [he] at hget
    exact hget
  · rename_i t c1 he
    rw [he] at hget
    obtain ⟨ht,ho⟩ := get_ok he
    rw [← ho] at ht
    split_ifs
    · exact hget
    · intro u hu
      rw [(updateTaskStatus_spec _ ht).1,Option.some.injEq] at hu
      rw [← hu]
      split_ifs
      · exact hclear t (hget t ht)
      · exact hget t ht

lemma resumeTask_every (m : Rounding) (req : ResumeTaskRequest)
    (hspec : ∀ t bumpUSD, readBump req = .ok bumpUSD → P t →
      P { t with spec := resumedSpec m bumpUSD req.budgetTokensBump t })
    (hclear : ∀ t : AgentTask, P t →
      P { t with status := { t.status with message := "", lastMeterRequestIDs := [] } })
    (h : Every P c) : Every P (resumeTask m req c).2 := by
  unfold resumeTask
  split
  · exact h
  · rename_i bump hbump
    have hmodified : Every P (modifyObject (fun task =>
        { task with spec := resumedSpec m bump req.budgetTokensBump task }) c).2 :=
      modifyObject_every (fun t ht => hspec t bump hbump ht) h
    split
    · rename_i e c1 he
      rw [he] at hmodified
      exact hmodified
    · rename_i updated c1 he
      rw [he] at hmodified
      split_ifs
      · exact hmodified
      · have hretried := (retryOnConflict_rule (· == .conflict) clearAttempt (I := Every P)
          (Q := fun _ _ => True) (fun c hc => ⟨clearAttempt_every hclear hc,trivial⟩)
          defaultRetries c1 hmodified).1
        split
        · rename_i e c2 he2
          rw [he2] at hretried
          exact hretried
        · rename_i latest c2 he2
          rw [he2] at hretried
          exact hretried

lemma deleteTask_every (hmark : ∀ t : AgentTask, P t → P { t with deleting := true })
    (h : Every P c) : Every P (deleteTask c).2 := by
  unfold deleteTask
  split
  · exact h
  · split_ifs
    · exact delete_every h
    · have hmarked := edit_every (c := c) (f := fun stored => { stored with deleting := true })
        (fun t _ ht => hmark t ht) h
      split
      all_goals
        rename_i c1 he
        rw [he] at hmarked
        exact hmarked

end

variable (m : Rounding) (claims : Claims) (req : LLMMeterRequest) (prURL : String)

lemma meterAttempt_cases {t : AgentTask} {c : Cell} (hc : c.objects () = some t) :
    ((meterAttempt m claims req prURL c).2.objects () = some t ∧
      ∃ e, (meterAttempt m claims req prURL c).1 = .error e) ∨
    (meterable t = true ∧ req.tokensUsed ≤ int64 (maxInt64 - t.status.tokensConsumed) ∧
      (meterAttempt m claims req prURL c).2.objects () =
        some { t with status := (meterDecision m claims req prURL t).status } ∧
      ((meterAttempt m claims req prURL c).1 = .ok (meterDecision m claims req prURL t) ∨
        ∃ e, (meterAttempt m claims req prURL c).1 = .error e)) := by
  unfold meterAttempt
  split
  · rename_i e c1 he
    refine .inl ⟨?_,_,rfl⟩
    change c1.objects () = some t
    rw [← hc,← get_objects c,he]
  · rename_i t' c1 he
    obtain ⟨ht,ho⟩ := get_ok he
    obtain rfl : t = t' := Option.some.inj (hc.symm.trans ht)
    rw [← ho] at hc
    unfold meterDecide
    by_cases hm : meterable t = false
    · rw [if_pos hm]
      exact .inl ⟨hc,_,rfl⟩
    · rw [if_neg hm]
      by_cases hov : int64 (maxInt64 - t.status.tokensConsumed) < req.tokensUsed
      · rw [if_pos hov]
        exact .inl ⟨hc,_,rfl⟩
      · rw [if_neg hov]
        obtain ⟨hcell,hanswer⟩ := updateTaskStatus_spec (meterDecision m claims req prURL t).status hc
        dsimp only
        split
        · rename_i e c2 hu
          rw [hu] at hcell
          by_cases hte : takesEffect c1.script = true
          · rw [if_pos hte] at hcell
            exact .inr ⟨Bool.not_eq_false _ ▸ hm,not_lt.mp hov,hcell,.inr ⟨_,rfl⟩⟩
          · rw [if_neg hte] at hcell
            exact .inl ⟨hcell,_,rfl⟩
        · rename_i u c2 hu
          rw [hu] at hcell hanswer
          rcases hanswer with ⟨hte,-⟩ | ⟨e,he⟩
          · rw [if_pos hte] at hcell
            exact .inr ⟨Bool.not_eq_false _ ▸ hm,not_lt.mp hov,hcell,.inl rfl⟩
          · contradiction

lemma recordUsage_refused {c : Cell} (h : ∀ t, c.objects () = some t → meterable t = false) :
    (recordUsage m claims req prURL c).2.objects () = c.objects () ∧
      ∃ e, (recordUsage m claims req prURL c).1 = .error e := by
  refine retryOnConflict_rule _ (meterAttempt m claims req prURL)
    (I := fun c' => c'.objects () = c.objects ()) (Q := fun r _ => ∃ e, r = .error e)
    (fun c' hc' => ?_) defaultRetries c rfl
  cases ho : c.objects () with
  | none =>
    rw [ho] at hc'
    unfold meterAttempt
    split
    · rename_i e c1 he
      refine ⟨?_,_,rfl⟩
      change c1.objects () = none
      rw [← hc',← get_objects c',he]
    · rename_i t c1 he
      rw [(get_ok he).1] at hc'
      contradiction
  | some t =>
    rw [ho] at hc'
    rcases meterAttempt_cases m claims req prURL hc' with hres | ⟨hm,-⟩
    · exact hres
    · rw [h t ho] at hm
      contradiction

end Diverge.Tasks
