import Diverge.Tasks.Usage
import Diverge.TokenStore.Rotation

/-! Spending against the budget of a task. The stored total is rounded to four decimals with every
request, so the costs that were allowed stay within the budget as long as no total is rounded down. -/
namespace Diverge.Tasks
open Text Kube Program TokenStore Auth Hmac
  Transition

def RoundsUp (m : Rounding) (q : ℚ) : Prop := q ≤ m.roundTo 4 q

section
variable (m : Rounding) (claims : Claims) {req : LLMMeterRequest} (prURL : String) {t t' : AgentTask}
  {B : ℚ}

lemma readCost_countUsage {status : AgentTaskStatus} (h : 0 ≤ readCost status.costUSD + req.costUSD) :
    readCost (countUsage m req prURL status).costUSD =
      m.roundTo 4 (readCost status.costUSD + req.costUSD) := by
  change readCost (formatFixed m 4 _) = _
  rw [readCost,parseFloat_formatFixed m (by decide) h]

lemma mem_rememberID {ids : List String} {id x : String} (h : x ∈ rememberID ids id) :
    x ∈ ids ∨ (x = id ∧ id ≠ "") := by
  unfold rememberID at h
  dsimp only at h
  have hlonger : id ≠ "" → x ∈ ids ++ [id] → x ∈ ids ∨ (x = id ∧ id ≠ "") := fun hid hx =>
    (List.mem_append.mp hx).imp_right fun hx => ⟨List.mem_singleton.mp hx,hid⟩
  split_ifs at h with hid
  · exact .inl h
  · exact hlonger hid (List.mem_of_mem_drop h)
  · exact hlonger hid h

/-- A request has been charged to a task, once at least. -/
structure Charged (req : LLMMeterRequest) (t t' : AgentTask) : Prop where
  budget : t'.spec.budgetUSD = t.spec.budgetUSD
  paid : readCost t.status.costUSD + req.costUSD ≤ readCost t'.status.costUSD
  rounded : ∃ n : ℤ, readCost t'.status.costUSD = n / 10 ^ 4
  ids : ∀ id ∈ t'.status.lastMeterRequestIDs,
    id ∈ t.status.lastMeterRequestIDs ∨ (id = req.requestID ∧ req.requestID ≠ "")

lemma charged_first (hcost : 0 ≤ readCost t.status.costUSD) (hreq : 0 ≤ req.costUSD)
    (hnew : alreadyCounted req t.status = false)
    (hup : RoundsUp m (readCost t.status.costUSD + req.costUSD)) :
    Charged req t { t with status := (meterDecision m claims req prURL t).status } := by
  have hstatus : meteredStatus m req prURL t.status = countUsage m req prURL t.status := by
    rw [meteredStatus,if_neg (by simp [hnew])]
  have hread := readCost_countUsage m prURL (add_nonneg hcost hreq)
  refine ⟨rfl,?_,⟨m.nearest ((readCost t.status.costUSD + req.costUSD) * 10 ^ 4),?_⟩,?_⟩
  · rw [meterDecision_costUSD,hstatus,hread]
    exact hup
  · rw [meterDecision_costUSD,hstatus,hread,Rounding.roundTo]
  · intro id hid
    rw [meterDecision_lastMeterRequestIDs,hstatus] at hid
    exact mem_rememberID hid

lemma Charged.again (h : Charged req t t') (hcost : 0 ≤ readCost t.status.costUSD) (hreq : 0 ≤ req.costUSD) :
    Charged req t { t' with status := (meterDecision m claims req prURL t').status } := by
  by_cases hold : alreadyCounted req t'.status = true
  · have hstatus : meteredStatus m req prURL t'.status = t'.status := by
      rw [meteredStatus,if_pos hold]
    refine ⟨h.budget,?_,?_,?_⟩
    · rw [meterDecision_costUSD,hstatus]
      exact h.paid
    · rw [meterDecision_costUSD,hstatus]
      exact h.rounded
    · rw [meterDecision_lastMeterRequestIDs,hstatus]
      exact h.ids
  · have hstatus : meteredStatus m req prURL t'.status = countUsage m req prURL t'.status := by
      rw [meteredStatus,if_neg hold]
    obtain ⟨n,hn⟩ := h.rounded
    have hpaid := h.paid
    have hsum : 0 ≤ readCost t'.status.costUSD + req.costUSD := by linarith
    have hread := readCost_countUsage m prURL hsum
    have hgrow : readCost t'.status.costUSD ≤
        m.roundTo 4 (readCost t'.status.costUSD + req.costUSD) := by
      rw [hn]
      exact m.le_roundTo (by linarith)
    refine ⟨h.budget,?_,⟨m.nearest ((readCost t'.status.costUSD + req.costUSD) * 10 ^ 4),?_⟩,?_⟩
    · rw [meterDecision_costUSD,hstatus,hread]
      exact hpaid.trans hgrow
    · rw [meterDecision_costUSD,hstatus,hread,Rounding.roundTo]
    · intro id hid
      rw [meterDecision_lastMeterRequestIDs,hstatus] at hid
      rcases mem_rememberID hid with hid | hid
      · exact h.ids id hid
      · exact .inr hid

lemma meteredCost_le (hB : parseFloat t.spec.budgetUSD = some (.finite B)) (hpos : 0 < B)
    (hx : (meterDecision m claims req prURL t).exceeded = none) : meteredCost req t.status ≤ B := by
  have husd : usdExceeded t.spec claims (meteredCost req t.status) = false := by
    change exceedReason _ _ _ _ _ = none at hx
    by_contra h
    rw [exceedReason,Bool.not_eq_false] at *
    simp [h] at hx
  rw [usdExceeded,specBudgetUSD_eq hB hpos] at husd
  simpa [Number.lt] using husd

lemma recordUsage_charged {c : Cell} (hc : c.objects () = some t)
    (hcost : 0 ≤ readCost t.status.costUSD) (hreq : 0 ≤ req.costUSD)
    (hnew : alreadyCounted req t.status = false) (hup : RoundsUp m (readCost t.status.costUSD + req.costUSD))
    (hB : parseFloat t.spec.budgetUSD = some (.finite B)) (hpos : 0 < B) :
    (∃ u, (recordUsage m claims req prURL c).2.objects () = some u ∧ (u = t ∨ Charged req t u)) ∧
      ∀ dec, (recordUsage m claims req prURL c).1 = .ok dec →
        Every (Charged req t) (recordUsage m claims req prURL c).2 ∧
          (dec.exceeded = none → readCost t.status.costUSD + req.costUSD ≤ B) := by
  refine retryOnConflict_rule _ (meterAttempt m claims req prURL)
    (I := fun c' => ∃ u, c'.objects () = some u ∧ (u = t ∨ Charged req t u))
    (Q := fun r c' => ∀ dec, r = .ok dec → Every (Charged req t) c' ∧
      (dec.exceeded = none → readCost t.status.costUSD + req.costUSD ≤ B))
    ?_ defaultRetries c ⟨t,hc,.inl rfl⟩
  rintro c' ⟨u,hu,hcase⟩
  have hcharged : Charged req t { u with status := (meterDecision m claims req prURL u).status } := by
    rcases hcase with rfl | hcase
    · exact charged_first m claims prURL hcost hreq hnew hup
    · exact hcase.again m claims prURL hcost hreq
  have hbound : (meterDecision m claims req prURL u).exceeded = none →
      readCost t.status.costUSD + req.costUSD ≤ B := by
    intro hx
    rcases hcase with rfl | hcase
    · have hle := meteredCost_le m claims prURL hB hpos hx
      rwa [meteredCost,if_neg (by simp [hnew])] at hle
    · have hle := meteredCost_le m claims prURL (by rw [hcase.budget]; exact hB) hpos hx
      refine hcase.paid.trans (le_trans ?_ hle)
      rw [meteredCost]
      split_ifs
      · simp
      · linarith
  rcases meterAttempt_cases m claims req prURL hu with ⟨ho,e,he⟩ | ⟨-,-,ho,hres⟩
  · refine ⟨⟨u,ho,hcase⟩,fun dec hdec => ?_⟩
    rw [he] at hdec
    contradiction
  · refine ⟨⟨_,ho,.inr hcharged⟩,fun dec hdec => ?_⟩
    rcases hres with hres | ⟨e,he⟩
    · rw [hres,Except.ok.injEq] at hdec
      rw [← hdec]
      refine ⟨fun t' ht' => ?_,hbound⟩
      obtain rfl := Option.some.inj (ho.symm.trans ht')
      exact hcharged
    · rw [he] at hdec
      contradiction

end

section
variable {κ σ : Type} [Scheme κ σ] [DecidableEq σ] (d : Deployment κ σ)

def Act.request (a : Act) : Option LLMMeterRequest :=
  match a.op with
  | .meter _ req => req.body
  | _ => none

/-- The cost of a request that is answered as allowed. -/
def Deployment.allowedCost (s : System) (a : Act) : ℚ :=
  match a.op with
  | .meter now req =>
    if (finish (d.serve now req) (a.enter s)).1.body.allowed then req.body.elim 0 (·.costUSD) else 0
  | _ => 0

lemma allowedCost_meter (s : System) (now : ℤ) (req : HTTPRequest) (taskFaults secretFaults : List Fault) :
    d.allowedCost s ⟨.meter now req,taskFaults,secretFaults⟩ =
      if (finish (d.serve now req) (Act.enter ⟨.meter now req,taskFaults,secretFaults⟩ s)).1.body.allowed
      then req.body.elim 0 (·.costUSD) else 0 := rfl

/-- The sum of the costs that were allowed in a history. -/
def Deployment.allowedTotal (s : System) : List Act → ℚ
  | [] => 0
  | a :: acts => d.allowedCost s a + Deployment.allowedTotal (d.step s a) acts

/-- The ids of the requests of a history; those without one are left out. -/
def requestIDs (acts : List Act) : List String :=
  (acts.filterMap fun a => a.request.map (·.requestID)).filter (· != "")

variable {now : ℤ} {req : HTTPRequest} {c : Cell} {reply : MeterReply} {o : Option AgentTask}
  {t : AgentTask} {B : ℚ}

variable {d} in
lemma Deployment.Served.charged (h : d.Served now req c reply o) (hc : c.objects () = some t)
    (hcost : 0 ≤ readCost t.status.costUSD)
    (hnew : ∀ body, req.body = some body → alreadyCounted body t.status = false ∧
      RoundsUp d.rounding (readCost t.status.costUSD + body.costUSD))
    (hB : parseFloat t.spec.budgetUSD = some (.finite B)) (hpos : 0 < B) :
    (∀ u, o = some u → u = t ∨ ∃ body, req.body = some body ∧ 0 ≤ body.costUSD ∧ Charged body t u) ∧
      (reply.body.allowed = true → ∃ body, req.body = some body ∧ 0 ≤ body.costUSD ∧
        (∀ u, o = some u → Charged body t u) ∧ readCost t.status.costUSD + body.costUSD ≤ B) := by
  have hrecord : ∀ {claims body result c'}, d.Records now req c claims body result c' →
      (∃ u, c'.objects () = some u ∧ (u = t ∨ Charged body t u)) ∧
        ∀ dec, result = .ok dec → Every (Charged body t) c' ∧
          (dec.exceeded = none → readCost t.status.costUSD + body.costUSD ≤ B) := by
    intro claims body result c' hr
    obtain ⟨hfresh,hup⟩ := hnew body hr.decoded
    have hcharged := recordUsage_charged d.rounding claims (trimSpace body.prURL) hc hcost hr.cost
      hfresh hup hB hpos
    rwa [hr.records] at hcharged
  have hrefused : ∀ {reply' : MeterReply} {p : Prop}, reply'.body.allowed = false →
      reply'.body.allowed = true → p := by
    intro reply' p hf ht
    rw [hf] at ht
    contradiction
  cases h with
  | refused hr =>
    refine ⟨fun u hu => .inl ?_,hrefused hr⟩
    exact Option.some.inj (hu.symm.trans hc)
  | failed hr =>
    obtain ⟨⟨u,hu,hcase⟩,-⟩ := hrecord hr
    refine ⟨fun v hv => ?_,hrefused (MeterFailure.reply_refused _)⟩
    obtain rfl := Option.some.inj (hu.symm.trans hv)
    exact hcase.imp_right fun h => ⟨_,hr.decoded,hr.cost,h⟩
  | allowed hr hx =>
    obtain ⟨-,hok⟩ := hrecord hr
    obtain ⟨hcharged,hle⟩ := hok _ rfl
    exact ⟨fun u hu => .inr ⟨_,hr.decoded,hr.cost,hcharged u hu⟩,
      fun _ => ⟨_,hr.decoded,hr.cost,hcharged,hle hx⟩⟩
  | suspended hr hx hrep =>
    obtain ⟨-,hok⟩ := hrecord hr
    refine ⟨fun u hu => .inr ⟨_,hr.decoded,hr.cost,?_⟩,hrefused hrep⟩
    exact modifyObject_every (fun v hv => ⟨hv.budget,hv.paid,hv.rounded,hv.ids⟩) (hok _ rfl).1 u hu

/-- What has been allowed so far is within the budget, and the stored total covers it. -/
structure Spent (B q : ℚ) (s : System) : Prop where
  nonneg : 0 ≤ q
  within : q ≤ B
  covered : Every (fun t => q ≤ readCost t.status.costUSD) s.cell

lemma allowedCost_unmetered {s : System} {a : Act} (ha : ∀ now req, a.op ≠ .meter now req) :
    d.allowedCost s a = 0 := by
  unfold Deployment.allowedCost
  split
  · rename_i now req hop
    exact absurd hop (ha now req)
  · rfl

variable {s : System} {q : ℚ} {a : Act}

lemma meter_spent (h : Spent B q s) (hs : s.stored = some t)
    (hB : parseFloat t.spec.budgetUSD = some (.finite B)) (hpos : 0 < B) (hop : a.op = .meter now req)
    (hnew : ∀ body, req.body = some body → alreadyCounted body t.status = false ∧
      RoundsUp d.rounding (readCost t.status.costUSD + body.costUSD)) :
    Spent B (q + d.allowedCost s a) (d.step s a) ∧
      Every (fun u => ∀ id ∈ u.status.lastMeterRequestIDs, id ∈ t.status.lastMeterRequestIDs ∨
        ∃ body, req.body = some body ∧ id = body.requestID ∧ id ≠ "") (d.step s a).cell := by
  have hq := h.covered t hs
  obtain ⟨op,taskFaults,secretFaults⟩ := a
  obtain rfl : op = .meter now req := hop
  obtain ⟨hleft,hbound⟩ := (serve_cases d now req (Act.enter ⟨_,taskFaults,secretFaults⟩ s)).1.charged hs (h.nonneg.trans hq) hnew hB
    hpos
  refine ⟨?_,fun u hu id hid => ?_⟩
  · rw [step_meter,allowedCost_meter]
    split_ifs with hyes
    · obtain ⟨body,hbody,hcost,hcharged,hle⟩ := hbound hyes
      rw [hbody]
      refine ⟨add_nonneg h.nonneg hcost,?_,fun u hu => ?_⟩
      · exact le_trans (add_le_add_left hq _) hle
      · exact le_trans (add_le_add_left hq _) (hcharged u hu).paid
    · rw [add_zero]
      refine ⟨h.nonneg,h.within,fun u hu => ?_⟩
      rcases hleft u hu with rfl | ⟨body,-,hcost,hcharged⟩
      · exact hq
      · have hpaid := hcharged.paid
        change q ≤ readCost u.status.costUSD
        linarith
  · rw [step_meter] at hu
    rcases hleft u hu with rfl | ⟨body,hbody,-,hcharged⟩
    · exact .inl hid
    · rcases hcharged.ids id hid with hid | ⟨rfl,hne⟩
      · exact .inl hid
      · exact .inr ⟨body,hbody,rfl,hne⟩

lemma step_spent (h : Spent B q s)
    (hB : Every (fun t => parseFloat t.spec.budgetUSD = some (.finite B)) s.cell) (hpos : 0 < B)
    (hnew : ∀ t body, s.stored = some t → a.request = some body → alreadyCounted body t.status = false ∧
        RoundsUp d.rounding (readCost t.status.costUSD + body.costUSD)) :
    Spent B (q + d.allowedCost s a) (d.step s a) ∧
      Every (fun u => ∀ id ∈ u.status.lastMeterRequestIDs,
        (∃ t, s.stored = some t ∧ id ∈ t.status.lastMeterRequestIDs) ∨
          ∃ body, a.request = some body ∧ id = body.requestID ∧ id ≠ "") (d.step s a).cell := by
  cases hs : s.stored with
  | none =>
    have hgone : Every (fun _ => False) (d.step s a).cell := fun t ht => by
      rw [show (d.step s a).cell.objects () = none from step_missing d a hs] at ht
      contradiction
    have hzero : d.allowedCost s a = 0 := by
      unfold Deployment.allowedCost
      split
      · rename_i now req hop
        have hrefused := ((serve_cases d now req (a.enter s)).1.of_refusing fun t ht => by
          rw [show (a.enter s).cell.objects () = none from hs] at ht
          contradiction).1
        rw [hrefused]
        rfl
      · rfl
    rw [hzero,add_zero]
    exact ⟨⟨h.nonneg,h.within,fun t ht => (hgone t ht).elim⟩,fun t ht => (hgone t ht).elim⟩
  | some t =>
    by_cases ha : ∃ now req, a.op = .meter now req
    · obtain ⟨now,req,hop⟩ := ha
      have hrequest : a.request = req.body := by rw [Act.request,hop]
      obtain ⟨hspent,hids⟩ := meter_spent d h hs (hB t hs) hpos hop fun body hbody =>
        hnew t body hs (hrequest.trans hbody)
      refine ⟨hspent,fun u hu id hid => ?_⟩
      rw [hrequest]
      exact (hids u hu id hid).imp_left fun hid => ⟨t,rfl,hid⟩
    · have hnot : ∀ now req, a.op ≠ .meter now req := fun now req hop => ha ⟨now,req,hop⟩
      have husage := step_usage d hnot hs
      rw [allowedCost_unmetered d hnot,add_zero]
      refine ⟨⟨h.nonneg,h.within,fun u hu => ?_⟩,fun u hu id hid => .inl ⟨t,rfl,?_⟩⟩
      · change q ≤ readCost u.status.costUSD
        rw [(husage u hu).cost]
        exact h.covered t hs
      · rcases (husage u hu).ids with hids | hids
        · rwa [← hids]
        · rw [hids] at hid
          contradiction

lemma requestIDs_cons (a : Act) (acts : List Act) : requestIDs (a :: acts) =
      (a.request.elim [] fun body => if body.requestID = "" then [] else [body.requestID]) ++
        requestIDs acts := by
  unfold requestIDs
  cases ha : a.request with
  | none => simp [ha]
  | some body =>
    by_cases hid : body.requestID = ""
    · simp [ha,hid]
    · simp [ha,hid]

lemma allowedTotal_le (hpos : 0 < B) (acts : List Act) :
    ∀ {s : System} {q : ℚ}, Spent B q s → (requestIDs acts).Nodup →
      (∀ t, s.stored = some t → ∀ id ∈ requestIDs acts, id ∉ t.status.lastMeterRequestIDs) →
      (∀ pre, pre <+: acts → ∀ t, (run d.step s pre).stored = some t →
        parseFloat t.spec.budgetUSD = some (.finite B)) →
      EveryStep d.step (fun s a => ∀ t body, s.stored = some t → a.request = some body →
        RoundsUp d.rounding (readCost t.status.costUSD + body.costUSD)) s acts →
      q + d.allowedTotal s acts ≤ B := by
  induction acts with
  | nil =>
    intro s q h _ _ _ _
    rw [Deployment.allowedTotal,add_zero]
    exact h.within
  | cons a acts ih =>
    intro s q h hids hfresh hB hround
    rw [requestIDs_cons] at hids hfresh
    have hnew : ∀ t body, s.stored = some t → a.request = some body →
        alreadyCounted body t.status = false := by
      intro t body hs hbody
      rw [hbody] at hfresh
      by_cases hid : body.requestID = ""
      · simp [alreadyCounted,hid]
      · have hnot := hfresh t hs body.requestID (by simp [hid])
        simp [alreadyCounted,hnot]
    obtain ⟨hspent,hknown⟩ := step_spent d h (fun t ht => hB [] List.nil_prefix t ht) hpos
      fun t body hs hbody => ⟨hnew t body hs hbody,hround.1 t body hs hbody⟩
    rw [Deployment.allowedTotal,← add_assoc]
    refine ih hspent (List.Nodup.of_append_right hids) (fun u hu id hid hmem => ?_)
      (fun pre hpre => hB (a :: pre) (List.cons_prefix_cons.mpr ⟨rfl,hpre⟩)) hround.2
    rcases hknown u hu id hmem with ⟨t,hs,ht⟩ | ⟨body,hbody,rfl,hne⟩
    · exact hfresh t hs id (List.mem_append_right _ hid) ht
    · rw [hbody] at hids
      exact (List.nodup_append.mp hids).2.2 body.requestID (by simp [hne]) body.requestID hid rfl

/-- In every history of a task whose budget is a positive amount and stays what it is, and whose
requests have different ids or none, the costs of the allowed requests are within the budget as
long as no total is rounded down when it is stored. -/
theorem allowed_cost_within_budget (s : System) (t : AgentTask) (acts : List Act) (B : ℚ)
    (hs : s.stored = some t) (hB : parseFloat t.spec.budgetUSD = some (.finite B)) (hpos : 0 < B)
    (hcost : 0 ≤ readCost t.status.costUSD)
    (hkept : ∀ pre, pre <+: acts → ∀ t', (run d.step s pre).stored = some t' →
      t'.spec.budgetUSD = t.spec.budgetUSD) (hids : (requestIDs acts).Nodup)
    (hfresh : ∀ id ∈ requestIDs acts, id ∉ t.status.lastMeterRequestIDs)
    (hround : EveryStep d.step (fun s a => ∀ t' body, s.stored = some t' → a.request = some body →
      RoundsUp d.rounding (readCost t'.status.costUSD + body.costUSD)) s acts) :
    d.allowedTotal s acts ≤ B := by
  have hspent : Spent B 0 s := ⟨le_rfl,hpos.le,every_of_stored hs hcost⟩
  have hle := allowedTotal_le d hpos acts hspent hids
    (fun u hu => by rwa [← Option.some.inj (hs.symm.trans hu)])
    (fun pre hpre u hu => by rw [hkept pre hpre u hu,hB]) hround
  rwa [zero_add] at hle

end

def meteringDeployment : Deployment Key Key :=
  { sampleDeployment with
    reconciler := { sampleDeployment.reconciler with unmarshal := rotationDecoder } }

def thriftyTask : AgentTask :=
  { name := "fix-login"
    ns := "team-a"
    finalizers := [agentTaskFinalizer]
    spec := { repositoryURL := "https://example.com/app.git", budgetUSD := "0.0001" }
    status := { phase := .active } }

def spend (id : String) (costUSD : ℚ) : Act :=
  { op := .meter 0 ⟨"POST",bearerHeader (rotationText [1]),
      some { requestID := id, costUSD := costUSD }⟩ }

def spendOutcome (s : System) (id : String) (costUSD : ℚ) : MeterReply × System :=
  finish (meteringDeployment.handler.serveClaims sampleSum256 .halfEven
    meteringDeployment.reconciler.quote meteringDeployment.isHTTPURL rotationClaims
    (some { requestID := id, costUSD := costUSD })) ⟨⟨s.cell.objects,[]⟩,⟨s.secrets.objects,[]⟩,s.trace⟩

lemma requestClaims_spend : meteringDeployment.handler.requestClaims
    meteringDeployment.reconciler.unmarshal 0 "POST" (bearerHeader (rotationText [1])) = .ok rotationClaims :=
  requestClaims_bearer meteringDeployment (by decide +kernel) (by decide +kernel) rfl
    (show secretProvider.verifyAndExtract rotationDecoder 0 (rotationText [1]) =
      .ok (rotationToken [1],rotationClaims) by decide +kernel)

lemma serve_spend (s : System) (id : String) (costUSD : ℚ) :
    finish (meteringDeployment.serve 0 ⟨"POST",bearerHeader (rotationText [1]),
      some { requestID := id, costUSD := costUSD }⟩) ((spend id costUSD).enter s) =
        spendOutcome s id costUSD := by
  rw [serve_verified meteringDeployment requestClaims_spend]
  rfl

lemma step_spend (s : System) (id : String) (costUSD : ℚ) :
    meteringDeployment.step s (spend id costUSD) = (spendOutcome s id costUSD).2 := by
  rw [← serve_spend,spend,step_meter]

lemma allowedCost_spend (s : System) (id : String) (costUSD : ℚ) :
    meteringDeployment.allowedCost s (spend id costUSD) =
      if (spendOutcome s id costUSD).1.body.allowed then costUSD else 0 := by
  rw [← serve_spend,spend,allowedCost_meter,Option.elim_some]

/-- A request of 0.00006 is stored as 0.0001; a further one is beyond the budget and is refused. -/
theorem rounded_up_within_budget : meteringDeployment.allowedTotal (systemOf thriftyTask)
      [spend "r1" (6/100000),spend "r2" (5/100000)] ≤ 1/10000 := by
  refine allowed_cost_within_budget meteringDeployment (systemOf thriftyTask) thriftyTask _ _ rfl
    (by decide +kernel) (by decide +kernel) (by decide +kernel) ?_ (by decide +kernel)
    (by decide +kernel) ⟨?_,?_,trivial⟩
  · intro pre hpre t' ht'
    have hview : (run meteringDeployment.step (systemOf thriftyTask) pre).stored.map (·.spec.budgetUSD) =
        some "0.0001" := by
      rcases List.prefix_cons_iff.mp hpre with rfl | ⟨rest,rfl,hrest⟩
      · rfl
      · rcases List.prefix_cons_iff.mp hrest with rfl | ⟨rest',rfl,hnil⟩
        · rw [run_cons,run_nil,step_spend]
          decide +kernel
        · rw [List.prefix_nil.mp hnil,run_cons,run_cons,run_nil,step_spend,step_spend]
          decide +kernel
    rw [ht'] at hview
    exact Option.some.inj hview
  · rintro t' body ⟨⟩ ⟨⟩
    change (_ : ℚ) ≤ _
    decide +kernel
  · rintro t' body ht' ⟨⟩
    have hcost : (meteringDeployment.step (systemOf thriftyTask) (spend "r1" (6/100000))).stored.map
        (·.status.costUSD) = some "0.0001" := by
      rw [step_spend]
      decide +kernel
    rw [ht',Option.map_some,Option.some.injEq] at hcost
    rw [hcost]
    change (_ : ℚ) ≤ _
    decide +kernel

/-- Two requests, of 0.00004 and of the whole budget: the first leaves the stored total at nothing,
so both are allowed. -/
theorem split_costs_exceed_budget :
    parseFloat thriftyTask.spec.budgetUSD = some (.finite (1/10000)) ∧
    (requestIDs [spend "r1" (4/100000),spend "r2" (1/10000)]).Nodup ∧
    1/10000 < meteringDeployment.allowedTotal (systemOf thriftyTask)
      [spend "r1" (4/100000),spend "r2" (1/10000)] := by
  refine ⟨by decide +kernel,by decide +kernel,?_⟩
  rw [Deployment.allowedTotal,Deployment.allowedTotal,Deployment.allowedTotal,allowedCost_spend,
    allowedCost_spend,step_spend]
  decide +kernel

end Diverge.Tasks
