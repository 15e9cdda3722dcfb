import Diverge.Tasks.Cells
import Diverge.Tasks.Reconcile

/-! Histories of one agent task: reconciles, metering requests, pauses, resumes, edits of the spec
and the deletion, in any order and with any faults of the API. -/
namespace Diverge.Tasks
open Text Kube Program TokenStore Auth Hmac

structure Deployment (κ σ : Type) where
  reconciler : Reconciler κ σ
  handler : LLMMeterHandler κ
  rounding : Rounding
  isHTTPURL : String → Bool

inductive TaskOp
  | reconcile (env : Surroundings)
  | meter (now : ℤ) (req : HTTPRequest)
  | pause
  | resume (req : ResumeTaskRequest)
  | editSpec (f : AgentTaskSpec → AgentTaskSpec)
  | delete

/-- An operation, with the faults of its calls on the task and on the Secrets. -/
structure Act where
  op : TaskOp
  taskFaults : List Fault := []
  secretFaults : List Fault := []

def Act.enter (a : Act) (s : System) : System :=
  { s with cell := ⟨s.cell.objects,a.taskFaults⟩, secrets := ⟨s.secrets.objects,a.secretFaults⟩ }

@[simp] lemma Act.enter_stored (a : Act) (s : System) : (a.enter s).stored = s.stored := rfl

@[simp] lemma Act.enter_mints (a : Act) (s : System) : (a.enter s).mints = s.mints := rfl

@[simp] lemma Act.enter_faults (a : Act) (s : System) : (a.enter s).cell.script = a.taskFaults := rfl

lemma Act.enter_holds {a : Act} {s : System} {t : AgentTask} (h : s.stored = some t) :
    Holds t a.taskFaults s.mints (a.enter s) := ⟨h,rfl,rfl⟩

section
variable {κ σ : Type} [Scheme κ σ] [DecidableEq σ] (d : Deployment κ σ)

def Deployment.serve (now : ℤ) (req : HTTPRequest) : Prog System MeterReply MeterReply :=
  d.handler.serveHTTP d.reconciler.unmarshal d.reconciler.sum256 d.rounding d.reconciler.quote
    d.isHTTPURL now req

def Deployment.step (s : System) (a : Act) : System :=
  let s := a.enter s
  match a.op with
  | .reconcile env => (finish (d.reconciler.reconcile env) s).2
  | .meter now req => (finish (d.serve now req) s).2
  | .pause => { s with cell := (pauseTask s.cell).2 }
  | .resume req => { s with cell := (resumeTask d.rounding req s.cell).2 }
  | .editSpec f => { s with cell := (editSpec f s.cell).2 }
  | .delete => { s with cell := (deleteTask s.cell).2 }

lemma step_meter (s : System) (now : ℤ) (req : HTTPRequest) (taskFaults secretFaults : List Fault) :
    d.step s ⟨.meter now req,taskFaults,secretFaults⟩ =
      (finish (d.serve now req) (Act.enter ⟨.meter now req,taskFaults,secretFaults⟩ s)).2 := rfl

variable {now : ℤ} {req : HTTPRequest} {c : Cell}

/-- A request passes its checks and its usage is recorded, with a result. -/
structure Deployment.Records (now : ℤ) (req : HTTPRequest) (c : Cell) (claims : Claims)
    (body : LLMMeterRequest) (result : Except MeterFailure MeterDecision) (c' : Cell) : Prop where
  verified : d.handler.requestClaims d.reconciler.unmarshal now req.method req.authorization = .ok claims
  decoded : req.body = some body
  tokens : 0 ≤ body.tokensUsed
  cost : 0 ≤ body.costUSD
  records : recordUsage d.rounding claims body (trimSpace body.prURL) c = (result,c')

/-- What a request comes to: it is turned away, its usage is not recorded, it is allowed, or the
task is beyond a limit and suspended. -/
inductive Deployment.Served (now : ℤ) (req : HTTPRequest) (c : Cell) : MeterReply → Option AgentTask → Prop
  | refused {reply : MeterReply} (h : reply.body.allowed = false) : Served now req c reply (c.objects ())
  | failed {claims : Claims} {body : LLMMeterRequest} {e : MeterFailure} {c' : Cell}
      (h : d.Records now req c claims body (.error e) c') : Served now req c e.reply (c'.objects ())
  | allowed {claims : Claims} {body : LLMMeterRequest} {dec : MeterDecision} {c' : Cell}
      (h : d.Records now req c claims body (.ok dec) c') (hx : dec.exceeded = none) :
      Served now req c (dec.totals.reply 200 true false "") (c'.objects ())
  | suspended {claims : Claims} {body : LLMMeterRequest} {dec : MeterDecision} {c' : Cell}
      {reason : String} {reply : MeterReply} (h : d.Records now req c claims body (.ok dec) c')
      (hx : dec.exceeded = some reason) (hr : reply.body.allowed = false) :
      Served now req c reply ((suspendTask c').2.objects ())

def Untouched (c : Cell) (trace : List Effect) (s : System) : Prop := s.cell = c ∧ s.trace = trace

variable {trace : List Effect}

lemma triple_checkTokenRevoked (h : LLMMeterHandler κ) (sum256 : Sum256) (taskID ns : Bytes) :
    Triple (Untouched c trace) (h.checkTokenRevoked sum256 taskID ns) (fun _ => Untouched c trace)
      (fun reply s => reply.body.allowed = false ∧ Untouched c trace s) := by
  unfold LLMMeterHandler.checkTokenRevoked
  cases h.tokenStore with
  | none => exact .pure fun _ h => h
  | some indexOnly =>
    refine .bind (R := fun _ => Untouched c trace) (.onPart fun _ h => h) fun res => ?_
    split
    · exact .throw fun _ h => ⟨rfl,h⟩
    · exact .throw fun _ h => ⟨rfl,h⟩
    · exact .pure fun _ h => h

variable {reply : MeterReply} {quote : String → String} {claims : Claims} {isHTTPURL : String → Bool}
  {body : Option LLMMeterRequest}

lemma requestClaims_refused {h : LLMMeterHandler κ} {unmarshal : Bytes → Option (Macaroon σ)}
    {method authorization : String} (he : h.requestClaims unmarshal now method authorization = .error reply) :
    reply.body.allowed = false := by
  unfold LLMMeterHandler.requestClaims at he
  dsimp only at he
  split_ifs at he
  · rw [← Except.error.inj he]; rfl
  · rw [← Except.error.inj he]; rfl
  · split at he
    · rw [← Except.error.inj he]; rfl
    · rw [← Except.error.inj he]; rfl
    · split at he
      · rw [← Except.error.inj he]; rfl
      · contradiction

lemma checkModel_refused {body : LLMMeterRequest}
    {prURL : String} (h : checkModel quote claims body prURL = .error reply) :
    reply.body.allowed = false := by
  unfold checkModel at h
  dsimp only at h
  split_ifs at h
  · rw [← Except.error.inj h]; rfl
  · rw [← Except.error.inj h]; rfl

lemma checkRequest_refused
    (h : checkRequest quote isHTTPURL claims body = .error reply) : reply.body.allowed = false := by
  unfold checkRequest at h
  split at h
  · rw [← Except.error.inj h]; rfl
  · split_ifs at h
    · rw [← Except.error.inj h]; rfl
    · rw [← Except.error.inj h]; rfl
    · rename_i body _ _
      cases hm : checkModel quote claims body (trimSpace body.prURL) with
      | error e =>
        rw [hm] at h
        rw [← Except.error.inj h]
        exact checkModel_refused hm
      | ok u =>
        rw [hm] at h
        contradiction

lemma checkRequest_ok {r : LLMMeterRequest} (h : checkRequest quote isHTTPURL claims body = .ok r) :
    body = some r ∧ 0 ≤ r.tokensUsed ∧ 0 ≤ r.costUSD := by
  unfold checkRequest at h
  split at h
  · contradiction
  · split_ifs at h with hneg
    rename_i body _
    cases hm : checkModel quote claims body (trimSpace body.prURL) with
    | error e =>
      rw [hm] at h
      contradiction
    | ok u =>
      rw [hm] at h
      obtain rfl : body = r := Except.ok.inj h
      rw [not_or,not_lt,not_lt] at hneg
      exact ⟨rfl,hneg⟩

lemma triple_account {body : LLMMeterRequest} {taskID ns : Bytes}
    (h : d.Records now req c claims body (recordUsage d.rounding claims body (trimSpace body.prURL) c).1
      (recordUsage d.rounding claims body (trimSpace body.prURL) c).2) : Triple (Untouched c trace) (do
      let usage ← onPart System.cell (fun c s => { s with cell := c })
        (recordUsage d.rounding claims body (trimSpace body.prURL))
      let dec ← orExit MeterFailure.reply usage
      d.handler.settle d.reconciler.sum256 taskID ns dec)
      (fun reply s => d.Served now req c reply s.stored ∧ s.trace = trace)
      (fun reply s => d.Served now req c reply s.stored ∧ s.trace = trace) := by
  generalize hr : (recordUsage d.rounding claims body (trimSpace body.prURL) c) = r at h
  obtain ⟨result,c'⟩ := r
  refine .bind (R := fun usage s => usage = result ∧ Untouched c' trace s) (.onPart ?_) fun usage =>
    .fact ?_
  · rintro s ⟨rfl,ht⟩
    rw [hr]
    exact ⟨rfl,rfl,ht⟩
  · rintro rfl
    cases usage with
    | error e =>
      rintro s ⟨rfl,ht⟩
      exact ⟨.failed h,ht⟩
    | ok dec =>
      refine .bind (R := fun a s => a = dec ∧ Untouched c' trace s) (.pure fun s hs => ⟨rfl,hs⟩)
        fun a => .fact ?_
      rintro rfl
      unfold LLMMeterHandler.settle
      cases hx : a.exceeded with
      | none =>
        rintro s ⟨rfl,ht⟩
        exact ⟨.allowed h hx,ht⟩
      | some reason =>
        refine .bind (R := fun _ => Untouched (suspendTask c').2 trace) (.onPart ?_) fun res =>
          .bind (R := fun _ => Untouched (suspendTask c').2 trace) (.orExit (fun _ _ _ h => h) ?_) fun _ =>
          .bind (R := fun _ => Untouched (suspendTask c').2 trace) ?_ fun _ => .pure ?_
        · rintro s ⟨rfl,ht⟩
          exact ⟨rfl,ht⟩
        · rintro e s - ⟨hc,ht⟩
          refine ⟨?_,ht⟩
          rw [System.stored,hc]
          exact .suspended h hx rfl
        · unfold LLMMeterHandler.revokeExceeded
          cases d.handler.tokenStore with
          | none => exact .pure fun _ h => h
          | some indexOnly => exact .bind (.onPart fun _ h => h) fun _ => .pure fun _ h => h
        · rintro s ⟨hc,ht⟩
          refine ⟨?_,ht⟩
          rw [System.stored,hc]
          exact .suspended h hx rfl

theorem serve_served (now : ℤ) (req : HTTPRequest) (c : Cell) (trace : List Effect) :
    Triple (Untouched c trace) (d.serve now req)
      (fun reply s => d.Served now req c reply s.stored ∧ s.trace = trace)
      (fun reply s => d.Served now req c reply s.stored ∧ s.trace = trace) := by
  have hrefused : ∀ (reply : MeterReply) (s : System), reply.body.allowed = false →
      Untouched c trace s → d.Served now req c reply s.stored ∧ s.trace = trace := by
    rintro reply s hr ⟨rfl,ht⟩
    exact ⟨.refused hr,ht⟩
  have hcheck : ∀ taskID ns, Triple (Untouched c trace)
      (d.handler.checkTokenRevoked d.reconciler.sum256 taskID ns) (fun _ => Untouched c trace)
      (fun reply s => d.Served now req c reply s.stored ∧ s.trace = trace) := fun taskID ns =>
    (triple_checkTokenRevoked _ _ _ _).conseq (fun _ h => h) (fun _ _ h => h)
      fun reply s h => hrefused reply s h.1 h.2
  unfold Deployment.serve LLMMeterHandler.serveHTTP
  cases hclaims : d.handler.requestClaims d.reconciler.unmarshal now req.method req.authorization with
  | error reply =>
    exact .bind (R := fun _ _ => False)
      (.throw fun s hs => hrefused reply s (requestClaims_refused hclaims) hs) fun _ _ h => h.elim
  | ok claims =>
    refine .bind (R := fun a s => a = claims ∧ Untouched c trace s) (.pure fun s hs => ⟨rfl,hs⟩) fun a =>
      .fact ?_
    rintro rfl
    refine .bind (hcheck _ _) fun _ => .bind (R := fun body s => (req.body = some body ∧
      0 ≤ body.tokensUsed ∧ 0 ≤ body.costUSD) ∧ Untouched c trace s) ?_ fun body => .fact fun hbody => ?_
    · exact .orExit (fun body s hb hs => ⟨checkRequest_ok hb,hs⟩)
        fun reply s he hs => hrefused reply s (checkRequest_refused he) hs
    · refine .ite (fun _ => .throw fun s hs => hrefused _ s rfl hs) fun _ => .bind (hcheck _ _) fun _ => ?_
      exact triple_account d ⟨hclaims,hbody.1,hbody.2.1,hbody.2.2,rfl⟩

lemma serve_cases (now : ℤ) (req : HTTPRequest) (s : System) :
    d.Served now req s.cell (finish (d.serve now req) s).1 (finish (d.serve now req) s).2.stored ∧
      (finish (d.serve now req) s).2.trace = s.trace :=
  (serve_served d now req s.cell s.trace).finish ⟨rfl,rfl⟩

variable {d} in
lemma Deployment.Served.of_refusing {o : Option AgentTask}
    (h : d.Served now req c reply o) (hc : ∀ t, c.objects () = some t → meterable t = false) :
    reply.body.allowed = false ∧ o = c.objects () := by
  have hrecord : ∀ {claims body result c'}, d.Records now req c claims body result c' →
      c'.objects () = c.objects () ∧ ∃ e, result = .error e := by
    intro claims body result c' hr
    have hobj := recordUsage_refused d.rounding claims body (trimSpace body.prURL) hc
    rw [hr.records] at hobj
    exact hobj
  cases h with
  | refused hr => exact ⟨hr,rfl⟩
  | failed hr => exact ⟨MeterFailure.reply_refused _,(hrecord hr).1⟩
  | allowed hr hx | suspended hr hx hrep =>
    obtain ⟨-,e,he⟩ := hrecord hr
    contradiction

def bearerHeader (raw : Bytes) : String := "Bearer " ++ asciiText raw

lemma isSpace_ascii {b : UInt8} (h : 0x21 ≤ b ∧ b ≤ 0x7e) : isSpace (Char.ofNat b.toNat) = false := by
  have hl : 0x21 ≤ b.toNat := h.1
  have hu : b.toNat ≤ 0x7e := h.2
  unfold isSpace
  rw [toNat_charOfNat (by omega)]
  simp only [List.contains_eq_mem,List.mem_cons,List.not_mem_nil,or_false,Bool.or_eq_false_iff,
    decide_eq_false_iff_not,Bool.and_eq_false_iff]
  omega

variable {raw : Bytes} {claims : Claims}

lemma extractMeterBearerToken_bearer (h : ∀ b ∈ raw, 0x21 ≤ b ∧ b ≤ 0x7e) :
    extractMeterBearerToken (bearerHeader raw) = asciiText raw := by
  have hspace : ∀ c ∈ (asciiText raw).toList, isSpace c = false := by
    intro c hc
    rw [asciiText_toList,List.mem_map] at hc
    obtain ⟨b,hb,rfl⟩ := hc
    exact isSpace_ascii (h b hb)
  have hblank : ' ' ∉ (asciiText raw).toList := fun hm => absurd (hspace ' ' hm) (by decide)
  have hsplit : split ' ' (bearerHeader raw) = ["Bearer",asciiText raw] := by
    rw [split,bearerHeader,String.toList_append]
    change List.map _ (List.splitOn ' ' ("Bearer".toList ++ ' ' :: (asciiText raw).toList)) = _
    rw [List.splitOn_append_cons_self_of_not_mem (by decide),List.splitOn_eq_singleton hblank]
    simp only [List.map_cons,List.map_nil,String.ofList_toList]
  rw [extractMeterBearerToken,hsplit]
  change (if toLower "Bearer" = "bearer" then trimSpace (join " " [asciiText raw]) else "") = _
  rw [if_pos (by decide),join,String.intercalate_singleton,trimSpace_eq_self hspace]

lemma requestClaims_bearer (d : Deployment κ σ) {now : ℤ} {verifier : MacaroonProvider κ}
    {token : Macaroon σ} (hraw : ∀ b ∈ raw, 0x21 ≤ b ∧ b ≤ 0x7e)
    (hdec : decodeMacaroonToken raw = some raw) (hv : d.handler.macaroonVerifier = some verifier)
    (hclaims : verifier.verifyAndExtract d.reconciler.unmarshal now raw = .ok (token,claims)) :
    d.handler.requestClaims d.reconciler.unmarshal now "POST" (bearerHeader raw) = .ok claims := by
  have hutf8 : utf8 (asciiText raw) = raw :=
    utf8_asciiText fun b hb => UInt8.lt_of_le_of_lt (hraw b hb).2 (by decide)
  have hne : asciiText raw ≠ "" := by
    intro he
    rw [he] at hutf8
    rw [← hutf8] at hdec
    exact absurd hdec (by decide)
  unfold LLMMeterHandler.requestClaims
  simp only [extractMeterBearerToken_bearer hraw,hutf8,hdec,hv,hclaims]
  rw [if_neg (by simp),if_neg hne]

lemma serve_verified (d : Deployment κ σ) {now : ℤ} {authorization : String}
    (hclaims : d.handler.requestClaims d.reconciler.unmarshal now "POST" authorization = .ok claims)
    (body : Option LLMMeterRequest) : d.serve now ⟨"POST",authorization,body⟩ =
      d.handler.serveClaims d.reconciler.sum256 d.rounding d.reconciler.quote d.isHTTPURL claims
        body := by
  unfold Deployment.serve LLMMeterHandler.serveHTTP
  rw [hclaims]
  rfl

end

def plainSandbox : SandboxProvider :=
  ⟨.ok { claimName := "fix-login-claim", podName := "fix-login-pod", ready := true },.ok (),
    .ok { podName := "fix-login-pod", phase := "Running", ready := true },none⟩

def calm : Surroundings :=
  { clock := 0
    gate := some true
    providers := fun name => if name = "agent-sandbox" then some (.ok plainSandbox) else none
    nonce := .ok [1]
    hibernate := .ok ()
    preview := .synced [] none }

def sampleDeployment : Deployment Key Key :=
  { reconciler :=
      { tokenMinter := some secretProvider
        notifier := true
        defaultProvider := ""
        sum256 := sampleSum256
        unmarshal := decoderOf []
        written := Key.text
        quote := fun s => "\"" ++ s ++ "\""
        apiError := fun _ => "the server could not complete the request"
        storeError := fun _ => "token store failed"
        parseTime := fun _ => none
        formatTime := fun _ => "1970-01-01T00:00:00Z" }
    handler := ⟨some secretProvider,some true,true⟩
    rounding := .halfEven
    isHTTPURL := fun s => hasPrefix s "https://" }

def systemOf (t : AgentTask) : System := ⟨⟨fun _ => some t,[]⟩,⟨fun _ => none,[]⟩,[]⟩

end Diverge.Tasks
