import Diverge.Text.Bytes
import Diverge.Text.Strings
import Diverge.Transition.Runs
import Diverge.Webhook.Dedup

/-! Webhook deliveries of GitHub and GitLab. A delivery that is not answered with success is sent
again under its id; the handlers look the id up before they process an attempt. The work behind an
attempt, the decoders and the signature are given. -/
namespace Diverge.Webhook
open Text Transition

inductive Provider
  | github
  | gitlab
  deriving DecidableEq

/-- One attempt to deliver: the request, the clock, and what the work that it asks for answers. -/
structure Attempt where
  now : ℤ
  method : String
  /-- The body, if it can be read within its limit. -/
  body : Option Bytes
  header : String → String
  /-- The order in which equally old entries are evicted. -/
  order : List Entry → List Entry
  reconcileEnvironment : Bool
  deleteEnvironment : Bool
  /-- The status that the handler of comments answers with. -/
  handleComment : Bytes → ℕ

/-- Its secret, whether it has a cache of ids, the signature of a body in hexadecimal digits, and the
parts of the payloads that it looks at. -/
structure Handler where
  provider : Provider
  secretToken : String
  dedup : Bool
  sign : Bytes → String
  /-- The action of a pull request event. -/
  decodePullRequest : Bytes → Option String
  /-- The kind of a GitLab event, and its action. -/
  decodeMergeRequest : Bytes → Option (String × String)

def Handler.deliveryID (h : Handler) (a : Attempt) : String :=
  match h.provider with
  | .github => a.header "X-GitHub-Delivery"
  | .gitlab => a.header "X-Gitlab-Event-UUID"

/-- An answer: whether the request was let in, and whether it was then taken for a duplicate. -/
structure Reply where
  status : ℕ
  admitted : Bool
  duplicate : Bool
  deriving DecidableEq

def Reply.processed (r : Reply) : Bool := r.admitted && !r.duplicate

def refused (status : ℕ) : Reply := ⟨status,false,false⟩

section
variable (h : Handler)

/-- The part of both handlers after the authentication. -/
def deduplicated (a : Attempt) (status : ℕ) (entries : List Entry) : Reply × List Entry :=
  if h.dedup then
    if (isDuplicate a.order a.now (h.deliveryID a) entries).1 then
      (⟨200,true,true⟩,(isDuplicate a.order a.now (h.deliveryID a) entries).2)
    else (⟨status,true,false⟩,(isDuplicate a.order a.now (h.deliveryID a) entries).2)
  else (⟨status,true,false⟩,entries)

def environmentStatus (ok : Bool) : ℕ := if ok then 200 else 500

def processGitHub (a : Attempt) (body : Bytes) : ℕ :=
  if a.header "X-GitHub-Event" = "issue_comment" then a.handleComment body
  else if a.header "X-GitHub-Event" ≠ "pull_request" then 200
  else
    match h.decodePullRequest body with
    | none => 400
    | some action =>
      if action ∈ ["opened","reopened","synchronize"] then environmentStatus a.reconcileEnvironment
      else if action = "closed" then environmentStatus a.deleteEnvironment
      else 200

/-- `ServeHTTP` of GitHub: the body is read and its signature checked first. -/
def serveGitHub (a : Attempt) (entries : List Entry) : Reply × List Entry :=
  if a.method ≠ "POST" then (refused 405,entries)
  else
    match a.body with
    | none => (refused 400,entries)
    | some body =>
      if trimSpace h.secretToken = "" then (refused 401,entries)
      else if a.header "X-Hub-Signature-256" = "" then (refused 401,entries)
      else if a.header "X-Hub-Signature-256" ≠ "sha256=" ++ h.sign body then (refused 401,entries)
      else deduplicated h a (processGitHub h a body) entries

def validateGitLabWebhookToken (a : Attempt) : Bool :=
  decide (trimSpace h.secretToken ≠ "") && decide (trimSpace (a.header "X-Gitlab-Token") ≠ "") &&
    a.header "X-Gitlab-Token" == h.secretToken

/-- The events of GitLab; the body is read only here. -/
def processGitLab (a : Attempt) : ℕ :=
  match a.body with
  | none => 400
  | some body =>
    match h.decodeMergeRequest body with
    | none => 400
    | some (kind,action) =>
      if kind = "note" ∨ a.header "X-Gitlab-Event" = "Note Hook" then a.handleComment body
      else if kind ≠ "merge_request" then 200
      else if action ∈ ["open","reopen","update"] then environmentStatus a.reconcileEnvironment
      else if action ∈ ["merge","close"] then environmentStatus a.deleteEnvironment
      else 200

/-- `ServeHTTP` of GitLab. -/
def serveGitLab (a : Attempt) (entries : List Entry) : Reply × List Entry :=
  if a.method ≠ "POST" then (refused 405,entries)
  else if validateGitLabWebhookToken h a = false then (refused 401,entries)
  else deduplicated h a (processGitLab h a) entries

def serveHTTP (a : Attempt) (entries : List Entry) : Reply × List Entry :=
  match h.provider with
  | .github => serveGitHub h a entries
  | .gitlab => serveGitLab h a entries

variable {h} {a : Attempt} {entries : List Entry}

def admits (h : Handler) (a : Attempt) : Bool :=
  match h.provider,a.body with
  | .github,some body => a.method == "POST" && decide (trimSpace h.secretToken ≠ "") &&
      decide (a.header "X-Hub-Signature-256" ≠ "") &&
      a.header "X-Hub-Signature-256" == "sha256=" ++ h.sign body
  | .github,none => false
  | .gitlab,_ => a.method == "POST" && validateGitLabWebhookToken h a

lemma serveHTTP_cases : (admits h a = false ∧ ∃ status, serveHTTP h a entries = (refused status,entries)) ∨
      (admits h a = true ∧ ∃ status, serveHTTP h a entries = deduplicated h a status entries) := by
  unfold serveHTTP serveGitHub serveGitLab admits
  cases h.provider with
  | github =>
    cases a.body with
    | none =>
      dsimp only
      split_ifs
      · exact .inl ⟨rfl,405,rfl⟩
      · exact .inl ⟨rfl,400,rfl⟩
    | some body =>
      dsimp only
      split_ifs with hmethod hsecret hmissing hother
      · exact .inl ⟨by simp [hmethod],405,rfl⟩
      · exact .inl ⟨by simp [hsecret],401,rfl⟩
      · exact .inl ⟨by simp [hmissing],401,rfl⟩
      · exact .inl ⟨by simp [hother],401,rfl⟩
      · refine .inr ⟨?_,_,rfl⟩
        simp [not_not.mp hmethod,hsecret,not_not.mp hother]
  | gitlab =>
    dsimp only
    split_ifs with hmethod htoken
    · exact .inl ⟨by simp [hmethod],405,rfl⟩
    · exact .inl ⟨by simp [htoken],401,rfl⟩
    · exact .inr ⟨by simp [not_not.mp hmethod,(Bool.not_eq_false _).mp htoken],_,rfl⟩

lemma serveHTTP_effect (h : Handler) (a : Attempt) (entries : List Entry) :
    (admits h a = false ∧ ∃ status, serveHTTP h a entries = (refused status,entries)) ∨
    (admits h a = true ∧ h.dedup = false ∧ ∃ status, serveHTTP h a entries = (⟨status,true,false⟩,entries)) ∨
    (admits h a = true ∧ h.dedup = true ∧ ∃ status, serveHTTP h a entries =
        (⟨status,true,(isDuplicate a.order a.now (h.deliveryID a) entries).1⟩,
          (isDuplicate a.order a.now (h.deliveryID a) entries).2) ∧
      ((isDuplicate a.order a.now (h.deliveryID a) entries).1 = true → status = 200)) := by
  obtain hrefused | ⟨hin,status,heq⟩ := @serveHTTP_cases h a entries
  · exact .inl hrefused
  · rw [heq,deduplicated]
    split_ifs with hdedup hdup
    · exact .inr (.inr ⟨hin,hdedup,200,by rw [hdup],fun _ => rfl⟩)
    · refine .inr (.inr ⟨hin,hdedup,status,?_,fun htrue => absurd htrue hdup⟩)
      rw [Bool.eq_false_iff.mpr hdup]
    · exact .inr (.inl ⟨hin,Bool.eq_false_iff.mpr hdedup,status,rfl⟩)

end

section

structure Record where
  id : String
  time : ℤ
  reply : Reply
  deriving DecidableEq

/-- The cache, the clock and the answered attempts, the last one first. -/
structure State where
  entries : List Entry := []
  clock : ℤ
  log : List Record := []

variable (h : Handler)

def deliver (s : State) (a : Attempt) : State where
  entries := (serveHTTP h a s.entries).2
  clock := a.now
  log := ⟨h.deliveryID a,a.now,(serveHTTP h a s.entries).1⟩ :: s.log

def lastAttempt (id : String) (log : List Record) : Option Record :=
  log.find? fun r => r.reply.admitted && r.id == id

/-- An attempt that was processed and answered with success. -/
def Record.succeeded (r : Record) : Bool := r.reply.processed && r.reply.status == 200

/-- What an attempt owes to the ones before it: after a failure it is processed, and after a
success within the lifetime of an id it is not. -/
structure Kept (r : Record) (log : List Record) : Prop where
  retried : ∀ last, lastAttempt r.id log = some last → 500 ≤ last.reply.status → r.reply.processed = true
  once : ∀ old ∈ log, old.id = r.id → old.succeeded = true → r.time - old.time < deliveryIDTTL →
    r.reply.processed = false

/-- Every attempt that was let in kept to this. -/
def AllKept : List Record → Prop
  | [] => True
  | r :: log => (r.reply.admitted = true → Kept r log) ∧ AllKept log

/-- The clock does not go back, and eviction orders the entries that there are. -/
structure Timely (s : State) (a : Attempt) : Prop where
  clock : s.clock ≤ a.now
  order : ∀ l, (a.order l).Perm l

def Room (s : State) (a : Attempt) : Prop :=
  (s.entries.filter (fresh a.now)).length < maxDeliveryIDs

/-- The cache can tell the attempt apart: the last one with its id did not fail, unless there is no
cache, the id is empty or its lifetime is over; and none with its id succeeded within the lifetime,
unless there is a cache and the id is not empty. -/
structure Spaced (s : State) (a : Attempt) : Prop where
  failed : ∀ last, lastAttempt (h.deliveryID a) s.log = some last → 500 ≤ last.reply.status →
    h.dedup = false ∨ h.deliveryID a = "" ∨ deliveryIDTTL ≤ a.now - last.time
  succeeded : ∀ old ∈ s.log, old.id = h.deliveryID a → old.succeeded = true →
    a.now - old.time < deliveryIDTTL → h.dedup = true ∧ h.deliveryID a ≠ ""

/-- The cache knows the ids that were processed in the last minutes, and only ids that were let in. -/
structure Recorded (s : State) : Prop where
  past : ∀ r ∈ s.log, r.time ≤ s.clock
  sorted : s.log.Pairwise fun later earlier => earlier.time ≤ later.time
  duplicates : ∀ r ∈ s.log, r.reply.duplicate = true → r.reply.status = 200
  known : h.dedup = true → ∀ r ∈ s.log, r.reply.processed = true → r.id ≠ "" →
    s.clock - r.time < deliveryIDTTL → ∃ ts, r.time ≤ ts ∧ (r.id,ts) ∈ s.entries
  seen : ∀ e ∈ s.entries, ∃ r ∈ s.log, r.id = e.1 ∧ r.time = e.2 ∧ r.reply.admitted = true

end

section
variable {h : Handler} {s : State} {a : Attempt}

lemma Reply.processed_iff {r : Reply} : r.processed = true ↔ r.admitted = true ∧ r.duplicate = false := by
  rw [Reply.processed,Bool.and_eq_true_iff,Bool.not_eq_true']

variable {id : String} {log : List Record} {last : Record} {r : Record} {e : Entry}

lemma lastAttempt_some (hlast : lastAttempt id log = some last) :
    last ∈ log ∧ last.id = id ∧ last.reply.admitted = true := by
  have hmatch := List.find?_some hlast
  obtain ⟨hadmitted,hid⟩ := Bool.and_eq_true_iff.mp hmatch
  exact ⟨List.mem_of_find?_eq_some hlast,beq_iff_eq.mp hid,hadmitted⟩

lemma lastAttempt_latest {last r : Record}
    (hsorted : log.Pairwise fun later earlier => earlier.time ≤ later.time)
    (hlast : lastAttempt id log = some last) (hr : r ∈ log) (hid : r.id = id)
    (hadmitted : r.reply.admitted = true) : r.time ≤ last.time := by
  induction log with
  | nil => cases hr
  | cons first log ih =>
    obtain ⟨hfirst,hrest⟩ := List.pairwise_cons.mp hsorted
    by_cases hmatch : (first.reply.admitted && first.id == id) = true
    · simp only [lastAttempt,List.find?_cons,hmatch,Option.some.injEq] at hlast
      rcases List.mem_cons.mp hr with rfl | hr
      · exact hlast ▸ Int.le_refl _
      · exact hlast ▸ hfirst r hr
    · simp only [lastAttempt,List.find?_cons,Bool.eq_false_iff.mpr hmatch] at hlast
      refine ih hrest hlast ?_
      rcases List.mem_cons.mp hr with rfl | hr
      · exact absurd (by simp [hid,hadmitted]) hmatch
      · exact hr

lemma Recorded.processed_of_failed (hs : Recorded h s) (hr : r ∈ s.log)
    (hadmitted : r.reply.admitted = true) (hfailed : 500 ≤ r.reply.status) : r.reply.processed = true := by
  refine Reply.processed_iff.mpr ⟨hadmitted,Bool.eq_false_iff.mpr fun hdup => ?_⟩
  have hstatus := hs.duplicates r hr hdup
  omega

lemma Recorded.duplicate_of_known (hs : Recorded h s) (hclock : s.clock ≤ a.now)
    (hdedup : h.dedup = true) (hr : r ∈ s.log) (hid : r.id = h.deliveryID a) (hne : h.deliveryID a ≠ "")
    (hprocessed : r.reply.processed = true) (hrecent : a.now - r.time < deliveryIDTTL) :
    (isDuplicate a.order a.now (h.deliveryID a) s.entries).1 = true := by
  obtain ⟨ts,hts,hentry⟩ := hs.known hdedup r hr hprocessed (by rwa [hid]) (by omega)
  refine isDuplicate_fst_iff.mpr ⟨hne,ts,hid ▸ hentry,?_⟩
  omega

lemma Recorded.recent_of_duplicate (hs : Recorded h s)
    (hlast : lastAttempt (h.deliveryID a) s.log = some last)
    (hdup : (isDuplicate a.order a.now (h.deliveryID a) s.entries).1 = true) :
    h.deliveryID a ≠ "" ∧ a.now - last.time < deliveryIDTTL := by
  obtain ⟨hne,ts,hentry,hfresh⟩ := isDuplicate_fst_iff.mp hdup
  obtain ⟨r,hr,hid,htime,hadmitted⟩ := hs.seen _ hentry
  have hle := lastAttempt_latest hs.sorted hlast hr hid hadmitted
  have htime : r.time = ts := htime
  exact ⟨hne,by omega⟩

lemma processed_iff (hin : admits h a = true) : (serveHTTP h a s.entries).1.processed = true ↔
      h.dedup = false ∨ (isDuplicate a.order a.now (h.deliveryID a) s.entries).1 = false := by
  obtain ⟨hout,-⟩ | ⟨-,hdedup,status,heq⟩ | ⟨-,hdedup,status,heq,-⟩ := serveHTTP_effect h a s.entries
  · exact absurd (hout.symm.trans hin) (by decide)
  · rw [heq]
    exact iff_of_true rfl (.inl hdedup)
  · rw [heq,Reply.processed_iff]
    simp [hdedup]

lemma admitted_iff : (serveHTTP h a s.entries).1.admitted = true ↔ admits h a = true := by
  obtain ⟨hout,status,heq⟩ | ⟨hin,-,status,heq⟩ | ⟨hin,-,status,heq,-⟩ := serveHTTP_effect h a s.entries
  · rw [heq,hout]
    exact Iff.rfl
  · exact iff_of_true (by rw [heq]) hin
  · exact iff_of_true (by rw [heq]) hin

lemma kept_iff (hs : Recorded h s) (hclock : s.clock ≤ a.now) (hin : admits h a = true) :
    Kept ⟨h.deliveryID a,a.now,(serveHTTP h a s.entries).1⟩ s.log ↔ Spaced h s a := by
  constructor
  · intro hkept
    refine ⟨fun last hlast hfailed => ?_,fun old hold hid hsucceeded hrecent => ?_⟩
    · rcases (processed_iff hin).mp (hkept.retried last hlast hfailed) with hdedup | hnew
      · exact .inl hdedup
      · obtain ⟨hmem,hid,hadmitted⟩ := lastAttempt_some hlast
        by_contra hnone
        obtain ⟨hdedup,hne,hrecent⟩ := by simpa only [not_or,Bool.not_eq_false] using hnone
        have hdup := hs.duplicate_of_known hclock hdedup hmem hid hne
          (hs.processed_of_failed hmem hadmitted hfailed) (Int.not_le.mp hrecent)
        exact absurd (hnew.symm.trans hdup) (by decide)
    · have hskipped := hkept.once old hold hid hsucceeded hrecent
      have hnot : ¬(h.dedup = false ∨ (isDuplicate a.order a.now (h.deliveryID a) s.entries).1 = false) :=
        fun hor => absurd (hskipped.symm.trans ((processed_iff hin).mpr hor)) (by decide)
      obtain ⟨hdedup,hdup⟩ := not_or.mp hnot
      exact ⟨(Bool.not_eq_false _).mp hdedup,
        (isDuplicate_fst_iff.mp ((Bool.not_eq_false _).mp hdup)).1⟩
  · intro hspaced
    refine ⟨fun last hlast hfailed => (processed_iff hin).mpr ?_,fun old hold hid hsucceeded hrecent => ?_⟩
    · rcases hspaced.failed last hlast hfailed with hdedup | hor
      · exact .inl hdedup
      · refine .inr (Bool.eq_false_iff.mpr fun hdup => ?_)
        obtain ⟨hne,hrecent⟩ := hs.recent_of_duplicate hlast hdup
        rcases hor with hempty | hold
        · exact hne hempty
        · omega
    · obtain ⟨hdedup,hne⟩ := hspaced.succeeded old hold hid hsucceeded hrecent
      have hprocessed : old.reply.processed = true := (Bool.and_eq_true_iff.mp hsucceeded).1
      have hdup := hs.duplicate_of_known hclock hdedup hold hid hne hprocessed hrecent
      refine Bool.eq_false_iff.mpr fun hagain => ?_
      rcases (processed_iff hin).mp hagain with hno | hno
      · exact absurd (hno.symm.trans hdedup) (by decide)
      · exact absurd (hno.symm.trans hdup) (by decide)

lemma status_of_duplicate (hdup : (serveHTTP h a s.entries).1.duplicate = true) :
    (serveHTTP h a s.entries).1.status = 200 := by
  obtain ⟨-,status,heq⟩ | ⟨-,-,status,heq⟩ | ⟨-,-,status,heq,hstatus⟩ := serveHTTP_effect h a s.entries
  · rw [heq] at hdup
    cases hdup
  · rw [heq] at hdup
    cases hdup
  · rw [heq] at hdup ⊢
    exact hstatus hdup

lemma mem_serveHTTP (hroom : Room s a) (he : e ∈ s.entries) (hfresh : fresh a.now e = true) :
    e ∈ (serveHTTP h a s.entries).2 := by
  obtain ⟨-,status,heq⟩ | ⟨-,-,status,heq⟩ | ⟨-,-,status,heq,-⟩ := serveHTTP_effect h a s.entries
  · rwa [heq]
  · rwa [heq]
  · rw [heq]
    exact mem_isDuplicate hroom he hfresh

lemma entered_serveHTTP (hdedup : h.dedup = true) (hne : h.deliveryID a ≠ "")
    (hprocessed : (serveHTTP h a s.entries).1.processed = true) :
    (h.deliveryID a,a.now) ∈ (serveHTTP h a s.entries).2 := by
  obtain ⟨-,status,heq⟩ | ⟨-,hno,-⟩ | ⟨hin,-,status,heq,-⟩ := serveHTTP_effect h a s.entries
  · rw [heq] at hprocessed
    cases hprocessed
  · exact absurd (hno.symm.trans hdedup) (by decide)
  · rcases (processed_iff hin).mp hprocessed with hno | hnew
    · exact absurd (hno.symm.trans hdedup) (by decide)
    · rw [heq]
      exact entered hne hnew

lemma mem_of_serveHTTP (horder : ∀ l, (a.order l).Perm l) (he : e ∈ (serveHTTP h a s.entries).2) :
    e ∈ s.entries ∨ (admits h a = true ∧ e = (h.deliveryID a,a.now)) := by
  obtain ⟨-,status,heq⟩ | ⟨-,-,status,heq⟩ | ⟨hin,-,status,heq,-⟩ := serveHTTP_effect h a s.entries
  · rw [heq] at he
    exact .inl he
  · rw [heq] at he
    exact .inl he
  · rw [heq] at he
    exact (mem_of_isDuplicate horder he).imp_right fun hnew => ⟨hin,hnew.2⟩

lemma recorded_deliver (hs : Recorded h s) (htimely : Timely s a) (hroom : Room s a) :
    Recorded h (deliver h s a) where
  past r hr := by
    rcases List.mem_cons.mp hr with rfl | hr
    · exact Int.le_refl _
    · exact Int.le_trans (hs.past r hr) htimely.clock
  sorted := List.pairwise_cons.mpr ⟨fun r hr => Int.le_trans (hs.past r hr) htimely.clock,hs.sorted⟩
  duplicates r hr hdup := by
    rcases List.mem_cons.mp hr with rfl | hr
    · exact status_of_duplicate hdup
    · exact hs.duplicates r hr hdup
  known hdedup r hr hprocessed hne hrecent := by
    change a.now - r.time < deliveryIDTTL at hrecent
    have hclock := htimely.clock
    rcases List.mem_cons.mp hr with rfl | hr
    · exact ⟨a.now,Int.le_refl _,entered_serveHTTP hdedup hne hprocessed⟩
    · obtain ⟨ts,hts,hentry⟩ := hs.known hdedup r hr hprocessed hne (by omega)
      exact ⟨ts,hts,mem_serveHTTP hroom hentry (fresh_iff.mpr (by dsimp only; omega))⟩
  seen e he := by
    rcases mem_of_serveHTTP htimely.order he with he | ⟨hin,rfl⟩
    · obtain ⟨r,hr,hmatch⟩ := hs.seen e he
      exact ⟨r,List.mem_cons_of_mem _ hr,hmatch⟩
    · exact ⟨_,List.mem_cons_self,rfl,rfl,admitted_iff.mpr hin⟩

/-- Of the attempts that a handler lets in, in every run with room in the cache, the ones after a
failure are processed and the ones after a success within the lifetime of the id are not, exactly
when each one is spaced. -/
theorem redeliveries_kept_iff (h : Handler) (start : ℤ) (attempts : List Attempt)
    (htimely : EveryStep (deliver h) Timely ⟨[],start,[]⟩ attempts)
    (hroom : EveryStep (deliver h) Room ⟨[],start,[]⟩ attempts) :
    (∀ pre, pre <+: attempts → AllKept (run (deliver h) ⟨[],start,[]⟩ pre).log) ↔
      EveryStep (deliver h) (fun s a => admits h a = true → Spaced h s a) ⟨[],start,[]⟩ attempts := by
  refine reaches_iff_within (I := fun s => Recorded h s ∧ AllKept s.log) (P := fun s => AllKept s.log)
    ?_ (fun s hs => hs.2) ?_ (htimely.and hroom) ?_
  · rintro s a ⟨htimely,hroom⟩ hspaced ⟨hs,hkept⟩
    refine ⟨recorded_deliver hs htimely hroom,fun hadmitted => ?_,hkept⟩
    have hin := admitted_iff.mp hadmitted
    exact (kept_iff hs htimely.clock hin).mpr (hspaced hin)
  · rintro s a ⟨htimely,-⟩ ⟨hs,-⟩ hnot hkept
    refine hnot fun hin => ?_
    exact (kept_iff hs htimely.clock hin).mp (hkept.1 (admitted_iff.mpr hin))
  · refine ⟨⟨?_,List.Pairwise.nil,?_,?_,?_⟩,trivial⟩ <;> simp

end

def pullRequests : Handler where
  provider := .github
  secretToken := "secret"
  dedup := true
  sign := fun _ => "00"
  decodePullRequest := fun _ => some "opened"
  decodeMergeRequest := fun _ => none

def opened (now : ℤ) (ok : Bool) : Attempt where
  now := now
  method := "POST"
  body := some []
  header := fun key =>
    if key = "X-GitHub-Delivery" then "d-1"
    else if key = "X-GitHub-Event" then "pull_request"
    else if key = "X-Hub-Signature-256" then "sha256=00"
    else ""
  order := id
  reconcileEnvironment := ok
  deleteEnvironment := true
  handleComment := fun _ => 200

/-- A delivery fails, and is taken for a duplicate when it is sent again one second later. -/
theorem failed_delivery_lost :
    (run (deliver pullRequests) ⟨[],0,[]⟩ [opened 0 false,opened 1000000000 true]).log.map Record.reply =
        [⟨200,true,true⟩,⟨500,true,false⟩] ∧
      ¬AllKept (run (deliver pullRequests) ⟨[],0,[]⟩ [opened 0 false,opened 1000000000 true]).log := by
  refine ⟨by decide +kernel,fun hkept => ?_⟩
  have hfirst := (hkept.1 (by decide +kernel)).retried ⟨"d-1",0,⟨500,true,false⟩⟩
  exact absurd (hfirst (by decide +kernel) (by decide +kernel)) (by decide +kernel)

/-- Sent again after five minutes the delivery is processed, and not once more. -/
theorem later_redelivery_kept : AllKept (run (deliver pullRequests) ⟨[],0,[]⟩
      [opened 0 false,opened 300000000000 true,opened 301000000000 true]).log := by
  refine (redeliveries_kept_iff pullRequests 0
    [opened 0 false,opened 300000000000 true,opened 301000000000 true] ?_ ?_).mpr ?_ _
    (List.prefix_refl _)
  · exact ⟨⟨by decide,fun _ => .refl _⟩,⟨by decide,fun _ => .refl _⟩,⟨by decide,fun _ => .refl _⟩,trivial⟩
  · refine ⟨?_,?_,?_,trivial⟩
    · unfold Room
      decide +kernel
    · unfold Room
      decide +kernel
    · unfold Room
      decide +kernel
  · have hid : pullRequests.dedup = true ∧ "d-1" ≠ "" := by decide
    refine ⟨fun _ => ⟨fun last hlast => ?_,fun _ _ _ _ _ => hid⟩,
      fun _ => ⟨fun last hlast _ => ?_,fun _ _ _ _ _ => hid⟩,
      fun _ => ⟨fun last hlast hfailed => ?_,fun _ _ _ _ _ => hid⟩,trivial⟩
    · cases hlast
    · have hvalue : lastAttempt "d-1" (run (deliver pullRequests) ⟨[],0,[]⟩ [opened 0 false]).log =
          some ⟨"d-1",0,⟨500,true,false⟩⟩ := by decide +kernel
      obtain rfl := Option.some.inj (hvalue.symm.trans hlast)
      exact .inr (.inr (by decide))
    · have hvalue : lastAttempt "d-1" (run (deliver pullRequests) ⟨[],0,[]⟩
          [opened 0 false,opened 300000000000 true]).log =
          some ⟨"d-1",300000000000,⟨200,true,false⟩⟩ := by decide +kernel
      obtain rfl := Option.some.inj (hvalue.symm.trans hlast)
      exact absurd hfailed (by decide)

end Diverge.Webhook
