import Diverge.Baseline.Enumeration
import Diverge.Transition.Runs

/-! The comparison of an environment with its baseline, call by call, while others change the
baseline. A run reads the stored fingerprint, computes the present one, deploys and stores; the first
fingerprint is computed before the deployment and again after it. -/
namespace Diverge.Baseline
open Text TokenStore Program Transition

section

inductive Phase
  | idle
  /-- A fingerprint is stored, and the present one is being computed. -/
  | comparing (previous : String) (sync : Bool) (rest : Fetch String)
  /-- The deployment of a drift that is synced: about to start, and started. -/
  | syncReady (fp : String)
  | syncing (fp : String) (start : List Cluster)
  | syncStoring (fp : String)
  /-- No fingerprint is stored; one is computed for the deployer to see. -/
  | injecting (rest : Fetch String)
  | deployReady (first : Bool)
  | deploying (first : Bool) (start : List Cluster)
  /-- The first fingerprint is computed after the deployment. -/
  | recording (rest : Fetch String)
  | recordStoring (fp : String)

/-- The cluster and all it has been, newest first; the stored annotation; what the cluster had been
when the last successful deployment started; the fingerprint last found in sync. -/
structure Drift where
  cluster : Cluster
  seen : List Cluster
  persisted : String := ""
  lastDeploy : Option (List Cluster) := none
  inSync : Option String := none
  phase : Phase := .idle

/-- A change by others, the start of a run, and the next call of a run with its failure. -/
inductive DriftAction
  | change (c : Cluster)
  | start (sync : Bool) (visits : Visits)
  | call (fault : Option String) (visits : Visits)

variable (sum256 : Sum256) (sel : Selection) (deployer : Bool)

namespace Drift

/-- Where a run goes on after a comparison that does not deploy. -/
def afterComparison : Phase := if deployer then .deployReady false else .idle

/-- The cases of `reconcileBaselineDrift` with a stored fingerprint. -/
def compared (previous : String) (sync : Bool) (fp : String) (s : Drift) : Drift :=
  if fp = "" ∨ previous = fp then { s with inSync := some fp, phase := afterComparison deployer }
  else if sync then { s with inSync := none, phase := if deployer then .syncReady fp else .syncStoring fp }
  else { s with inSync := none, phase := afterComparison deployer }

def compare (previous : String) (sync : Bool) (s : Drift) : Fetch String → Drift
  | .done fp => s.compared deployer previous sync fp
  | rest => { s with phase := .comparing previous sync rest }

def inject (s : Drift) : Fetch String → Drift
  | .done _ => { s with phase := .deployReady true }
  | rest => { s with phase := .injecting rest }

/-- The case of `reconcileBaselineDrift` without a stored fingerprint. -/
def record (s : Drift) : Fetch String → Drift
  | .done fp => { s with phase := if fp = "" then .idle else .recordStoring fp }
  | rest => { s with phase := .recording rest }

/-- A run reads the stored annotation and goes to its first call. -/
def begin (sync : Bool) (visits : Visits) (s : Drift) : Drift :=
  if trimSpace s.persisted ≠ "" then
    s.compare deployer (trimSpace s.persisted) sync (computeBaselineFingerprint sum256 visits sel)
  else if deployer then s.inject (computeBaselineFingerprint sum256 visits sel)
  else s.record (computeBaselineFingerprint sum256 visits sel)

def call (fault : Option String) (visits : Visits) (s : Drift) : Drift :=
  match s.phase with
  | .idle => s
  | .comparing previous sync rest =>
    match rest.resume (s.cluster.answers fun _ => fault) with
    | .error _ => { s with phase := .idle }
    | .ok rest => s.compare deployer previous sync rest
  | .syncReady fp => { s with phase := .syncing fp s.seen }
  | .syncing fp start =>
    if fault.isSome then { s with phase := .idle }
    else { s with lastDeploy := some start, phase := .syncStoring fp }
  | .syncStoring fp =>
    if fault.isSome then { s with phase := .idle } else { s with persisted := fp, phase := .idle }
  | .injecting rest =>
    match rest.resume (s.cluster.answers fun _ => fault) with
    | .error _ => { s with phase := .deployReady true }
    | .ok rest => s.inject rest
  | .deployReady first => { s with phase := .deploying first s.seen }
  | .deploying first start =>
    if fault.isSome then { s with phase := .idle }
    else if first then
      { s with lastDeploy := some start }.record (computeBaselineFingerprint sum256 visits sel)
    else { s with lastDeploy := some start, phase := .idle }
  | .recording rest =>
    match rest.resume (s.cluster.answers fun _ => fault) with
    | .error _ => { s with phase := .idle }
    | .ok rest => s.record rest
  | .recordStoring fp =>
    if fault.isSome then { s with phase := .idle } else { s with persisted := fp, phase := .idle }

def step (s : Drift) : DriftAction → Drift
  | .change c => { s with cluster := c, seen := c :: s.seen }
  | .start sync visits =>
    match s.phase with
    | .idle => s.begin sum256 sel deployer sync visits
    | _ => s
  | .call fault visits => s.call sum256 sel deployer fault visits

def init (c : Cluster) : Drift where
  cluster := c
  seen := [c]

end Drift

def Cluster.fingerprint (c : Cluster) : String :=
  match (computeBaselineFingerprint sum256 listed sel).eval (c.answers fun _ => none) with
  | .ok fp => fp
  | .error _ => ""

/-- The last deployment that succeeded started when the fingerprint of the baseline was this one, or had
been before. -/
def Deployed (s : Drift) (fp : String) : Prop :=
  ∃ start ∈ s.lastDeploy, ∃ c ∈ start, c.fingerprint sum256 sel = fp

def Phase.Deploying : Phase → Prop
  | .syncing _ _ => True
  | .deploying _ _ => True
  | _ => False

/-- What is stored never runs ahead of the deployment, what is found in sync was there when the deployment
started, and a failed deployment stores nothing. -/
structure NotAhead (s : Drift) : Prop where
  stored : deployer = true → s.persisted ≠ "" → Deployed sum256 sel s s.persisted
  compared : deployer = true → ∀ fp ∈ s.inSync, Deployed sum256 sel s fp
  failed : s.phase.Deploying → ∀ e visits,
    (s.call sum256 sel deployer (some e) visits).persisted = s.persisted ∧
      (s.call sum256 sel deployer (some e) visits).phase = .idle

/-- No fingerprint is being computed that may be stored or compared, and no first deployment is under way. -/
def Phase.Open : Phase → Prop
  | .comparing _ _ _ => False
  | .deploying true _ => False
  | .recording _ => False
  | _ => True

/-- The baseline is changed only between comparisons and outside of first deployments, and never emptied. -/
def Calm (s : Drift) : DriftAction → Prop
  | .change c => s.phase.Open ∧ c.fingerprint sum256 sel ≠ ""
  | _ => True

end

section
variable {sum256 : Sum256} {sel : Selection}

lemma compute_eval (visits : Visits) (c : Cluster) :
    (computeBaselineFingerprint sum256 visits sel).eval (c.answers fun _ => none) =
      .ok (c.fingerprint sum256 sel) := by
  have hsame : SameBaseline sum256 sel c c := by
    refine Cluster.Reordered.sameBaseline ⟨?_,?_,?_⟩
    · exact .of_perm (fun _ => ⟨rfl,.refl _,.refl _,rfl,rfl,rfl⟩) (.refl _)
    · exact .of_perm (fun _ => ⟨rfl,.refl _,.refl _,.refl _⟩) (.refl _)
    · exact .of_perm (fun _ => ⟨rfl,rfl,.refl _,.refl _⟩) (.refl _)
  have hagree := computeBaselineFingerprint_agree (.refl sel) hsame visits listed fun _ => none
  have hvalue : ∃ fp, (computeBaselineFingerprint sum256 listed sel).eval (c.answers fun _ => none) = .ok fp :=
    Reading.exists_eval (fun q => ⟨c.answer q,rfl⟩) _
  obtain ⟨fp,hfp⟩ := hvalue
  rw [hagree.ok_iff,Cluster.fingerprint,hfp]

lemma trimSpace_fingerprint_found (found : Found) (visits : Visits) :
    trimSpace (found.fingerprint sum256 visits) = found.fingerprint sum256 visits := by
  refine trimSpace_eq_self fun ch hch => ?_
  have hdigit : ∀ i < 16, isSpace (Nat.digitChar i) = false := by decide
  have hhead : (("sha256:" : String).toList.all fun ch => !isSpace ch) = true := by decide +kernel
  unfold Found.fingerprint at hch
  split_ifs at hch
  · cases hch
  · rw [String.toList_append] at hch
    rcases List.mem_append.mp hch with hch | hch
    · simpa using List.all_eq_true.mp hhead ch hch
    · rw [hexText,String.toList_ofList] at hch
      obtain ⟨i,hi,rfl⟩ := hexChars_mem hch
      exact hdigit i hi

lemma trimSpace_fingerprint (c : Cluster) :
    trimSpace (c.fingerprint sum256 sel) = c.fingerprint sum256 sel := by
  have heval := @compute_eval sum256 sel listed c
  unfold computeBaselineFingerprint at heval
  split_ifs at heval
  · have hfp : "" = c.fingerprint sum256 sel := Except.ok.inj heval
    rw [← hfp]
    rfl
  · rw [Reading.eval_bind] at heval
    cases hfound : (findBaseline sum256 listed sel).eval (c.answers fun _ => none) with
    | error e =>
      rw [hfound] at heval
      cases heval
    | ok found =>
      rw [hfound] at heval
      have hfp : found.fingerprint sum256 listed = c.fingerprint sum256 sel := Except.ok.inj heval
      rw [← hfp]
      exact trimSpace_fingerprint_found found listed

end

section
variable (sum256 : Sum256) (sel : Selection) (deployer : Bool)

structure Base (s : Drift) : Prop where
  present : s.cluster ∈ s.seen
  started : ∀ start ∈ s.lastDeploy, start ⊆ s.seen
  trimmed : trimSpace s.persisted = s.persisted
  nonempty : s.persisted ≠ "" → s.cluster.fingerprint sum256 sel ≠ ""
  stored : deployer = true → s.persisted ≠ "" → Deployed sum256 sel s s.persisted
  compared : deployer = true → ∀ fp ∈ s.inSync, Deployed sum256 sel s fp

structure Storable (s : Drift) (fp : String) : Prop where
  ne : fp ≠ ""
  trimmed : trimSpace fp = fp
  nonempty : s.cluster.fingerprint sum256 sel ≠ ""

/-- A deployment that started from here has seen all that the one before has seen. -/
def Started (s : Drift) (start : List Cluster) : Prop :=
  start ⊆ s.seen ∧ ∀ before ∈ s.lastDeploy, before ⊆ start

def InPhase (s : Drift) : Phase → Prop
  | .idle => True
  | .comparing previous _ rest => previous = s.persisted ∧ s.persisted ≠ "" ∧
      rest.eval (s.cluster.answers fun _ => none) = .ok (s.cluster.fingerprint sum256 sel)
  | .syncReady fp => Storable sum256 sel s fp ∧ ∃ c ∈ s.seen, c.fingerprint sum256 sel = fp
  | .syncing fp start => Storable sum256 sel s fp ∧ Started s start ∧
      ∃ c ∈ start, c.fingerprint sum256 sel = fp
  | .syncStoring fp => Storable sum256 sel s fp ∧ (deployer = true → Deployed sum256 sel s fp)
  | .injecting _ => True
  | .deployReady _ => True
  | .deploying first start => Started s start ∧
      (first = true → ∃ c ∈ start, c.fingerprint sum256 sel = s.cluster.fingerprint sum256 sel)
  | .recording rest => (deployer = true → Deployed sum256 sel s (s.cluster.fingerprint sum256 sel)) ∧
      rest.eval (s.cluster.answers fun _ => none) = .ok (s.cluster.fingerprint sum256 sel)
  | .recordStoring fp => Storable sum256 sel s fp ∧ (deployer = true → Deployed sum256 sel s fp)

def Inv (s : Drift) : Prop := Base sum256 sel deployer s ∧ InPhase sum256 sel deployer s s.phase

variable {sum256 sel deployer} {s : Drift}

section
variable (h : Base sum256 sel deployer s)
include h

lemma inv_idle : Inv sum256 sel deployer { s with phase := .idle } :=
  ⟨⟨h.present,h.started,h.trimmed,h.nonempty,h.stored,h.compared⟩,trivial⟩

omit h in
lemma Deployed.later {fp : String} {start : List Cluster} (h : Deployed sum256 sel s fp)
    (hlater : ∀ before ∈ s.lastDeploy, before ⊆ start) : ∃ c ∈ start, c.fingerprint sum256 sel = fp := by
  obtain ⟨before,hbefore,c,hc,hfp⟩ := h
  exact ⟨c,hlater before hbefore hc,hfp⟩

lemma Base.deployed {start : List Cluster} (hstart : Started s start) (p : Phase) :
    Base sum256 sel deployer { s with lastDeploy := some start, phase := p } where
  present := h.present
  started := by
    rintro _ ⟨⟩
    exact hstart.1
  trimmed := h.trimmed
  nonempty := h.nonempty
  stored hdeployer hne := ⟨start,rfl,(h.stored hdeployer hne).later hstart.2⟩
  compared hdeployer fp hfp := ⟨start,rfl,(h.compared hdeployer fp hfp).later hstart.2⟩

lemma Base.persist {fp : String} (hfp : Storable sum256 sel s fp)
    (hdeployed : deployer = true → Deployed sum256 sel s fp) :
    Base sum256 sel deployer { s with persisted := fp, phase := .idle } where
  present := h.present
  started := h.started
  trimmed := hfp.trimmed
  nonempty _ := hfp.nonempty
  stored hdeployer _ := hdeployed hdeployer
  compared := h.compared

lemma inv_record {rest : Fetch String}
    (hdeployed : deployer = true → Deployed sum256 sel s (s.cluster.fingerprint sum256 sel))
    (heval : rest.eval (s.cluster.answers fun _ => none) = .ok (s.cluster.fingerprint sum256 sel)) :
    Inv sum256 sel deployer (s.record rest) := by
  cases rest with
  | done fp =>
    obtain rfl : fp = s.cluster.fingerprint sum256 sel := Except.ok.inj heval
    change Inv sum256 sel deployer { s with
      phase := if s.cluster.fingerprint sum256 sel = "" then .idle else .recordStoring _ }
    by_cases hfp : s.cluster.fingerprint sum256 sel = ""
    · rw [if_pos hfp]
      exact inv_idle h
    · rw [if_neg hfp]
      exact ⟨⟨h.present,h.started,h.trimmed,h.nonempty,h.stored,h.compared⟩,
        ⟨hfp,trimSpace_fingerprint _,hfp⟩,hdeployed⟩
  | ask q wrap next =>
    exact ⟨⟨h.present,h.started,h.trimmed,h.nonempty,h.stored,h.compared⟩,hdeployed,heval⟩

lemma inv_inject (rest : Fetch String) : Inv sum256 sel deployer (s.inject rest) := by
  cases rest with
  | done fp | ask q wrap next =>
    exact ⟨⟨h.present,h.started,h.trimmed,h.nonempty,h.stored,h.compared⟩,trivial⟩

omit h in
lemma inPhase_afterComparison (s : Drift) : InPhase sum256 sel deployer s (Drift.afterComparison deployer) := by
  unfold Drift.afterComparison
  split_ifs
  · trivial
  · trivial

lemma inv_compare (hne : s.persisted ≠ "") (sync : Bool) {rest : Fetch String}
    (heval : rest.eval (s.cluster.answers fun _ => none) = .ok (s.cluster.fingerprint sum256 sel)) :
    Inv sum256 sel deployer (s.compare deployer s.persisted sync rest) := by
  cases rest with
  | done fp =>
    obtain rfl : fp = s.cluster.fingerprint sum256 sel := Except.ok.inj heval
    have hfp := h.nonempty hne
    change Inv sum256 sel deployer (s.compared deployer s.persisted sync _)
    unfold Drift.compared
    split_ifs with hsame hsync hdeployer
    · refine ⟨⟨h.present,h.started,h.trimmed,h.nonempty,h.stored,?_⟩,inPhase_afterComparison _⟩
      rintro hdeployer _ ⟨⟩
      rw [← hsame.resolve_left hfp]
      exact h.stored hdeployer hne
    · exact ⟨⟨h.present,h.started,h.trimmed,h.nonempty,h.stored,fun _ _ hnone => nomatch hnone⟩,
        ⟨hfp,trimSpace_fingerprint _,hfp⟩,s.cluster,h.present,rfl⟩
    · exact ⟨⟨h.present,h.started,h.trimmed,h.nonempty,h.stored,fun _ _ hnone => nomatch hnone⟩,
        ⟨hfp,trimSpace_fingerprint _,hfp⟩,fun htrue => absurd htrue hdeployer⟩
    · exact ⟨⟨h.present,h.started,h.trimmed,h.nonempty,h.stored,fun _ _ hnone => nomatch hnone⟩,
        inPhase_afterComparison _⟩
  | ask q wrap next =>
    exact ⟨⟨h.present,h.started,h.trimmed,h.nonempty,h.stored,h.compared⟩,rfl,hne,heval⟩

omit h in
lemma resume_eval_fault {rest rest' : Fetch String} {c : Cluster} {fault : Option String} {fp : String}
    (h : rest.resume (c.answers fun _ => fault) = .ok rest')
    (heval : rest.eval (c.answers fun _ => none) = .ok fp) : rest'.eval (c.answers fun _ => none) = .ok fp := by
  cases fault with
  | none => rwa [Reading.resume_eval h]
  | some e =>
    cases rest with
    | done a =>
      cases h
      exact heval
    | ask q wrap next => cases h

lemma inv_begin (sync : Bool) (visits : Visits) :
    Inv sum256 sel deployer (s.begin sum256 sel deployer sync visits) := by
  unfold Drift.begin
  rw [h.trimmed]
  split_ifs with hne hdeployer
  · exact inv_compare h hne sync (compute_eval visits s.cluster)
  · exact inv_inject h _
  · exact inv_record h (fun htrue => absurd htrue hdeployer) (compute_eval visits s.cluster)

end

lemma inv_call (h : Inv sum256 sel deployer s) (fault : Option String) (visits : Visits) :
    Inv sum256 sel deployer (s.call sum256 sel deployer fault visits) := by
  obtain ⟨hbase,hphase⟩ := id h
  unfold Drift.call
  cases hp : s.phase with
  | idle => exact h
  | comparing previous sync rest =>
    rw [hp] at hphase
    obtain ⟨rfl,hne,heval⟩ := hphase
    dsimp only
    cases hr : rest.resume (s.cluster.answers fun _ => fault) with
    | error e => exact inv_idle hbase
    | ok rest' => exact inv_compare hbase hne sync (resume_eval_fault hr heval)
  | syncReady fp =>
    rw [hp] at hphase
    exact ⟨⟨hbase.present,hbase.started,hbase.trimmed,hbase.nonempty,hbase.stored,hbase.compared⟩,
      ⟨hphase.1.ne,hphase.1.trimmed,hphase.1.nonempty⟩,⟨List.Subset.refl _,hbase.started⟩,hphase.2⟩
  | syncing fp start =>
    rw [hp] at hphase
    obtain ⟨hfp,hstart,hc⟩ := hphase
    cases fault with
    | some e => exact inv_idle hbase
    | none =>
      exact ⟨hbase.deployed hstart _,⟨hfp.ne,hfp.trimmed,hfp.nonempty⟩,fun _ => ⟨start,rfl,hc⟩⟩
  | syncStoring fp | recordStoring fp =>
    rw [hp] at hphase
    cases fault with
    | some e => exact inv_idle hbase
    | none => exact ⟨hbase.persist hphase.1 hphase.2,trivial⟩
  | injecting rest =>
    dsimp only
    cases hr : rest.resume (s.cluster.answers fun _ => fault) with
    | error e => exact inv_inject hbase (.done e)
    | ok rest' => exact inv_inject hbase rest'
  | deployReady first =>
    exact ⟨⟨hbase.present,hbase.started,hbase.trimmed,hbase.nonempty,hbase.stored,hbase.compared⟩,
      ⟨List.Subset.refl _,hbase.started⟩,fun _ => ⟨s.cluster,hbase.present,rfl⟩⟩
  | deploying first start =>
    rw [hp] at hphase
    obtain ⟨hstart,hfirst⟩ := hphase
    cases fault with
    | some e => exact inv_idle hbase
    | none =>
      cases first with
      | true =>
        exact inv_record (hbase.deployed hstart s.phase) (fun _ => ⟨start,rfl,hfirst rfl⟩)
          (compute_eval visits s.cluster)
      | false => exact ⟨hbase.deployed hstart _,trivial⟩
  | recording rest =>
    rw [hp] at hphase
    dsimp only
    cases hr : rest.resume (s.cluster.answers fun _ => fault) with
    | error e => exact inv_idle hbase
    | ok rest' => exact inv_record hbase hphase.1 (resume_eval_fault hr hphase.2)

lemma inv_change (h : Inv sum256 sel deployer s) {c : Cluster} (hopen : s.phase.Open)
    (hc : c.fingerprint sum256 sel ≠ "") :
    Inv sum256 sel deployer { s with cluster := c, seen := c :: s.seen } := by
  obtain ⟨hbase,hphase⟩ := h
  have hgrows : s.seen ⊆ c :: s.seen := List.subset_cons_self c s.seen
  have hbase' : Base sum256 sel deployer { s with cluster := c, seen := c :: s.seen } :=
    ⟨List.mem_cons_self,fun start hstart => List.Subset.trans (hbase.started start hstart) hgrows,
      hbase.trimmed,fun _ => hc,hbase.stored,hbase.compared⟩
  refine ⟨hbase',?_⟩
  change InPhase sum256 sel deployer { s with cluster := c, seen := c :: s.seen } s.phase
  cases hp : s.phase with
  | idle | injecting rest | deployReady first => trivial
  | comparing previous sync rest | recording rest =>
    rw [hp] at hopen
    exact hopen.elim
  | syncReady fp =>
    rw [hp] at hphase
    obtain ⟨hfp,d,hd,hdfp⟩ := hphase
    exact ⟨⟨hfp.ne,hfp.trimmed,hc⟩,d,hgrows hd,hdfp⟩
  | syncing fp start =>
    rw [hp] at hphase
    obtain ⟨hfp,hstart,hseen⟩ := hphase
    exact ⟨⟨hfp.ne,hfp.trimmed,hc⟩,⟨List.Subset.trans hstart.1 hgrows,hstart.2⟩,hseen⟩
  | syncStoring fp | recordStoring fp =>
    rw [hp] at hphase
    exact ⟨⟨hphase.1.ne,hphase.1.trimmed,hc⟩,hphase.2⟩
  | deploying first start =>
    rw [hp] at hopen hphase
    cases first with
    | true => exact hopen.elim
    | false => exact ⟨⟨List.Subset.trans hphase.1.1 hgrows,hphase.1.2⟩,fun hfalse => nomatch hfalse⟩

lemma inv_step (h : Inv sum256 sel deployer s) (a : DriftAction) (ha : Calm sum256 sel s a) :
    Inv sum256 sel deployer (s.step sum256 sel deployer a) := by
  cases a with
  | change c => exact inv_change h ha.1 ha.2
  | start sync visits =>
    unfold Drift.step
    cases hp : s.phase with
    | idle => exact inv_begin h.1 sync visits
    | _ => exact h
  | call fault visits => exact inv_call h fault visits

lemma inv_init (c : Cluster) : Inv sum256 sel deployer (Drift.init c) :=
  ⟨⟨List.mem_singleton_self c,nofun,rfl,fun h => absurd rfl h,fun _ h => absurd rfl h,fun _ => nofun⟩,trivial⟩

lemma failed_deployment {e : String} (h : s.phase.Deploying) (visits : Visits) :
    (s.call sum256 sel deployer (some e) visits).persisted = s.persisted ∧
      (s.call sum256 sel deployer (some e) visits).phase = .idle := by
  unfold Drift.call
  cases hp : s.phase with
  | syncing fp start | deploying first start => exact ⟨rfl,rfl⟩
  | _ =>
    rw [hp] at h
    exact h.elim

/-- In every run in which the baseline is changed only between comparisons and outside of first deployments,
and never emptied, the stored fingerprint is one that the baseline had when the last deployment started or
before, and so is every fingerprint that is found in sync. -/
theorem fingerprint_not_ahead (sum256 : Sum256) (sel : Selection) (deployer : Bool) (c : Cluster)
    (actions : List DriftAction)
    (h : EveryStep (Drift.step sum256 sel deployer) (Calm sum256 sel) (Drift.init c) actions) :
    ∀ past, past <+: actions →
      NotAhead sum256 sel deployer (run (Drift.step sum256 sel deployer) (Drift.init c) past) := by
  intro past hpast
  have hinv : Inv sum256 sel deployer (run (Drift.step sum256 sel deployer) (Drift.init c) past) :=
    h.reaches (fun s a ha hs => inv_step hs a ha) (inv_init c) past hpast
  exact ⟨hinv.1.stored,hinv.1.compared,fun hdeploying _ visits => failed_deployment hdeploying visits⟩

end

def lengthSum : Sum256 := fun t => Vector.replicate 32 (UInt8.ofNat t.length)

lemma webKey_valid : Key.Valid ⟨"shop","web"⟩ := by decide +kernel

def webCluster (tag : String) : Cluster where
  deployments := ⟨[{ serviceDeployment "web" with containers := [{ name := "web", image := "web:" ++ tag }] }],
    List.nodup_singleton _,fun _ hd => List.mem_singleton.mp hd ▸ webKey_valid⟩
  configMaps := .empty
  secrets := .empty

def webPreview : Selection where
  name := "pr-1"
  ns := "shop"

def firstRun : List DriftAction :=
  [.start false listed,.call none listed,.call none listed,.call none listed,.call none listed,.call none listed]

def overtakenRun : List DriftAction :=
  [.start false listed,.call none listed,.call none listed,.change (webCluster "10"),.call none listed,
    .call none listed,.call none listed]

theorem first_run_not_ahead :
    EveryStep (Drift.step lengthSum webPreview true) (Calm lengthSum webPreview) (Drift.init (webCluster "1"))
      firstRun ∧ ∀ past, past <+: firstRun → NotAhead lengthSum webPreview true
      (run (Drift.step lengthSum webPreview true) (Drift.init (webCluster "1")) past) := by
  have hcalm : EveryStep (Drift.step lengthSum webPreview true) (Calm lengthSum webPreview)
      (Drift.init (webCluster "1")) firstRun := ⟨trivial,trivial,trivial,trivial,trivial,trivial,trivial⟩
  exact ⟨hcalm,fingerprint_not_ahead lengthSum webPreview true (webCluster "1") firstRun hcalm⟩

lemma Deployed.mem {sum256 : Sum256} {sel : Selection} {s : Drift} {fp : String} (h : Deployed sum256 sel s fp) :
    fp ∈ (s.lastDeploy.getD []).map fun c => c.fingerprint sum256 sel := by
  obtain ⟨start,hstart,c,hc,rfl⟩ := h
  rw [Option.mem_def.mp hstart]
  exact List.mem_map_of_mem hc

/-- The fingerprint that is stored is that of the new image, while the deployment started from the old one. -/
theorem first_deployment_overtaken : ¬NotAhead lengthSum webPreview true
      (run (Drift.step lengthSum webPreview true) (Drift.init (webCluster "1")) overtakenRun) := by
  intro h
  have hmem := (h.stored rfl (by decide +kernel)).mem
  exact absurd hmem (by decide +kernel)

end Diverge.Baseline
