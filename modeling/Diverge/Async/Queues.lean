import Diverge.Async.Redis

/-! Kafka topics and Temporal task queues of preview environments. A name is the route's target and
the environment's name, joined by hyphens, and both of them may have hyphens of their own. -/
namespace Diverge.Async
open Environments Kube Program Text

structure TemporalProvisioner where
  ns : String := ""
  deriving DecidableEq

/-- The variables of a mapping that ask for the resolved target. -/
def mappedVars (mapping : List (String × String)) (target : String) : List (String × String) :=
  (mapping.filter fun m => m.2 = resolvedTemplate ∨ m.2 = "").map fun m => (m.1,target)

def temporalQueue (target envName : String) : String := target ++ "-" ++ envName

def TemporalProvisioner.provision (t : TemporalProvisioner) (env : Environment)
    (route : AsyncRouteSpec) : ProvisionResult :=
  let target := temporalQueue route.target env.name
  { resolvedTarget := target
    envVars :=
      if route.envVarMapping = [] then
        ("TEMPORAL_TASK_QUEUE",target) :: (if t.ns = "" then [] else [("TEMPORAL_NAMESPACE",t.ns)])
      else mappedVars route.envVarMapping target }

def annotationKafkaRetentionMs : String := "divergedev.com/kafka-retention-ms"

def defaultKafkaRetentionMs : String := "86400000"

/-- The milliseconds of the annotation, where they are a positive number. -/
def annotatedRetentionMs (env : Environment) : Option String :=
  (parseInt (trimSpace ( env.annotation annotationKafkaRetentionMs))).bind fun ms =>
    if 0 < ms then some (formatInt ms) else none

/-- The whole milliseconds of the lifetime, where there are any. -/
def ttlRetentionMs (env : Environment) : Option String :=
  env.spec.lifecycle.ttl.bind fun ttl =>
    if 0 < ttl ∧ 0 < ttl.toInt / 1000000 then some (formatInt (ttl.toInt / 1000000)) else none

def resolveTopicRetentionMs (env : Environment) : String :=
  ((annotatedRetentionMs env).or (ttlRetentionMs env)).getD defaultKafkaRetentionMs

/-- What the cluster does with a request: nothing, for the request or for its topic, or what it
asks for. -/
inductive KafkaReply
  | requestFails (e : String)
  | topicFails (e : String)
  | serves
  deriving DecidableEq

/-- The topics with their retention, and the replies to the requests to come. -/
structure KafkaCluster where
  topics : List (String × String)
  replies : List KafkaReply
  deriving DecidableEq

def KafkaCluster.has (cluster : KafkaCluster) (topic : String) : Bool :=
  cluster.topics.any fun t => t.1 == topic

def topicAlreadyExists : String := "TOPIC_ALREADY_EXISTS: Topic with this name already exists."

def unknownTopic : String := "UNKNOWN_TOPIC_OR_PARTITION: This server does not host this topic-partition."

/-- The outer error is the request's, the inner one the topic's. -/
abbrev KafkaAnswer := Except String (Option String)

/-- One request of the admin client; without a reply the connection is lost. -/
def kafkaRequest (f : List (String × String) → Except String (List (String × String))) :
    Prog KafkaCluster String KafkaAnswer := do
  let cluster ← get
  match cluster.replies with
  | [] => return .error "EOF"
  | .requestFails e :: replies =>
    set { cluster with replies := replies }
    return .error e
  | .topicFails e :: replies =>
    set { cluster with replies := replies }
    return .ok (some e)
  | .serves :: replies =>
    match f cluster.topics with
    | .ok topics =>
      set ({ topics := topics, replies := replies } : KafkaCluster)
      return .ok none
    | .error e =>
      set { cluster with replies := replies }
      return .ok (some e)

def createTopic (topic retentionMs : String) : Prog KafkaCluster String KafkaAnswer :=
  kafkaRequest fun topics =>
    if topics.any fun t => t.1 == topic then .error topicAlreadyExists
    else .ok ((topic,retentionMs) :: topics)

def alterTopic (topic retentionMs : String) : Prog KafkaCluster String KafkaAnswer :=
  kafkaRequest fun topics =>
    if topics.any fun t => t.1 == topic then
      .ok (topics.map fun t => if t.1 = topic then (topic,retentionMs) else t)
    else .error unknownTopic

def deleteTopic (topic : String) : Prog KafkaCluster String KafkaAnswer :=
  kafkaRequest fun topics =>
    if topics.any fun t => t.1 == topic then .ok (topics.filter fun t => t.1 ≠ topic)
    else .error unknownTopic

structure KafkaProvisioner where
  brokers : List String := []
  deriving DecidableEq

def kafkaTopic (target envName : String) : String := target ++ "--" ++ envName

def quoted (s : String) : String := "\"" ++ s ++ "\""

/-- A topic that exists already gets its retention set. -/
def ensureTopic (topic retentionMs : String) : Prog KafkaCluster String Unit := do
  match ← createTopic topic retentionMs with
  | .error e => throw ("kafka create topic failed: " ++ e)
  | .ok none => return
  | .ok (some e) =>
    if contains e "already exists" then
      match ← alterTopic topic retentionMs with
      | .error e => throw ("kafka alter topic " ++ quoted topic ++ " config failed: " ++ e)
      | .ok (some e) => throw ("kafka alter topic " ++ quoted topic ++ " config: " ++ e)
      | .ok none => return
    else throw ("kafka topic " ++ quoted topic ++ ": " ++ e)

/-- `KafkaProvisioner.Provision`; `client` is the error of the client, where there is one. -/
def KafkaProvisioner.provision (k : KafkaProvisioner) (client : Option String) (env : Environment)
    (route : AsyncRouteSpec) : Prog KafkaCluster String ProvisionResult := do
  let target := kafkaTopic route.target env.name
  if let some e := client then throw ("kafka client error: " ++ e)
  else
    ensureTopic target (resolveTopicRetentionMs env)
    return {
      resolvedTarget := target
      envVars :=
        if route.envVarMapping = [] then
          [("KAFKA_TOPIC",target),("KAFKA_CONSUMER_GROUP",target),("KAFKA_BROKERS",join "," k.brokers)]
        else mappedVars route.envVarMapping target }

def KafkaProvisioner.teardown (client : Option String) (env : Environment)
    (route : AsyncRouteSpec) : Prog KafkaCluster String Unit := do
  let target := kafkaTopic route.target env.name
  if let some e := client then throw ("kafka client error: " ++ e)
  else
    match ← deleteTopic target with
    | .error e => throw ("kafka delete topic failed: " ++ e)
    | .ok none => return
    | .ok (some e) =>
      if contains e "does not host this topic-partition" || contains e "UnknownTopicOrPartition" then
        return
      else throw ("kafka delete topic " ++ quoted target ++ ": " ++ e)

def errInvalidTopic : String := "topic name must not contain '--' delimiter"

/-- `Topic` of the SDK. -/
def sdkTopic (baseTopic envName : String) : Except String String :=
  if envName = "" then .ok baseTopic
  else if contains baseTopic "--" then .error errInvalidTopic
  else .ok (baseTopic ++ "--" ++ envName)

section
variable {t₁ e₁ t₂ e₂ : String}

lemma temporalQueue_eq_iff : temporalQueue t₁ e₁ = temporalQueue t₂ e₂ ↔
      (t₁ = t₂ ∧ e₁ = e₂) ∨ (∃ m, t₂ = t₁ ++ "-" ++ m ∧ e₁ = m ++ "-" ++ e₂) ∨
        ∃ m, t₁ = t₂ ++ "-" ++ m ∧ e₂ = m ++ "-" ++ e₁ := by
  have hjoin (t e : String) : (temporalQueue t e).toList = t.toList ++ '-' :: e.toList := by
    simp [temporalQueue]
  have hpart (s a b : String) : s.toList = a.toList ++ '-' :: b.toList ↔ s = a ++ "-" ++ b := by
    rw [← String.toList_inj]
    simp
  rw [← String.toList_inj,hjoin,hjoin,append_separator_eq_iff,String.toList_inj,String.toList_inj]
  refine or_congr_right (or_congr ?_ ?_)
  all_goals
    exact ⟨fun ⟨m,ht,he⟩ => ⟨String.ofList m,(hpart _ _ _).mp (by simpa using ht),
      (hpart _ _ _).mp (by simpa using he)⟩,
      fun ⟨m,ht,he⟩ => ⟨m.toList,(hpart _ _ _).mpr ht,(hpart _ _ _).mpr he⟩⟩

lemma contains_of_append {xs ys : List Char} {s : String} (h : s.toList = xs ++ '-' :: '-' :: ys) :
    contains s "--" = true := contains_iff.mpr ⟨xs,ys,by simp [h]⟩

lemma kafkaTopic_inj (h₁ : isDNS1123Subdomain e₁ = true)
    (h₂ : isDNS1123Subdomain e₂ = true) (ht₁ : contains t₁ "--" = false)
    (ht₂ : contains t₂ "--" = false) (h : kafkaTopic t₁ e₁ = kafkaTopic t₂ e₂) : t₁ = t₂ ∧ e₁ = e₂ := by
  have hjoin (t e : String) : (kafkaTopic t e).toList = t.toList ++ '-' :: '-' :: e.toList := by
    simp [kafkaTopic]
  have hcross {t t' e e' : String} {m : List Char} (he : isDNS1123Subdomain e = true)
      (ht' : contains t' "--" = false) (hm : t'.toList = t.toList ++ '-' :: m)
      (hrest : '-' :: e.toList = m ++ '-' :: '-' :: e'.toList) : False := by
    cases m with
    | nil =>
      obtain ⟨c,cs,hcs,hc⟩ := head_of_subdomain he
      rw [hcs] at hrest
      obtain ⟨-,hrest⟩ := List.cons_eq_cons.mp hrest
      obtain ⟨rfl,-⟩ := List.cons_eq_cons.mp hrest
      exact absurd hc (by decide)
    | cons d m =>
      obtain ⟨rfl,-⟩ := List.cons_eq_cons.mp hrest
      exact absurd (contains_of_append hm) (by simp [ht'])
  rw [← String.toList_inj,hjoin,hjoin] at h
  rcases append_separator_eq_iff.mp h with ⟨ht,he⟩ | ⟨m,ht,he⟩ | ⟨m,ht,he⟩
  · exact ⟨String.toList_inj.mp ht,String.toList_inj.mp (List.cons_eq_cons.mp he).2⟩
  · exact (hcross h₁ ht₂ ht he).elim
  · exact (hcross h₂ ht₁ ht he).elim

lemma sdkTopic_eq_iff {target envName : String} (h : envName ≠ "") :
    sdkTopic target envName = .ok (kafkaTopic target envName) ↔ contains target "--" = false := by
  unfold sdkTopic
  rw [if_neg h]
  cases contains target "--" with
  | true => simp
  | false => simp [kafkaTopic]

end

lemma kafkaRequest_keeps {topic : String}
    {f : List (String × String) → Except String (List (String × String))}
    (h : ∀ topics topics', f topics = .ok topics' → topics.any (fun t => t.1 == topic) = true →
      topics'.any (fun t => t.1 == topic) = true) :
    Keeps (fun cluster => cluster.has topic = true) (kafkaRequest f) := by
  refine Triple.bind (R := fun cluster s => cluster = s ∧ s.has topic = true) (fun s hs => ⟨rfl,hs⟩)
    fun cluster => ?_
  rcases hr : cluster.replies with _ | ⟨reply,replies⟩
  · exact .pure fun s hs => hs.2
  · cases reply with
    | requestFails e | topicFails e => exact fun s hs => hs.1 ▸ hs.2
    | serves =>
      cases hf : f cluster.topics with
      | error e => exact fun s hs => hs.1 ▸ hs.2
      | ok topics => exact fun s hs => h _ _ hf (hs.1 ▸ hs.2)

lemma teardown_keeps_topic {topic : String} (client : Option String) (env : Environment)
    (route : AsyncRouteSpec) (h : topic ≠ kafkaTopic route.target env.name) :
    Keeps (fun cluster => cluster.has topic = true) (KafkaProvisioner.teardown client env route) := by
  cases client with
  | some e => exact .throw _
  | none =>
    refine .bind (kafkaRequest_keeps fun topics topics' hf hany => ?_) fun answer => ?_
    · split_ifs at hf
      cases hf
      rw [List.any_filter]
      rw [List.any_eq_true] at hany ⊢
      obtain ⟨t,ht,htopic⟩ := hany
      exact ⟨t,ht,by simp_all⟩
    · rcases answer with e | _ | e
      · exact .throw _
      · exact .pure _
      · exact .ite (fun _ => .pure _) fun _ => .throw _

lemma provision_serves (k : KafkaProvisioner) (env : Environment) (route : AsyncRouteSpec) :
    ∃ cluster given, (ending (k.provision none env route) cluster).1 = .ok given ∧
      given.resolvedTarget = kafkaTopic route.target env.name :=
  ⟨{ topics := [], replies := [.serves] },_,rfl,rfl⟩

lemma provision_topic {k : KafkaProvisioner} {client : Option String} {env : Environment}
    {route : AsyncRouteSpec} {cluster : KafkaCluster} {given : ProvisionResult}
    (h : (ending (k.provision client env route) cluster).1 = .ok given) :
    given.resolvedTarget = kafkaTopic route.target env.name := by
  have hspec : Triple (fun _ => True) (k.provision client env route)
      (fun given _ => given.resolvedTarget = kafkaTopic route.target env.name) fun _ _ => True := by
    cases client with
    | some e => exact .throw fun _ _ => trivial
    | none => exact .bind (.any _) fun _ => .pure fun _ _ => rfl
  exact hspec.returned trivial h

/-- Two routes share nothing: their resolved topics and queues differ, neither's teardown deletes a
topic of the other, and the SDK computes both topics. -/
structure Isolated (k : KafkaProvisioner) (t : TemporalProvisioner) (env₁ : Environment)
    (route₁ : AsyncRouteSpec) (env₂ : Environment) (route₂ : AsyncRouteSpec) : Prop where
  topics : ∀ client₁ cluster₁ given₁ client₂ cluster₂ given₂,
    (ending (k.provision client₁ env₁ route₁) cluster₁).1 = .ok given₁ →
    (ending (k.provision client₂ env₂ route₂) cluster₂).1 = .ok given₂ →
      given₁.resolvedTarget ≠ given₂.resolvedTarget
  queues : (t.provision env₁ route₁).resolvedTarget ≠ (t.provision env₂ route₂).resolvedTarget
  kept₁ : ∀ client₁ cluster₁ given₁ client cluster,
    (ending (k.provision client₁ env₁ route₁) cluster₁).1 = .ok given₁ →
    cluster.has given₁.resolvedTarget = true →
      (ending (KafkaProvisioner.teardown client env₂ route₂) cluster).2.has given₁.resolvedTarget = true
  kept₂ : ∀ client₂ cluster₂ given₂ client cluster,
    (ending (k.provision client₂ env₂ route₂) cluster₂).1 = .ok given₂ →
    cluster.has given₂.resolvedTarget = true →
      (ending (KafkaProvisioner.teardown client env₁ route₁) cluster).2.has given₂.resolvedTarget = true
  sdk₁ : ∀ client cluster given, (ending (k.provision client env₁ route₁) cluster).1 = .ok given →
    sdkTopic route₁.target env₁.name = .ok given.resolvedTarget
  sdk₂ : ∀ client cluster given, (ending (k.provision client env₂ route₂) cluster).1 = .ok given →
    sdkTopic route₂.target env₂.name = .ok given.resolvedTarget

/-- No target has two hyphens in a row, the targets or the environments' names differ, and no
target is the other one followed by a hyphen and the beginning of the other's environment. -/
structure Apart (t₁ e₁ t₂ e₂ : String) : Prop where
  plain₁ : contains t₁ "--" = false
  plain₂ : contains t₂ "--" = false
  differ : (t₁,e₁) ≠ (t₂,e₂)
  uncrossed₁ : ∀ m, t₂ = t₁ ++ "-" ++ m → e₁ ≠ m ++ "-" ++ e₂
  uncrossed₂ : ∀ m, t₁ = t₂ ++ "-" ++ m → e₂ ≠ m ++ "-" ++ e₁

/-- The routes of two triples of namespace, environment and target have nothing of each other when
they are apart; the namespaces do not matter. -/
theorem queues_isolated_iff (k : KafkaProvisioner) (t : TemporalProvisioner)
    (env₁ env₂ : Environment) (route₁ route₂ : AsyncRouteSpec)
    (h₁ : isDNS1123Subdomain env₁.name = true) (h₂ : isDNS1123Subdomain env₂.name = true) :
    Isolated k t env₁ route₁ env₂ route₂ ↔
      Apart route₁.target env₁.name route₂.target env₂.name := by
  have hqueue : (t.provision env₁ route₁).resolvedTarget = (t.provision env₂ route₂).resolvedTarget ↔ _ :=
    temporalQueue_eq_iff
  constructor
  · intro h
    obtain ⟨cluster₁,given₁,hok₁,htopic₁⟩ := provision_serves k env₁ route₁
    obtain ⟨cluster₂,given₂,hok₂,htopic₂⟩ := provision_serves k env₂ route₂
    have hsdk₁ := h.sdk₁ _ _ _ hok₁
    have hsdk₂ := h.sdk₂ _ _ _ hok₂
    rw [htopic₁,sdkTopic_eq_iff (ne_empty_of_subdomain h₁)] at hsdk₁
    rw [htopic₂,sdkTopic_eq_iff (ne_empty_of_subdomain h₂)] at hsdk₂
    have hcases := mt hqueue.mpr h.queues
    rw [not_or,not_or] at hcases
    exact ⟨hsdk₁,hsdk₂,fun he => hcases.1 (Prod.mk.inj he),
      fun m ht he => hcases.2.1 ⟨m,ht,he⟩,fun m ht he => hcases.2.2 ⟨m,ht,he⟩⟩
  · intro h
    have hne : kafkaTopic route₁.target env₁.name ≠ kafkaTopic route₂.target env₂.name := by
      intro heq
      obtain ⟨ht,he⟩ := kafkaTopic_inj h₁ h₂ h.plain₁ h.plain₂ heq
      exact h.differ (by rw [ht,he])
    constructor
    · intro client₁ cluster₁ given₁ client₂ cluster₂ given₂ hok₁ hok₂
      rw [provision_topic hok₁,provision_topic hok₂]
      exact hne
    · rw [Ne,hqueue]
      rintro (⟨ht,he⟩ | ⟨m,ht,he⟩ | ⟨m,ht,he⟩)
      · exact h.differ (by rw [ht,he])
      · exact h.uncrossed₁ m ht he
      · exact h.uncrossed₂ m ht he
    · intro client₁ cluster₁ given₁ client cluster hok hhas
      rw [provision_topic hok] at hhas ⊢
      exact (teardown_keeps_topic client env₂ route₂ hne).ending hhas
    · intro client₂ cluster₂ given₂ client cluster hok hhas
      rw [provision_topic hok] at hhas ⊢
      exact (teardown_keeps_topic client env₁ route₁ hne.symm).ending hhas
    · intro client cluster given hok
      rw [provision_topic hok,sdkTopic_eq_iff (ne_empty_of_subdomain h₁)]
      exact h.plain₁
    · intro client cluster given hok
      rw [provision_topic hok,sdkTopic_eq_iff (ne_empty_of_subdomain h₂)]
      exact h.plain₂

theorem shop_and_cart_queues_isolated :
    isDNS1123Subdomain "shop" = true ∧ isDNS1123Subdomain "cart" = true ∧
      Isolated {} {} { name := "shop", ns := "team-a" } { protocol := "kafka", target := "orders" }
        { name := "cart", ns := "team-a" } { protocol := "kafka", target := "orders" } := by
  have hlonger (m : String) : "orders" ≠ "orders" ++ "-" ++ m := by
    intro h
    have hlength := congrArg (fun s => s.toList.length) h
    simp at hlength
  exact ⟨by decide,by decide,(queues_isolated_iff {} {} { name := "shop", ns := "team-a" }
    { name := "cart", ns := "team-a" } { protocol := "kafka", target := "orders" }
    { protocol := "kafka", target := "orders" } (by decide) (by decide)).mpr
      ⟨by decide,by decide,by decide,fun m h => absurd h (hlonger m),fun m h => absurd h (hlonger m)⟩⟩

/-- Two namespaces with an environment of one name: the topic of the one is deleted with the other,
and workers of both poll one queue. -/
theorem namesake_topic_deleted :
    (let env₁ : Environment := { name := "shop", ns := "team-a" }
     let env₂ : Environment := { name := "shop", ns := "team-b" }
     let route : AsyncRouteSpec := { protocol := "kafka", target := "orders" }
     let given := ending (KafkaProvisioner.provision {} none env₁ route)
       { topics := [], replies := [.serves,.serves] }
     (env₁.ns,env₁.name,route.target) ≠ (env₂.ns,env₂.name,route.target) ∧
       given.1.map ProvisionResult.resolvedTarget = .ok "orders--shop" ∧
       given.2.has "orders--shop" = true ∧
       (ending (KafkaProvisioner.teardown none env₂ route) given.2).2.has "orders--shop" = false ∧
       (TemporalProvisioner.provision {} env₁ route).resolvedTarget =
         (TemporalProvisioner.provision {} env₂ route).resolvedTarget) := by
  decide

end Diverge.Async
