import Gomessenger.Kafka.Wire.Topics

/-! Every topic and group name tells the parts it was made of. -/

namespace Gomessenger.KafkaWire

open Utf8 Dotted Fallible
open Json (intText)
open Messenger (Kind versionToken segments_address intText_plain intText_injective descriptor_parts)

variable {value : Bytes}

theorem validateNamespace_ok (accepted : validateNamespace value = .ok ()) :
    ∀ segment ∈ segments value, reservedSegment segment = false := by
  unfold validateNamespace at accepted
  obtain ⟨_, _, accepted⟩ := bind_ok.mp accepted
  intro segment member
  by_contra reserved
  rw [Bool.not_eq_false] at reserved
  rw [if_pos (List.any_eq_true.mpr ⟨segment, member, reserved⟩)] at accepted
  exact absurd accepted (by simp [throw, throwThe, MonadExceptOf.throw])

theorem validateDescriptorName_ok (accepted : validateDescriptorName value = .ok ()) :
    serviceSegment ∉ segments value := by
  intro member
  have reserved : (segments value).any (· == serviceSegment) = true :=
    List.any_eq_true.mpr ⟨_, member, beq_self_eq_true _⟩
  rw [validateDescriptorName, if_pos reserved] at accepted
  cases accepted

variable {namespaceName name topic : Bytes} {kind : Kind} {version : Int64}

theorem topicOf_ok (accepted : topicOf namespaceName kind name version = .ok topic) :
    (∀ segment ∈ segments namespaceName, reservedSegment segment = false) ∧ kind.validWire = true ∧
      serviceSegment ∉ segments name ∧
      segments topic = segments namespaceName ++
        kind.text :: (segments name ++ [versionToken version]) := by
  unfold topicOf at accepted
  obtain ⟨_, namespaceOk, accepted⟩ := bind_ok.mp accepted
  obtain ⟨fields, accepted⟩ := check_ok.mp accepted
  obtain ⟨_, nameOk, accepted⟩ := bind_ok.mp accepted
  obtain ⟨_, _, accepted⟩ := bind_ok.mp accepted
  simp only [not_or, Bool.not_eq_false] at fields
  rw [← Except.ok.inj accepted]
  exact ⟨validateNamespace_ok namespaceOk, fields.1, validateDescriptorName_ok nameOk,
    segments_address _ _ _ fields.1⟩

theorem topicOf_named
    (accepted : topicOf namespaceName kind name version = .ok topic) :
    validateTopicName topic = .ok () := by
  unfold topicOf at accepted
  obtain ⟨_, _, accepted⟩ := bind_ok.mp accepted
  obtain ⟨_, accepted⟩ := check_ok.mp accepted
  obtain ⟨_, _, accepted⟩ := bind_ok.mp accepted
  obtain ⟨_, named, accepted⟩ := bind_ok.mp accepted
  rw [← Except.ok.inj accepted]
  exact named

def kindSegment (segment : Bytes) : Bool := segment == Kind.command.text ||
    segment == Kind.event.text

theorem kindSegment_text (wire : kind.validWire = true) : kindSegment kind.text = true := by
  cases kind with
  | command => decide
  | event => decide
  | query => exact absurd wire (by decide)
  | other text => exact absurd wire (by simp [Kind.validWire])

variable {other : Bytes}

theorem topic_parts {otherNamespace : Bytes} {otherKind : Kind} {otherVersion : Int64}
    (isTopic : topicOf namespaceName kind name version = .ok topic)
    (isOther : topicOf otherNamespace otherKind other otherVersion = .ok topic) :
    namespaceName = otherNamespace ∧ kind = otherKind ∧ name = other ∧ version = otherVersion := by
  obtain ⟨unreserved, wire, _, tokens⟩ := topicOf_ok isTopic
  obtain ⟨otherUnreserved, otherWire, _, otherTokens⟩ := topicOf_ok isOther
  have plain : ∀ {value : Bytes}, (∀ segment ∈ segments value, reservedSegment segment = false) →
      ∀ segment ∈ segments value, ¬ kindSegment segment = true := by
    intro value unreserved segment member
    have free := unreserved segment member
    rw [reservedSegment, Bool.or_eq_false_iff] at free
    exact Bool.eq_false_iff.mp free.1
  rw [tokens] at otherTokens
  obtain ⟨namespaces, kinds, ends⟩ := marked_injective (kindSegment · = true)
    (plain unreserved) (kindSegment_text wire)
    (plain otherUnreserved) (kindSegment_text otherWire) otherTokens
  exact ⟨segments_injective namespaces, descriptor_parts wire otherWire
    (List.cons_eq_cons.mpr ⟨kinds, ends⟩)⟩

theorem topicAround_topic {tail : Bytes}
    (found : topicAround value kind namespaceName tail = true) :
    ∃ name version, topicOf namespaceName kind name version = .ok value := by
  unfold topicAround at found
  split at found
  · exact absurd found (by decide)
  · split at found
    · exact absurd found (by decide)
    · rw [Bool.and_eq_true, decide_eq_true_eq] at found
      exact ⟨_, _, found.2⟩

theorem topicFrom_topic (offset : Nat) (found : topicFrom value kind offset = true) :
    ∃ namespaceName name version, topicOf namespaceName kind name version = .ok value := by
  fun_induction topicFrom value kind offset with
  | case1 => exact absurd found (by decide)
  | case2 offset inside relative at_ next ih =>
    rcases Bool.or_eq_true_iff.mp found with here | later
    · exact ⟨_, topicAround_topic here⟩
    · exact ih later
  | case3 => exact absurd found (by decide)

theorem validateSourceTopicName_ok (accepted : validateSourceTopicName value = .ok ()) :
    ∃ namespaceName kind name version, topicOf namespaceName kind name version = .ok value := by
  unfold validateSourceTopicName at accepted
  split at accepted
  next found =>
    rcases Bool.or_eq_true_iff.mp found with found | found
    · obtain ⟨namespaceName, name, version, isTopic⟩ := topicFrom_topic 0 found
      exact ⟨namespaceName, _, name, version, isTopic⟩
    · obtain ⟨namespaceName, name, version, isTopic⟩ := topicFrom_topic 0 found
      exact ⟨namespaceName, _, name, version, isTopic⟩
  · cases accepted

theorem topic_without_service
    (isTopic : topicOf namespaceName kind name version = .ok topic) :
    serviceSegment ∉ segments topic := by
  obtain ⟨unreserved, wire, unserviced, tokens⟩ := topicOf_ok isTopic
  intro member
  rw [tokens] at member
  rcases List.mem_append.mp member with inNamespace | rest
  · exact absurd (unreserved _ inNamespace) (by decide)
  rcases List.mem_cons.mp rest with isKind | rest
  · have reserved := kindSegment_text wire
    rw [← isKind] at reserved
    exact absurd reserved (by decide)
  rcases List.mem_append.mp rest with inName | last
  · exact unserviced inName
  · have letters : serviceSegment.head? = some 0x76 :=
      congrArg List.head? (List.mem_singleton.mp last)
    exact absurd letters (by decide)

inductive Role
  | retry (tier : Int64)
  | replay
  | dlq
  deriving DecidableEq

def Role.suffix : Role → Bytes
  | .retry tier => ofString "retry.t" ++ intText tier.toInt
  | .replay => ofString "replay"
  | .dlq => ofString "dlq"

def serviceTopic (sourceTopic consumerID : Bytes) : Role → Except GoError Bytes
  | .retry tier => retryTopic sourceTopic consumerID tier
  | .replay => replayTopic sourceTopic consumerID
  | .dlq => dlqTopic sourceTopic consumerID

variable {sourceTopic consumerID : Bytes} {role : Role}

theorem serviceTopic_ok (accepted : serviceTopic sourceTopic consumerID role = .ok topic) :
    consumerTopic sourceTopic consumerID role.suffix = .ok topic := by
  cases role with
  | retry tier =>
    simp only [serviceTopic, retryTopic] at accepted
    split at accepted
    · cases accepted
    · exact accepted
  | replay => exact accepted
  | dlq => exact accepted

theorem segments_service (sourceTopic rest : Bytes) :
    segments (sourceTopic ++ serviceMarker ++ rest) = segments sourceTopic ++
      serviceSegment :: segments rest := by
  calc
    _ = segments (sourceTopic ++ dot :: (serviceSegment ++ dot :: rest)) := by
      rw [List.append_assoc]
      rfl
    _ = segments sourceTopic ++ (segments serviceSegment ++ segments rest) := by
      rw [segments_append, segments_append]
    _ = _ := by
      rw [segments_plain (show dot ∉ serviceSegment by decide)]
      rfl

variable {source : Bytes}

theorem service_parts {rest otherRest : Bytes} (accepted : validateSourceTopicName source = .ok ())
    (otherAccepted : validateSourceTopicName other = .ok ())
    (same : source ++ serviceMarker ++ rest = other ++ serviceMarker ++ otherRest) :
    source = other ∧ rest = otherRest := by
  obtain ⟨_, _, _, _, isTopic⟩ := validateSourceTopicName_ok accepted
  obtain ⟨_, _, _, _, isOther⟩ := validateSourceTopicName_ok otherAccepted
  have unserviced := topic_without_service isTopic
  have otherUnserviced := topic_without_service isOther
  have tokens := congrArg segments same
  rw [segments_service, segments_service] at tokens
  obtain ⟨sources, _, rests⟩ := marked_injective (· = serviceSegment)
    (fun _ member found => unserviced (found ▸ member)) rfl
    (fun _ member found => otherUnserviced (found ▸ member)) rfl tokens
  exact ⟨segments_injective sources, segments_injective rests⟩

variable {suffix : Bytes}

theorem consumerTopic_ok (accepted : consumerTopic sourceTopic consumerID suffix = .ok topic) :
    validateSourceTopicName sourceTopic = .ok () ∧
      topic = sourceTopic ++ serviceMarker ++ (consumerID ++ dot :: suffix) := by
  unfold consumerTopic at accepted
  obtain ⟨_, sourceOk, accepted⟩ := bind_ok.mp accepted
  obtain ⟨_, _, accepted⟩ := bind_ok.mp accepted
  obtain ⟨_, _, accepted⟩ := bind_ok.mp accepted
  refine ⟨sourceOk, ?_⟩
  rw [← Except.ok.inj accepted, List.append_assoc _ consumerID]
  rfl

theorem consumerTopic_named
    (accepted : consumerTopic sourceTopic consumerID suffix = .ok topic) :
    validateTopicName topic = .ok () := by
  unfold consumerTopic at accepted
  obtain ⟨_, _, accepted⟩ := bind_ok.mp accepted
  obtain ⟨_, _, accepted⟩ := bind_ok.mp accepted
  obtain ⟨_, named, accepted⟩ := bind_ok.mp accepted
  rw [← Except.ok.inj accepted]
  exact named

theorem consumerTopic_consumer
    (accepted : consumerTopic sourceTopic consumerID suffix = .ok topic) :
    validateConsumerID consumerID = .ok () := by
  unfold consumerTopic at accepted
  obtain ⟨_, _, accepted⟩ := bind_ok.mp accepted
  obtain ⟨_, consumerOk, _⟩ := bind_ok.mp accepted
  exact consumerOk

theorem consumerGroup_ok {group : Bytes}
    (accepted : consumerGroup sourceTopic consumerID = .ok group) :
    validateSourceTopicName sourceTopic = .ok () ∧ group = sourceTopic ++
      serviceMarker ++ consumerID := by
  unfold consumerGroup at accepted
  obtain ⟨_, sourceOk, accepted⟩ := bind_ok.mp accepted
  obtain ⟨_, _, accepted⟩ := bind_ok.mp accepted
  obtain ⟨_, _, accepted⟩ := bind_ok.mp accepted
  exact ⟨sourceOk, (Except.ok.inj accepted).symm⟩

def Role.tokens : Role → List Bytes
  | .retry tier => [ofString "retry", ofString "t" ++ intText tier.toInt]
  | .replay => [ofString "replay"]
  | .dlq => [ofString "dlq"]

theorem segments_suffix (role : Role) : segments role.suffix = role.tokens := by
  cases role with
  | retry tier =>
    have plain : dot ∉ ofString "t" ++ intText tier.toInt := by
      intro inside
      exact (List.mem_append.mp inside).elim (by decide) (intText_plain _)
    calc
      _ = segments (ofString "retry" ++ dot :: (ofString "t" ++ intText tier.toInt)) := rfl
      _ = _ := by
        rw [segments_append, segments_plain plain, segments_plain (by decide)]
        rfl
  | replay => exact segments_plain (by decide)
  | dlq => exact segments_plain (by decide)

theorem role_of_last {other : Role} (same : role.tokens.getLast? = other.tokens.getLast?) :
    role = other := by
  have letters := congrArg (fun last : Option Bytes => last.bind List.head?) same
  cases role with
  | retry tier =>
    cases other with
    | retry otherTier =>
      have texts : ofString "t" ++ intText tier.toInt = ofString "t" ++ intText otherTier.toInt :=
        Option.some.inj same
      rw [intText_injective (List.append_cancel_left texts)]
    | replay => exact absurd (Option.some.inj letters) (by decide)
    | dlq => exact absurd (Option.some.inj letters) (by decide)
  | replay =>
    cases other with
    | retry tier => exact absurd (Option.some.inj letters) (by decide)
    | replay => rfl
    | dlq => exact absurd (Option.some.inj letters) (by decide)
  | dlq =>
    cases other with
    | retry tier => exact absurd (Option.some.inj letters) (by decide)
    | replay => exact absurd (Option.some.inj letters) (by decide)
    | dlq => rfl

theorem Role.tokens_ne_nil (role : Role) : role.tokens ≠ [] := by
  cases role <;> exact List.cons_ne_nil _ _

theorem consumer_parts {otherRole : Role}
    (same : consumerID ++ dot :: role.suffix = other ++ dot :: otherRole.suffix) :
    consumerID = other ∧ role = otherRole := by
  have tokens := congrArg segments same
  rw [segments_append, segments_append, segments_suffix, segments_suffix] at tokens
  have last := congrArg List.getLast? tokens
  rw [List.getLast?_append_of_ne_nil _ role.tokens_ne_nil,
    List.getLast?_append_of_ne_nil _ otherRole.tokens_ne_nil] at last
  obtain rfl := role_of_last last
  exact ⟨segments_injective (List.append_cancel_right tokens), rfl⟩

theorem serviceTopic_parts {otherConsumer : Bytes} {otherRole : Role}
    (isTopic : serviceTopic source consumerID role = .ok topic)
    (isOther : serviceTopic other otherConsumer otherRole = .ok topic) :
    source = other ∧ consumerID = otherConsumer ∧ role = otherRole := by
  obtain ⟨accepted, rfl⟩ := consumerTopic_ok (serviceTopic_ok isTopic)
  obtain ⟨otherAccepted, same⟩ := consumerTopic_ok (serviceTopic_ok isOther)
  obtain ⟨sources, rests⟩ := service_parts accepted otherAccepted same
  exact ⟨sources, consumer_parts rests⟩

theorem serviceTopic_not_source (isService : serviceTopic source consumerID role = .ok topic) :
    topicOf namespaceName kind name version ≠ .ok topic := by
  intro isTopic
  obtain ⟨_, rfl⟩ := consumerTopic_ok (serviceTopic_ok isService)
  apply topic_without_service isTopic
  rw [segments_service]
  exact List.mem_append_right _ (.head _)

/-- Kafka names do not collide: topics tell their descriptors, service topics
and groups tell their source topics and consumers, and no source topic is a
service topic. -/
theorem names_tell_their_parts :
    (∀ namespaceName otherNamespace kind otherKind name other version otherVersion topic,
      topicOf namespaceName kind name version = .ok topic →
      topicOf otherNamespace otherKind other otherVersion = .ok topic →
      namespaceName = otherNamespace ∧ kind = otherKind ∧ name = other ∧ version = otherVersion) ∧
    (∀ source otherSource consumerID otherConsumer role otherRole topic,
      serviceTopic source consumerID role = .ok topic →
      serviceTopic otherSource otherConsumer otherRole = .ok topic →
      source = otherSource ∧ consumerID = otherConsumer ∧ role = otherRole) ∧
    (∀ source consumerID role namespaceName kind name version topic,
      serviceTopic source consumerID role = .ok topic →
      topicOf namespaceName kind name version ≠ .ok topic) ∧
    (∀ source otherSource consumerID otherConsumer group,
      consumerGroup source consumerID = .ok group →
      consumerGroup otherSource otherConsumer = .ok group →
      source = otherSource ∧ consumerID = otherConsumer) := by
  refine ⟨?_, ?_, ?_, ?_⟩
  · intro _ _ _ _ _ _ _ _ _ isTopic isOther
    exact topic_parts isTopic isOther
  · intro _ _ _ _ _ _ _ isTopic isOther
    exact serviceTopic_parts isTopic isOther
  · intro _ _ _ _ _ _ _ _ isService
    exact serviceTopic_not_source isService
  · intro _ _ _ _ _ isGroup isOther
    obtain ⟨accepted, rfl⟩ := consumerGroup_ok isGroup
    obtain ⟨otherAccepted, same⟩ := consumerGroup_ok isOther
    exact service_parts accepted otherAccepted same

/-- The dotted consumer IDs `a` and `a.retry` of one source. -/
theorem names_tell_their_parts_sample :
    let source := ofString "shop.event.retry.gmx.v1"
    let topic := ofString "shop.event.retry.gmx.v1.gm.a.retry.t0"
    retryTopic source (ofString "a") 0 = .ok topic ∧
        dlqTopic source (ofString "a.retry") ≠ .ok topic := by
  intro source topic
  have accepted : retryTopic source (ofString "a") 0 = .ok topic := by decide +kernel
  refine ⟨accepted, ?_⟩
  intro other
  have same := names_tell_their_parts.2.1 _ _ _ _ (.retry 0) .dlq _ accepted other
  exact absurd same.2.2 (by decide)

end Gomessenger.KafkaWire
