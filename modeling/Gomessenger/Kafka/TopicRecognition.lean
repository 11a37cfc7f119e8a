import Gomessenger.Kafka.Topology
import Gomessenger.Lib.StringSearch

/-! The names that are recognized are the names that are made. -/

namespace Gomessenger.KafkaTopology

open Utf8 Dotted Fallible KafkaWire
open Json (intText)
open Messenger (Kind Metadata kind_plain versionToken versionToken_plain
  visibleByte trimmed_visible)

section Source

variable {namespaceName name topic : Bytes} {kind : Kind} {version : Int64}

theorem topicOf_fields (accepted : topicOf namespaceName kind name version = .ok topic) :
    name ≠ [] ∧ 0 < version.toInt := by
  unfold topicOf at accepted
  obtain ⟨_, _, accepted⟩ := bind_ok.mp accepted
  obtain ⟨fields, _⟩ := check_ok.mp accepted
  simp only [not_or, not_le] at fields
  exact fields.2

theorem segment_between (left right : Bytes) {middle : Bytes} (plain : dot ∉ middle) :
    middle ∈ segments (left ++ dot :: middle) ∧ middle ∈
      segments (left ++ dot :: (middle ++ dot :: right)) := by
  rw [segments_append, segments_append, segments_append, segments_plain plain]
  simp

theorem marker_first (unreserved : ∀ segment ∈ segments namespaceName,
    reservedSegment segment = false)
    (wire : kind.validWire = true) (tail : Bytes) (earlier : Nat)
    (before : earlier < namespaceName.length) :
    (kindMarker kind).isPrefixOf ((namespaceName ++
      dot :: (kind.text ++ dot :: tail)).drop earlier) = false := by
  by_contra found
  rw [Bool.not_eq_false, List.isPrefixOf_iff_prefix] at found
  obtain ⟨rest, split⟩ := found
  have plain := kind_plain kind wire
  have reserved : reservedSegment kind.text = true := by
    rw [reservedSegment, Bool.or_eq_true]
    exact .inl (kindSegment_text wire)
  have absent : kind.text ∉ segments namespaceName := fun member => by
    rw [unreserved _ member] at reserved
    exact absurd reserved (by decide)
  have whole : namespaceName = namespaceName.take earlier ++ namespaceName.drop earlier :=
    (List.take_append_drop ..).symm
  rw [List.drop_append_of_le_length (by omega)] at split
  cases more : namespaceName.drop earlier with
  | nil =>
    have short := congrArg List.length more
    rw [List.length_drop, List.length_nil] at short
    omega
  | cons byte between =>
    rw [more] at split whole
    obtain ⟨rfl, follows⟩ := List.cons.inj split
    change kind.text ++ [dot] ++ rest = between ++ dot :: (kind.text ++ dot :: tail) at follows
    rw [List.append_assoc, List.append_eq_append_iff] at follows
    rcases follows with ⟨extra, longer, ends⟩ | ⟨extra, shorter, ends⟩
    · cases extra with
      | nil =>
        rw [longer, List.append_nil] at whole
        exact absent (whole ▸ (segment_between _ [] plain).1)
      | cons first extra =>
        obtain ⟨rfl, _⟩ := List.cons.inj ends
        rw [longer] at whole
        exact absent (whole ▸ (segment_between _ extra plain).2)
    · cases extra with
      | nil =>
        rw [List.append_nil] at shorter
        rw [← shorter] at whole
        exact absent (whole ▸ (segment_between _ [] plain).1)
      | cons first extra =>
        obtain ⟨rfl, _⟩ := List.cons.inj ends
        exact plain (by rw [shorter]; simp)

theorem version_last (name : Bytes) (version : Int64) (later : Nat) (after : name.length < later) :
    (ofString ".v").isPrefixOf ((name ++ dot :: versionToken version).drop later) = false := by
  by_contra found
  rw [Bool.not_eq_false, List.isPrefixOf_iff_prefix] at found
  obtain ⟨rest, split⟩ := found
  have member : dot ∈ (name ++ dot :: versionToken version).drop later := by
    rw [← split]
    exact List.mem_append_left _ (by decide)
  rw [List.drop_append, List.drop_of_length_le (by omega), List.nil_append] at member
  obtain ⟨steps, isSteps⟩ : ∃ steps, later - name.length = steps + 1 :=
    ⟨later - name.length - 1, by omega⟩
  rw [isSteps, List.drop_succ_cons] at member
  exact versionToken_plain version (List.mem_of_mem_drop member)

theorem topicFrom_finds (isTopic : topicOf namespaceName kind name version = .ok topic) :
    topicFrom topic kind 0 = true := by
  obtain ⟨unreserved, wire, _, _⟩ := topicOf_ok isTopic
  have filled := topicOf_fields isTopic
  have spelt : topic = namespaceName ++ dot :: (kind.text ++
      dot :: (name ++ dot :: versionToken version)) := by
    rw [topicOf_spelt isTopic, List.append_assoc name]
    rfl
  have marked : topic = (namespaceName ++ kindMarker kind) ++
      (name ++ dot :: versionToken version) := by
    rw [spelt, kindMarker]
    simp [dot]
  have located : Strings.index (topic.drop 0) (kindMarker kind) = some namespaceName.length := by
    rw [List.drop_zero]
    refine Strings.index_eq (by rw [spelt, List.length_append]; omega) ?_ ?_
    · rw [marked, List.append_assoc, List.drop_left, List.isPrefixOf_iff_prefix]
      exact List.prefix_append ..
    · intro earlier before
      rw [spelt]
      exact marker_first unreserved wire _ earlier before
  have versioned : Strings.lastIndex (name ++ dot :: versionToken version)
      (ofString ".v") = some name.length := by
    refine Strings.lastIndex_eq (by rw [List.length_append]; omega) ?_ (version_last name version)
    rw [List.drop_left, List.isPrefixOf_iff_prefix]
    exact ⟨intText version.toInt, rfl⟩
  have parsed : Strings.parseInt 64 ((name ++ dot :: versionToken version).drop (name.length + 2)) =
      some version.toInt := by
    rw [List.drop_append, List.drop_of_length_le (by omega), List.nil_append,
      show name.length + 2 - name.length = 2 by omega]
    exact Strings.parseInt_intText 64 version.le_toInt version.toInt_lt
  have around : topicAround topic kind namespaceName (name ++
      dot :: versionToken version) = true := by
    simp only [topicAround, versioned, parsed, List.take_left, Int64.ofInt_toInt, isTopic,
      decide_true, Bool.and_true, Bool.and_eq_true, decide_eq_true_eq]
    exact ⟨List.length_pos_iff.mpr filled.1, filled.2⟩
  have inside : 0 < topic.length := by
    rw [spelt, List.length_append, List.length_cons]
    omega
  rw [topicFrom, dif_pos inside, located]
  have before : topic.take (0 + namespaceName.length) = namespaceName := by
    rw [Nat.zero_add, marked, List.append_assoc, List.take_left]
  have behind : topic.drop (0 + namespaceName.length + (kindMarker kind).length) =
      name ++ dot :: versionToken version := by
    rw [Nat.zero_add, marked, ← List.length_append, List.drop_left]
  simp only [before, behind, around, Bool.true_or]

theorem validateSourceTopicName_iff : validateSourceTopicName topic = .ok () ↔
      ∃ namespaceName kind name version, topicOf namespaceName kind name version = .ok topic := by
  refine ⟨validateSourceTopicName_ok, ?_⟩
  rintro ⟨namespaceName, kind, name, version, isTopic⟩
  have found := topicFrom_finds isTopic
  have searched : (topicFrom topic .command 0 || topicFrom topic .event 0) = true := by
    cases kind with
    | command => rw [found, Bool.true_or]
    | event => rw [found, Bool.or_true]
    | query => exact absurd (topicOf_ok isTopic).2.1 (by decide)
    | other text => exact absurd (topicOf_ok isTopic).2.1 (by simp [Kind.validWire])
  rw [validateSourceTopicName, if_pos searched]

end Source

theorem identifier_visible {byte : UInt8} (identifier : kafkaIdentifierByte byte = true) :
    visibleByte byte = true := by
  simp only [kafkaIdentifierByte, visibleByte, Bool.or_eq_true, Bool.and_eq_true, decide_eq_true_eq,
    beq_iff_eq, UInt8.le_iff_toNat_le, UInt8.lt_iff_toNat_lt] at identifier ⊢
  rcases identifier with (((lower | upper) | digit) | rfl) | rfl
  · exact ⟨Nat.le_trans (by decide) lower.1, Nat.lt_of_le_of_lt lower.2 (by decide)⟩
  · exact ⟨Nat.le_trans (by decide) upper.1, Nat.lt_of_le_of_lt upper.2 (by decide)⟩
  · exact ⟨Nat.le_trans (by decide) digit.1, Nat.lt_of_le_of_lt digit.2 (by decide)⟩
  · decide
  · decide

theorem validateTopicName_front {front back : Bytes}
    (accepted : validateTopicName (front ++ back) = .ok ())
    (long : 2 < front.length) : validateTopicName front = .ok () := by
  have short := (validateTopicName_ok accepted).2
  have bytes := validateTopicName_bytes accepted
  rw [List.all_append, Bool.and_eq_true] at bytes
  have trimmed : Messenger.trimmed front = true :=
    trimmed_visible (List.all_eq_true.mpr fun byte member =>
    identifier_visible (List.all_eq_true.mp bytes.1 byte member))
  rw [List.length_append] at short
  have fields : ¬ (front.length = 0 ∨ maxKafkaNameBytes < front.length ∨
      Messenger.trimmed front = false) := by
    rw [trimmed, maxKafkaNameBytes]
    simp only [Bool.true_eq_false, or_false]
    omega
  have single : ¬ (front = ofString "." ∨ front = ofString "..") := by
    rintro (rfl | rfl)
    · exact absurd long (by decide)
    · exact absurd long (by decide)
  rw [validateTopicName, validateKafkaIdentifier, if_neg fields, if_pos bytes.1, if_neg single]
  rfl

theorem retryTierFromTopic_iff (name source consumerID : Bytes) (tier : Int64) :
    retryTierFromTopic name source consumerID = .ok tier ↔
      retryTopic source consumerID tier = .ok name := by
  constructor
  · intro accepted
    unfold retryTierFromTopic at accepted
    obtain ⟨stem, _, accepted⟩ := bind_ok.mp accepted
    obtain ⟨_, accepted⟩ := check_ok.mp accepted
    cases parsed : Strings.parseInt 64 (name.drop stem.length) with
    | none =>
      rw [parsed] at accepted
      cases accepted
    | some number =>
      rw [parsed] at accepted
      obtain ⟨_, accepted⟩ := check_ok.mp accepted
      obtain ⟨made, accepted⟩ := check_ok.mp accepted
      rw [← Except.ok.inj accepted]
      exact not_not.mp made
  · intro made
    have counted : ¬ tier.toInt < 0 := by
      intro negative
      rw [retryTopic, if_pos negative] at made
      cases made
    have isTopic : consumerTopic source consumerID (ofString "retry.t" ++
        intText tier.toInt) = .ok name := by
      rw [retryTopic, if_neg counted] at made
      exact made
    have spelt : name = source ++ serviceMarker ++ consumerID ++ dot :: ofString "retry.t" ++
        intText tier.toInt := by
      rw [(consumerTopic_ok isTopic).2]
      simp
    -- The stem is shorter than the name it begins, so it passes the length check as well.
    have stem : consumerTopic source consumerID (ofString "retry.t") =
        .ok (source ++ serviceMarker ++ consumerID ++ dot :: ofString "retry.t") := by
      have named := consumerTopic_named isTopic
      rw [spelt] at named
      have front := validateTopicName_front named (by
        simp only [List.length_append, List.length_cons]
        have letters : (ofString "retry.t").length = 7 := by decide
        omega)
      unfold consumerTopic
      rw [(consumerTopic_ok isTopic).1, consumerTopic_consumer isTopic]
      change (do validateTopicName _; return _) = _
      rw [show validateTopicName (source ++ serviceMarker ++ consumerID ++
        0x2e :: ofString "retry.t") = .ok () from
        front]
      rfl
    have parsed : Strings.parseInt 64 (name.drop (source ++ serviceMarker ++ consumerID ++
        dot :: ofString "retry.t").length) = some tier.toInt := by
      rw [spelt, List.drop_left]
      exact Strings.parseInt_intText 64 tier.le_toInt tier.toInt_lt
    have begins : (source ++ serviceMarker ++ consumerID ++
        dot :: ofString "retry.t").isPrefixOf name = true := by
      rw [spelt, List.isPrefixOf_iff_prefix]
      exact List.prefix_append ..
    unfold retryTierFromTopic
    refine bind_ok.mpr ⟨_, stem, check_ok.mpr ⟨by rw [begins]; decide, ?_⟩⟩
    rw [parsed]
    refine check_ok.mpr ⟨counted, check_ok.mpr ⟨?_, ?_⟩⟩
    · rw [Int64.ofInt_toInt, not_not]
      exact made
    · rw [Int64.ofInt_toInt]
      rfl

theorem topic_names_are_recognized : (∀ name, validateSourceTopicName name = .ok () ↔
      ∃ namespaceName kind descriptor version,
        topicOf namespaceName kind descriptor version = .ok name) ∧
    (∀ name (metadata : Metadata), sourceTopicMatchesMetadata name metadata = .ok () ↔
      ∃ namespaceName, topicOf namespaceName metadata.kind metadata.name
        metadata.schemaVersion = .ok name) ∧
    ∀ name source consumerID tier, retryTierFromTopic name source consumerID = .ok tier ↔
      retryTopic source consumerID tier = .ok name := by
  refine ⟨fun _ => validateSourceTopicName_iff, ?_, retryTierFromTopic_iff⟩
  intro name metadata
  refine ⟨?_, fun ⟨_, isTopic⟩ => sourceTopicMatchesMetadata_ok isTopic⟩
  intro accepted
  simp only [sourceTopicMatchesMetadata] at accepted
  split_ifs at accepted with _ isTopic
  exact ⟨_, isTopic⟩

end Gomessenger.KafkaTopology
