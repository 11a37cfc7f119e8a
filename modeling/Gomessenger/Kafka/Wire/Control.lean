import Gomessenger.Kafka.Wire.Record
import Gomessenger.Kafka.Wire.TopicNames
import Gomessenger.Messenger.ReplayID

/-! The control headers that a record carries from hop to hop. -/

namespace Gomessenger.KafkaWire

open Utf8 Rfc3339 Strings Fallible
open Json (intText)
open Messenger (trimmed invalidMessage replayIDPrefix)

def headerSourceTopic : Bytes := ofString "gomessenger-source-topic"

def headerSourcePartition : Bytes := ofString "gomessenger-source-partition"

def headerSourceOffset : Bytes := ofString "gomessenger-source-offset"

def headerAttempt : Bytes := ofString "gomessenger-attempt"

def headerNotBefore : Bytes := ofString "gomessenger-not-before"

def headerAttemptGeneration : Bytes := ofString "gomessenger-attempt-generation"

def reservedHeaders : List Bytes :=
  [headerSourceTopic, headerSourcePartition, headerSourceOffset, headerAttempt, headerNotBefore,
    headerAttemptGeneration]

structure SourcePosition where
  topic : Bytes
  partition : Int32
  offset : Int64
  deriving DecidableEq

structure ControlMetadata where
  source : SourcePosition
  attempt : UInt64
  notBefore : Stamp
  attemptGeneration : Bytes
  deriving DecidableEq

def sourceControl (record : Record) : ControlMetadata :=
  ⟨⟨record.topic, record.partition, record.offset⟩, 0, .zero, []⟩

abbrev HeaderValues := List (Bytes × Bytes)

def HeaderValues.get (values : HeaderValues) (name : Bytes) : Bytes := (values.lookup name).getD []

def collectHeaders : List RecordHeader → HeaderValues → Except GoError HeaderValues
  | [], values => .ok values
  | header :: rest, values =>
    let key := toLower header.key
    if key ∉ reservedHeaders then .error (invalidMessage "unexpected Kafka record header")
    else if (values.lookup key).isSome then .error (invalidMessage "duplicate Kafka record header")
    else if 512 < header.value.length then
      .error (invalidMessage "Kafka control header is too large")
    else collectHeaders rest (values ++ [(key, header.value)])

def controlPartition (text : Bytes) : Except GoError Int32 :=
  match parseInt 32 text with
  | some value =>
    if value < 0 then .error (invalidMessage "invalid source partition") else .ok (.ofInt value)
  | none => .error (invalidMessage "invalid source partition")

def controlOffset (text : Bytes) : Except GoError Int64 :=
  match parseInt 64 text with
  | some value =>
    if value < 0 then .error (invalidMessage "invalid source offset") else .ok (.ofInt value)
  | none => .error (invalidMessage "invalid source offset")

def controlAttempt (text : Bytes) : Except GoError UInt64 :=
  match parseUint 64 text with
  | some value => .ok (.ofNat value)
  | none => .error (invalidMessage "invalid handler attempt")

def controlNotBefore (text : Bytes) : Except GoError Stamp :=
  if text = [] then .ok .zero
  else match parse true text with
    | some stamp => .ok stamp.utc
    | none => .error (invalidMessage "invalid retry not-before")

def requiredHeaders : List Bytes :=
  [headerSourceTopic, headerSourcePartition, headerSourceOffset, headerAttempt]

def readControl (values : HeaderValues) : Except GoError ControlMetadata := do
  if requiredHeaders.any (fun name => values.get name == []) then
    throw (invalidMessage "missing Kafka control header")
  validateTopicName (values.get headerSourceTopic)
  let partition ← controlPartition (values.get headerSourcePartition)
  let offset ← controlOffset (values.get headerSourceOffset)
  let attempt ← controlAttempt (values.get headerAttempt)
  let notBefore ← controlNotBefore (values.get headerNotBefore)
  let generation := values.get headerAttemptGeneration
  if trimmed generation = false ∨ 128 < generation.length then
    throw (invalidMessage "invalid attempt generation")
  return ⟨⟨values.get headerSourceTopic, partition, offset⟩, attempt, notBefore, generation⟩

def decodeControlHeaders (headers : List RecordHeader) : Except GoError ControlMetadata := do
  let values ← collectHeaders headers []
  readControl values

def parseControl (record : Record) (sourceTopic replayTopic : Bytes) (retryTopics : List Bytes) :
    Except GoError ControlMetadata :=
  if record.topic = sourceTopic then
    if record.headers.any (fun header => reservedHeaders.contains (toLower header.key)) then
      .error (invalidMessage "reserved control header on source topic")
    else .ok (sourceControl record)
  else if record.topic = replayTopic then do
    let metadata ← decodeControlHeaders record.headers
    if replayIDPrefix.isPrefixOf metadata.attemptGeneration = false then
      throw (invalidMessage "replay has no valid attempt generation")
    return metadata
  else if record.topic ∉ retryTopics then .error (invalidMessage "unexpected consumer topic")
  else decodeControlHeaders record.headers

def controlHeaders (metadata : ControlMetadata) : List RecordHeader :=
  [⟨headerSourceTopic, metadata.source.topic⟩,
    ⟨headerSourcePartition, intText metadata.source.partition.toInt⟩,
    ⟨headerSourceOffset, intText metadata.source.offset.toInt⟩,
    ⟨headerAttempt, Decimal.text metadata.attempt.toNat⟩] ++
  (if metadata.notBefore.isZero then [] else [⟨headerNotBefore, display metadata.notBefore⟩]) ++
  (if metadata.attemptGeneration = [] then []
    else [⟨headerAttemptGeneration, metadata.attemptGeneration⟩])

section RoundTrip

/-- Control metadata that a consumer accepts, but for the time. -/
structure ControlMetadata.Legal (metadata : ControlMetadata) : Prop where
  topic : validateTopicName metadata.source.topic = .ok ()
  partition : 0 ≤ metadata.source.partition.toInt
  offset : 0 ≤ metadata.source.offset.toInt
  trimmed : trimmed metadata.attemptGeneration = true
  short : metadata.attemptGeneration.length ≤ 128

/-- Control metadata that a consumer accepts back from its headers. -/
structure ControlMetadata.Writable (metadata : ControlMetadata) : Prop extends metadata.Legal where
  notBefore : metadata.notBefore.isZero = true ∨ (format metadata.notBefore.utc).isSome = true

theorem collectHeaders_written {headers : List RecordHeader} {values : HeaderValues}
    (names : ∀ header ∈ headers, toLower header.key = header.key ∧ header.key ∈ reservedHeaders ∧
      header.value.length ≤ 512)
    (distinct : (headers.map RecordHeader.key).Nodup)
    (fresh : ∀ header ∈ headers, values.lookup header.key = none) :
    collectHeaders headers values = .ok (values ++
      headers.map (fun header => (header.key, header.value))) := by
  induction headers generalizing values with
  | nil => rw [collectHeaders, List.map_nil, List.append_nil]
  | cons header rest ih =>
    obtain ⟨lower, reserved, short⟩ := names header (.head _)
    obtain ⟨apart, distinct⟩ := List.nodup_cons.mp distinct
    have absent := fresh header (.head _)
    have later : ∀ other ∈ rest, (values ++ [(header.key, header.value)]).lookup other.key =
        none := by
      intro other member
      rw [List.lookup_append, fresh other (.tail _ member), Option.none_or, List.lookup_eq_none_iff]
      intro entry single
      rw [List.mem_singleton.mp single, bne_iff_ne]
      intro same
      exact apart (List.mem_map.mpr ⟨other, member, same⟩)
    rw [collectHeaders, lower, if_neg (not_not.mpr reserved), absent, if_neg (by decide),
      if_neg (Nat.not_lt.mpr short), ih (fun other member => names other (.tail _ member))
        distinct later, List.append_assoc]
    rfl

theorem validateTopicName_ok {topic : Bytes} (accepted : validateTopicName topic = .ok ()) :
    topic ≠ [] ∧ topic.length ≤ 249 := by
  unfold validateTopicName at accepted
  obtain ⟨_, identifier, _⟩ := bind_ok.mp accepted
  unfold validateKafkaIdentifier at identifier
  split at identifier
  · cases identifier
  next fields =>
    simp only [not_or, Nat.not_lt] at fields
    exact ⟨fun empty => fields.1 (by rw [empty]; rfl), fields.2.1⟩

def headerEntries (headers : List RecordHeader) : HeaderValues :=
  headers.map (fun header => (header.key, header.value))

theorem controlHeaders_get (metadata : ControlMetadata) :
    let values := headerEntries (controlHeaders metadata)
    values.get headerSourceTopic = metadata.source.topic ∧
      values.get headerSourcePartition = intText metadata.source.partition.toInt ∧
      values.get headerSourceOffset = intText metadata.source.offset.toInt ∧
      values.get headerAttempt = Decimal.text metadata.attempt.toNat ∧
      values.get headerNotBefore =
        (if metadata.notBefore.isZero then [] else display metadata.notBefore) ∧
      values.get headerAttemptGeneration = metadata.attemptGeneration := by
  unfold controlHeaders
  by_cases zero : metadata.notBefore.isZero = true
  · by_cases empty : metadata.attemptGeneration = []
    · rw [if_pos zero, if_pos empty]
      exact ⟨rfl, rfl, rfl, rfl, by rw [if_pos zero]; rfl, empty.symm⟩
    · rw [if_pos zero, if_neg empty]
      exact ⟨rfl, rfl, rfl, rfl, by rw [if_pos zero]; rfl, rfl⟩
  · by_cases empty : metadata.attemptGeneration = []
    · rw [if_neg zero, if_pos empty]
      exact ⟨rfl, rfl, rfl, rfl, by rw [if_neg zero]; rfl, empty.symm⟩
    · rw [if_neg zero, if_neg empty]
      exact ⟨rfl, rfl, rfl, rfl, by rw [if_neg zero]; rfl, rfl⟩

theorem controlHeaders_keys (metadata : ControlMetadata) :
    ((controlHeaders metadata).map RecordHeader.key).Sublist reservedHeaders := by
  have front : [headerSourceTopic, headerSourcePartition, headerSourceOffset, headerAttempt].Sublist
      [headerSourceTopic, headerSourcePartition, headerSourceOffset, headerAttempt] :=
        List.Sublist.refl _
  have optional : ∀ (left : Prop) [Decidable left] (name value : Bytes),
      ((if left then [] else [(⟨name, value⟩ : RecordHeader)]).map RecordHeader.key).Sublist
          [name] := by
    intro left _ name value
    split
    · exact List.nil_sublist _
    · exact List.Sublist.refl _
  rw [controlHeaders, List.map_append, List.map_append]
  exact (front.append (optional _ headerNotBefore _)).append (optional _ headerAttemptGeneration _)

variable {metadata : ControlMetadata}

theorem controlHeaders_short (writable : metadata.Writable) :
    ∀ header ∈ controlHeaders metadata, header.value.length ≤ 512 := by
  have topic := (validateTopicName_ok writable.topic).2
  have partition : (intText metadata.source.partition.toInt).length ≤ 21 :=
    intText_length (by decide)
      (by
        have := metadata.source.partition.toInt_lt
        have := metadata.source.partition.le_toInt
        omega)
  have offset : (intText metadata.source.offset.toInt).length ≤ 21 :=
    intText_length (by decide)
      (by have := metadata.source.offset.toInt_lt; have := metadata.source.offset.le_toInt; omega)
  have attempt : (Decimal.text metadata.attempt.toNat).length ≤ 20 :=
    text_length (by decide) (by have := metadata.attempt.toNat_lt; omega)
  rw [controlHeaders]
  intro header member
  rcases List.mem_append.mp member with member | last
  · rcases List.mem_append.mp member with first | middle
    · simp only [List.mem_cons, List.not_mem_nil, or_false] at first
      rcases first with rfl | rfl | rfl | rfl
      · exact Nat.le_trans topic (by decide)
      · exact Nat.le_trans partition (by decide)
      · exact Nat.le_trans offset (by decide)
      · exact Nat.le_trans attempt (by decide)
    · split at middle
      · exact absurd middle List.not_mem_nil
      next nonzero =>
        rw [List.mem_singleton.mp middle]
        obtain ⟨text, formatted⟩ := Option.isSome_iff_exists.mp
          (writable.notBefore.resolve_left nonzero)
        exact Nat.le_trans (display_length formatted) (by decide)
  · split at last
    · exact absurd last List.not_mem_nil
    · rw [List.mem_singleton.mp last]
      exact Nat.le_trans writable.short (by decide)

theorem controlHeaders_collected (writable : metadata.Writable) :
    collectHeaders (controlHeaders metadata)
    [] = .ok (headerEntries (controlHeaders metadata)) := by
  have lowered : ∀ name ∈ reservedHeaders, toLower name = name := by decide +kernel
  have keys := controlHeaders_keys metadata
  apply collectHeaders_written
  · intro header member
    have reserved := keys.subset (List.mem_map_of_mem member)
    exact ⟨lowered _ reserved, reserved, controlHeaders_short writable header member⟩
  · exact List.Nodup.sublist keys (by decide +kernel)
  · exact fun _ _ => rfl

theorem controlPartition_text {partition : Int32} (above : 0 ≤ partition.toInt) :
    controlPartition (intText partition.toInt) = .ok partition := by
  rw [controlPartition, parseInt_intText 32 partition.le_toInt partition.toInt_lt]
  simp only [if_neg (Int.not_lt.mpr above), Int32.ofInt_toInt]

theorem controlOffset_text {offset : Int64} (above : 0 ≤ offset.toInt) :
    controlOffset (intText offset.toInt) = .ok offset := by
  rw [controlOffset, parseInt_intText 64 offset.le_toInt offset.toInt_lt]
  simp only [if_neg (Int.not_lt.mpr above), Int64.ofInt_toInt]

theorem controlAttempt_text (attempt : UInt64) :
    controlAttempt (Decimal.text attempt.toNat) = .ok attempt := by
  rw [controlAttempt, parseUint_text 64 attempt.toNat_lt]
  simp only [UInt64.ofNat_toNat]

theorem controlNotBefore_text {stamp : Stamp}
    (shown : stamp.isZero = true ∨ (format stamp.utc).isSome = true) :
    controlNotBefore (if stamp.isZero then [] else display stamp) = .ok stamp.utc := by
  by_cases zero : stamp.isZero = true
  · rw [if_pos zero, controlNotBefore, if_pos rfl, Stamp.utc, beq_iff_eq.mp zero]
    rfl
  · obtain ⟨text, formatted⟩ := Option.isSome_iff_exists.mp (shown.resolve_left zero)
    rw [if_neg zero, controlNotBefore, if_neg (display_ne_nil stamp), display_of_format formatted,
      parse_format true formatted]
    rfl

/-- Control metadata are read back from their headers, with the time in UTC. -/
theorem decodeControlHeaders_written (writable : metadata.Writable) :
    decodeControlHeaders (controlHeaders metadata) =
      .ok { metadata with notBefore := metadata.notBefore.utc } := by
  obtain ⟨topic, partition, offset, attempt, notBefore, generation⟩ := controlHeaders_get metadata
  have required : requiredHeaders.any
      (fun name => (headerEntries (controlHeaders metadata)).get name == []) = false := by
    simp only [requiredHeaders, List.any_cons, List.any_nil, topic, partition, offset, attempt,
      Bool.or_false, Bool.or_eq_false_iff, beq_eq_false_iff_ne]
    exact ⟨(validateTopicName_ok writable.topic).1, intText_ne_nil _,
      intText_ne_nil _, text_ne_nil _⟩
  have legal : ¬ (trimmed metadata.attemptGeneration = false ∨
      128 < metadata.attemptGeneration.length) := by
    rw [writable.trimmed]
    exact fun illegal => illegal.elim (by decide) (Nat.not_lt.mpr writable.short)
  refine bind_ok.mpr ⟨_, controlHeaders_collected writable, ?_⟩
  unfold readControl
  rw [topic, partition, offset, attempt, notBefore, generation]
  refine check_ok.mpr ⟨by rw [required]; decide, bind_ok.mpr ⟨(), writable.topic, ?_⟩⟩
  refine bind_ok.mpr ⟨_, controlPartition_text writable.partition, ?_⟩
  refine bind_ok.mpr ⟨_, controlOffset_text writable.offset, ?_⟩
  refine bind_ok.mpr ⟨_, controlAttempt_text metadata.attempt, ?_⟩
  refine bind_ok.mpr ⟨_, controlNotBefore_text writable.notBefore, ?_⟩
  exact check_ok.mpr ⟨legal, rfl⟩

end RoundTrip

section Accepted

theorem controlPartition_ok {text : Bytes} {partition : Int32}
    (accepted : controlPartition text = .ok partition) :
    0 ≤ partition.toInt := by
  unfold controlPartition at accepted
  split at accepted
  next value parsed =>
    obtain ⟨low, high⟩ := parseInt_bounds parsed
    split at accepted
    · cases accepted
    next above =>
      rw [← Except.ok.inj accepted, Int32.toInt_ofInt_of_le low high]
      exact Int.not_lt.mp above
  · cases accepted

theorem controlOffset_ok {text : Bytes} {offset : Int64}
    (accepted : controlOffset text = .ok offset) :
    0 ≤ offset.toInt := by
  unfold controlOffset at accepted
  split at accepted
  next value parsed =>
    obtain ⟨low, high⟩ := parseInt_bounds parsed
    split at accepted
    · cases accepted
    next above =>
      rw [← Except.ok.inj accepted, Int64.toInt_ofInt_of_le low high]
      exact Int.not_lt.mp above
  · cases accepted

variable {metadata : ControlMetadata}

theorem decodeControlHeaders_ok {headers : List RecordHeader}
    (accepted : decodeControlHeaders headers = .ok metadata) : metadata.Legal := by
  obtain ⟨values, _, accepted⟩ := bind_ok.mp accepted
  unfold readControl at accepted
  obtain ⟨_, accepted⟩ := check_ok.mp accepted
  obtain ⟨_, topic, accepted⟩ := bind_ok.mp accepted
  obtain ⟨partition, isPartition, accepted⟩ := bind_ok.mp accepted
  obtain ⟨offset, isOffset, accepted⟩ := bind_ok.mp accepted
  obtain ⟨attempt, _, accepted⟩ := bind_ok.mp accepted
  obtain ⟨notBefore, _, accepted⟩ := bind_ok.mp accepted
  obtain ⟨generation, accepted⟩ := check_ok.mp accepted
  simp only [not_or, Bool.not_eq_false, Nat.not_lt] at generation
  rw [← Except.ok.inj accepted]
  exact ⟨topic, controlPartition_ok isPartition, controlOffset_ok isOffset,
    generation.1, generation.2⟩

/-- What a consumer's record is accepted with is legal, where the broker counts
the source's partitions and offsets from zero. -/
theorem parseControl_ok {record : Record} {sourceTopic replayTopic : Bytes}
    {retryTopics : List Bytes}
    (accepted : parseControl record sourceTopic replayTopic retryTopics = .ok metadata)
    (isTopic : validateTopicName sourceTopic = .ok ())
    (delivered : record.topic = sourceTopic → 0 ≤ record.partition.toInt ∧
      0 ≤ record.offset.toInt) :
    metadata.Legal := by
  unfold parseControl at accepted
  split at accepted
  next onSource =>
    split at accepted
    · cases accepted
    · rw [← Except.ok.inj accepted]
      have bare : trimmed [] = true := by decide
      exact ⟨(congrArg validateTopicName onSource).trans isTopic, (delivered onSource).1,
        (delivered onSource).2, bare, Nat.zero_le 128⟩
  · split at accepted
    · obtain ⟨held, isHeld, accepted⟩ := bind_ok.mp accepted
      obtain ⟨_, accepted⟩ := check_ok.mp accepted
      rw [← Except.ok.inj accepted]
      exact decodeControlHeaders_ok isHeld
    · split at accepted
      · cases accepted
      · exact decodeControlHeaders_ok accepted

end Accepted

end Gomessenger.KafkaWire
