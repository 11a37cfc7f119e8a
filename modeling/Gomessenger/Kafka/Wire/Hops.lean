import Gomessenger.Kafka.Wire.Consumer

/-! Retry hops: a record that is read from one of the consumer's topics and
written to a retry topic, by the single or by the batch consumer. -/

namespace Gomessenger.KafkaWire

open Utf8 Rfc3339 Fallible
open Inbox (Sha256)
open Messenger (DescriptorInfo Envelope Metadata invalidMessage
  canonicalizeEnvelope unmarshalEnvelope)

def retryTier (tiers : List Duration) (delay : Duration) : Nat :=
  match tiers.findIdx? (fun tier => delay ≤ tier) with
  | some index => index
  | none => tiers.length - 1

variable {T : Type}

/-- The record that a retry produces, before the broker gives it a position. -/
def retryTo (consumer : Consumer T) (record : Record) (canonical : Bytes)
    (control : ControlMetadata) (attempt : UInt64) (delay : Duration) (clock : Stamp) : Record where
  topic := consumer.retryTopics.getD (retryTier consumer.config.retryTiers delay) []
  partition := 0
  offset := 0
  key := record.key
  value := canonical
  headers := controlHeaders
    { control with attempt := attempt, notBefore := ⟨clock.nanos + delay, 0⟩ }
  timestamp := record.timestamp

def retryRecord (consumer : Consumer T) (record : Record) (canonical : Bytes)
    (control : ControlMetadata)
    (attempt : UInt64) (delay : Duration) (clock : Stamp) : Except GoError Record :=
  if delay ≤ 0 then .error (invalidMessage "non-positive durable retry delay")
  else .ok (retryTo consumer record canonical control attempt delay clock)

def batchDelay (settings : Consumer.Settings) (attempt : UInt64) (delay : Duration) : Duration :=
  if delay ≤ 0 then Consumer.Kafka.retryDelay settings (max 1 attempt.toNat) else delay

def makeKafkaBatchRetry (settings : Consumer.Settings) (consumer : Consumer T) (record : Record)
    (canonical : Bytes) (control : ControlMetadata) (attempt : UInt64)
    (delay : Duration) (clock : Stamp) :
    Except GoError Record :=
  if canonical = [] then .error (.text "messenger/kafka: retry outcome has no canonical envelope")
  else .ok (retryTo consumer record canonical control attempt
    (batchDelay settings attempt delay) clock)

inductive Mode
  | single
  | batch
  deriving DecidableEq

/-- The inputs of one hop: the clock at its three readings, the outcome of the
inbox call, the backoff, and the position the broker gives the retry. -/
structure Turn where
  mode : Mode
  seen : Stamp
  now : Stamp
  attempt : UInt64
  delay : Duration
  settings : Consumer.Settings
  clock : Stamp
  partition : Int32
  offset : Int64
  ordinary : clock.Ordinary
  delays : -2 ^ 63 ≤ delay ∧ delay < 2 ^ 63
  backoffs : ∀ attempt, -2 ^ 63 ≤ Consumer.Kafka.retryDelay settings attempt ∧
    Consumer.Kafka.retryDelay settings attempt < 2 ^ 63

def notReady (metadata : Metadata) (now : Stamp) : Bool :=
  !metadata.notBefore.isZero && decide (now.nanos < metadata.notBefore.nanos)

/-- The attempt and the delay of the retry; a message that is not ready keeps the
attempt it carries. -/
def Turn.outcome (turn : Turn) (control : ControlMetadata)
    (metadata : Metadata) : UInt64 × Duration :=
  if notReady metadata turn.now then (control.attempt, timeSub metadata.notBefore turn.now)
  else (turn.attempt, turn.delay)

def Turn.retry (turn : Turn) (consumer : Consumer T) (record : Record) (control : ControlMetadata)
    (decoded : DecodedMessage T) : Except GoError Record :=
  let outcome := turn.outcome control decoded.metadata
  match turn.mode with
  | .single => retryRecord consumer record decoded.canonical control outcome.1 outcome.2 turn.clock
  | .batch =>
    makeKafkaBatchRetry turn.settings consumer record decoded.canonical control outcome.1 outcome.2
      turn.clock

section Run

variable (urlParse : Bytes → Bool) (consumer : Consumer T)

/-- The record that a turn leaves on a retry topic; an error where the record is
dead-lettered or its partition paused. -/
def hop (record : Record) (turn : Turn) : Except GoError Record :=
  match prepareRecord urlParse consumer turn.seen record with
  | .failed _ _ err _ _ => .error err
  | .deferred _ _ => .error Kafka.errMessageNotReady
  | .ready control envelope => do
      let decoded ← decode urlParse consumer envelope
      if expired decoded.metadata turn.now then throw Kafka.errMessageExpired
      let retry ← turn.retry consumer record control decoded
      return { retry with partition := turn.partition, offset := turn.offset }

def hops (turns : List Turn) (record : Record) : Except GoError Record :=
  turns.foldlM (hop urlParse consumer) record

structure InboxKey where
  consumerID : Bytes
  source : Bytes
  messageID : MessageID
  attemptGeneration : Bytes
  deriving DecidableEq

variable {F : Type} [Sha256 F]

def inboxItem (control : ControlMetadata) (decoded : DecodedMessage T) : InboxKey × F :=
  (⟨consumer.config.consumerID, decoded.metadata.source, decoded.metadata.id,
    control.attemptGeneration⟩,
    Sha256.sum decoded.canonical)

end Run

section Hops

variable {urlParse : Bytes → Bool} {consumer : Consumer T}

theorem retryTier_lt {tiers : List Duration} (tiered : tiers ≠ []) (delay : Duration) :
    retryTier tiers delay < tiers.length := by
  unfold retryTier
  split
  next index found => exact (List.findIdx?_eq_some_iff_findIdx_eq.mp found).1
  · have := List.length_pos_iff.mpr tiered
    omega

theorem retryTo_topic (consumer : Consumer T) (record : Record) (canonical : Bytes)
    (control : ControlMetadata) (attempt : UInt64) (delay : Duration) (clock : Stamp) :
    (retryTo consumer record canonical control attempt delay clock).topic ∈
      consumer.retryTopics := by
  have inside := retryTier_lt consumer.tiered delay
  rw [← consumer.retryTopics_length] at inside
  simp only [retryTo, List.getD_eq_getElem?_getD, List.getElem?_eq_getElem inside, Option.getD_some]
  exact List.getElem_mem inside

theorem timeSub_bounds (left right : Stamp) : -2 ^ 63 ≤ timeSub left right ∧
    timeSub left right < 2 ^ 63 := by
  unfold timeSub
  omega

theorem Turn.outcome_bounds (turn : Turn) (control : ControlMetadata) (metadata : Metadata) :
    -2 ^ 63 ≤ (turn.outcome control metadata).2 ∧ (turn.outcome control metadata).2 < 2 ^ 63 := by
  unfold Turn.outcome
  split
  · exact timeSub_bounds _ _
  · exact turn.delays

variable {turn : Turn} {record retry : Record} {control : ControlMetadata}
    {decoded : DecodedMessage T}

theorem Turn.retry_ok (made : turn.retry consumer record control decoded = .ok retry) :
    ∃ delay, (-2 ^ 63 ≤ delay ∧ delay < 2 ^ 63) ∧ retry =
      retryTo consumer record decoded.canonical control
        (turn.outcome control decoded.metadata).1 delay turn.clock := by
  have bounds := turn.outcome_bounds control decoded.metadata
  simp only [Turn.retry] at made
  split at made
  · unfold retryRecord at made
    split at made
    · cases made
    · exact ⟨_, bounds, (Except.ok.inj made).symm⟩
  · unfold makeKafkaBatchRetry at made
    split at made
    · cases made
    · refine ⟨_, ?_, (Except.ok.inj made).symm⟩
      unfold batchDelay
      split
      · exact turn.backoffs _
      · exact bounds

theorem hop_ok (hopped : hop urlParse consumer record turn = .ok retry) :
    ∃ control envelope decoded delay, Readable urlParse consumer record control envelope ∧
      decode urlParse consumer envelope = .ok decoded ∧ (-2 ^ 63 ≤ delay ∧ delay < 2 ^ 63) ∧
      retry = { retryTo consumer record decoded.canonical control
        (turn.outcome control decoded.metadata).1 delay turn.clock with
          partition := turn.partition, offset := turn.offset } := by
  unfold hop at hopped
  split at hopped
  · cases hopped
  · cases hopped
  next control envelope prepared =>
    obtain ⟨decoded, isDecoded, hopped⟩ := bind_ok.mp hopped
    obtain ⟨_, hopped⟩ := check_ok.mp hopped
    obtain ⟨retry, made, hopped⟩ := bind_ok.mp hopped
    obtain ⟨delay, bounds, rfl⟩ := Turn.retry_ok made
    exact ⟨control, envelope, decoded, delay, prepareRecord_ready prepared, isDecoded, bounds,
      (Except.ok.inj hopped).symm⟩

theorem hop_topic (hopped : hop urlParse consumer record turn = .ok retry) :
    retry.topic ∈ consumer.retryTopics := by
  obtain ⟨control, _, decoded, delay, _, _, _, rfl⟩ := hop_ok hopped
  exact retryTo_topic consumer record decoded.canonical control
    (turn.outcome control decoded.metadata).1 delay turn.clock

/-- What a record on its way keeps of the record it started as. -/
structure Kept (urlParse : Bytes → Bool) (consumer : Consumer T) (first : Record)
    (control : ControlMetadata)
    (envelope : Envelope) (record : Record) (held : ControlMetadata) (found : Envelope) : Prop where
  readable : Readable urlParse consumer record held found
  source : held.source = control.source
  generation : held.attemptGeneration = control.attemptGeneration
  key : record.key = first.key
  canonical : canonicalizeEnvelope urlParse record.value = canonicalizeEnvelope urlParse first.value
  metadata : found.metadata.utc = envelope.metadata.utc

/-- Records on the source topic have a position the broker has given them. -/
def Delivered (consumer : Consumer T) (record : Record) : Prop :=
  record.topic = consumer.sourceTopic → 0 ≤ record.partition.toInt ∧ 0 ≤ record.offset.toInt

variable {envelope found : Envelope}

theorem validateEnvelopeDescriptor_again {descriptor : DescriptorInfo}
    (metadata : found.metadata = envelope.metadata.utc)
    (encoding : found.dataEncoding = envelope.dataEncoding)
    (described : validateEnvelopeDescriptor envelope descriptor = .ok ()) :
    validateEnvelopeDescriptor found descriptor = .ok () := by
  have kind : found.kind = envelope.kind := congrArg Metadata.kind metadata
  have name : found.name = envelope.name := congrArg Metadata.name metadata
  have version : found.schemaVersion = envelope.schemaVersion :=
    congrArg Metadata.schemaVersion metadata
  have contentType : found.contentType = envelope.contentType :=
    congrArg Metadata.contentType metadata
  have schema : found.schema = envelope.schema := congrArg Metadata.schema metadata
  unfold validateEnvelopeDescriptor at described ⊢
  rw [kind, name, version, contentType, schema, encoding]
  exact described

theorem retryTo_control (record : Record) (canonical : Bytes) (attempt : UInt64)
    {delay : Duration} {clock : Stamp} (partition : Int32) (offset : Int64) (legal : control.Legal)
    (ordinary : clock.Ordinary) (bounds : -2 ^ 63 ≤ delay ∧ delay < 2 ^ 63) :
    consumer.parseControl { retryTo consumer record canonical control attempt delay clock with
        partition := partition, offset := offset } =
      .ok { control with attempt := attempt, notBefore := ⟨clock.nanos + delay, 0⟩ } := by
  have member := retryTo_topic consumer record canonical control attempt delay clock
  obtain ⟨offSource, offReplay⟩ := consumer.retry_apart member
  have writable : ControlMetadata.Writable
      { control with attempt := attempt, notBefore := ⟨clock.nanos + delay, 0⟩ } :=
    { topic := legal.topic, partition := legal.partition, offset := legal.offset,
      trimmed := legal.trimmed,
      short := legal.short, notBefore := .inr (format_ordinary ordinary delay bounds.1 bounds.2) }
  rw [Consumer.parseControl, parseControl, if_neg offSource, if_neg offReplay,
    if_neg (not_not.mpr member)]
  exact decodeControlHeaders_written writable

variable {first : Record} {held : ControlMetadata}

/-- One hop: its record is read by the next consumer, keeps what its input kept,
and holds the canonical bytes. -/
theorem hop_kept (kept : Kept urlParse consumer first control envelope record held found)
    (delivered : Delivered consumer record)
    (hopped : hop urlParse consumer record turn = .ok retry) :
    ∃ carried next, Kept urlParse consumer first control envelope retry carried next ∧
      Delivered consumer retry ∧ canonicalizeEnvelope urlParse first.value = .ok retry.value ∧
      (notReady next.metadata turn.now = true → carried.attempt = held.attempt) := by
  obtain ⟨other, otherEnvelope, decoded, delay, readable, isDecoded, bounds, rfl⟩ := hop_ok hopped
  obtain rfl : other = held := Except.ok.inj (readable.isControl.symm.trans kept.readable.isControl)
  obtain rfl : otherEnvelope = found :=
    Except.ok.inj (readable.isEnvelope.symm.trans kept.readable.isEnvelope)
  have legal := parseControl_ok readable.isControl (topicOf_named consumer.isSource) delivered
  have canonical := readable.canonical isDecoded
  obtain ⟨stable, next, isNext, metadata, encoding⟩ :=
    Messenger.canonicalizeEnvelope_again readable.isEnvelope canonical
  have offSource := (consumer.retry_apart (retryTo_topic consumer record decoded.canonical other
    (turn.outcome other decoded.metadata).1 delay turn.clock)).1
  refine ⟨_, next,
    ⟨⟨retryTo_control record decoded.canonical _ turn.partition turn.offset legal turn.ordinary
    bounds, readable.source, isNext, validateEnvelopeDescriptor_again metadata encoding
      readable.described, ?_⟩,
    kept.source, kept.generation, kept.key, ?_, ?_⟩, fun onSource =>
      absurd onSource offSource, ?_, ?_⟩
  · rw [metadata]
    exact readable.keyed
  · exact stable.trans (canonical.symm.trans kept.canonical)
  · rw [metadata]
    exact kept.metadata
  · exact kept.canonical.symm.trans canonical
  · intro waits
    have sameTime : notReady decoded.metadata turn.now = true := by
      rw [(decode_ok isDecoded).1]
      rw [metadata] at waits
      exact waits
    simp [Turn.outcome, sameTime]

theorem hops_kept {last : Record}
    {turns : List Turn} (kept : Kept urlParse consumer first control envelope record held found)
    (delivered : Delivered consumer record) (ran : hops urlParse consumer turns record = .ok last) :
    Delivered consumer last ∧ ∃ carried next,
      Kept urlParse consumer first control envelope last carried next := by
  induction turns generalizing record held found with
  | nil =>
    obtain rfl : record = last := Except.ok.inj ran
    exact ⟨delivered, held, found, kept⟩
  | cons turn rest ih =>
    rw [hops, List.foldlM_cons] at ran
    obtain ⟨retry, hopped, ran⟩ := bind_ok.mp ran
    obtain ⟨_, _, kept, delivered, _⟩ := hop_kept kept delivered hopped
    exact ih kept delivered ran

theorem hops_first {turns : List Turn} (ran : hops urlParse consumer turns first = .ok record)
    (hopped : hop urlParse consumer record turn = .ok retry) :
    ∃ control envelope decoded, Readable urlParse consumer first control envelope ∧
      decode urlParse consumer envelope = .ok decoded := by
  obtain ⟨next, turn, hopped⟩ : ∃ next turn, hop urlParse consumer first turn = .ok next := by
    cases turns with
    | nil =>
      obtain rfl : first = record := Except.ok.inj ran
      exact ⟨_, _, hopped⟩
    | cons start rest =>
      rw [hops, List.foldlM_cons] at ran
      obtain ⟨next, hopped, _⟩ := bind_ok.mp ran
      exact ⟨next, start, hopped⟩
  obtain ⟨control, envelope, decoded, _, readable, isDecoded, _⟩ := hop_ok hopped
  exact ⟨control, envelope, decoded, readable, isDecoded⟩

theorem inboxItem_kept {F : Type} [Sha256 F] {again : DecodedMessage T}
    (readable : Readable urlParse consumer first control envelope)
    (kept : Kept urlParse consumer first control envelope record held found)
    (isDecoded : decode urlParse consumer envelope = .ok decoded)
    (isAgain : decode urlParse consumer found = .ok again) :
    (inboxItem consumer held again : InboxKey × F) = inboxItem consumer control decoded := by
  have source : found.metadata.source = envelope.metadata.source := by
    have same := congrArg Metadata.source kept.metadata
    exact same
  have id : found.metadata.id = envelope.metadata.id := by
    have same := congrArg Metadata.id kept.metadata
    exact same
  have canonical : again.canonical = decoded.canonical := Except.ok.inj
    ((kept.readable.canonical isAgain).symm.trans
      (kept.canonical.trans (readable.canonical isDecoded)))
  simp only [inboxItem, (decode_ok isAgain).1, (decode_ok isDecoded).1, source, id,
    kept.generation, canonical]

/-- Whatever the outcomes, the delays and the attempts, a record that has made any
number of hops is read by the next consumer with the source position, the
generation, the key, the inbox key and the fingerprint of the first record. -/
theorem retry_hops_keep_identity {F : Type} [Sha256 F] (urlParse : Bytes → Bool)
    (consumer : Consumer T) (first record retry : Record) (turns : List Turn) (turn : Turn)
    (delivered : 0 ≤ first.partition.toInt ∧ 0 ≤ first.offset.toInt)
    (ran : hops urlParse consumer turns first = .ok record)
    (hopped : hop urlParse consumer record turn = .ok retry) :
    ∃ control envelope decoded held carried next,
      Readable urlParse consumer first control envelope ∧
        decode urlParse consumer envelope = .ok decoded ∧
      (first.topic = consumer.sourceTopic → control = sourceControl first) ∧
      consumer.parseControl record = .ok held ∧ consumer.parseControl retry = .ok carried ∧
      (∀ now, prepareRecord urlParse consumer now retry = prepareTimed now carried next) ∧
      carried.source = control.source ∧ carried.attemptGeneration = control.attemptGeneration ∧
      retry.key = first.key ∧ canonicalizeEnvelope urlParse first.value = .ok retry.value ∧
      (∀ again, decode urlParse consumer next = .ok again →
        (inboxItem consumer carried again : InboxKey × F) = inboxItem consumer control decoded) ∧
      (notReady next.metadata turn.now = true → carried.attempt = held.attempt) := by
  obtain ⟨control, envelope, decoded, readable, isDecoded⟩ := hops_first ran hopped
  have start : Kept urlParse consumer first control envelope first control envelope :=
    ⟨readable, rfl, rfl, rfl, rfl, rfl⟩
  obtain ⟨stillDelivered, held, found, kept⟩ := hops_kept start (fun _ => delivered) ran
  obtain ⟨carried, next, keptNext, _, value, attempt⟩ := hop_kept kept stillDelivered hopped
  refine ⟨control, envelope, decoded, held, carried, next, readable, isDecoded, ?_,
    kept.readable.isControl, keptNext.readable.isControl, keptNext.readable.prepared,
    keptNext.source, keptNext.generation, keptNext.key, value,
    fun _ isAgain => inboxItem_kept readable keptNext isDecoded isAgain, attempt⟩
  intro onSource
  have isControl := readable.isControl
  rw [Consumer.parseControl, parseControl, if_pos onSource] at isControl
  split at isControl
  · cases isControl
  · exact (Except.ok.inj isControl).symm

def sampleRecord : Record :=
  { newRouteRecord (ofString "shop.event.order.v1") Messenger.sampleMetadata Messenger.respelt with
    partition := 3, offset := 41 }

def sampleSettings : Consumer.Settings := ⟨10, 1, 1, fun _ => none, Nat.succ_pos 9⟩

theorem sampleSettings_backoffs (attempt : Nat) :
    Consumer.Kafka.retryDelay sampleSettings attempt = 1 := by
  have single : Consumer.cappedDelay 1 1 attempt = 1 := by
    unfold Consumer.cappedDelay
    cases attempt - 1 <;> simp [Consumer.doubleDelay]
  simp [Consumer.Kafka.retryDelay, sampleSettings, single]

def sampleTurn : Turn where
  mode := .batch
  seen := ⟨63840000000000000000, 0⟩
  now := ⟨63840000000000000000, 0⟩
  attempt := 2
  delay := 0
  settings := sampleSettings
  clock := ⟨63840000000000000000, 0⟩
  partition := 0
  offset := 7
  ordinary := sampleClock_ordinary
  delays := by decide
  backoffs := by
    intro attempt
    rw [sampleSettings_backoffs]
    decide

theorem sampleTurn_hops :
    (hop (fun _ => true) sampleConsumer sampleRecord sampleTurn).toOption.isSome = true := by
  decide +kernel

def laterTurn : Turn :=
  { sampleTurn with
    mode := .single
    seen := ⟨63840000000000000060, 0⟩
    now := ⟨63840000000000000070, 0⟩
    attempt := 3
    delay := 2000000000
    clock := ⟨63840000000000000080, 0⟩
    offset := 9
    ordinary := by
      unfold Stamp.Ordinary
      decide +kernel
    delays := by decide }

-- the batch consumer takes the first hop, from the source topic; the single one the
-- second, from the retry topic
theorem sampleTurns_hop :
    ((hops (fun _ => true) sampleConsumer [sampleTurn] sampleRecord).bind
      (hop (fun _ => true) sampleConsumer · laterTurn)).toOption.isSome = true := by
  decide +kernel

theorem retry_hops_keep_identity_sample : ∃ record retry,
    hops (fun _ => true) sampleConsumer [sampleTurn] sampleRecord = .ok record ∧
      record.topic ∈ sampleConsumer.retryTopics ∧
      hop (fun _ => true) sampleConsumer record laterTurn = .ok retry ∧
      retry.key = sampleRecord.key ∧
      ∃ carried, sampleConsumer.parseControl retry = .ok carried ∧
        carried.source = ⟨sampleConsumer.sourceTopic, 3, 41⟩ := by
  obtain ⟨retry, both⟩ := exists_ok sampleTurns_hop
  obtain ⟨record, ran, hopped⟩ := bind_ok.mp both
  obtain ⟨control, _, _, _, carried, _, _, _, fromSource, _, isCarried, _, source, _, key, _⟩ :=
    @retry_hops_keep_identity _ Inbox.Preimage _ (fun _ => true) sampleConsumer sampleRecord record
      retry [sampleTurn] laterTurn (by decide) ran hopped
  refine ⟨record, retry, ran, ?_, hopped, key, carried, isCarried, ?_⟩
  · rw [hops, List.foldlM_cons] at ran
    obtain ⟨first, hoppedFirst, isFirst⟩ := bind_ok.mp ran
    obtain rfl := Except.ok.inj isFirst
    exact hop_topic hoppedFirst
  · rw [source, fromSource rfl]
    rfl

end Hops

end Gomessenger.KafkaWire
