import Gomessenger.Kafka.Session
import Gomessenger.Consumer.Decision

/-! The Kafka consumer's preparation of a record, its retry and dead-letter
handoffs, and the transaction that publishes them.

What the clock, the Inbox and the broker answer is an input of each function.
The wire formats (control headers, envelopes, payload codecs and the JSON of a
dead letter) are fields of `Consumer`. -/

namespace Gomessenger.Kafka

open Inbox
open Gomessenger.Consumer (Metadata DecodedMessage reached)

structure SourcePosition where
  topic : String
  partition : Int
  offset : Int
  deriving DecidableEq, Repr

structure ControlMetadata where
  source : SourcePosition
  attempt : Nat
  notBefore : Option Time
  attemptGeneration : String
  deriving DecidableEq, Repr

def sourceControl (record : Record) : ControlMetadata :=
  ⟨⟨record.topic, record.partition, record.offset⟩, 0, none, ""⟩

inductive Reason
  | control
  | decode
  | expired
  | identityConflict
  | attemptsExhausted
  | permanent
  | unknown
  deriving DecidableEq, Repr

def reasonOf : FailureKind → Reason
  | .identityConflict => .identityConflict
  | .attemptsExhausted => .attemptsExhausted
  | .permanent => .permanent

/-- A dead letter; the key and the value stand for their base64 texts. -/
structure DLQRecord where
  specVersion : String
  consumerID : String
  source : SourcePosition
  recordKey : Bytes
  original : Bytes
  messageID : String
  attempt : Nat
  attemptGeneration : String
  failureKind : Reason
  error : String
  failedAt : Time
  deriving DecidableEq, Repr

structure Consumer (E : Type) where
  settings : Consumer.Settings
  consumerID : String
  sourceTopic : String
  dlqTopic : String
  retryTopics : List String
  retryTiers : List Duration
  parseControl : Record → Except GoError ControlMetadata
  unmarshalEnvelope : Bytes → Except GoError E
  metadata : E → Metadata
  validateEnvelopeDescriptor : E → Option GoError
  validateRecordKey : Bytes → Metadata → Option GoError
  decode : E → Except GoError DecodedMessage
  controlHeaders : ControlMetadata → List RecordHeader
  /-- The bounded text of a failure, after the configured sanitizer. -/
  failureText : Option GoError → String
  /-- The same after `defaultFailureSanitizer`, which the batch path applies. -/
  defaultFailureText : Option GoError → String
  encodeDLQRecord : DLQRecord → Except GoError Bytes
  maxMessages : Nat
  maxBytes : Nat
  maxWait : Nat
  roomy : 0 < maxMessages

inductive PreparedRecord (E : Type)
  | failed (control : ControlMetadata) (reason : Reason) (failure : GoError)
    (attempt : Nat) (messageID : String)
  | deferred (control : ControlMetadata) (retryAt : Time)
  | ready (control : ControlMetadata) (envelope : E)

def errMessageExpired : GoError := .text "messenger/kafka: message expired"

def errMessageNotReady : GoError := .text "messenger/kafka: message is not ready"

def retryDue (notBefore expiresAt : Option Time) (now : Time) : Except GoError (Option Time) :=
  if reached expiresAt now then .error errMessageExpired
  else match notBefore with
    | none => .ok none
    | some due =>
      if due ≤ now then .ok none
      else if reached expiresAt due then .error errMessageExpired
      else .ok (some due)

def retryTier (tiers : List Duration) (delay : Duration) : Nat :=
  (tiers.findIdx? (fun tier => decide (delay ≤ tier))).getD (tiers.length - 1)

def addDelay (now : Time) (delay : Duration) : Time := ((now : Int) + delay).toNat

/-- The broker's answer to `End(TryCommit)`; a failed call may still have been applied. -/
inductive EndAnswer
  | committed
  | aborted
  | failed (err : GoError) (applied : Bool)
  deriving DecidableEq, Repr

structure TransactionAnswers where
  beginErr : Option GoError
  produceErr : Option GoError
  abortErr : Option GoError
  ended : EndAnswer
  deriving DecidableEq, Repr

/-- The error a processing step returns: nil, `errTransactionNotCommitted`, any
other error, or a `kafkaBatchFailClosedError`. -/
inductive Ending
  | committed
  | notCommitted
  | failed (err : GoError)
  | failClosed (cause : GoError)
  deriving DecidableEq, Repr

/-- What the session loops return for it: nil and `errTransactionNotCommitted` go
on with the loop. -/
def Ending.result : Ending → Option (Option GoError)
  | .committed => none
  | .notCommitted => none
  | .failed err => some (some err)
  | .failClosed cause => some (some cause)

/-- A processing step's session, the records of its transaction when that took
effect at the broker, and the error it returns. -/
structure Transaction where
  session : Session
  published : Option (List Record)
  ending : Ending

def Transaction.fail (session : Session) (err : GoError) : Transaction :=
    ⟨session, none, .failed err⟩

def joinError (first : GoError) : Option GoError → GoError
  | none => first
  | some second => .join "" first second

def commitTransactionalRecords (answers : TransactionAnswers) (produced : List Record)
    (session : Session) : Transaction :=
  match answers.beginErr with
  | some err => .fail session (.wrap "messenger/kafka: begin consumer transaction" err)
  | none =>
    match if produced = [] then none else answers.produceErr with
    | some err =>
      .fail session.abort (joinError (.wrap "messenger/kafka: transactional handoff" err)
        answers.abortErr)
    | none =>
      match answers.ended with
      | .failed err applied =>
        ⟨if applied then session.commit else session, if applied then some produced else none,
          .failed (.wrap "messenger/kafka: commit consumer transaction" err)⟩
      | .aborted => ⟨session.abort, none, .notCommitted⟩
      | .committed => ⟨session.commit, some produced, .committed⟩

inductive Transaction.Ended (session : Session) (produced : List Record) : Transaction → Prop
  | committed : Ended session produced ⟨session.commit, some produced, .committed⟩
  | notCommitted : Ended session produced ⟨session.abort, none, .notCommitted⟩
  | applied (err : GoError) : Ended session produced ⟨session.commit, some produced, .failed err⟩
  | failed (after : Session) (err : GoError) (kept : after = session ∨ after = session.abort) :
      Ended session produced ⟨after, none, .failed err⟩

theorem commitTransactionalRecords_ended (answers : TransactionAnswers)
    (produced : List Record) (session : Session) :
    Transaction.Ended session produced (commitTransactionalRecords answers produced session) := by
  unfold commitTransactionalRecords
  split
  · exact .failed session _ (.inl rfl)
  · split
    · exact .failed session.abort _ (.inr rfl)
    · split
      next err applied _ =>
        cases applied with
        | true => exact .applied _
        | false => exact .failed session _ (.inl rfl)
      next => exact .notCommitted
      next => exact .committed

def dlqSpecVersion : String := "1.0"

namespace Consumer

variable {E : Type} (consumer : Consumer E)

def prepareRecord (now : Time) (record : Record) : PreparedRecord E :=
  match consumer.parseControl record with
  | .error err => .failed (sourceControl record) .control err 1 ""
  | .ok control =>
    if control.source.topic ≠ consumer.sourceTopic then
      .failed control .control (.wrap "source topic mismatch" (.sentinel .invalidMessage))
        (max 1 control.attempt) ""
    else match consumer.unmarshalEnvelope record.value with
      | .error err => .failed control .decode err (max 1 control.attempt) ""
      | .ok envelope =>
        let metadata := consumer.metadata envelope
        let messageID := messageText metadata.id
        match consumer.validateEnvelopeDescriptor envelope with
        | some err => .failed control .decode err (max 1 control.attempt) messageID
        | none =>
          match consumer.validateRecordKey record.key metadata with
          | some err => .failed control .identityConflict err (max 1 control.attempt) messageID
          | none =>
            match retryDue control.notBefore metadata.expiresAt now with
            | .error err => .failed control .expired err (max 1 control.attempt) messageID
            | .ok (some retryAt) => .deferred control retryAt
            | .ok none => .ready control envelope

def retryOf (record : Record) (canonical : Bytes) (control : ControlMetadata) (attempt : Nat)
    (delay : Duration) (now : Time) : Record where
  topic := consumer.retryTopics.getD (retryTier consumer.retryTiers delay) ""
  partition := 0
  offset := 0
  leaderEpoch := 0
  key := record.key
  value := canonical
  headers := consumer.controlHeaders
    { control with attempt, notBefore := some (addDelay now delay) }
  timestamp := record.timestamp

def makeDLQRecord (record : Record) (control : ControlMetadata) (messageID : String) (attempt : Nat)
    (reason : Reason) (failureText : String) (failedAt : Time) : DLQRecord where
  specVersion := dlqSpecVersion
  consumerID := consumer.consumerID
  source := control.source
  recordKey := record.key
  original := record.value
  messageID := messageID
  attempt := attempt
  attemptGeneration := control.attemptGeneration
  failureKind := reason
  error := failureText
  failedAt := failedAt

variable (F : Type) [Sha256 F]

def dlqOf (dlq : DLQRecord) (data : Bytes) : Record where
  topic := consumer.dlqTopic
  partition := 0
  offset := 0
  leaderEpoch := 0
  key := Sha256.bytes (Sha256.sum data : F)
  value := data
  headers := []
  timestamp := dlq.failedAt

/-- A produced record that hands a consumed record on: its canonical envelope on
a retry topic, or a dead letter with its key and value. -/
inductive HandsOff (record : Record) : Record → Prop
  | retry (envelope : E) (decoded : DecodedMessage) (control : ControlMetadata) (attempt : Nat)
      (delay : Duration) (now : Time) (parsed : consumer.unmarshalEnvelope
        record.value = .ok envelope)
      (accepted : consumer.decode envelope = .ok decoded) :
      HandsOff record (consumer.retryOf record decoded.canonical control attempt delay now)
  | deadLetter (dlq : DLQRecord) (data : Bytes) (sameKey : dlq.recordKey = record.key)
      (sameValue : dlq.original = record.value)
        (encoded : consumer.encodeDLQRecord dlq = .ok data) :
      HandsOff record (consumer.dlqOf F dlq data)

end Consumer

theorem prepareRecord_ready {E : Type} (consumer : Consumer E) (now : Time) (record : Record)
    (control : ControlMetadata) (envelope : E)
    (prepared : consumer.prepareRecord now record = .ready control envelope) :
    consumer.unmarshalEnvelope record.value = .ok envelope := by
  unfold Consumer.prepareRecord at prepared
  cases parsed : consumer.parseControl record with
  | error err => simp [parsed] at prepared
  | ok parsedControl =>
    simp only [parsed] at prepared
    split at prepared
    · cases prepared
    · cases unmarshalled : consumer.unmarshalEnvelope record.value with
      | error err => simp [unmarshalled] at prepared
      | ok opened =>
        simp only [unmarshalled] at prepared
        split at prepared
        · cases prepared
        · split at prepared
          · cases prepared
          · split at prepared
            · cases prepared
            · cases prepared
            · cases prepared
              rfl

def sampleRecord : Record := ⟨"orders.retry", 0, 4, 1, [], [1], [], 0⟩

def sampleConsumer : Consumer Unit where
  settings := Consumer.sampleSettings
  consumerID := "billing"
  sourceTopic := "orders"
  dlqTopic := "orders.dlq"
  retryTopics := ["orders.retry"]
  retryTiers := [60]
  parseControl _ := .ok ⟨⟨"orders", 0, 7⟩, 1, some 10, ""⟩
  unmarshalEnvelope _ := .ok ()
  metadata _ := ⟨1, "shop", none, none⟩
  validateEnvelopeDescriptor _ := none
  validateRecordKey _ _ := none
  decode _ := .ok ⟨⟨1, "shop", none, none⟩, [1]⟩
  controlHeaders _ := []
  failureText _ := "handler failed"
  defaultFailureText _ := "handler failed"
  encodeDLQRecord _ := .ok []
  maxMessages := 10
  maxBytes := 1000
  maxWait := 5
  roomy := by decide

end Gomessenger.Kafka
