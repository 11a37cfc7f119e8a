import Gomessenger.Kafka.Consumer
import Gomessenger.Kafka.RetryScheduler

/-! The single-record worker: `runWorkerSession` over any number of sessions.

A record is handled once the Inbox finished it or a committed transaction holds
its retry or dead-letter record. Whatever a session polls, defers, commits or
aborts, every record below the broker's offset is handled, and a deferred record
stays ahead of both offsets until it is. -/

namespace Gomessenger.Kafka

open Inbox CursorLog
open Gomessenger.Consumer (DecodedMessage reached)

/-- What the clock, the Inbox, the run context and the broker answer while one
record is processed. -/
structure ProcessAnswers where
  now : Time
  inbox : Result × Option GoError
  live : Bool
  cancelled : GoError
  failedAt : Time
  retriedAt : Time
  transaction : TransactionAnswers

/-- One processed record: its transaction, whether the Inbox finished it, and the
generation whose terminal handoff is confirmed. -/
structure Processed (F : Type) where
  transaction : Transaction
  finished : Bool
  confirmed : Option (Key × F)

section Processing

variable {E : Type} (consumer : Consumer E) (F : Type) [Sha256 F]

def commitRecord (answers : ProcessAnswers) (produced : Option Record)
    (session : Session) : Transaction :=
  commitTransactionalRecords answers.transaction produced.toList session

def deadLetterRecord (answers : ProcessAnswers) (session : Session) (record : Record)
    (control : ControlMetadata) (reason : Reason) (failure : Option GoError) (attempt : Nat)
    (messageID : String) : Transaction :=
  let dlq := consumer.makeDLQRecord record control messageID attempt reason
    (consumer.failureText failure) answers.failedAt
  match consumer.encodeDLQRecord dlq with
  | .error err => .fail session err
  | .ok data => commitRecord answers (some (consumer.dlqOf F dlq data)) session

def retryRecord (answers : ProcessAnswers) (session : Session) (record : Record) (canonical : Bytes)
    (control : ControlMetadata) (attempt : Nat) (delay : Duration) : Transaction :=
  if delay ≤ 0 then
    .fail session (.wrap "non-positive durable retry delay" (.sentinel .invalidMessage))
  else commitRecord answers (some (consumer.retryOf record canonical control attempt delay
    answers.retriedAt)) session

def processDecoded (answers : ProcessAnswers) (session : Session) (record : Record)
    (control : ControlMetadata) (decoded : DecodedMessage) : Processed F :=
  let key : Key := ⟨consumer.consumerID, decoded.metadata.source, decoded.metadata.id,
    control.attemptGeneration⟩
  let fingerprint : F := Sha256.sum decoded.canonical
  match Consumer.Kafka.processOutcome consumer.settings answers.live answers.inbox.1 answers.inbox.2
      with
  | .acknowledge => ⟨commitRecord answers none session, true, none⟩
  | .leave => ⟨.fail session answers.cancelled, false, none⟩
  | .deadLetter kind attempt =>
    let transaction := deadLetterRecord consumer F answers session record control (reasonOf kind)
      answers.inbox.2 attempt (messageText decoded.metadata.id)
    -- A conflict left no terminal row, so there is no handoff to confirm.
    ⟨transaction, false,
      if transaction.ending = .committed ∧ kind ≠ .identityConflict then some (key, fingerprint)
      else none⟩
  | .retry delay =>
    ⟨retryRecord consumer answers session record decoded.canonical control
      answers.inbox.1.attempt delay, false, none⟩

def processPreparedRecord (answers : ProcessAnswers) (session : Session) (record : Record) :
    PreparedRecord E → Processed F
  | .failed control reason failure attempt messageID =>
    ⟨deadLetterRecord consumer F answers session record control reason (some failure)
      attempt messageID, false, none⟩
  -- The loop defers such a record before it gets here.
  | .deferred _ _ => ⟨.fail session answers.cancelled, false, none⟩
  | .ready control envelope =>
    match consumer.decode envelope with
    | .error err =>
      ⟨deadLetterRecord consumer F answers session record control .decode (some err)
        (max 1 control.attempt) (messageText (consumer.metadata envelope).id), false, none⟩
    | .ok decoded =>
      if reached decoded.metadata.expiresAt answers.now then
        ⟨deadLetterRecord consumer F answers session record control .expired
          (some errMessageExpired) (max 1 control.attempt) (messageText decoded.metadata.id), false,
          none⟩
      else match decoded.metadata.notBefore with
        | some due =>
          if answers.now < due then
            ⟨retryRecord consumer answers session record decoded.canonical control control.attempt
              ((due : Int) - answers.now), false, none⟩
          else processDecoded consumer F answers session record control decoded
        | none => processDecoded consumer F answers session record control decoded

end Processing

inductive Event
  | deferred (record : Record)
  | finished (record : Record)
  | committed (record : Record) (published : List Record)
  deriving DecidableEq, Repr

structure Worker where
  session : Session
  scheduler : RetryPartitionScheduler
  history : List Event
  returned : Option (Option GoError)

/-- What the environment answers during one turn of the loop. -/
structure WorkerTurn where
  stopped : Option (Option GoError)
  now : Time
  poll : Except GoError Request
  drained : Bool
  cancelled : Option GoError
  preparedAt : Time
  answers : ProcessAnswers

def Processed.events {F : Type} (processed : Processed F) (record : Record) : List Event :=
  (if processed.finished then [.finished record] else []) ++
    match processed.transaction.published with
    | none => []
    | some published => [.committed record published]

def deferRetryPartition (worker : Worker) (record : Record) (deadline : Time) : Worker :=
  match pauseAndRewindRetryPartition worker.session record with
  | (.error err, session) => { worker with session, returned := some (some err) }
  | (.ok (partition, ownsPause), session) =>
    { worker with
      session
      scheduler := worker.scheduler.schedule partition deadline ownsPause
      history := worker.history ++ [.deferred record] }

section Loop

variable {E : Type} (consumer : Consumer E) (F : Type) [Sha256 F] (log : Log)

def handleRecord (worker : Worker) (turn : WorkerTurn) (record : Record) : Worker :=
  match consumer.prepareRecord turn.preparedAt record with
  | .deferred _ retryAt => deferRetryPartition worker record retryAt
  | prepared =>
    let processed := processPreparedRecord consumer F turn.answers worker.session record prepared
    { worker with
      session := processed.transaction.session
      history := worker.history ++ processed.events record
      returned := processed.transaction.ending.result }

def pollTurn (worker : Worker) (turn : WorkerTurn) : Worker :=
  match turn.poll with
  | .error err =>
    { worker with
      returned := some (some (.wrap ("messenger/kafka: consume " ++ consumer.consumerID) err)) }
  | .ok request =>
    let polled := worker.session.pollRecords log 1 request
    let read := { worker with session := polled.2 }
    if turn.drained then { read with returned := some none }
    else match polled.1 with
      | [] => { read with returned := turn.cancelled.map some }
      | record :: _ => handleRecord consumer F read turn record

/-- One turn of the loop of `runWorkerSession`. -/
def Worker.turn (worker : Worker) (turn : WorkerTurn) : Worker :=
  if worker.returned.isSome then worker
  else match turn.stopped with
    | some result => { worker with returned := some result }
    | none =>
      let released := worker.scheduler.releaseDue turn.now
      let resumed := { worker with
        session := worker.session.resumeFetchPartitions released.1
        scheduler := released.2 }
      if released.2.pollTimeout turn.now second = 0 then resumed
      else pollTurn consumer F log resumed turn

inductive WorkerStep
  | turn (answers : WorkerTurn)
  | restart

def Worker.step (worker : Worker) : WorkerStep → Worker
  | .turn answers => worker.turn consumer F log answers
  | .restart => ⟨worker.session.restart log, .empty, worker.history, none⟩

def Worker.initial (committed : Offsets) : Worker := ⟨.initial log committed, .empty, [], none⟩

def Worker.run (worker : Worker) (steps : List WorkerStep) : Worker :=
  steps.foldl (Worker.step consumer F log) worker

end Loop

section Handling

variable {E : Type} (consumer : Consumer E) (F : Type) [Sha256 F]

/-- The Inbox finished the record as success or duplicate, or a committed
transaction holds its retry or dead-letter record. -/
def Handled (history : List Event) (record : Record) : Prop :=
  .finished record ∈ history ∨ ∃ published, .committed record published ∈ history ∧
      ∃ produced ∈ published, consumer.HandsOff F record produced

/-- The record was deferred and has not been handled since. -/
def Outstanding (history : List Event) (record : Record) : Prop :=
  ∃ earlier later, history = earlier ++ .deferred record :: later ∧ ¬Handled consumer F later record

/-- A processed record's transaction, and that it hands the record on when the
Inbox has not finished it. -/
def Transaction.Sound (session : Session) (record : Record) (transaction : Transaction)
    (finished : Bool) : Prop :=
  ∃ produced, transaction.Ended session produced ∧ (transaction.published = some produced →
      finished = true ∨ ∃ next ∈ produced, consumer.HandsOff F record next)

variable {consumer F}

variable {record : Record}

theorem Handled.append_left {earlier : List Event} (later : List Event)
    (handled : Handled consumer F earlier record) :
    Handled consumer F (earlier ++ later) record := by
  rcases handled with finished | ⟨published, committed, found⟩
  · exact .inl (List.mem_append_left _ finished)
  · exact .inr ⟨published, List.mem_append_left _ committed, found⟩

theorem Handled.append_right {later : List Event} (earlier : List Event)
    (handled : Handled consumer F later record) : Handled consumer F (earlier ++ later) record := by
  rcases handled with finished | ⟨published, committed, found⟩
  · exact .inl (List.mem_append_right _ finished)
  · exact .inr ⟨published, List.mem_append_right _ committed, found⟩

variable {history : List Event}

theorem Outstanding.of_append {events : List Event} (quiet : .deferred record ∉ events)
    (outstanding : Outstanding consumer F (history ++ events) record) :
    Outstanding consumer F history record ∧ ¬Handled consumer F events record := by
  obtain ⟨earlier, later, split, unhandled⟩ := outstanding
  rcases List.append_eq_append_iff.mp split with ⟨middle, _, tail⟩ | ⟨middle, head, tail⟩
  · rw [tail] at quiet
    exact absurd (List.mem_append_right _ (.head _)) quiet
  · cases middle with
    | nil =>
      rw [List.nil_append] at tail
      rw [← tail] at quiet
      exact absurd (.head _) quiet
    | cons first rest =>
      simp only [List.cons_append, List.cons.injEq] at tail
      obtain ⟨rfl, rfl⟩ := tail
      exact ⟨⟨earlier, rest, head, fun handled => unhandled (handled.append_left _)⟩,
        fun handled => unhandled (handled.append_right _)⟩

theorem Outstanding.of_deferred {other : Record}
    (outstanding : Outstanding consumer F (history ++ [.deferred other]) record) :
    record = other ∨ Outstanding consumer F history record := by
  by_cases same : record = other
  · exact .inl same
  · right
    apply (Outstanding.of_append _ outstanding).1
    simp [same]

variable (answers : ProcessAnswers) (session : Session)

theorem Transaction.fail_sound (record : Record) (err : GoError) (finished : Bool) :
    Transaction.Sound consumer F session record (.fail session err) finished :=
  ⟨[], .failed session err (.inl rfl), nofun⟩

theorem deadLetterRecord_sound (record : Record) (control : ControlMetadata) (reason : Reason)
    (failure : Option GoError) (attempt : Nat) (messageID : String) :
    Transaction.Sound consumer F session record
      (deadLetterRecord consumer F answers session record control reason failure attempt messageID)
      false := by
  simp only [deadLetterRecord]
  cases encoded : consumer.encodeDLQRecord
      (consumer.makeDLQRecord record control messageID attempt reason (consumer.failureText failure)
        answers.failedAt) with
  | error err => exact Transaction.fail_sound session record err false
  | ok data =>
    refine ⟨_, commitTransactionalRecords_ended _ _ _, fun _ => .inr ⟨_, List.mem_cons_self .., ?_⟩⟩
    exact .deadLetter _ data rfl rfl encoded

theorem retryRecord_sound (record : Record)
    (envelope : E) (decoded : DecodedMessage) (control : ControlMetadata) (attempt : Nat)
    (delay : Duration) (parsed : consumer.unmarshalEnvelope record.value = .ok envelope)
    (accepted : consumer.decode envelope = .ok decoded) :
    Transaction.Sound consumer F session record
      (retryRecord consumer answers session record decoded.canonical control attempt delay)
        false := by
  unfold retryRecord
  split
  · exact Transaction.fail_sound session record _ false
  · refine ⟨_, commitTransactionalRecords_ended _ _ _, fun _ => .inr ⟨_, List.mem_cons_self .., ?_⟩⟩
    exact .retry envelope decoded control attempt delay _ parsed accepted

theorem processDecoded_sound (record : Record) (envelope : E) (control : ControlMetadata)
    (decoded : DecodedMessage) (parsed : consumer.unmarshalEnvelope record.value = .ok envelope)
    (accepted : consumer.decode envelope = .ok decoded) :
    Transaction.Sound consumer F session record
      (processDecoded consumer F answers session record control decoded).transaction
      (processDecoded consumer F answers session record control decoded).finished := by
  simp only [processDecoded]
  cases Consumer.Kafka.processOutcome consumer.settings answers.live answers.inbox.1 answers.inbox.2
      with
  | acknowledge =>
    exact ⟨[], commitTransactionalRecords_ended answers.transaction [] session, fun _ => .inl rfl⟩
  | leave => exact Transaction.fail_sound session record _ false
  | deadLetter kind attempt => exact deadLetterRecord_sound ..
  | retry delay =>
    exact retryRecord_sound answers session record envelope decoded control _ delay parsed accepted

theorem processPreparedRecord_sound (record : Record) (prepared : PreparedRecord E)
    (parsed : ∀ control envelope, prepared = .ready control envelope →
      consumer.unmarshalEnvelope record.value = .ok envelope) :
    Transaction.Sound consumer F session record
      (processPreparedRecord consumer F answers session record prepared).transaction
      (processPreparedRecord consumer F answers session record prepared).finished := by
  cases prepared with
  | failed control reason failure attempt messageID => exact deadLetterRecord_sound ..
  | deferred control retryAt => exact Transaction.fail_sound session record _ false
  | ready control envelope =>
    have opened := parsed control envelope rfl
    simp only [processPreparedRecord]
    cases accepted : consumer.decode envelope with
    | error err => exact deadLetterRecord_sound ..
    | ok decoded =>
      simp only
      split
      · exact deadLetterRecord_sound ..
      · cases decoded.metadata.notBefore with
        | none =>
          exact processDecoded_sound answers session record envelope control decoded opened accepted
        | some due =>
          simp only
          split
          · exact retryRecord_sound answers session record envelope decoded
              control _ _ opened accepted
          · exact processDecoded_sound answers session record envelope
              control decoded opened accepted

end Handling

theorem Session.fetched_one (log : Log) (session : Session)
    (partition : TopicPartition) (count : Nat) :
    session.fetched log partition (min count 1) = [] ∨ ∃ record,
      (session.unread log partition).head? = some record ∧
        session.fetched log partition (min count 1) = [record] := by
  unfold Session.fetched
  split
  · exact .inl rfl
  · cases count with
    | zero => exact .inl rfl
    | succ count =>
      rw [Nat.min_eq_right (Nat.succ_le_succ (Nat.zero_le count))]
      cases session.unread log partition with
      | nil => exact .inl rfl
      | cons record rest => exact .inr ⟨record, rfl, rfl⟩

theorem Session.pollRecords_zero (log : Log) (session : Session) (request : Request) :
    session.pollRecords log 0 request = ([], session) := by
  induction request with
  | nil => rfl
  | cons head rest ih =>
    obtain ⟨partition, count⟩ := head
    have empty : session.fetched log partition (min count 0) = [] := by
      unfold Session.fetched
      split <;> simp
    simp only [Session.pollRecords, empty, Session.advance_nil, List.length_nil,
      Nat.sub_zero, ih, List.append_nil]

theorem Session.pollRecords_one (log : Log) (session : Session) (request : Request) :
    session.pollRecords log 1 request = ([], session) ∨
      ∃ record, (session.unread log record.topicPartition).head? = some record ∧
        session.pollRecords log 1 request =
          ([record], session.advance [record] record.topicPartition) := by
  induction request with
  | nil => exact .inl rfl
  | cons head rest ih =>
    obtain ⟨partition, count⟩ := head
    rcases session.fetched_one log partition count with empty | ⟨record, next, single⟩
    · simp only [Session.pollRecords, empty, Session.advance_nil, List.length_nil,
        Nat.sub_zero, List.nil_append]
      exact ih
    · have placed := log.placed partition record (next_mem next).1
      right
      refine ⟨record, placed ▸ next, ?_⟩
      simp [Session.pollRecords, single, Session.pollRecords_zero, placed]

section Runs

variable {E : Type} {consumer : Consumer E} {F : Type} [Sha256 F] {log : Log}

def readCursors (session : Session) (record : Record) : TopicPartition → Cursor EpochOffset :=
  Function.update session.cursors record.topicPartition
    ((session.cursors record.topicPartition).move record.nextOffset)

/-- Everything a turn can do to a running worker. -/
inductive Worker.Effect (consumer : Consumer E) (F : Type) [Sha256 F]
    (log : Log) (worker : Worker) :
    Worker → Prop
  | idle (after : Worker) (cursors : after.session.cursors = worker.session.cursors)
      (history : after.history = worker.history) : Effect consumer F log worker after
  | drained (after : Worker) (record : Record)
      (next : (worker.session.unread log record.topicPartition).head? = some record)
      (cursors : after.session.cursors = readCursors worker.session record)
      (history : after.history = worker.history) (returned : after.returned ≠ none) :
      Effect consumer F log worker after
  | deferred (after : Worker) (record : Record)
      (next : (worker.session.unread log record.topicPartition).head? = some record)
      (cursors : after.session.cursors = Function.update
        worker.session.cursors record.topicPartition
        ((worker.session.cursors record.topicPartition).seek record.epochOffset))
      (history : after.history = worker.history ++ [.deferred record]) :
      Effect consumer F log worker after
  | processed (after : Worker) (read : Session) (record : Record) (processed : Processed F)
      (next : (worker.session.unread log record.topicPartition).head? = some record)
      (cursors : read.cursors = readCursors worker.session record)
      (sound : Transaction.Sound consumer F read record processed.transaction processed.finished)
      (session : after.session = processed.transaction.session)
      (history : after.history = worker.history ++ processed.events record)
      (returned : after.returned = processed.transaction.ending.result) :
      Effect consumer F log worker after

variable (worker read : Worker) (turn : WorkerTurn)

theorem deferRetryPartition_effect (record : Record) (deadline : Time)
    (next : (worker.session.unread log record.topicPartition).head? = some record)
    (cursors : read.session.cursors = readCursors worker.session record)
    (history : read.history = worker.history) :
    Worker.Effect consumer F log worker (deferRetryPartition read record deadline) := by
  obtain ⟨confirmed, rewound⟩ := pauseAndRewind_confirmed read.session record
  unfold deferRetryPartition
  rcases pause : pauseAndRewindRetryPartition read.session record with ⟨answer, session⟩
  rw [pause] at confirmed rewound
  simp only at confirmed rewound
  subst confirmed
  refine .deferred _ record next ?_ (congrArg (fun events => events ++ [.deferred record]) history)
  rw [rewound, cursors]
  simp [readCursors, Cursor.seek, Cursor.move]

theorem handleRecord_effect (record : Record)
    (next : (worker.session.unread log record.topicPartition).head? = some record)
    (cursors : read.session.cursors = readCursors worker.session record)
    (history : read.history = worker.history) :
    Worker.Effect consumer F log worker (handleRecord consumer F read turn record) := by
  have sound := @processPreparedRecord_sound E consumer F _ turn.answers read.session record
    (consumer.prepareRecord turn.preparedAt record)
    (prepareRecord_ready consumer turn.preparedAt record)
  unfold handleRecord
  cases prepared : consumer.prepareRecord turn.preparedAt record with
  | deferred control retryAt =>
    exact deferRetryPartition_effect worker read record retryAt next cursors history
  | failed control reason failure attempt messageID =>
    rw [prepared] at sound
    exact .processed _ read.session record _ next cursors sound rfl
      (congrArg (fun events => events ++ _) history) rfl
  | ready control envelope =>
    rw [prepared] at sound
    exact .processed _ read.session record _ next cursors sound rfl
      (congrArg (fun events => events ++ _) history) rfl

theorem pollTurn_effect (resumed : Worker) (turn : WorkerTurn)
    (cursors : resumed.session.cursors = worker.session.cursors)
    (history : resumed.history = worker.history) :
    Worker.Effect consumer F log worker (pollTurn consumer F log resumed turn) := by
  unfold pollTurn
  cases turn.poll with
  | error err => exact .idle _ cursors history
  | ok request =>
    rcases resumed.session.pollRecords_one log request with empty | ⟨record, next, single⟩
    · simp only [empty]
      split
      · exact .idle _ cursors history
      · exact .idle _ cursors history
    · have position : resumed.session.unread log record.topicPartition =
          worker.session.unread log record.topicPartition := by
        simp only [Session.unread, Session.position, cursors]
      have read : (resumed.session.advance [record] record.topicPartition).cursors =
          readCursors worker.session record := by
        change readCursors resumed.session record = _
        simp only [readCursors, cursors]
      rw [position] at next
      simp only [single]
      split
      · exact .drained _ record next read history (by simp)
      · exact handleRecord_effect worker _ turn record next read history

theorem turn_effect (running : worker.returned = none) :
    Worker.Effect consumer F log worker (worker.turn consumer F log turn) := by
  simp only [Worker.turn, running, Option.isSome_none, Bool.false_eq_true, if_false]
  cases turn.stopped with
  | some result => exact .idle _ rfl rfl
  | none =>
    simp only
    split
    · exact .idle _ rfl rfl
    · exact pollTurn_effect worker _ turn rfl rfl

end Runs

end Gomessenger.Kafka
