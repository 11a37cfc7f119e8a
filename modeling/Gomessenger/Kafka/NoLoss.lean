import Gomessenger.Kafka.Worker

/-! No record is lost by the single-record worker.

One invariant covers the position of a running session and the broker's offset:
every record below either of them is settled, and none of them has passed a
deferred record that was not handled since. -/

namespace Gomessenger.Kafka

open CursorLog

theorem readCursors_broker (session : Session) (record : Record) (partition : TopicPartition) :
    (readCursors session record partition).broker = (session.cursors partition).broker := by
  unfold readCursors
  by_cases same : partition = record.topicPartition
  · subst same
    rw [Function.update_self]
    rfl
  · rw [Function.update_of_ne same]

section Invariant

variable {E : Type} (consumer : Consumer E) (F : Type) [Inbox.Sha256 F]
    (log : Log) (committed : Offsets)

/-- Handled in this history, or consumed before it began. -/
def Settled (history : List Event) (record : Record) : Prop :=
  Handled consumer F history record ∨
    ∃ offset, committed record.topicPartition = some offset ∧ record.offset < offset.offset

/-- An offset of a partition that no unsettled and no outstanding record is below. -/
structure Placed (history : List Event) (partition : TopicPartition) (bound : Int) : Prop where
  below : SettledBelow Record.offset (log.records partition)
    (Settled consumer F committed history) bound
  waiting : ∀ record, Outstanding consumer F history record →
    record.topicPartition = partition → bound ≤ record.offset

structure Current (history : List Event) (partition : TopicPartition)
    (cursor : Cursor EpochOffset) :
    Prop where
  clean : cursor.Clean
  placed : Placed consumer F log committed history partition cursor.position.offset
  behind : ∀ offset, cursor.broker = some offset → offset.offset ≤ cursor.position.offset

structure Worker.Safe (worker : Worker) : Prop where
  member : ∀ record, Outstanding consumer F worker.history record →
    record ∈ log.records record.topicPartition
  sent : ∀ partition offset, (worker.session.cursors partition).broker = some offset →
    Placed consumer F log committed worker.history partition offset.offset
  current : worker.returned = none → ∀ partition,
    Current consumer F log committed worker.history partition (worker.session.cursors partition)
  ended : worker.returned ≠ none → ∀ record, Outstanding consumer F worker.history record →
    worker.session.position record.topicPartition ≤ record.offset ∨
      (worker.session.cursors record.topicPartition).position = record.nextOffset

variable {consumer F log committed}

section Growth

variable {history events : List Event} (quiet : ∀ record, .deferred record ∉ events)
include quiet

variable {partition : TopicPartition}

theorem Placed.append {bound : Int}
    (placed : Placed consumer F log committed history partition bound) :
    Placed consumer F log committed (history ++ events) partition bound where
  below := placed.below.mono fun _ settled => settled.imp_left (Handled.append_left events)
  waiting record outstanding :=
    placed.waiting record (Outstanding.of_append (quiet record) outstanding).1

theorem Current.append {cursor : Cursor EpochOffset}
    (current : Current consumer F log committed history partition cursor) :
    Current consumer F log committed (history ++ events) partition cursor :=
  ⟨current.clean, current.placed.append quiet, current.behind⟩

theorem Placed.advance {position : Int} {record : Record}
    (member : ∀ other, Outstanding consumer F history other →
      other ∈ log.records other.topicPartition)
    (placed : Placed consumer F log committed history partition position)
    (next : (remaining Record.offset position (log.records partition)).head? = some record)
    (handled : Handled consumer F events record) :
    Placed consumer F log committed (history ++ events) partition (record.offset + 1) where
  below := (placed.append quiet).below.advance (log.ascending partition) next
    (.inl (handled.append_right history))
  waiting other outstanding same := by
    obtain ⟨before, unhandled⟩ := Outstanding.of_append (quiet other) outstanding
    have present := same ▸ member other before
    have ordered := next_le (log.ascending partition) next present
      (placed.waiting other before same)
    have distinct : record.offset ≠ other.offset := by
      intro equal
      have identical := eq_of_offset (log.ascending partition) (next_mem next).1 present equal
      exact unhandled (identical ▸ handled)
    omega

end Growth

variable {history : List Event} {partition : TopicPartition}

theorem Placed.defer {position : Int} {record : Record}
    (member : ∀ other, Outstanding consumer F history other →
      other ∈ log.records other.topicPartition)
    (placed : Placed consumer F log committed history partition position)
    (next : (remaining Record.offset position (log.records partition)).head? = some record) :
    Placed consumer F log committed (history ++ [.deferred record]) partition record.offset where
  below := (placed.below.skip (log.ascending partition) next).mono fun _ settled =>
    settled.imp_left (Handled.append_left _)
  waiting other outstanding same := by
    rcases Outstanding.of_deferred outstanding with rfl | before
    · exact Int.le_refl _
    · exact next_le (log.ascending partition) next (same ▸ member other before)
        (placed.waiting other before same)

theorem Placed.deferred {bound : Int}
    {record : Record} (placed : Placed consumer F log committed history partition bound)
    (above : record.topicPartition = partition → bound ≤ record.offset) :
    Placed consumer F log committed (history ++ [.deferred record]) partition bound where
  below := placed.below.mono fun _ settled => settled.imp_left (Handled.append_left _)
  waiting other outstanding same := by
    rcases Outstanding.of_deferred outstanding with rfl | before
    · exact above same
    · exact placed.waiting other before same

namespace Worker.Safe

variable {worker after : Worker}

theorem of_current (member : ∀ record, Outstanding consumer F worker.history record →
      record ∈ log.records record.topicPartition)
    (sent : ∀ partition offset, (worker.session.cursors partition).broker = some offset →
      Placed consumer F log committed worker.history partition offset.offset)
    (current : ∀ partition,
      Current consumer F log committed worker.history partition
        (worker.session.cursors partition)) :
    worker.Safe consumer F log committed :=
  ⟨member, sent, fun _ => current,
    fun _ record outstanding => .inl ((current _).placed.waiting record outstanding rfl)⟩

theorem of_idle (safe : worker.Safe consumer F log committed) (running : worker.returned = none)
    (cursors : after.session.cursors = worker.session.cursors)
    (history : after.history = worker.history) : after.Safe consumer F log committed := by
  apply of_current
  · rw [history]
    exact safe.member
  · rw [cursors, history]
    exact safe.sent
  · rw [cursors, history]
    exact safe.current running

variable {read : Session} {record : Record}

theorem abort_cursors (clean : worker.session.Clean)
    (cursors : read.cursors = readCursors worker.session record) :
    read.abort.cursors = worker.session.cursors := by
  funext partition
  simp only [Session.abort, cursors, readCursors]
  by_cases same : partition = record.topicPartition
  · subst same
    rw [Function.update_self, Cursor.abort_move]
    exact Cursor.abort_of_clean _ (clean _)
  · rw [Function.update_of_ne same]
    exact Cursor.abort_of_clean _ (clean partition)

theorem read_waiting {other : Record} (safe : worker.Safe consumer F log committed)
    (running : worker.returned = none)
    (next : (worker.session.unread log record.topicPartition).head? = some record)
    (outstanding : Outstanding consumer F worker.history other) :
    (readCursors worker.session record other.topicPartition).position.offset ≤ other.offset ∨
      (readCursors worker.session record other.topicPartition).position = other.nextOffset := by
  have waiting := (safe.current running _).placed.waiting other outstanding rfl
  have present := safe.member other outstanding
  unfold readCursors
  by_cases same : other.topicPartition = record.topicPartition
  · rw [same] at waiting present ⊢
    rw [Function.update_self]
    have ordered := next_le (log.ascending _) next present waiting
    by_cases equal : record.offset = other.offset
    · right
      rw [eq_of_offset (log.ascending _) (next_mem next).1 present equal]
      rfl
    · left
      simp only [Cursor.move, Record.nextOffset]
      omega
  · rw [Function.update_of_ne same]
    exact .inl waiting

variable {events : List Event}

theorem of_ended (safe : worker.Safe consumer F log committed) (running : worker.returned = none)
    (next : (worker.session.unread log record.topicPartition).head? = some record)
    (quiet : ∀ other, .deferred other ∉ events) (history : after.history = worker.history ++ events)
    (cursors : after.session.cursors = readCursors worker.session record ∨
      after.session.cursors = worker.session.cursors)
    (ended : after.returned ≠ none) : after.Safe consumer F log committed where
  member other outstanding := by
    rw [history] at outstanding
    exact safe.member other (Outstanding.of_append (quiet other) outstanding).1
  sent partition offset sent := by
    rw [history]
    apply Placed.append quiet
    apply safe.sent
    rcases cursors with read | restored
    · rw [← readCursors_broker, ← read]
      exact sent
    · rw [← restored]
      exact sent
  current live := absurd live ended
  ended _ other outstanding := by
    rw [history] at outstanding
    have before := (Outstanding.of_append (quiet other) outstanding).1
    rcases cursors with read | restored
    · simp only [Session.position, read]
      exact safe.read_waiting running next before
    · left
      simp only [Session.position, restored]
      exact (safe.current running _).placed.waiting other before rfl

theorem of_deferred (safe : worker.Safe consumer F log committed) (running : worker.returned = none)
    (next : (worker.session.unread log record.topicPartition).head? = some record)
    (cursors : after.session.cursors = Function.update worker.session.cursors record.topicPartition
      ((worker.session.cursors record.topicPartition).seek record.epochOffset))
    (history : after.history = worker.history ++ [.deferred record]) :
    after.Safe consumer F log committed := by
  have current := safe.current running
  have ahead := next_mem next
  have brokers : ∀ partition, (after.session.cursors partition).broker =
      (worker.session.cursors partition).broker := by
    intro partition
    rw [cursors]
    by_cases same : partition = record.topicPartition
    · subst same
      rw [Function.update_self]
      rfl
    · rw [Function.update_of_ne same]
  have held : ∀ partition offset, (worker.session.cursors partition).broker = some offset →
      record.topicPartition = partition → offset.offset ≤ record.offset := by
    intro partition offset sent same
    subst same
    exact Int.le_trans ((current _).behind offset sent) ahead.2
  apply of_current
  · intro other outstanding
    rw [history] at outstanding
    rcases Outstanding.of_deferred outstanding with rfl | before
    · exact ahead.1
    · exact safe.member other before
  · intro partition offset sent
    rw [brokers] at sent
    rw [history]
    exact (safe.sent partition offset sent).deferred (held partition offset sent)
  · intro partition
    rw [history, cursors]
    by_cases same : partition = record.topicPartition
    · subst same
      rw [Function.update_self]
      exact ⟨Cursor.clean_seek _ _, (current _).placed.defer safe.member next,
        fun offset sent => held _ offset sent rfl⟩
    · rw [Function.update_of_ne same]
      exact ⟨(current partition).clean, (current partition).placed.deferred
        (fun equal => absurd equal.symm same),
        (current partition).behind⟩

theorem commit_cursors (clean : worker.session.Clean)
    (next : (worker.session.unread log record.topicPartition).head? = some record)
    (cursors : read.cursors = readCursors worker.session record) :
    read.commit.cursors = Function.update worker.session.cursors record.topicPartition
      ⟨record.nextOffset, record.nextOffset, some record.nextOffset⟩ := by
  have moved : record.nextOffset ≠ (worker.session.cursors record.topicPartition).committed := by
    intro equal
    have position := congrArg EpochOffset.offset ((clean record.topicPartition).trans equal.symm)
    have ahead : (worker.session.cursors record.topicPartition).position.offset ≤ record.offset :=
      (next_mem next).2
    simp only [Record.nextOffset] at position
    omega
  funext partition
  simp only [Session.commit, cursors, readCursors]
  by_cases same : partition = record.topicPartition
  · subst same
    rw [Function.update_self, Function.update_self, Cursor.commit_move _ _ moved]
  · rw [Function.update_of_ne same, Function.update_of_ne same]
    exact Cursor.commit_of_clean _ (clean partition)

theorem of_committed (safe : worker.Safe consumer F log committed)
    (running : worker.returned = none)
    (next : (worker.session.unread log record.topicPartition).head? = some record)
    (cursors : read.cursors = readCursors worker.session record)
    (quiet : ∀ other, .deferred other ∉ events) (handled : Handled consumer F events record)
    (session : after.session = read.commit) (history : after.history = worker.history ++ events) :
    after.Safe consumer F log committed := by
  have current := safe.current running
  have sentCursors := commit_cursors (fun partition => (current partition).clean) next cursors
  have advanced := (current record.topicPartition).placed.advance quiet safe.member next handled
  rw [← session] at sentCursors
  apply of_current
  · intro other outstanding
    rw [history] at outstanding
    exact safe.member other (Outstanding.of_append (quiet other) outstanding).1
  · intro partition offset sent
    rw [sentCursors] at sent
    rw [history]
    by_cases same : partition = record.topicPartition
    · subst same
      rw [Function.update_self] at sent
      cases sent
      exact advanced
    · rw [Function.update_of_ne same] at sent
      exact (safe.sent partition offset sent).append quiet
  · intro partition
    rw [history, sentCursors]
    by_cases same : partition = record.topicPartition
    · subst same
      rw [Function.update_self]
      refine ⟨rfl, advanced, ?_⟩
      intro offset sent
      cases sent
      exact Int.le_refl _
    · rw [Function.update_of_ne same]
      exact (current partition).append quiet

theorem of_aborted (safe : worker.Safe consumer F log committed) (running : worker.returned = none)
    (cursors : read.cursors = readCursors worker.session record)
    (quiet : ∀ other, .deferred other ∉ events) (session : after.session = read.abort)
    (history : after.history = worker.history ++ events) : after.Safe consumer F log committed := by
  have current := safe.current running
  have restored := abort_cursors (fun partition => (current partition).clean) cursors
  rw [← session] at restored
  apply of_current
  · intro other outstanding
    rw [history] at outstanding
    exact safe.member other (Outstanding.of_append (quiet other) outstanding).1
  · intro partition offset sent
    rw [restored] at sent
    rw [history]
    exact (safe.sent partition offset sent).append quiet
  · intro partition
    rw [history, restored]
    exact (current partition).append quiet

end Worker.Safe

variable (processed : Processed F)

omit [Inbox.Sha256 F] in
theorem Processed.events_quiet (record other : Record) :
    .deferred other ∉ processed.events record := by
  unfold Processed.events
  cases processed.finished <;> cases processed.transaction.published <;> simp

theorem Processed.events_handled (record : Record) (produced : List Record)
    (published : processed.transaction.published = some produced)
    (handed : processed.finished = true ∨ ∃ next ∈ produced, consumer.HandsOff F record next) :
    Handled consumer F (processed.events record) record := by
  simp only [Processed.events, published]
  rcases handed with finished | handed
  · left
    simp [finished]
  · right
    exact ⟨produced, List.mem_append_right _ (List.mem_singleton.mpr rfl), handed⟩

theorem effect_safe {worker after : Worker} (safe : worker.Safe consumer F log committed)
    (running : worker.returned = none) (effect : worker.Effect consumer F log after) :
    after.Safe consumer F log committed := by
  cases effect with
  | idle cursors history => exact safe.of_idle running cursors history
  | drained record next cursors history returned =>
    have extended : after.history = worker.history ++ [] := by rw [history, List.append_nil]
    exact safe.of_ended running next (fun _ => List.not_mem_nil) extended (.inl cursors) returned
  | deferred record next cursors history => exact safe.of_deferred running next cursors history
  | processed read record processed next cursors sound session history returned =>
    have quiet := processed.events_quiet record
    obtain ⟨produced, ended, handed⟩ := sound
    have handles := fun published =>
      processed.events_handled record produced published (handed published)
    rcases transaction : processed.transaction with ⟨settled, published, ending⟩
    rw [transaction] at ended handles session returned
    cases ended with
    | committed => exact safe.of_committed running next cursors quiet (handles rfl) session history
    | notCommitted => exact safe.of_aborted running cursors quiet session history
    | applied err =>
      exact safe.of_committed running next cursors quiet (handles rfl) session history
    | failed _ err kept =>
      apply safe.of_ended running next quiet history
      · rcases kept with rfl | rfl
        · exact .inl (session ▸ cursors)
        · exact .inr (session ▸ Worker.Safe.abort_cursors
            (fun partition => (safe.current running partition).clean)
            cursors)
      · simp [returned, Ending.result]

theorem restart_safe (worker : Worker) (member : ∀ record,
    Outstanding consumer F worker.history record →
      record ∈ log.records record.topicPartition)
    (sent : ∀ partition offset, (worker.session.cursors partition).broker = some offset →
      Placed consumer F log committed worker.history partition offset.offset)
    (scheduler : RetryPartitionScheduler) :
    Worker.Safe consumer F log committed ⟨worker.session.restart log, scheduler,
      worker.history, none⟩ := by
  refine Worker.Safe.of_current member sent ?_
  intro partition
  refine ⟨Cursor.clean_restart _ _, ?_, ?_⟩
  · simp only [Session.restart, Cursor.restart]
    cases broker : (worker.session.cursors partition).broker with
    | some offset => exact sent partition offset broker
    | none =>
      constructor
      · intro record present less
        exact absurd less (Int.not_lt.mpr (log.bounded partition record present))
      · intro record outstanding same
        exact log.bounded partition record (same ▸ member record outstanding)
  · intro offset broker
    simp only [Session.restart, Cursor.restart] at broker ⊢
    rw [broker]
    exact Int.le_refl _

theorem step_safe {worker : Worker} (safe : worker.Safe consumer F log committed)
    (step : WorkerStep) :
    (worker.step consumer F log step).Safe consumer F log committed := by
  cases step with
  | restart => exact restart_safe worker safe.member safe.sent _
  | turn answers =>
    cases returned : worker.returned with
    | none => exact effect_safe safe returned (turn_effect worker answers returned)
    | some result =>
      have unchanged : worker.turn consumer F log answers = worker := by
        simp [Worker.turn, returned]
      simp only [Worker.step, unchanged]
      exact safe

theorem initial_safe : (Worker.initial log committed).Safe consumer F log committed := by
  have settled : ∀ record, ¬Outstanding consumer F [] record := by
    rintro record ⟨earlier, later, split, _⟩
    simp at split
  apply restart_safe ⟨⟨fun partition =>
    ⟨log.start partition, log.start partition, committed partition⟩, fun _ => false⟩, .empty, [],
    none⟩
  · exact fun record outstanding => absurd outstanding (settled record)
  · intro partition offset sent
    refine ⟨?_, fun record outstanding => absurd outstanding (settled record)⟩
    intro record member less
    rw [← log.placed partition record member] at sent
    exact .inr ⟨offset, sent, less⟩

theorem run_safe (steps : List WorkerStep) (worker : Worker)
    (safe : worker.Safe consumer F log committed) :
    (worker.run consumer F log steps).Safe consumer F log committed := by
  induction steps generalizing worker with
  | nil => exact safe
  | cons step rest ih => exact ih _ (step_safe safe step)

/-- Every record below the broker's offset that the group had not consumed before
is handled. The position and the broker's offset never pass a record that was
deferred and not handled since; a session that ended with such a record in hand
stands right behind it, and the next session reads it again. -/
theorem worker_loses_no_record (consumer : Consumer E) (log : Log) (committed : Offsets)
    (steps : List WorkerStep) :
    (∀ partition offset record,
      (((Worker.initial log committed).run consumer F log steps).session.cursors partition).broker =
        some offset →
        record ∈ log.records partition → record.offset < offset.offset →
        (∀ start, committed partition = some start → start.offset ≤ record.offset) →
        Handled consumer F ((Worker.initial log committed).run consumer F log steps).history
          record) ∧
      ∀ record, Outstanding consumer F ((Worker.initial log committed).run consumer F
        log steps).history record →
        (((Worker.initial log committed).run consumer F log steps).session.position
              record.topicPartition ≤ record.offset ∨
            ((Worker.initial log committed).run consumer F log steps).returned ≠ none ∧
            (((Worker.initial log committed).run consumer F log steps).session.cursors
              record.topicPartition).position = record.nextOffset) ∧
          ∀ offset, (((Worker.initial log committed).run consumer F log steps).session.cursors
            record.topicPartition).broker = some offset → offset.offset ≤ record.offset := by
  have safe : ((Worker.initial log committed).run consumer F log steps).Safe
      consumer F log committed :=
    run_safe steps _ initial_safe
  constructor
  · intro partition offset record sent member less consumed
    rcases (safe.sent partition offset sent).below record member less
      with handled | ⟨start, before, early⟩
    · exact handled
    · rw [log.placed partition record member] at before
      exact absurd early (Int.not_lt.mpr (consumed start before))
  · intro record outstanding
    refine ⟨?_, fun offset sent => (safe.sent _ offset sent).waiting record outstanding rfl⟩
    cases returned : ((Worker.initial log committed).run consumer F log steps).returned with
    | none => exact .inl ((safe.current returned _).placed.waiting record outstanding rfl)
    | some result =>
      rcases safe.ended (by simp [returned]) record outstanding with ahead | inHand
      · exact .inl ahead
      · exact .inr ⟨nofun, inHand⟩

end Invariant

def sampleTurn (now : Time) (drained : Bool) : WorkerStep :=
  .turn ⟨none, now, .ok [(sampleRecord.topicPartition, 1)], drained, none, now,
    ⟨now, (⟨false, 1⟩, none), true, .text "context canceled", now, now,
      ⟨none, none, none, .committed⟩⟩⟩

theorem worker_loses_no_record_deferred :
    let worker := (Worker.initial (Log.single sampleRecord) (fun _ => none)).run sampleConsumer
      Inbox.Preimage (Log.single sampleRecord)
        [sampleTurn 5 false, sampleTurn 7 false, sampleTurn 10 false]
    (worker.session.cursors sampleRecord.topicPartition).broker = some ⟨1, 5⟩ ∧
      Handled sampleConsumer Inbox.Preimage worker.history sampleRecord := by
  intro worker
  have sent : (worker.session.cursors sampleRecord.topicPartition).broker = some ⟨1, 5⟩ := by decide
  exact ⟨sent, (worker_loses_no_record sampleConsumer (Log.single sampleRecord) (fun _ => none)
    [sampleTurn 5 false, sampleTurn 7 false, sampleTurn 10 false]).1 _ _ sampleRecord sent
      (by decide) (by decide) nofun⟩

/-- The record is deferred until time 10. The turn at that time polls it again and
drains before it is processed: the session ends with its position behind the record. -/
theorem drained_position_passes_deferred_record :
    let worker := (Worker.initial (Log.single sampleRecord) (fun _ => none)).run sampleConsumer
      Inbox.Preimage (Log.single sampleRecord) [sampleTurn 5 false, sampleTurn 10 true]
    Outstanding sampleConsumer Inbox.Preimage worker.history sampleRecord ∧
      worker.returned = some none ∧
      sampleRecord.offset < worker.session.position sampleRecord.topicPartition := by
  intro worker
  have history : worker.history = [] ++ .deferred sampleRecord :: [] := by decide
  refine ⟨⟨[], [], history, ?_⟩, by decide, by decide⟩
  rintro (finished | ⟨published, committed, _⟩)
  · cases finished
  · cases committed

end Gomessenger.Kafka
