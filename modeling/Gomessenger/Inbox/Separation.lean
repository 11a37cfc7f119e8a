import Gomessenger.Inbox.Counters

/-! The rows a call can change, and why the two counter tables stay apart. -/

namespace Gomessenger.Inbox

open LocalAction

section Separation

variable {F : Type}

namespace Slice

/-- The identity, if it is stored, carries the fingerprint. -/
def Matches (slice : Slice F) (fingerprint : F) : Prop :=
  ∀ row, slice.identity = some row → row.fingerprint = fingerprint

/-- The counters and terminal rows outside one attempt generation agree. -/
structure Untouched (slice next : Slice F) (generation : String) (attempt : F) : Prop where
  legacy : generation ≠ "" → next.legacy = slice.legacy
  generations : ∀ other, generation = "" ∨ other ≠ attempt →
    next.generations other = slice.generations other
  terminal : ∀ other, other ≠ attempt → next.terminal other = slice.terminal other

variable {slice : Slice F}

theorem Holds.matches {fingerprint : F} (holds : slice.Holds fingerprint) :
    slice.Matches fingerprint := by
  obtain ⟨stored, identity, same⟩ := holds
  intro row found
  rw [← Option.some.inj (identity.symm.trans found)]
  exact same

theorem Available.matches {fingerprint : F} (available : slice.Available fingerprint) :
    slice.Matches fingerprint :=
  fun row stored => (available row stored).1

namespace Untouched

variable {generation : String} {attempt : F}

theorem trans {first second third : Slice F} (left : first.Untouched second generation attempt)
    (right : second.Untouched third generation attempt) :
    first.Untouched third generation attempt where
  legacy replay := (right.legacy replay).trans (left.legacy replay)
  generations other apart := (right.generations other apart).trans (left.generations other apart)
  terminal other apart := (right.terminal other apart).trans (left.terminal other apart)

variable {slice next : Slice F}

theorem of_rows (legacy : next.legacy = slice.legacy)
    (generations : next.generations = slice.generations)
    (terminal : next.terminal = slice.terminal) :
    slice.Untouched next generation attempt where
  legacy _ := legacy
  generations other _ := congrFun generations other
  terminal other _ := congrFun terminal other

theorem refl (slice : Slice F) : slice.Untouched slice generation attempt := of_rows rfl rfl rfl

theorem insertIdentity (slice : Slice F) (time : Time) (fingerprint : F) :
    slice.Untouched (slice.insertIdentity time fingerprint) generation attempt := by
  unfold Slice.insertIdentity
  split
  · exact of_rows rfl rfl rfl
  · exact refl slice

variable [LinearOrder F]

theorem insertCounter (slice : Slice F) (row : CounterRow) :
    slice.Untouched (slice.insertCounter generation attempt row) generation attempt := by
  unfold Slice.insertCounter
  split
  · rename_i empty
    exact ⟨fun replay => absurd empty replay, fun _ _ => rfl, fun _ _ => rfl⟩
  · rename_i replay
    exact ⟨fun _ => rfl, fun other apart => if_neg (apart.resolve_left replay).symm, fun _ _ => rfl⟩

theorem updateCounter (slice : Slice F) (change : CounterRow → CounterRow) :
    slice.Untouched (slice.updateCounter generation attempt change) generation attempt := by
  unfold Slice.updateCounter
  split
  · rename_i empty
    exact ⟨fun replay => absurd empty replay, fun _ _ => rfl, fun _ _ => rfl⟩
  · rename_i replay
    exact ⟨fun _ => rfl, fun other apart => if_neg (apart.resolve_left replay).symm, fun _ _ => rfl⟩

theorem deleteAttempt (slice : Slice F) :
    slice.Untouched (slice.deleteAttempt generation attempt) generation attempt := by
  unfold Slice.deleteAttempt
  split
  · rename_i empty
    exact ⟨fun replay => absurd empty replay, fun _ _ => rfl, fun _ _ => rfl⟩
  · rename_i replay
    exact ⟨fun _ => rfl, fun other apart => if_neg (apart.resolve_left replay).symm, fun _ _ => rfl⟩

omit [LinearOrder F] in
theorem of_terminal (legacy : next.legacy = slice.legacy)
    (generations : next.generations = slice.generations)
    (terminal : ∀ other, other ≠ attempt → next.terminal other = slice.terminal other) :
    slice.Untouched next generation attempt :=
  ⟨fun _ => legacy, fun other _ => congrFun generations other, terminal⟩

theorem upsertTerminal (slice : Slice F) (time : Time) (count : Nat)
    (counted : 0 < count) (kind : TerminalKind) :
    slice.Untouched (slice.upsertTerminal attempt time count counted kind) generation attempt :=
  of_terminal rfl rfl (fun _ apart => if_neg (Ne.symm apart))

theorem deleteTerminal (slice : Slice F) :
    slice.Untouched (slice.deleteTerminal attempt) generation attempt :=
  of_terminal rfl rfl (fun _ apart => if_neg (Ne.symm apart))

theorem confirm (slice : Slice F) (time : Time) :
    slice.Untouched (slice.confirm attempt time) generation attempt :=
  of_terminal rfl rfl (fun _ apart => if_neg (Ne.symm apart))

theorem upsertAttempt (slice : Slice F) (time : Time) :
    slice.Untouched (slice.upsertAttempt generation attempt time) generation attempt := by
  unfold Slice.upsertAttempt
  split
  · exact insertCounter slice _
  · exact updateCounter slice _

theorem insertDeferred (slice : Slice F) (time : Time) :
    slice.Untouched (slice.insertDeferred generation attempt time) generation attempt := by
  unfold Slice.insertDeferred
  split
  · exact insertCounter slice _
  · exact refl slice

theorem forget (slice : Slice F) : slice.Untouched (slice.forget generation attempt)
    generation attempt := by
  have rest : slice.Untouched ((slice.deleteTerminal attempt).deleteAttempt generation attempt)
      generation attempt := (deleteTerminal slice).trans
        (deleteAttempt (slice.deleteTerminal attempt))
  simp only [Slice.forget]
  split
  · exact rest
  · exact rest.trans (of_rows rfl rfl rfl)

variable [Sha256 F]

theorem settle (slice : Slice F) (key : Key) (fingerprint : F) (now : Readings)
    (maxAttempts count : Nat) (outcome : Option GoError) :
    slice.Untouched (slice.settle key fingerprint now maxAttempts count outcome)
      key.attemptGeneration (attemptFingerprint key.attemptGeneration fingerprint) := by
  have consumed : slice.Untouched (slice.upsertAttempt key.attemptGeneration
      (attemptFingerprint key.attemptGeneration fingerprint) now.attempted) key.attemptGeneration
      (attemptFingerprint key.attemptGeneration fingerprint) := upsertAttempt slice now.attempted
  simp only [Slice.settle]
  cases (classify outcome).1 with
  | deferred =>
    by_cases first : count = 0
    · simp only [first, if_true]
      exact insertDeferred slice now.deferred
    · simp only [first, if_false]
      exact refl slice
  | success => exact consumed.trans (of_rows rfl rfl rfl)
  | permanent =>
    apply consumed.trans
    exact (updateCounter _ _).trans (upsertTerminal _ now.recorded _ _ _)
  | retryAfter | ordinary =>
    by_cases last : maxAttempts ≤ count + 1
    · simp only [last, if_true]
      exact consumed.trans (upsertTerminal _ now.recorded _ _ _)
    · simp only [last, if_false]
      exact consumed

theorem of_attempt (key : Key) (fingerprint : F) (now : Readings) (maxAttempts : Nat)
    (outcome : Option GoError)
    (settled : slice.attempt key fingerprint now maxAttempts outcome = some next) :
    slice.Untouched next key.attemptGeneration
      (attemptFingerprint key.attemptGeneration fingerprint) := by
  rcases slice.attempt_cases key fingerprint now maxAttempts next outcome settled with
    ⟨rfl, _⟩ | ⟨_, _, _, rfl⟩ | ⟨_, _, _, rfl⟩
  · exact refl next
  · exact (insertIdentity slice now.created fingerprint).trans (upsertTerminal _ now.recorded _ _ _)
  · exact (insertIdentity slice now.created fingerprint).trans
      (settle _ key fingerprint now maxAttempts _ outcome)

end Untouched

variable [LinearOrder F] [Sha256 F]

theorem settle_holds (slice : Slice F) (key : Key) (fingerprint : F) (now : Readings)
    (maxAttempts count : Nat) (outcome : Option GoError) (holds : slice.Holds fingerprint) :
    (slice.settle key fingerprint now maxAttempts count outcome).Holds fingerprint := by
  obtain ⟨stored, identity, same⟩ := holds
  unfold Slice.Holds
  rw [Slice.settle_identity, identity]
  split
  · exact ⟨_, rfl, same⟩
  · exact ⟨stored, rfl, same⟩

theorem attempt_matches {next : Slice F} (key : Key) (fingerprint : F) (now : Readings)
    (maxAttempts : Nat) (outcome : Option GoError)
    (settled : slice.attempt key fingerprint now maxAttempts outcome = some next) :
    next = slice ∨ slice.Matches fingerprint ∧ next.Matches fingerprint := by
  rcases slice.attempt_cases key fingerprint now maxAttempts next outcome settled with
    ⟨rfl, _⟩ | ⟨available, _, _, rfl⟩ | ⟨available, _, _, rfl⟩
  · exact .inl rfl
  · exact .inr ⟨available.matches,
      (slice.insertIdentity_holds fingerprint now.created available).matches⟩
  · exact .inr ⟨available.matches, (Slice.settle_holds _ key fingerprint now maxAttempts _ outcome
      (slice.insertIdentity_holds fingerprint now.created available)).matches⟩

end Slice

variable [LinearOrder F] [Sha256 F]

variable {now : Readings} {id : Identity} {slice : Slice F} {op : Op F} {trace : Trace F}

/-- A call leaves an identity as it was, or changes counters and terminal rows of
one of its items only. -/
theorem Effect.touched (effect : Effect now id slice op trace) (keyed : op.isRetention = false) :
    trace.slice = slice ∨ ∃ item ∈ op.items, item.key.identity = id ∧
      slice.Matches item.fingerprint ∧ trace.slice.Matches item.fingerprint ∧
      slice.Untouched trace.slice item.key.attemptGeneration
        (attemptFingerprint item.key.attemptGeneration item.fingerprint) := by
  have attempted : ∀ (item : BatchItem F) (maxAttempts : Nat) (outcome : Option GoError)
      (next : Slice F), item ∈ op.items → item.key.identity = id →
      slice.attempt item.key item.fingerprint now maxAttempts outcome = some next →
      next = slice ∨ ∃ item ∈ op.items, item.key.identity = id ∧
        slice.Matches item.fingerprint ∧ next.Matches item.fingerprint ∧
        slice.Untouched next item.key.attemptGeneration
          (attemptFingerprint item.key.attemptGeneration item.fingerprint) := by
    intro item maxAttempts outcome next member here settled
    have matching := Slice.attempt_matches item.key item.fingerprint now maxAttempts outcome settled
    refine matching.imp_right (fun matching => ⟨item, member, here, matching.1, matching.2, ?_⟩)
    exact .of_attempt item.key item.fingerprint now maxAttempts outcome settled
  cases effect with
  | idle | abandoned | dropped => exact .inl rfl
  | refused op item maxAttempts next member here limit positive denied settled =>
    exact attempted item maxAttempts none next member here settled
  | attempted op item maxAttempts outcome next member here limit positive admitted settled =>
    exact attempted item maxAttempts outcome next member here settled
  | processed key fingerprint outcome here unclaimed =>
    have available : slice.Available fingerprint := by
      intro row stored
      rcases unclaimed with missing | ⟨old, known, same, incomplete, _⟩
      · rw [missing] at stored
        cases stored
      · rw [← Option.some.inj (known.symm.trans stored)]
        exact ⟨same, incomplete⟩
    refine .inr ⟨⟨key.plain, fingerprint⟩, List.mem_singleton.mpr rfl, here, available.matches, ?_,
      (Slice.Untouched.insertIdentity slice now.created fingerprint).trans (.of_rows rfl rfl rfl)⟩
    obtain ⟨row, inserted, same⟩ := slice.insertIdentity_holds fingerprint now.created available
    refine Slice.Holds.matches ⟨{ row with completedAt := some now.completed }, ?_, same⟩
    simp [Slice.markComplete, inserted]
  | forgotten key fingerprint here row stored same incomplete =>
    refine .inr ⟨⟨key, fingerprint⟩, List.mem_singleton.mpr rfl, here,
      Slice.Holds.matches ⟨row, stored, same⟩, ?_, .forget slice⟩
    intro kept found
    rw [← Option.some.inj (stored.symm.trans ((slice.forget_within _ _).identity kept found))]
    exact same
  | confirmed key fingerprint here row stored same =>
    exact .inr ⟨⟨key, fingerprint⟩, List.mem_singleton.mpr rfl, here,
      Slice.Holds.matches ⟨row, stored, same⟩, Slice.Holds.matches ⟨row, stored, same⟩,
      .confirm slice now.confirmed⟩
  | pruned | retired => cases keyed

/-- No replay is counted under the fingerprint of the first delivery. -/
def Slice.Apart (slice : Slice F) : Prop :=
  ∀ attempt stored, slice.generations attempt ≠ none → slice.identity = some stored →
    attempt ≠ stored.fingerprint

omit [LinearOrder F] [Sha256 F] in
theorem apart_empty : (Slice.empty : Slice F).Apart := fun _ _ present => absurd rfl present

omit [LinearOrder F] [Sha256 F] in
theorem Slice.Within.apart {small large : Slice F} (within : small.Within large)
    (apart : large.Apart) : small.Apart := by
  intro attempt stored present identity
  obtain ⟨row, found⟩ := Option.ne_none_iff_exists'.mp present
  refine apart attempt stored ?_ (within.identity stored identity)
  rw [within.generations attempt row found]
  exact Option.some_ne_none row

theorem Effect.apart (effect : Effect now id slice op trace) (coherent : slice.Coherent)
    (apart : slice.Apart) (separates : op.Separates "") : trace.slice.Apart := by
  cases retention : op.isRetention with
  | true =>
    have unlimited : op.limit = none := by cases op <;> first | rfl | cases retention
    cases effect with
    | idle | abandoned => exact apart
    | refused op item maxAttempts next member here limit => cases unlimited.symm.trans limit
    | attempted op item maxAttempts outcome next member here limit =>
      cases unlimited.symm.trans limit
    | pruned => exact apart_empty
    | retired before limit attempts => exact (slice.retire_within before attempts).apart apart
    | dropped | processed | forgotten | confirmed => cases retention
  | false =>
    rcases effect.touched retention with same | ⟨item, member, _, before, later, untouched⟩
    · rw [same]
      exact apart
    · intro attempt stored present identity equal
      have print := later stored identity
      -- A replay with the identity's own fingerprint is a collision, and a first
      -- delivery changes no replay.
      have kept : trace.slice.generations attempt = slice.generations attempt := by
        apply untouched.generations
        by_cases own : attempt = attemptFingerprint item.key.attemptGeneration item.fingerprint
        · refine .inl (separates item member ?_)
          rw [← own, equal, print, attemptFingerprint_empty]
        · exact .inr own
      rw [kept] at present
      obtain ⟨old, known⟩ := Option.ne_none_iff_exists'.mp
        (fun missing => coherent.tracked missing (.inr ⟨attempt, present⟩))
      exact apart attempt old present known (equal.trans (print.trans (before old known).symm))

def Tables.Apart (tables : Tables F) : Prop := ∀ id, (tables.slice id).Apart

theorem step_apart (backend : Backend) (tables : Tables F) (taken : Step F)
    (coherent : tables.Coherent) (apart : tables.Apart) (separates : taken.op.Separates "") :
    (step backend tables taken).tables.Apart :=
  fun id => (step_effect backend tables coherent.tracked taken id).apart
    (coherent id) (apart id) separates

theorem run_apart (backend : Backend) (steps : List (Step F)) (tables : Tables F)
    (coherent : tables.Coherent) (apart : tables.Apart)
    (separates : ∀ taken ∈ steps, taken.op.Separates "") : (run backend tables steps).Apart := by
  induction steps generalizing tables with
  | nil => exact apart
  | cons taken rest ih =>
    exact ih _ (step_coherent backend tables taken coherent)
      (step_apart backend tables taken coherent apart (separates taken (.head _)))
      (fun later member => separates later (.tail _ member))

end Separation

end Gomessenger.Inbox
