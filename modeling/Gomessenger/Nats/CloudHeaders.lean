import Gomessenger.Nats.CloudEvents

/-! What becomes of an envelope's headers in the CloudEvents modes: the trace
headers travel as extensions, the others in one extension. -/

namespace Gomessenger.Nats

open Utf8 Json
open Messenger (Headers)

def traceParentName : Bytes := Extension.traceParent.name

def traceStateName : Bytes := Extension.traceState.name

theorem equalFold_apart {key : Bytes} (isParent : equalFold key traceParentName = true) :
    equalFold key traceStateName = false := by
  have folded : foldCase key = foldCase traceParentName := by simpa [equalFold] using isParent
  have apart : foldCase traceParentName ≠ foldCase traceStateName := by decide
  simpa [equalFold, folded] using apart

/-- No two rows are named so, up to letter case. -/
def AtMostOne (name : Bytes) (rows : List (Bytes × Bytes)) : Prop :=
  rows.Pairwise (fun first second => equalFold first.1 name = true →
    equalFold second.1 name = false)

structure Scanned (rows : List (Bytes × Bytes)) (traceParentSeen traceStateSeen : Bool) : Prop where
  lines : ∀ row ∈ rows, Messenger.hasLineBreak row.1 = false ∧ Messenger.hasLineBreak row.2 = false
  parent : AtMostOne traceParentName rows
  state : AtMostOne traceStateName rows
  parentSeen : traceParentSeen = true → ∀ row ∈ rows, equalFold row.1 traceParentName = false
  stateSeen : traceStateSeen = true → ∀ row ∈ rows, equalFold row.1 traceStateName = false

theorem Scanned.cons {key value : Bytes} {rest : List (Bytes × Bytes)} {parentSeen stateSeen : Bool}
    (lines : Messenger.hasLineBreak key = false ∧ Messenger.hasLineBreak value = false)
    (parentFresh : equalFold key traceParentName = true → parentSeen = false)
    (stateFresh : equalFold key traceStateName = true → stateSeen = false)
    (scanned : Scanned rest (parentSeen || equalFold key traceParentName) (stateSeen ||
      equalFold key traceStateName)) :
    Scanned ((key, value) :: rest) parentSeen stateSeen where
  lines := List.forall_mem_cons.mpr ⟨lines, scanned.lines⟩
  parent := List.pairwise_cons.mpr ⟨fun row member isParent =>
    scanned.parentSeen (by simp [show equalFold key traceParentName = true from isParent]) row
      member,
    scanned.parent⟩
  state := List.pairwise_cons.mpr ⟨fun row member isState =>
    scanned.stateSeen (by simp [show equalFold key traceStateName = true from isState]) row member,
    scanned.state⟩
  parentSeen := by
    intro seen
    refine List.forall_mem_cons.mpr ⟨?_, scanned.parentSeen (by simp [seen])⟩
    by_contra isParent
    exact absurd (parentFresh (by simpa using isParent)) (by simp [seen])
  stateSeen := by
    intro seen
    refine List.forall_mem_cons.mpr ⟨?_, scanned.stateSeen (by simp [seen])⟩
    by_contra isState
    exact absurd (stateFresh (by simpa using isState)) (by simp [seen])

theorem scanHeaders_ok {rows : List (Bytes × Bytes)}
    {parentSeen stateSeen : Bool} {total result : Nat}
    (scanned : Messenger.scanHeaders rows parentSeen stateSeen total = .ok result) :
    Scanned rows parentSeen stateSeen := by
  induction rows generalizing parentSeen stateSeen total with
  | nil => exact ⟨by simp, .nil, .nil, by simp, by simp⟩
  | cons row rest ih =>
    obtain ⟨key, value⟩ := row
    rw [Messenger.scanHeaders] at scanned
    split at scanned
    · cases scanned
    next fine =>
      simp only [not_or, Bool.not_eq_true] at fine
      have lines := fine.2.2
      split at scanned
      next isParent =>
        have isParent : equalFold key traceParentName = true := isParent
        split at scanned
        · cases scanned
        next fresh =>
          apply Scanned.cons lines (fun _ => by simpa using fresh)
          · intro isState
            exact absurd (equalFold_apart isParent) (by simp [isState])
          · simpa [isParent, equalFold_apart isParent] using ih scanned
      next notParent =>
        have notParent : equalFold key traceParentName = false := Bool.eq_false_iff.mpr notParent
        split at scanned
        next isState =>
          have isState : equalFold key traceStateName = true := isState
          split at scanned
          · cases scanned
          next fresh =>
            apply Scanned.cons lines (by simp [notParent]) (fun _ => by simpa using fresh)
            simpa [notParent, isState] using ih scanned
        next notState =>
          have notState : equalFold key traceStateName = false := Bool.eq_false_iff.mpr notState
          apply Scanned.cons lines (by simp [notParent]) (by simp [notState])
          simpa [notParent, notState] using ih scanned

theorem validateHeaders_ok {headers : Headers}
    (valid : Messenger.validateHeaders headers = .ok ()) :
    Scanned headers.rows false false := by
  unfold Messenger.validateHeaders at valid
  split at valid
  · cases valid
  · cases scanned : Messenger.scanHeaders headers.rows false false 0 with
    | error err => exact absurd valid (by simp [scanned, bind, Except.bind])
    | ok total => exact scanHeaders_ok scanned

section Carry

def withTrace (headers : Headers) (name value : Bytes) : Headers :=
  if value = [] then headers
    else (headers.deleteWhere (fun key _ => equalFold key name)).set name value

def cloudHeaders (headers : Headers) : Headers :=
  let (traceParent, headers) := takeHeader headers traceParentName
  let (traceState, headers) := takeHeader headers traceStateName
  withTrace (withTrace headers traceParentName traceParent) traceStateName traceState

def traceValue (headers : Headers) (name : Bytes) : Bytes := (takeHeader headers name).1

theorem takeHeader_find? (headers : Headers) (name key : Bytes) :
    (takeHeader headers name).2.find? key =
      if equalFold key name = true then none else headers.find? key :=
  KeyedTable.find?_deleteKeys headers (fun key => equalFold key name) key

theorem withTrace_find? (headers : Headers) (name value key : Bytes) :
    (withTrace headers name value).find? key =
      if value = [] then headers.find? key
      else if name = key then some value
      else if equalFold key name = true then none else headers.find? key := by
  unfold withTrace
  split
  · rfl
  · rw [KeyedTable.find?_set, KeyedTable.find?_deleteKeys headers
      (fun key => equalFold key name) key]
    by_cases same : name = key <;> simp [same]

theorem takeHeader_takeHeader (headers : Headers) :
    (takeHeader (takeHeader headers traceParentName).2 traceStateName).1 =
      traceValue headers traceStateName := by
  have same : (headers.rows.filter (fun row => !equalFold row.1 traceParentName)).filter
      (fun row => equalFold row.1 traceStateName) =
        headers.rows.filter (fun row => equalFold row.1 traceStateName) := by
    rw [List.filter_filter]
    apply List.filter_congr
    intro row _
    cases isParent : equalFold row.1 traceParentName with
    | false => simp
    | true => simp [equalFold_apart isParent]
  simp only [traceValue, takeHeader, KeyedTable.deleteWhere, same]

def traceName? (key : Bytes) : Option Bytes :=
  if equalFold key traceParentName then some traceParentName
  else if equalFold key traceStateName then some traceStateName
  else none

theorem cloudHeaders_find? (headers : Headers) (key : Bytes) : (cloudHeaders headers).find? key =
      match traceName? key with
      | none => headers.find? key
      | some name =>
        if name = key ∧ traceValue headers name ≠ []
            then some (traceValue headers name) else none := by
  have parents : equalFold traceParentName traceParentName = true := by decide
  have states : equalFold traceStateName traceStateName = true := by decide
  have apart : traceStateName ≠ traceParentName := by decide
  simp only [cloudHeaders, withTrace_find?, takeHeader_find?, takeHeader_takeHeader, traceName?]
  rw [show (takeHeader headers traceParentName).1 = traceValue headers traceParentName from rfl]
  by_cases isParent : equalFold key traceParentName = true
  · have notState := equalFold_apart isParent
    have other : traceStateName ≠ key := by
      rintro rfl
      exact absurd states (by simp [notState])
    simp only [isParent, notState, other, if_true, if_false, Bool.false_eq_true]
    by_cases empty : traceValue headers traceParentName = [] <;>
      by_cases same : traceParentName = key <;> simp [empty, same]
  · have other : traceParentName ≠ key := by
      rintro rfl
      exact isParent parents
    simp only [isParent, other, if_false]
    by_cases isState : equalFold key traceStateName = true
    · simp only [isState, if_true]
      by_cases empty : traceValue headers traceStateName = [] <;>
        by_cases same : traceStateName = key <;> simp [empty, same]
    · have another : traceStateName ≠ key := by
        rintro rfl
        exact isState states
      simp [isState, another]

variable {name : Bytes} {rows : List (Bytes × Bytes)}

theorem AtMostOne.filter {row : Bytes × Bytes}
    (unique : AtMostOne name rows) (member : row ∈ rows) (named : equalFold row.1 name = true) :
    rows.filter (fun row => equalFold row.1 name) = [row] := by
  induction rows with
  | nil => cases member
  | cons first rest ih =>
    obtain ⟨others, unique⟩ := List.pairwise_cons.mp unique
    rcases List.mem_cons.mp member with rfl | later
    · have gone : rest.filter (fun row => equalFold row.1 name) = [] :=
        List.filter_eq_nil_iff.mpr (fun other inside => by simp [others other inside named])
      rw [List.filter_cons_of_pos (by simpa using named), gone]
    · have notFirst : equalFold first.1 name = false := by
        by_contra isFirst
        exact absurd (others row later (by simpa using isFirst)) (by simp [named])
      rw [List.filter_cons_of_neg (by simp [notFirst]), ih unique later]

variable {headers : Headers} {key : Bytes}

theorem traceValue_of_mem {value : Bytes} (unique : AtMostOne name headers.rows)
    (member : (key, value) ∈ headers.rows)
    (named : equalFold key name = true) : traceValue headers name = value := by
  have single := AtMostOne.filter unique member named
  simp only [traceValue, takeHeader, single, List.map_cons, List.map_nil,
    List.find?_cons, List.find?_nil]
  cases value <;> rfl

theorem exists_of_traceValue (filled : traceValue headers name ≠ []) :
    ∃ key, (key, traceValue headers name) ∈ headers.rows ∧ equalFold key name = true := by
  cases found : ((headers.rows.filter (fun row => equalFold row.1 name)).map Prod.snd).find?
      (· != []) with
  | none => exact absurd (by simp [traceValue, takeHeader, found]) filled
  | some value =>
    have isValue : traceValue headers name = value := by simp [traceValue, takeHeader, found]
    obtain ⟨row, inside, rfl⟩ := List.mem_map.mp (List.mem_of_find?_eq_some found)
    obtain ⟨member, named⟩ := List.mem_filter.mp inside
    rw [isValue]
    exact ⟨row.1, member, named⟩

def SentHeaders (sent got : Headers) : Prop :=
  ∀ key value, (key, value) ∈ got.rows ↔ ∃ name, (name, value) ∈ sent.rows ∧
    (traceName? name).getD name = key

theorem traceName?_of_parent (isParent : equalFold key traceParentName = true) :
    traceName? key = some traceParentName := if_pos isParent

theorem traceName?_of_state (isState : equalFold key traceStateName = true) :
    traceName? key = some traceStateName := by
  have notParent : equalFold key traceParentName = false := by
    by_contra isParent
    exact absurd (equalFold_apart (by simpa using isParent)) (by simp [isState])
  simp [traceName?, notParent, isState]

theorem traceName?_eq_some (named : traceName? key = some name) :
    equalFold key name = true ∧ traceName? name = some name := by
  unfold traceName? at named
  split at named
  next isParent =>
    rw [← Option.some.inj named]
    exact ⟨isParent, by decide⟩
  next =>
    split at named
    next isState =>
      rw [← Option.some.inj named]
      exact ⟨isState, by decide⟩
    next => cases named

theorem Scanned.unique {parentSeen stateSeen : Bool}
    (scanned : Scanned rows parentSeen stateSeen) (named : traceName? key = some name) :
    AtMostOne name rows := by
  unfold traceName? at named
  split at named
  · rw [← Option.some.inj named]
    exact scanned.parent
  · split at named
    · rw [← Option.some.inj named]
      exact scanned.state
    · cases named

theorem traceName?_of_fold {other : Bytes} (named : traceName? other = some name)
    (folds : equalFold key name = true) : traceName? key = some name := by
  unfold traceName? at named
  split at named
  · rw [← Option.some.inj named] at folds ⊢
    exact traceName?_of_parent folds
  · split at named
    · rw [← Option.some.inj named] at folds ⊢
      exact traceName?_of_state folds
    · cases named

theorem sameHeaders_cloudHeaders (scanned : Scanned headers.rows false false) :
    SentHeaders headers (cloudHeaders headers) ↔
      ∀ row ∈ headers.rows, (traceName? row.1).isSome = true → row.2 ≠ [] := by
  constructor
  · rintro same ⟨key, value⟩ member isTrace rfl
    obtain ⟨name, named⟩ := Option.isSome_iff_exists.mp isTrace
    have kept := (same name []).mpr ⟨key, member, by simp [named]⟩
    rw [KeyedTable.mem_rows, cloudHeaders_find?, (traceName?_eq_some named).2] at kept
    simp only [true_and, ite_not, Option.ite_none_left_eq_some, Option.some.injEq] at kept
    exact kept.1 kept.2
  · intro filled key value
    rw [KeyedTable.mem_rows, cloudHeaders_find?]
    cases named : traceName? key with
    | none =>
      simp only [← KeyedTable.mem_rows]
      constructor
      · intro member
        exact ⟨key, member, by simp [named]⟩
      · rintro ⟨name, member, canonical⟩
        cases other : traceName? name with
        | none =>
          rw [other] at canonical
          rwa [← show name = key from canonical]
        | some found =>
          rw [other] at canonical
          rw [← show found = key from canonical, (traceName?_eq_some other).2] at named
          cases named
    | some name =>
      simp only [Option.ite_none_right_eq_some, Option.some.injEq]
      constructor
      · rintro ⟨⟨rfl, present⟩, rfl⟩
        obtain ⟨found, member, folds⟩ := exists_of_traceValue present
        exact ⟨found, member, by simp [traceName?_of_fold named folds]⟩
      · rintro ⟨found, member, canonical⟩
        have isFound : traceName? found = some key := by
          cases other : traceName? found with
          | none =>
            rw [other] at canonical
            rw [show found = key from canonical, named] at other
            cases other
          | some inner => rw [other] at canonical; exact congrArg some canonical
        have isName : name = key := by
          have again := (traceName?_eq_some isFound).2
          rw [named] at again
          exact Option.some.inj again
        subst isName
        have isValue := traceValue_of_mem (scanned.unique named) member
          (traceName?_eq_some isFound).1
        rw [isValue]
        exact ⟨⟨rfl, filled _ member (by simp [isFound])⟩, rfl⟩

/-- The modes keep the headers as they are exactly if every trace header has a
value and is spelt in lower case. -/
theorem cloudHeaders_eq_iff (scanned : Scanned headers.rows false false) :
    cloudHeaders headers = headers ↔
      ∀ row ∈ headers.rows, (traceName? row.1).isSome = true →
        traceName? row.1 = some row.1 ∧ row.2 ≠ [] := by
  constructor
  · rintro same ⟨key, value⟩ member isTrace
    obtain ⟨name, named⟩ := Option.isSome_iff_exists.mp isTrace
    rw [← same, KeyedTable.mem_rows, cloudHeaders_find?, named] at member
    simp only [Option.ite_none_right_eq_some, Option.some.injEq] at member
    obtain ⟨⟨rfl, present⟩, rfl⟩ := member
    exact ⟨named, present⟩
  · intro canonical
    apply KeyedTable.ext_find?
    intro key
    rw [cloudHeaders_find?]
    cases named : traceName? key with
    | none => rfl
    | some name =>
      show (if name = key ∧ traceValue headers name ≠ []
        then some (traceValue headers name) else none) = _
      split
      next both =>
        obtain ⟨rfl, present⟩ := both
        obtain ⟨found, member, folds⟩ := exists_of_traceValue present
        have isFound := traceName?_of_fold named folds
        obtain ⟨itself, _⟩ := canonical _ member (by simp [isFound])
        rw [isFound] at itself
        rw [← show name = found from Option.some.inj itself] at member
        exact ((KeyedTable.mem_rows headers name _).mp member).symm
      next missing =>
        cases found : headers.find? key with
        | none => rfl
        | some value =>
          have member := (KeyedTable.mem_rows headers key value).mpr found
          obtain ⟨itself, present⟩ := canonical _ member (by simp [named])
          rw [named] at itself
          have isKey : name = key := Option.some.inj itself
          subst isKey
          have isValue := traceValue_of_mem (scanned.unique named) member
            (traceName?_eq_some named).1
          exact absurd ⟨rfl, by rw [isValue]; exact present⟩ missing

theorem cloudHeaders_texts (texts : ∀ row ∈ headers.rows, Valid row.1 ∧ Valid row.2) :
    ∀ row ∈ (cloudHeaders headers).rows, Valid row.1 ∧ Valid row.2 := by
  rintro ⟨key, value⟩ member
  rw [KeyedTable.mem_rows, cloudHeaders_find?] at member
  cases named : traceName? key with
  | none =>
    rw [named] at member
    exact texts _ ((KeyedTable.mem_rows headers key value).mpr member)
  | some name =>
    rw [named] at member
    simp only [Option.ite_none_right_eq_some, Option.some.injEq] at member
    obtain ⟨⟨rfl, filled⟩, rfl⟩ := member
    obtain ⟨found, inside, _⟩ := exists_of_traceValue filled
    have canonical : Valid name := by
      unfold traceName? at named
      split at named
      · rw [← Option.some.inj named]
        exact valid_ofString "traceparent"
      · split at named
        · rw [← Option.some.inj named]
          exact valid_ofString "tracestate"
        · cases named
    exact ⟨canonical, (texts _ inside).2⟩

end Carry

end Gomessenger.Nats
