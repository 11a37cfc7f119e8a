import Gomessenger.Inbox.BatchReport
import Gomessenger.Inbox.DistinctBatch

/-! The results of batch handlers: what their validation accepts, and the builder
that makes them.

Of a message the builder reads the two fields of its key. -/

namespace Gomessenger.Inbox

section Validation

variable {expected : List BatchItemKey}

theorem checkExpected_none {seen : List BatchItemKey}
    (accepted : checkExpected seen expected = none) :
    (∀ key ∈ expected, key.source ≠ "" ∧ key.messageID ≠ 0) ∧ expected.Nodup ∧
      ∀ key ∈ expected, key ∉ seen := by
  induction expected generalizing seen with
  | nil => simp
  | cons key rest ih =>
    rw [checkExpected] at accepted
    split_ifs at accepted with incomplete known
    obtain ⟨complete, distinct, unseen⟩ := ih accepted
    rw [not_or] at incomplete
    refine ⟨List.forall_mem_cons.mpr ⟨incomplete, complete⟩, List.nodup_cons.mpr ⟨?_, distinct⟩,
      List.forall_mem_cons.mpr ⟨known, ?_⟩⟩
    · intro member
      exact unseen key member List.mem_cons_self
    · intro other member old
      exact unseen other member (.tail _ old)

variable {result : List BatchItemResult}

theorem validateResult_expected
    {errors : List (Option GoError)} (accepted : validateResult expected result = .ok errors) :
    (∀ key ∈ expected, key.source ≠ "" ∧ key.messageID ≠ 0) ∧ expected.Nodup := by
  unfold validateResult at accepted
  split at accepted
  · cases accepted
  · split at accepted
    · cases accepted
    · rename_i checked
      exact ⟨(checkExpected_none checked).1, (checkExpected_none checked).2.1⟩

def errorOf (result : List BatchItemResult) (key : BatchItemKey) : Option GoError :=
  (result.find? (fun item => item.key = key)).bind BatchItemResult.err

theorem errorOf_member (distinct : (result.map BatchItemResult.key).Nodup)
    {item : BatchItemResult} (member : item ∈ result) : errorOf result item.key = item.err := by
  induction result with
  | nil => exact absurd member List.not_mem_nil
  | cons head rest ih =>
    obtain ⟨fresh, later⟩ := List.nodup_cons.mp distinct
    rcases List.mem_cons.mp member with rfl | inside
    · simp [errorOf]
    · have apart : head.key ≠ item.key := fun same => fresh (same ▸ List.mem_map_of_mem inside)
      rw [← ih later inside]
      simp [errorOf, apart]

theorem cover_perm (distinct : expected.Nodup)
    (cover : (result.map BatchItemResult.key).Perm expected) :
    result.Perm (expected.map (fun key => ⟨key, errorOf result key⟩)) := by
  have keys := cover.nodup_iff.mpr distinct
  have same : result = (result.map BatchItemResult.key).map
      (fun key => ⟨key, errorOf result key⟩) := by
    rw [List.map_map]
    refine (List.map_id result).symm.trans (List.map_congr_left ?_)
    intro item member
    rw [Function.comp_apply, errorOf_member keys member]
    rfl
  have permuted := cover.map (fun key => (⟨key, errorOf result key⟩ : BatchItemResult))
  rw [← same] at permuted
  exact permuted

end Validation

section Builder

structure BatchMessage (T : Type) where
  source : String
  id : MessageID
  payload : T

variable {T : Type}

def BatchMessage.key (message : BatchMessage T) : BatchItemKey := ⟨message.source, message.id⟩

abbrev ItemErrors := BatchItemKey → Option (Option GoError)

def ItemErrors.put (results : ItemErrors) (key : BatchItemKey)
    (err : Option GoError) : ItemErrors :=
  fun other => if other = key then some err else results other

structure BatchResultBuilder where
  keys : List BatchItemKey
  results : ItemErrors
  validationErr : Option GoError

def newBatchResultBuilder (messages : List (BatchMessage T)) : BatchResultBuilder where
  keys := messages.map BatchMessage.key
  results := messages.foldl (fun results message => results.put message.key none) (fun _ => none)
  validationErr := none

def BatchResultBuilder.failKey (builder : BatchResultBuilder) (key : BatchItemKey)
    (err : Option GoError) :
    BatchResultBuilder :=
  if (builder.results key).isNone then
    if builder.validationErr.isNone then
      { builder with validationErr := some (invalidResult ("unknown key " ++ keyText key)) }
    else builder
  else { builder with results := builder.results.put key err }

def BatchResultBuilder.okKey (builder : BatchResultBuilder)
    (key : BatchItemKey) : BatchResultBuilder :=
  builder.failKey key none

def BatchResultBuilder.ok (builder : BatchResultBuilder)
    (message : BatchMessage T) : BatchResultBuilder :=
  builder.okKey message.key

def BatchResultBuilder.fail (builder : BatchResultBuilder) (message : BatchMessage T)
    (err : Option GoError) :
    BatchResultBuilder :=
  builder.failKey message.key err

def BatchResultBuilder.build (builder : BatchResultBuilder) :
    Except GoError (List BatchItemResult) :=
  match builder.validationErr with
  | some err => .error err
  | none =>
    if builder.keys.length = 0 then .ok []
    else .ok (builder.keys.map (fun key => ⟨key, (builder.results key).getD none⟩))

/-- A call of the builder before `Build`. -/
inductive BuilderCall (T : Type)
  | ok (message : BatchMessage T)
  | fail (message : BatchMessage T) (err : Option GoError)
  | okKey (key : BatchItemKey)
  | failKey (key : BatchItemKey) (err : Option GoError)

def BatchResultBuilder.call (builder : BatchResultBuilder) : BuilderCall T → BatchResultBuilder
  | .ok message => builder.ok message
  | .fail message err => builder.fail message err
  | .okKey key => builder.okKey key
  | .failKey key err => builder.failKey key err

def BuilderCall.key : BuilderCall T → BatchItemKey
  | .ok message => message.key
  | .fail message _ => message.key
  | .okKey key => key
  | .failKey key _ => key

def BuilderCall.err : BuilderCall T → Option GoError
  | .ok _ => none
  | .fail _ err => err
  | .okKey _ => none
  | .failKey _ err => err

def lastError (calls : List (BuilderCall T)) (key : BatchItemKey) : Option GoError :=
  (calls.reverse.find? (fun call => call.key = key)).bind BuilderCall.err

theorem BatchResultBuilder.call_eq (builder : BatchResultBuilder) (call : BuilderCall T) :
    builder.call call = builder.failKey call.key call.err := by
  cases call <;> rfl

variable (messages : List (BatchMessage T))

theorem newBatchResultBuilder_results (results : ItemErrors) (key : BatchItemKey) :
    messages.foldl (fun results message => results.put message.key none) results key =
      if key ∈ messages.map BatchMessage.key then some none else results key := by
  induction messages generalizing results with
  | nil => rfl
  | cons message rest ih =>
    rw [List.foldl_cons, ih, List.map_cons]
    by_cases later : key ∈ rest.map BatchMessage.key
    · rw [if_pos later, if_pos (.tail _ later)]
    · by_cases here : key = message.key
      · simp [ItemErrors.put, here]
      · simp [ItemErrors.put, later, here]

structure Collects (expected : List BatchItemKey) (calls : List (BuilderCall T))
    (builder : BatchResultBuilder) :
    Prop where
  keys : builder.keys = expected
  results : ∀ key, builder.results key = if key ∈ expected then some (lastError calls key) else none
  unknown : builder.validationErr ≠ none ↔ ∃ call ∈ calls, call.key ∉ expected

theorem Collects.call {keys : List BatchItemKey} {calls : List (BuilderCall T)}
    {builder : BatchResultBuilder} (collects : Collects keys calls builder) (call : BuilderCall T) :
    Collects keys (calls ++ [call]) (builder.call call) := by
  have held := collects.results call.key
  have later : ∀ key, lastError (calls ++ [call]) key = if key = call.key then call.err
      else lastError calls key := by
    intro key
    by_cases same : call.key = key
    · simp [lastError, same]
    · rw [if_neg (fun other => same other.symm)]
      simp [lastError, same]
  rw [builder.call_eq, BatchResultBuilder.failKey, held]
  by_cases known : call.key ∈ keys
  · rw [if_pos known, if_neg (by simp)]
    refine ⟨collects.keys, ?_, ?_⟩
    · intro key
      rw [later key]
      by_cases same : key = call.key
      · simp [ItemErrors.put, same, known]
      · simp only [ItemErrors.put, if_neg same]
        exact collects.results key
    · rw [collects.unknown]
      simp [known, or_and_right, exists_or]
  · have results : ∀ key, builder.results key = if key ∈ keys
        then some (lastError (calls ++ [call]) key) else none := by
      intro key
      rw [collects.results, later key]
      by_cases same : key = call.key
      · rw [same, if_neg known, if_neg known]
      · rw [if_neg same]
    have named : ∃ other ∈ calls ++ [call], other.key ∉ keys := ⟨call, by simp, known⟩
    rw [if_neg known, if_pos Option.isNone_none]
    by_cases first : builder.validationErr = none
    · rw [if_pos (by simp [first])]
      exact ⟨collects.keys, results, ⟨fun _ => named, fun _ => nofun⟩⟩
    · rw [if_neg (by simpa using first)]
      exact ⟨collects.keys, results, ⟨fun _ => named, fun _ => first⟩⟩

theorem Collects.calls (calls : List (BuilderCall T)) :
    Collects (messages.map BatchMessage.key) calls
      (calls.foldl BatchResultBuilder.call (newBatchResultBuilder messages)) := by
  induction calls using List.reverseRecOn with
  | nil =>
    refine ⟨rfl, ?_, by simp [newBatchResultBuilder]⟩
    intro key
    exact newBatchResultBuilder_results messages (fun _ => none) key
  | append_singleton calls call ih =>
    rw [List.foldl_append]
    exact ih.call call

end Builder

theorem results_and_builder_agree {T : Type} :
    (∀ (expected : List BatchItemKey) (result : List BatchItemResult),
      ((∃ errors, validateResult expected result = .ok errors) ↔
        (∀ key ∈ expected, key.source ≠ "" ∧ key.messageID ≠ 0) ∧ expected.Nodup ∧
          (result.map BatchItemResult.key).Perm expected) ∧
      ∀ errors, validateResult expected result = .ok errors →
        List.Forall₂ (fun key err => (⟨key, err⟩ : BatchItemResult) ∈ result) expected errors) ∧
    ∀ (messages : List (BatchMessage T)) (calls : List (BuilderCall T)),
      (∀ key ∈ messages.map BatchMessage.key, key.source ≠ "" ∧ key.messageID ≠ 0) →
      (messages.map BatchMessage.key).Nodup →
      let built := (calls.foldl BatchResultBuilder.call (newBatchResultBuilder messages)).build
      ((∃ err, built = .error err) ↔ ∃ call ∈ calls, call.key ∉ messages.map BatchMessage.key) ∧
        ∀ result, built = .ok result → validateResult (messages.map BatchMessage.key) result =
          .ok ((messages.map BatchMessage.key).map (lastError calls)) := by
  constructor
  · intro expected result
    have ordered : (∀ key ∈ expected, key.source ≠ "" ∧ key.messageID ≠ 0) → expected.Nodup →
        (result.map BatchItemResult.key).Perm expected →
        validateResult expected result = .ok (expected.map (errorOf result)) :=
          fun complete distinct cover =>
      validateResult_accepts expected distinct complete (errorOf result) result
        (cover_perm distinct cover)
    constructor
    · constructor
      · rintro ⟨errors, accepted⟩
        obtain ⟨complete, distinct⟩ := validateResult_expected accepted
        exact ⟨complete, distinct, validateResult_cover expected result errors accepted⟩
      · rintro ⟨complete, distinct, cover⟩
        exact ⟨_, ordered complete distinct cover⟩
    · intro errors accepted
      obtain ⟨complete, distinct⟩ := validateResult_expected accepted
      have cover := validateResult_cover expected result errors accepted
      rw [ordered complete distinct cover] at accepted
      rw [← Except.ok.inj accepted, List.forall₂_map_right_iff]
      refine List.forall₂_same.mpr ?_
      intro key member
      exact (cover_perm distinct cover).mem_iff.mpr (List.mem_map_of_mem member)
  · intro messages calls complete distinct built
    have collects := Collects.calls messages calls
    -- The builder remembers its first unknown key until build.
    cases failed : (calls.foldl BatchResultBuilder.call
        (newBatchResultBuilder messages)).validationErr with
    | some err =>
      have isBuilt : built = .error err := by
        simp only [built, BatchResultBuilder.build, failed]
      refine ⟨⟨fun _ => collects.unknown.mp (by simp [failed]), fun _ => ⟨err, isBuilt⟩⟩, ?_⟩
      intro result returned
      rw [isBuilt] at returned
      cases returned
    | none =>
      have isBuilt : built = .ok ((messages.map BatchMessage.key).map
          (fun key => ⟨key, lastError calls key⟩)) := by
        simp only [built, BatchResultBuilder.build, failed, collects.keys]
        split_ifs with empty
        · rw [List.length_eq_zero_iff.mp empty, List.map_nil]
        · refine congrArg Except.ok (List.map_congr_left ?_)
          intro key member
          rw [collects.results, if_pos member, Option.getD_some]
      refine ⟨⟨?_, fun unknown => absurd failed (collects.unknown.mpr unknown)⟩, ?_⟩
      · rintro ⟨err, refused⟩
        rw [isBuilt] at refused
        cases refused
      · intro result returned
        rw [isBuilt] at returned
        rw [← Except.ok.inj returned]
        exact validateResult_accepts _ distinct complete (lastError calls) _ (List.Perm.refl _)

theorem results_and_builder_agree_sample :
    ((newBatchResultBuilder [(⟨"shop", 1, ()⟩ : BatchMessage Unit),
      ⟨"shop", 2, ()⟩]).failKey ⟨"shop", 2⟩
      (some (.text "late"))).build = .ok [⟨⟨"shop", 1⟩, none⟩, ⟨⟨"shop", 2⟩, some (.text "late")⟩] ∧
    validateResult [⟨"shop", 1⟩, ⟨"shop", 2⟩] [⟨⟨"shop", 1⟩, none⟩,
      ⟨⟨"shop", 2⟩, some (.text "late")⟩] =
      .ok [none, some (.text "late")] := by
  have built : ((newBatchResultBuilder [(⟨"shop", 1, ()⟩ : BatchMessage Unit),
    ⟨"shop", 2, ()⟩]).failKey ⟨"shop", 2⟩
      (some (.text "late"))).build = .ok [⟨⟨"shop", 1⟩, none⟩,
      ⟨⟨"shop", 2⟩, some (.text "late")⟩] := by
    decide
  exact ⟨built, ((results_and_builder_agree (T := Unit)).2 [⟨"shop", 1, ()⟩, ⟨"shop", 2, ()⟩]
    [.failKey ⟨"shop", 2⟩ (some (.text "late"))] (by decide) (by decide)).2 _ built⟩

end Gomessenger.Inbox
