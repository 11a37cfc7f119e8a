import Gomessenger.Messenger.RuntimeLifecycle

/-! What Run returns of the errors its services returned. -/

namespace Gomessenger.Runtime

def Finish.err : Finish → Option GoError
  | .fanOut err => err
  | .fannedOut err => err
  | .storing err => err
  | .closing err => err
  | .closingDone err => err
  | .finished err => err

namespace RunPc

def err (data : RunData) : RunPc → Option GoError
  | .finishing finish => finish.err
  | _ => data.runErr

def inFlight : RunPc → Option ServiceResult
  | .received result => some result
  | .judging result _ => some result
  | .suspecting result => some result
  | _ => none

def early : RunPc → Bool
  | .entering _ => true
  | .refused _ => true
  | .selecting => true
  | .received _ => true
  | .judging _ _ => true
  | .suspecting _ => true
  | _ => false

def drained : RunPc → Bool
  | .drainRead => true
  | .cancelling _ => true
  | .waiting => true
  | .collecting => true
  | .finishing _ => true
  | _ => false

def isFinishing : RunPc → Bool
  | .finishing _ => true
  | _ => false

def late : RunPc → Bool
  | .collecting => true
  | .finishing _ => true
  | _ => false

end RunPc

/-- The services' results so far: kept until examined, and in the error from then on. -/
structure Collected (shared : Shared) (pc : RunPc) (data : RunData) : Prop where
  kept : ∀ service err, data.services[service]? = some (.sent err) ∨
    data.services[service]? = some (.finished err) →
    ⟨service, err⟩ ∈ data.results ∨ pc.inFlight = some ⟨service, err⟩ ∨
      ∃ seen ∈ data.examined, seen.result = ⟨service, err⟩
  included : ∀ seen ∈ data.examined, ∀ err, seen.result.err = some err →
    isExpectedContextDone seen.contextErr err = false → ErrorIs (pc.err data) err
  noticed : ∀ seen ∈ data.examined, seen.draining = false → seen.contextErr = none →
    (pc.err data).isSome = true
  first : pc.early = true → data.examined = []
  suspect : ∀ result, pc = .suspecting result → unexpected shared.runContextErr result.err = none
  drained : pc.drained = true → shared.drain = true
  inTime : data.inTime = true → pc.late = true ∧ ∀ run ∈ data.services, run.returned = true
  emptied : data.inTime = true → pc.isFinishing = true → data.results = []

def Thread.Collects (shared : Shared) : Thread → Prop
  | .run pc data => Collected shared pc data
  | _ => True

structure Later (shared next : Shared) : Prop where
  context : ∀ err, shared.runContextErr = some err → next.runContextErr = some err
  drain : shared.drain = true → next.drain = true

section Steps

variable {services : List String} {shared next : Shared} {data : RunData}

theorem Later.refl (shared : Shared) : Later shared shared := ⟨fun _ same => same, id⟩

theorem cancel_later (shared : Shared) : Later shared shared.cancel := by
  refine ⟨?_, id⟩
  intro err done
  simp only [Shared.cancel, done]
  rfl

theorem drainBody_later (panics : List Bool) : Later shared (shared.drainBody services panics) := by
  refine ⟨?_, fun _ => (drainBody_fields services shared panics).2.2.2.2.1⟩
  intro err done
  simp only [Shared.drainBody]
  split_ifs
  · exact (cancel_later _).context err done
  · exact (cancel_later _).context err done
  · exact done
  · exact done

theorem effect_later {before after : Stage} (effect : Effect services shared before next after) :
    Later shared next := by
  cases effect with
  | cancel => exact cancel_later shared
  | drain _ panics _ => exact drainBody_later panics
  | closeDone =>
    rw [Shared.closeDone]
    split_ifs
    · exact .refl _
    · exact ⟨fun _ same => same, id⟩
  | _ => exact ⟨fun _ same => same, id⟩

theorem contextEnds_later (err : GoError) : Later shared (contextEnds shared err) := by
  rw [contextEnds]
  split_ifs
  · refine ⟨?_, id⟩
    intro done isDone
    simp only [isDone]
    rfl
  · exact .refl _

theorem isExpectedContextDone_later (later : Later shared next) {err : GoError}
    (expected : isExpectedContextDone shared.runContextErr err = true) :
    isExpectedContextDone next.runContextErr err = true := by
  unfold isExpectedContextDone at expected ⊢
  cases isErr : shared.runContextErr with
  | none =>
    rw [isErr, Bool.or_false] at expected
    rw [expected, Bool.true_or]
  | some ctxErr =>
    rw [isErr] at expected
    rw [later.context ctxErr isErr]
    exact expected

variable {contextErr : Option GoError}

theorem unexpected_none {err : GoError} :
    unexpected contextErr (some err) = none ↔ isExpectedContextDone contextErr err = true := by
  simp only [unexpected]
  split_ifs with expected <;> simp [expected]

variable {err : Option GoError}

theorem unexpected_some {value : GoError} (isValue : unexpected contextErr err = some value) :
    err = some value := by
  cases err with
  | none => exact absurd isValue (by simp [unexpected])
  | some other =>
    simp only [unexpected] at isValue
    split_ifs at isValue
    exact isValue

theorem unexpected_later (later : Later shared next)
    (expected : unexpected shared.runContextErr err = none) :
    unexpected next.runContextErr err = none := by
  cases err with
  | none => rfl
  | some err =>
    exact unexpected_none.mpr (isExpectedContextDone_later later (unexpected_none.mp expected))

variable {pc : RunPc}

theorem Collected.later (later : Later shared next) (collected : Collected shared pc data) :
    Collected next pc data :=
  { collected with
    suspect := fun result isSuspect => unexpected_later later (collected.suspect result isSuspect)
    drained := fun isDrained => later.drain (collected.drained isDrained) }

theorem joined_grows (first second : Option GoError) :
    (∀ err, ErrorIs first err → ErrorIs (joinErrors [first, second]) err) ∧
      (first.isSome = true → (joinErrors [first, second]).isSome = true) := by
  refine ⟨fun err held => joinErrors_is List.mem_cons_self held, ?_⟩
  intro present
  obtain ⟨value, rfl⟩ := Option.isSome_iff_exists.mp present
  exact joinErrors_isSome List.mem_cons_self

theorem serviceError_is (service : Nat) (gracefulDrain : Bool) (err : GoError) :
    ErrorIs (some (serviceError services service gracefulDrain err)) err := by
  refine ⟨_, rfl, ?_⟩
  rw [serviceError, GoError.contains, err.contains_self, Bool.or_true]

variable {answer : Answer} {after : RunData}

theorem Collected.service (collected : Collected shared pc data)
    (stepped : data.service answer = some after) :
    Collected shared pc after := by
  unfold RunData.service at stepped
  split at stepped
  next service err =>
    split at stepped
    next working =>
      obtain rfl := Option.some.inj stepped
      have pending : data.inTime ≠ true := by
        intro inTime
        have returned := (collected.inTime inTime).2 _ (List.mem_of_getElem? working)
        exact absurd returned (by decide)
      refine ⟨?_, collected.included, collected.noticed, collected.first, collected.suspect,
        collected.drained, fun inTime => absurd inTime pending, fun inTime => absurd inTime pending⟩
      intro other otherErr returned
      by_cases same : service = other
      · subst same
        simp only [List.getElem?_set_self (List.getElem?_eq_some_iff.mp working).1,
          Option.some.injEq, ServiceRun.sent.injEq, reduceCtorEq, or_false] at returned
        rw [← returned]
        exact .inl (List.mem_append_right _ (List.mem_singleton_self _))
      · simp only [List.getElem?_set_ne same] at returned
        rcases collected.kept other otherErr returned with old | later
        · exact .inl (List.mem_append_left _ old)
        · exact .inr later
    · cases stepped
  next service =>
    split at stepped
    next err isSent =>
      obtain rfl := Option.some.inj stepped
      refine ⟨?_, collected.included, collected.noticed, collected.first, collected.suspect,
        collected.drained, ?_, collected.emptied⟩
      · intro other otherErr returned
        by_cases same : service = other
        · subst same
          simp only [List.getElem?_set_self (List.getElem?_eq_some_iff.mp isSent).1,
            Option.some.injEq, ServiceRun.finished.injEq, reduceCtorEq, false_or] at returned
          rw [← returned]
          exact collected.kept service err (.inl isSent)
        · simp only [List.getElem?_set_ne same] at returned
          exact collected.kept other otherErr returned
      · intro inTime
        refine ⟨(collected.inTime inTime).1, ?_⟩
        intro run member
        rcases List.mem_or_eq_of_mem_set member with old | rfl
        · exact (collected.inTime inTime).2 run old
        · rfl
    · cases stepped
  · cases stepped

variable {result : ServiceResult}

theorem Collected.judged {draining : Bool}
    (collected : Collected shared pc data) (early : pc.early = true)
    (flying : pc.inFlight = some result)
    (isServices : after.services = data.services) (isResults : after.results = data.results)
    (isInTime : after.inTime = data.inTime)
    (isExamined : after.examined = data.examined ++ [⟨result, draining, shared.runContextErr⟩])
    (contained : ∀ err, result.err = some err →
      isExpectedContextDone shared.runContextErr err = false →
      ErrorIs after.runErr err)
    (loud : draining = false → shared.runContextErr = none → after.runErr.isSome = true) :
    Collected shared .draining after := by
  rw [collected.first early, List.nil_append] at isExamined
  have notLate : after.inTime ≠ true := by
    intro inTime
    have late := (collected.inTime (isInTime ▸ inTime)).1
    cases pc <;> simp_all [RunPc.early, RunPc.late]
  refine ⟨?_, ?_, ?_, fun isEarly => absurd isEarly (by decide),
    fun _ isSuspect => absurd isSuspect (by simp), fun isDrained => absurd isDrained (by decide),
    fun inTime => absurd inTime notLate, fun inTime => absurd inTime notLate⟩
  · intro service err returned
    rw [isServices] at returned
    rw [isResults, isExamined]
    rcases collected.kept service err returned with old | held | ⟨seen, member, _⟩
    · exact .inl old
    · refine .inr (.inr ⟨_, List.mem_singleton_self _, ?_⟩)
      rw [flying] at held
      exact Option.some.inj held
    · rw [collected.first early] at member
      exact absurd member List.not_mem_nil
  · intro seen member err isErr expected
    rw [isExamined, List.mem_singleton] at member
    subst member
    exact contained err isErr expected
  · intro seen member undrained undone
    rw [isExamined, List.mem_singleton] at member
    subst member
    exact loud undrained undone

/-- What a step may do that examines nothing: it keeps the results and may add
to the error. -/
structure Carries (shared : Shared) (pc : RunPc) (data : RunData) (moved : RunPc)
    (after : RunData) : Prop where
  services : after.services = data.services
  results : after.results = data.results
  examined : after.examined = data.examined
  flight : moved.inFlight = pc.inFlight
  grows : ∀ err, ErrorIs (pc.err data) err → ErrorIs (moved.err after) err
  loud : (pc.err data).isSome = true → (moved.err after).isSome = true
  early : moved.early = true → pc.early = true
  suspect : ∀ result, moved = .suspecting result → unexpected shared.runContextErr result.err = none
  drained : moved.drained = true → shared.drain = true

variable {moved : RunPc}

theorem Collected.carried (collected : Collected shared pc data)
    (carries : Carries shared pc data moved after)
    (inTime : after.inTime = true → moved.late = true ∧ ∀ run ∈ data.services, run.returned = true)
    (emptied : after.inTime = true → moved.isFinishing = true → data.results = []) :
    Collected shared moved after := by
  refine ⟨?_, ?_, ?_, ?_, carries.suspect, carries.drained, ?_, ?_⟩
  · rw [carries.services, carries.results, carries.examined, carries.flight]
    exact collected.kept
  · rw [carries.examined]
    intro seen member err isErr expected
    exact carries.grows err (collected.included seen member err isErr expected)
  · rw [carries.examined]
    intro seen member undrained undone
    exact carries.loud (collected.noticed seen member undrained undone)
  · rw [carries.examined]
    exact fun early => collected.first (carries.early early)
  · rw [carries.services]
    exact inTime
  · rw [carries.results]
    exact emptied

theorem Collected.waited (collected : Collected shared pc data) (soon : pc.late = false) :
    data.inTime ≠ true := by
  intro inTime
  rw [(collected.inTime inTime).1] at soon
  exact absurd soon (by decide)

theorem Collected.goes (collected : Collected shared pc data)
    (carries : Carries shared pc data moved after) (soon : pc.late = false)
    (same : after.inTime = data.inTime) : Collected shared moved after := by
  have waited : after.inTime ≠ true := same ▸ collected.waited soon
  exact collected.carried carries (fun inTime => absurd inTime waited)
    (fun inTime => absurd inTime waited)

theorem started_collected : Collected shared .selecting (.start services) := by
  refine ⟨?_, nofun, nofun, fun _ => rfl, fun _ isSuspect => absurd isSuspect (by simp),
    fun isDrained => absurd isDrained (by decide), fun inTime => absurd inTime Bool.false_ne_true,
    fun inTime => absurd inTime Bool.false_ne_true⟩
  intro service err returned
  simp only [RunData.start, List.getElem?_replicate] at returned
  split_ifs at returned <;> simp at returned

variable {rest : List ServiceResult}

theorem Collected.receives (collected : Collected shared .selecting data)
    (isResults : data.results = result :: rest) :
    Collected shared (.received result) { data with results := rest } := by
  have waited := collected.waited rfl
  refine ⟨?_, collected.included, collected.noticed, fun _ => collected.first rfl,
    fun _ isSuspect => absurd isSuspect (by simp), fun isDrained =>
      absurd isDrained Bool.false_ne_true,
    fun inTime => absurd inTime waited, fun inTime => absurd inTime waited⟩
  intro service err returned
  rcases collected.kept service err returned with held | flying | seen
  · rw [isResults] at held
    rcases List.mem_cons.mp held with rfl | later
    · exact .inr (.inl rfl)
    · exact .inl later
  · exact absurd flying (by simp [RunPc.inFlight])
  · exact .inr (.inr seen)

theorem Collected.collects (collected : Collected shared .collecting data)
    (isResults : data.results = result :: rest)
    (isServices : after.services = data.services) (isRest : after.results = rest)
    (isInTime : after.inTime = data.inTime)
    (isExamined : after.examined = data.examined ++ [⟨result, shared.drain, shared.runContextErr⟩])
    (grows : ∀ err, ErrorIs data.runErr err → ErrorIs after.runErr err)
    (loud : data.runErr.isSome = true → after.runErr.isSome = true)
    (contained : ∀ err, result.err = some err →
      isExpectedContextDone shared.runContextErr err = false →
      ErrorIs after.runErr err) :
    Collected shared .collecting after := by
  refine ⟨?_, ?_, ?_, fun isEarly => absurd isEarly (by decide),
    fun _ isSuspect => absurd isSuspect (by simp),
    collected.drained, ?_, fun _ finishing => absurd finishing (by decide)⟩
  · intro service err returned
    rw [isServices] at returned
    rw [isRest, isExamined]
    rcases collected.kept service err returned with held | flying | ⟨seen, member, same⟩
    · rw [isResults] at held
      rcases List.mem_cons.mp held with rfl | later
      · exact .inr (.inr ⟨_, List.mem_append_right _ (List.mem_singleton_self _), rfl⟩)
      · exact .inl later
    · exact absurd flying (by simp [RunPc.inFlight])
    · exact .inr (.inr ⟨seen, List.mem_append_left _ member, same⟩)
  · intro seen member err isErr expected
    rw [isExamined] at member
    rcases List.mem_append.mp member with old | new
    · exact grows err (collected.included seen old err isErr expected)
    · rw [List.mem_singleton] at new
      subst new
      exact contained err isErr expected
  · intro seen member undrained undone
    rw [isExamined] at member
    rcases List.mem_append.mp member with old | new
    · exact loud (collected.noticed seen old undrained undone)
    · rw [List.mem_singleton] at new
      subst new
      exact absurd (collected.drained rfl) (Bool.not_eq_true _ ▸ undrained)
  · intro inTime
    rw [isServices]
    exact collected.inTime (isInTime ▸ inTime)

theorem finish_grows {ofRun : Bool} {finish moved : Finish}
    (advanced : finish.advance services ofRun shared answer = some (next, moved)) :
    (∀ err, ErrorIs finish.err err → ErrorIs moved.err err) ∧
      (finish.err.isSome = true → moved.err.isSome = true) := by
  unfold Finish.advance at advanced
  split at advanced
  · cases advanced
    exact ⟨fun _ held => held, id⟩
  · obtain ⟨err, _, same⟩ := Option.map_eq_some_iff.mp advanced
    obtain ⟨rfl, rfl⟩ := Prod.mk.inj same
    exact joined_grows _ _
  · cases advanced
    exact ⟨fun _ held => held, id⟩
  · cases advanced
    exact ⟨fun _ held => held, id⟩
  · cases advanced
    exact ⟨fun _ held => held, id⟩
  · cases advanced

theorem Carries.plain (isServices : after.services = data.services)
    (isResults : after.results = data.results) (isExamined : after.examined = data.examined)
    (flight : moved.inFlight = pc.inFlight) (err : moved.err after = pc.err data)
    (early : moved.early = true → pc.early = true) (calm : ∀ result, moved ≠ .suspecting result)
    (drained : moved.drained = true → shared.drain = true) :
    Carries shared pc data moved after := by
  refine ⟨isServices, isResults, isExamined, flight, ?_, ?_, early,
    fun result isSuspect => absurd isSuspect (calm result), drained⟩
  · rw [err]
    exact fun _ held => held
  · rw [err]
    exact id

theorem Collected.moves (collected : Collected shared pc data) (soon : pc.late = false)
    (flight : moved.inFlight = pc.inFlight) (err : moved.err data = pc.err data)
    (early : moved.early = true → pc.early = true) (calm : ∀ result, moved ≠ .suspecting result)
    (undrained : moved.drained = false) : Collected shared moved data := by
  refine collected.goes (.plain rfl rfl rfl flight err early calm ?_) soon rfl
  intro isDrained
  rw [undrained] at isDrained
  cases isDrained

theorem all_returned {runs : List ServiceRun} (finished : runs.all ServiceRun.isFinished = true) :
    ∀ run ∈ runs, run.returned = true := by
  intro run member
  have isFinished := List.all_eq_true.mp finished run member
  cases run with
  | working => exact absurd isFinished Bool.false_ne_true
  | sent err => rfl
  | finished err => rfl

theorem run_collected (collected : Collected shared pc data)
    (advanced : runAdvance services shared data pc answer = some (next, moved, after)) :
    Collected next moved after := by
  have onward := collected.later (effect_later (run_effect advanced))
  have now {taken : Shared} {target : RunPc} {left : RunData}
      (same : some (taken, target, left) = some (next, moved, after))
      (ok : Collected taken pc data → Collected taken target left) :
          Collected next moved after := by
    simp only [Option.some.injEq, Prod.mk.injEq] at same
    obtain ⟨rfl, rfl, rfl⟩ := same
    exact ok onward
  -- The cases follow the places of Run in the order of its steps; each branch says
  -- how its step moves the results, the examined ones and the error.
  unfold runAdvance at advanced
  split at advanced
  · exact now advanced (fun ok => ok.moves rfl rfl rfl id (by simp) rfl)
  · split at advanced
    · exact now advanced (fun ok => ok.moves rfl rfl rfl id (by simp) rfl)
    · exact now advanced (fun ok => ok.moves rfl rfl rfl id (by simp) rfl)
    · exact now advanced (fun ok => ok.moves rfl rfl rfl id (by simp) rfl)
    · exact now advanced (fun _ => started_collected)
  · split_ifs at advanced
    exact now advanced (fun ok => ok.moves rfl rfl rfl (by simp [RunPc.early]) (by simp) rfl)
  · split_ifs at advanced
    exact now advanced
      (fun ok => ok.goes (.plain rfl rfl rfl rfl rfl (by simp [RunPc.early]) (by simp)
        (by simp [RunPc.drained])) rfl rfl)
  · split at advanced
    · cases advanced
    next result rest isResults => exact now advanced (fun ok => ok.receives isResults)
  · exact now advanced (fun ok => ok.moves rfl rfl rfl id (by simp) rfl)
  -- A result that arrives while the runtime drains is an error only if unexpected.
  next result =>
    refine now advanced (fun ok => ok.judged rfl rfl rfl rfl rfl rfl ?_
      (fun undrained => absurd undrained (by decide)))
    intro err isErr surprising
    rw [isErr]
    simp only [unexpected, surprising, Bool.false_eq_true, if_false, Option.map_some]
    exact serviceError_is _ _ err
  next result =>
    split at advanced
    -- An expected or nil error outside a drain is judged again after the context is read.
    next expected =>
      refine now advanced (fun ok => ok.goes ?_ rfl rfl)
      exact ⟨rfl, rfl, rfl, rfl, fun _ held => held, id, id,
        fun other isOther => by
          rw [← RunPc.suspecting.inj isOther]; exact expected, by simp [RunPc.drained]⟩
    next err isUnexpected =>
      refine now advanced (fun ok => ok.judged rfl rfl rfl rfl rfl rfl ?_ (fun _ _ => rfl))
      intro other isErr _
      rw [unexpected_some isUnexpected] at isErr
      rw [← Option.some.inj isErr]
      exact serviceError_is _ _ err
  next result =>
    have expected := collected.suspect result rfl
    split_ifs at advanced with undone
    · refine now advanced (fun ok => ok.judged rfl rfl rfl rfl rfl rfl ?_ (fun _ _ => rfl))
      intro err isErr surprising
      rw [isErr, unexpected_none, surprising] at expected
      exact absurd expected Bool.false_ne_true
    · refine now advanced (fun ok => ok.judged rfl rfl rfl rfl rfl rfl ?_
        (fun _ none => absurd none ?_))
      · intro err isErr surprising
        rw [isErr, unexpected_none, surprising] at expected
        exact absurd expected Bool.false_ne_true
      · simpa using undone
  next panics =>
    refine now advanced (fun ok => ok.goes
      (.plain rfl rfl rfl rfl rfl (by simp [RunPc.early]) (by simp) ?_) rfl rfl)
    intro _
    split_ifs with drained
    · exact drained
    · exact (drainBody_fields services shared panics).2.2.2.2.1
  · split_ifs at advanced
    · refine now advanced (fun ok => ok.goes ?_ rfl rfl)
      obtain ⟨grows, loud⟩ := joined_grows data.runErr shared.drainErr
      exact ⟨rfl, rfl, rfl, rfl, grows,
        loud, by simp [RunPc.early], by simp, fun _ => ok.drained rfl⟩
    · exact now advanced
        (fun ok => ok.goes (.plain rfl rfl rfl rfl rfl (by simp [RunPc.early]) (by simp)
          (fun _ => ok.drained rfl)) rfl rfl)
  · exact now advanced
      (fun ok => ok.goes (.plain rfl rfl rfl rfl rfl (by simp [RunPc.early]) (by simp)
        (fun _ => ok.drained rfl)) rfl rfl)
  -- Waiting ends in time when every service has returned, whichever arm of the select runs.
  · split_ifs at advanced with finished
    exact now advanced (fun ok => ok.carried
      (.plain rfl rfl rfl rfl rfl (by simp [RunPc.early]) (by simp) (fun _ => ok.drained rfl))
      (fun _ => ⟨rfl, all_returned finished⟩) (fun _ finishing =>
        absurd finishing Bool.false_ne_true))
  next ctxErr =>
    refine now advanced (fun ok => ok.carried ?_ ?_ (fun _ finishing =>
      absurd finishing Bool.false_ne_true))
    · obtain ⟨grows, loud⟩ := joined_grows data.runErr
        (some (.wrap "messenger: services did not stop within shutdown timeout" ctxErr))
      exact ⟨rfl, rfl, rfl, rfl, grows,
        loud, by simp [RunPc.early], by simp, fun _ => ok.drained rfl⟩
    · intro returned
      exact ⟨rfl, fun run member => List.all_eq_true.mp returned run member⟩
  · split at advanced
    next isResults =>
      exact now advanced (fun ok => ok.carried
        (.plain rfl rfl rfl rfl rfl (by simp [RunPc.early]) (by simp) (fun _ => ok.drained rfl))
        (fun inTime => ⟨rfl, (ok.inTime inTime).2⟩) (fun _ _ => isResults))
    next result rest isResults =>
      split at advanced
      next expected =>
        refine now advanced (fun ok => ok.collects isResults rfl rfl rfl rfl
          (fun _ held => held) id ?_)
        intro err isErr surprising
        rw [isErr, unexpected_none, surprising] at expected
        exact absurd expected Bool.false_ne_true
      next err isUnexpected =>
        obtain ⟨grows, loud⟩ := joined_grows data.runErr
          (some (serviceError services result.service data.gracefulDrain err))
        refine now advanced (fun ok => ok.collects isResults rfl rfl rfl rfl grows loud ?_)
        intro other isErr _
        rw [unexpected_some isUnexpected] at isErr
        rw [← Option.some.inj isErr]
        exact joinErrors_is (List.mem_cons_of_mem _ (List.mem_singleton_self _))
          (serviceError_is _ _ err)
  -- The services may still take a step while the owner finishes.
  next finish _ =>
    split at advanced
    next finished =>
      obtain ⟨grows, loud⟩ := finish_grows finished
      refine now advanced (fun ok => ok.carried ?_ (fun inTime => ⟨rfl, (ok.inTime inTime).2⟩)
        (fun inTime _ => ok.emptied inTime rfl))
      exact ⟨rfl, rfl, rfl, rfl, grows,
        loud, by simp [RunPc.early], by simp, fun _ => ok.drained rfl⟩
    · obtain ⟨left, stepped, same⟩ := Option.map_eq_some_iff.mp advanced
      exact now (congrArg some same) (fun ok => ok.service stepped)
  · obtain ⟨left, stepped, same⟩ := Option.map_eq_some_iff.mp advanced
    exact now (congrArg some same) (fun ok => ok.service stepped)

theorem entering_collected (hasCtx : Bool) :
    Collected shared (.entering hasCtx) ⟨[], [], none, false, [], false⟩ := by
  refine ⟨?_, nofun, nofun, fun _ => rfl, fun _ isSuspect => absurd isSuspect (by simp),
    fun isDrained => absurd isDrained Bool.false_ne_true,
    fun inTime => absurd inTime Bool.false_ne_true, fun inTime => absurd inTime Bool.false_ne_true⟩
  intro service err returned
  simp at returned

end Steps

theorem collecting_outline (services : List String) :
    (machine services).Outline (fun _ => True) (fun shared => Thread.Collects shared) where
  call kind _ := by
    cases kind with
    | run hasCtx => exact entering_collected hasCtx
    | _ => trivial
  advance {shared thread answer next moved} _ collects advanced := by
    have later := effect_later (advance_effect advanced)
    refine ⟨trivial, ?_, ?_⟩
    · replace advanced : advance services shared thread answer = some (next, moved) := advanced
      unfold advance at advanced
      split at advanced
      · obtain ⟨_, ran, same⟩ := Option.map_eq_some_iff.mp advanced
        obtain ⟨rfl, rfl⟩ := Prod.mk.inj same
        exact run_collected collects ran
      · obtain ⟨_, rfl⟩ := Prod.mk.inj (Option.some.inj advanced)
        trivial
      · cases advanced
      · obtain ⟨_, _, same⟩ := Option.map_eq_some_iff.mp advanced
        obtain ⟨_, rfl⟩ := Prod.mk.inj same
        trivial
      · obtain ⟨_, _, same⟩ := Option.map_eq_some_iff.mp advanced
        obtain ⟨_, rfl⟩ := Prod.mk.inj same
        trivial
    · intro other held
      cases other with
      | run pc data => exact Collected.later later held
      | _ => trivial
  happen err _ := by
    refine ⟨trivial, ?_⟩
    intro other held
    cases other with
    | run pc data => exact Collected.later (contextEnds_later err) held
    | _ => trivial

def RunData.returnedErr (data : RunData) (service : Nat) : Option GoError :=
  match data.services[service]? with
  | some (.sent err) => err
  | some (.finished err) => err
  | _ => none

/-- Where every service returned in time, Run examined each of their errors, and
its own error has every one that was not the run context's when it looked; and it
has an error if it found a service stopped with no drain and no cancellation. -/
theorem run_loses_no_failure (services : List String)
    (moves : List (ThreadPool.Move Call Answer GoError))
    (returned : Option GoError) (data : RunData)
    (ran : .run (.finishing (.finished returned)) data ∈ (after services moves).threads) :
    (data.inTime = true → ∀ service err, data.returnedErr service = some err →
      ∃ seen ∈ data.examined, seen.result = ⟨service, some err⟩ ∧
        (isExpectedContextDone seen.contextErr err = false → ErrorIs returned err)) ∧
    (∀ seen ∈ data.examined, seen.draining = false → seen.contextErr = none →
      returned.isSome = true) := by
  have fresh : ThreadPool.Machine.Holds (fun _ => True) (fun shared => Thread.Collects shared)
      (⟨.fresh, []⟩ : ThreadPool.Pool Shared Thread) :=
    ⟨trivial, nofun⟩
  have holds := (collecting_outline services).run fresh moves
  have collected : Collected _ _ data := holds.threads _ ran
  constructor
  · intro inTime service err isErr
    have kept := collected.kept service (some err)
    rw [collected.emptied inTime rfl] at kept
    have stopped : data.services[service]? = some (.sent (some err)) ∨
        data.services[service]? = some (.finished (some err)) := by
      unfold RunData.returnedErr at isErr
      split at isErr
      next sent => exact .inl (isErr ▸ sent)
      next finished => exact .inr (isErr ▸ finished)
      · cases isErr
    rcases kept stopped with held | flying | ⟨seen, member, same⟩
    · exact absurd held List.not_mem_nil
    · exact absurd flying (by simp [RunPc.inFlight])
    · refine ⟨seen, member, same, ?_⟩
      exact collected.included seen member err (by rw [same])
  · exact collected.noticed

def failingMoves : List (ThreadPool.Move Call Answer GoError) :=
  [.call (.run true), .act 0 .go, .act 0 (.serviceReturns 0 (some (.text "disk full"))),
    .act 0 .received, .act 0 .go,
    .act 0 .go, .act 0 (.panics []), .act 0 .go, .act 0 .go, .act 0 (.serviceFinishes 0),
    .act 0 (.serviceReturns 1 (some (.sentinel .contextCanceled))),
    .act 0 (.serviceFinishes 1), .act 0 .workersDone,
    .act 0 .go, .act 0 .go, .act 0 .go, .act 0 (.shutdowns [.returned none, .returned none] none),
    .act 0 .go,
    .act 0 .go, .act 0 .go]

def failedData : RunData where
  services := [.finished (some (.text "disk full")), .finished (some (.sentinel .contextCanceled))]
  results := []
  runErr := some (.wrap "messenger: service mail" (.text "disk full"))
  gracefulDrain := false
  examined := [⟨⟨0, some (.text "disk full")⟩, false, none⟩,
    ⟨⟨1, some (.sentinel .contextCanceled)⟩, true, some (.sentinel .contextCanceled)⟩]
  inTime := true

theorem run_loses_no_failure_sample : ∃ returned, (after ["mail", "sms"] failingMoves).threads[0]? =
        some (.run (.finishing (.finished returned)) failedData) ∧
      failedData.returnedErr 0 = some (.text "disk full") ∧
        ErrorIs returned (.text "disk full") := by
  have ran : (after ["mail", "sms"] failingMoves).threads[0]? =
      some (.run
        (.finishing
          (.finished (some (.wrap "" (.wrap "messenger: service mail" (.text "disk full"))))))
        failedData) := rfl
  refine ⟨_, ran, rfl, ?_⟩
  obtain ⟨seen, member, isResult, contained⟩ :=
    (run_loses_no_failure ["mail", "sms"] failingMoves _ failedData (List.mem_of_getElem? ran)).1
      rfl 0
      (.text "disk full") rfl
  apply contained
  rcases List.mem_cons.mp member with rfl | later
  · rfl
  · rw [List.mem_singleton.mp later] at isResult
    cases isResult

end Gomessenger.Runtime
