import Gomessenger.Lib.JsonCompact

/-! Records and their JSON objects.

A record is described by its fields: how each is written, if it is, and how a
value read under its name changes the record. Names are matched up to letter
case. -/

namespace Json

open Utf8

structure RecordField (S : Type) where
  name : Bytes
  /-- No result is an error; no value omits the field. -/
  write : S → Option (Option Value)
  read : Value → S → Option S

variable {S : Type}

def writeFields (record : S) : List (RecordField S) → Option (List (Bytes × Value))
  | [] => some []
  | field :: fields => do
      let value ← field.write record
      let members ← writeFields record fields
      return (value.map (fun value => (field.name, value))).toList ++ members

def findField (fields : List (RecordField S)) (name : Bytes) : Option (RecordField S) :=
  fields.find? (fun field => equalFold field.name name)

def readMember (fields : List (RecordField S)) (record : S)
    (member : List Piece × Value) : Option S := do
  let field ← findField fields (unquote member.1)
  field.read member.2 record

/-- An object is read member by member onto a record; null leaves it alone. -/
def readRecord (fields : List (RecordField S)) (record : S) : Value → Option S
  | .literal .null => some record
  | value => do (← value.members).foldlM (readMember fields) record

def RecordField.carry (field : RecordField S) (record target : S) : Option S :=
  match field.write record with
  | some (some value) => field.read value target
  | _ => some target

def RecordField.string (name : Bytes) (omitEmpty : Bool) (get : S → Bytes)
    (set : Bytes → S → S) : RecordField S where
  name := name
  write record :=
    if omitEmpty = true ∧ get record = [] then some none
    else some (some (.string (quote (get record))))
  read
    | .literal .null, record => some record
    | .string body, record => some (set (unquote body) record)
    | _, _ => none

/-- A field whose value is encoded and decoded as a whole; `omitted` tells when
it is left out. -/
def RecordField.custom {A : Type} (name : Bytes) (omitted : A → Bool) (encode : A → Option Value)
    (decode : Value → A → Option A) (get : S → A) (set : A → S → S) : RecordField S where
  name := name
  write record :=
    if omitted (get record) then some none else (encode (get record)).map some
  read value record := (decode value (get record)).map (fun decoded => set decoded record)

def RecordField.reader {A : Type} (name : Bytes) (decode : Value → A → Option A)
    (get : S → A) (set : A → S → S) :
    RecordField S where
  name := name
  write _ := some none
  read value record := (decode value (get record)).map (fun decoded => set decoded record)

theorem RecordField.string_carry (name : Bytes) (omitEmpty : Bool) (get : S → Bytes)
    (set : Bytes → S → S) (record target : S) (fresh : set [] target = target) :
    (RecordField.string name omitEmpty get set).carry record target =
      some (set (coerce (get record)) target) := by
  by_cases left : omitEmpty = true ∧ get record = []
  · simp [RecordField.carry, RecordField.string, left, coerce_nil, fresh]
  · simp [RecordField.carry, RecordField.string, left, unquote_quote]

variable {A : Type}

theorem RecordField.custom_carry (name : Bytes) (omitted : A → Bool) (encode : A → Option Value)
    (decode : Value → A → Option A) (get : S → A) (set : A → S → S) (record target : S) (value : A)
    (writes : ((RecordField.custom name omitted encode decode get set).write record).isSome = true)
    (left : omitted (get record) = true → set value target = target)
    (decodes : ∀ spelt, omitted (get record) = false → encode (get record) = some spelt →
      decode spelt (get target) = some value) :
    (RecordField.custom name omitted encode decode get set).carry record target =
      some (set value target) := by
  cases isLeft : omitted (get record) with
  | true => simp [RecordField.carry, RecordField.custom, isLeft, left isLeft]
  | false =>
    cases spelt : encode (get record) with
    | none => exact absurd writes (by simp [RecordField.custom, isLeft, spelt])
    | some text =>
      simp [RecordField.carry, RecordField.custom, isLeft, spelt, decodes text isLeft spelt]

theorem RecordField.string_flat (name : Bytes) (omitEmpty : Bool) (get : S → Bytes)
    (set : Bytes → S → S) (record : S) (value : Value)
    (written : (RecordField.string name omitEmpty get set).write record = some (some value)) :
    value.depth = 0 := by
  simp only [RecordField.string] at written
  split at written
  · cases written
  · rw [← Option.some.inj (Option.some.inj written)]
    rfl

variable {name : Bytes} {record : S} {value : Value}

variable {omitted : A → Bool} {encode : A → Option Value}
    {decode : Value → A → Option A} {set : A → S → S}

theorem RecordField.custom_written {get : S → A}
    (written : (RecordField.custom name omitted encode decode get set).write
      record = some (some value)) :
    omitted (get record) = false ∧ encode (get record) = some value := by
  simp only [RecordField.custom] at written
  split at written
  · cases written
  next present =>
    obtain ⟨spelt, isSpelt, same⟩ := Option.map_eq_some_iff.mp written
    exact ⟨Bool.not_eq_true _ ▸ present, isSpelt.trans same⟩

variable {result : S}

theorem RecordField.string_read {omitEmpty : Bool} {get : S → Bytes} {set : Bytes → S → S}
    (reads : (RecordField.string name omitEmpty get set).read value record = some result) :
    result = record ∨ ∃ text, Valid text ∧ result = set text record := by
  simp only [RecordField.string] at reads
  split at reads
  · exact .inl (Option.some.inj reads).symm
  next body => exact .inr ⟨unquote body, valid_unquote body, (Option.some.inj reads).symm⟩
  · cases reads

theorem RecordField.custom_read {get : S → A}
    (reads : (RecordField.custom name omitted encode decode get set).read
      value record = some result) :
    ∃ decoded, decode value (get record) = some decoded ∧ result = set decoded record := by
  obtain ⟨decoded, isDecoded, built⟩ := Option.map_eq_some_iff.mp reads
  exact ⟨decoded, isDecoded, built.symm⟩

variable {fields : List (RecordField S)}

theorem writeFields_congr {left right : S} (same : ∀ field ∈ fields,
    field.write left = field.write right) :
    writeFields left fields = writeFields right fields := by
  induction fields with
  | nil => rfl
  | cons first rest ih =>
    rw [writeFields, writeFields, same first (.head _),
      ih (fun field member => same field (.tail _ member))]

theorem writeFields_isSome (record : S) (fields : List (RecordField S))
    (members : List (Bytes × Value)) (writes : writeFields record fields = some members) :
    ∀ field ∈ fields, (field.write record).isSome = true := by
  induction fields generalizing members with
  | nil => intro field member; cases member
  | cons first rest ih =>
    simp only [writeFields, Option.bind_eq_bind, Option.bind_eq_some_iff] at writes
    obtain ⟨value, isValue, others, isOthers, _⟩ := writes
    intro field member
    rcases List.mem_cons.mp member with rfl | later
    · simp [isValue]
    · exact ih others isOthers field later

theorem mem_writeFields (record : S) (fields : List (RecordField S))
    (members : List (Bytes × Value))
    (writes : writeFields record fields = some members) (member : Bytes × Value) :
    member ∈ members ↔ ∃ field ∈ fields, field.name = member.1 ∧
      field.write record = some (some member.2) := by
  induction fields generalizing members with
  | nil => simp [← Option.some.inj writes]
  | cons first rest ih =>
    simp only [writeFields, Option.bind_eq_bind, Option.bind_eq_some_iff, Option.pure_def,
      Option.some.injEq] at writes
    obtain ⟨value, isValue, others, isOthers, rfl⟩ := writes
    rw [List.mem_append, ih others isOthers, List.exists_mem_cons_iff]
    refine or_congr ?_ Iff.rfl
    obtain ⟨name, spelt⟩ := member
    cases value with
    | none => simp [isValue]
    | some value => simp [isValue, eq_comm]

inductive Carries (record : S) : List (RecordField S) → S → S → Prop
  | nil (target : S) : Carries record [] target target
  | cons {field : RecordField S} {fields : List (RecordField S)} {target result : S} (next : S)
      (first : field.carry record target = some next) (rest : Carries record fields next result) :
      Carries record (field :: fields) target result

theorem Carries.foldlM {target : S} (carries : Carries record fields target result) :
    fields.foldlM (fun target field => field.carry record target) target = some result := by
  induction carries with
  | nil target => rfl
  | cons next first rest ih =>
    rw [List.foldlM_cons, first, Option.bind_eq_bind, Option.bind_some, ih]

theorem findField_of_nodup (distinct : (fields.map (fun field => foldCase field.name)).Nodup)
    {field : RecordField S}
    (member : field ∈ fields) : findField fields field.name = some field := by
  induction fields with
  | nil => cases member
  | cons first rest ih =>
    rw [List.map_cons, List.nodup_cons] at distinct
    rcases List.mem_cons.mp member with rfl | later
    · simp [findField, equalFold]
    · have other : foldCase first.name ≠ foldCase field.name := by
        intro same
        exact distinct.1 (same ▸ List.mem_map_of_mem later)
      have skipped : findField (first :: rest) field.name = findField rest field.name := by
        simp [findField, equalFold, other]
      rw [skipped]
      exact ih distinct.2 later

theorem foldlM_writeFields (record : S) (written : List (RecordField S))
    (found : ∀ field ∈ written, Valid field.name ∧ findField fields field.name = some field)
    (members : List (Bytes × Value)) (writes : writeFields record written = some members)
    (target : S) :
    (members.map (fun member => (quote member.1, member.2))).foldlM (readMember fields) target =
      written.foldlM (fun target field => field.carry record target) target := by
  induction written generalizing members target with
  | nil =>
    rw [← Option.some.inj writes]
    rfl
  | cons field written ih =>
    simp only [writeFields, Option.bind_eq_bind, Option.bind_eq_some_iff, Option.pure_def,
      Option.some.injEq] at writes
    obtain ⟨value, isValue, others, isOthers, rfl⟩ := writes
    obtain ⟨valid, isField⟩ := found field (.head _)
    have later := ih (fun other member => found other (.tail _ member)) others isOthers
    cases value with
    | none =>
      simp only [Option.map_none, Option.toList_none, List.nil_append, List.foldlM_cons,
        RecordField.carry, isValue, Option.bind_eq_bind, Option.bind_some]
      exact later target
    | some value =>
      simp only [Option.map_some, Option.toList_some, List.singleton_append, List.map_cons,
        List.foldlM_cons, RecordField.carry, isValue, readMember, unquote_quote, valid.coerce_eq,
        isField, Option.bind_eq_bind, Option.bind_some]
      exact Option.bind_congr (fun reached _ => later reached)

/-- A written record is read field by field, each under its own name. -/
theorem readRecord_writeFields (distinct : (fields.map (fun field => foldCase field.name)).Nodup)
    (valid : ∀ field ∈ fields, Valid field.name) (record target : S)
    (members : List (Bytes × Value)) (writes : writeFields record fields = some members) :
    readRecord fields target (object members) =
      fields.foldlM (fun target field => field.carry record target) target := by
  have notNull : readRecord fields target (object members) =
      (object members).members.bind (fun found => found.foldlM (readMember fields) target) := by
    cases members <;> rfl
  rw [notNull, object_members, Option.bind_some]
  exact foldlM_writeFields record fields
    (fun field member => ⟨valid field member, findField_of_nodup distinct member⟩) members writes
      target

theorem readRecord_invariant {depth : Nat} {invariant : S → Prop}
    (keeps : ∀ field ∈ fields, ∀ value record result, value.depth ≤ depth → invariant record →
      field.read value record = some result → invariant result) (shallow : value.depth ≤ depth + 1)
    (holds : invariant record) (reads : readRecord fields record value = some result) :
    invariant result := by
  unfold readRecord at reads
  split at reads
  · rw [← Option.some.inj reads]
    exact holds
  · obtain ⟨members, isMembers, folds⟩ := Option.bind_eq_some_iff.mp reads
    have flat := Value.members_depth isMembers shallow
    clear isMembers reads
    induction members generalizing record with
    | nil =>
      rw [← Option.some.inj folds]
      exact holds
    | cons member members ih =>
      rw [List.foldlM_cons] at folds
      obtain ⟨reached, steps, later⟩ := Option.bind_eq_some_iff.mp folds
      obtain ⟨field, isField, reads⟩ := Option.bind_eq_some_iff.mp steps
      have kept := keeps field (List.mem_of_find?_eq_some isField) member.2 record reached
        (flat member (.head _)) holds reads
      exact ih kept later (fun other inside => flat other (.tail _ inside))

end Json
