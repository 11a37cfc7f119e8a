import Gomessenger.Tools.SchemaScan

/-! What the schema check keeps from one released catalog to the next. -/

namespace Gomessenger.SchemaCheck

open Utf8 Json Fallible
open Inbox (Sha256)
open Messenger (CollisionFree)

def schemaDocument (data key : Bytes) : Option (List (Bytes × Any)) := do
  let catalog ← (decodeSchemaJSON decodeCatalog data).toOption
  let binding ← catalog.descriptors.elements.find? (fun binding => schemaKey binding.info == key)
  (decodeSchemaJSON decodeDocument binding.document).toOption

theorem decodeDocument_object {value : Value} {document : List (Bytes × Any)}
    (decoded : decodeDocument value = some document) (declares : declaresDraft document = true) :
    value.decode = .object document := by
  unfold decodeDocument at decoded
  split at decoded
  next members isObject => rw [isObject, Option.some.inj decoded]
  next =>
    rw [← Option.some.inj decoded] at declares
    exact nomatch declares
  next => exact nomatch decoded

variable {F : Type} [Sha256 F] {compile : List (Bytes × Any) → Option (Any → Bool)}
    {urlParse : Bytes → Bool}

variable {binding : SchemaBinding}

theorem checkSchemaDocument_ok {fingerprint : Bytes}
    (accepted : checkSchemaDocument F compile binding = .ok fingerprint) :
    ∃ (value : Value) (document : List (Bytes × Any)),
      decodeSchemaJSON decodeDocument binding.document = .ok document ∧
        value.decode = .object document ∧
      fingerprint = sha256Hex F (canonical document) := by
  unfold checkSchemaDocument at accepted
  obtain ⟨document, isDocument, accepted⟩ := bind_ok.mp accepted
  obtain ⟨_, value, _, _, isValue⟩ := decodeSchemaJSON_ok.mp isDocument
  obtain ⟨declares, accepted⟩ := check_ok.mp accepted
  obtain ⟨_, _, accepted⟩ := bind_ok.mp accepted
  split at accepted
  · exact nomatch accepted
  next validate _ =>
    obtain ⟨_, _, accepted⟩ := bind_ok.mp accepted
    exact ⟨value, document, isDocument,
      decodeDocument_object isValue (Bool.not_eq_false _ ▸ declares), (Except.ok.inj accepted).symm⟩

variable {catalog result : Catalog}

theorem bindSchema_ok (accepted : bindSchema F compile catalog binding = .ok result) :
    catalog.find? (schemaKey binding.info) = none ∧ ∃ fingerprint,
      checkSchemaDocument F compile binding = .ok fingerprint ∧
      result = catalog.set (schemaKey binding.info) ⟨binding.info, fingerprint,
        binding.samples.elements.length⟩ := by
  unfold bindSchema at accepted
  obtain ⟨fresh, accepted⟩ := check_ok.mp accepted
  obtain ⟨_, _, accepted⟩ := bind_ok.mp accepted
  obtain ⟨fingerprint, isFingerprint, accepted⟩ := bind_ok.mp accepted
  exact ⟨Option.not_isSome_iff_eq_none.mp fresh, fingerprint, isFingerprint,
    (Except.ok.inj accepted).symm⟩

variable {bindings : List SchemaBinding} {key : Bytes} {checked : CheckedSchema}

theorem bindSchemas_keep (bound : bindings.foldlM (bindSchema F compile) catalog = .ok result)
    (found : catalog.find? key = some checked) : result.find? key = some checked := by
  induction bindings generalizing catalog with
  | nil => rw [← Except.ok.inj bound]; exact found
  | cons binding rest ih =>
    rw [List.foldlM_cons] at bound
    obtain ⟨next, isNext, bound⟩ := bind_ok.mp bound
    obtain ⟨fresh, _, _, rfl⟩ := bindSchema_ok isNext
    apply ih bound
    rw [KeyedTable.find?_set, if_neg]
    · exact found
    · rintro rfl
      rw [fresh] at found
      exact nomatch found

theorem bindSchemas_find (bound : bindings.foldlM (bindSchema F compile) catalog = .ok result)
    (found : result.find? key = some checked) :
    catalog.find? key = some checked ∨
      ∃ binding, bindings.find? (fun binding => schemaKey binding.info == key) = some binding ∧
        checked.info = binding.info ∧ checkSchemaDocument F compile binding =
          .ok checked.fingerprint := by
  induction bindings generalizing catalog with
  | nil => rw [← Except.ok.inj bound] at found; exact .inl found
  | cons binding rest ih =>
    rw [List.foldlM_cons] at bound
    obtain ⟨next, isNext, bound⟩ := bind_ok.mp bound
    obtain ⟨_, fingerprint, isFingerprint, rfl⟩ := bindSchema_ok isNext
    by_cases here : schemaKey binding.info = key
    · subst here
      have kept := bindSchemas_keep bound (KeyedTable.find?_set_self ..)
      rw [kept] at found
      rw [← Option.some.inj found]
      exact .inr ⟨binding, List.find?_cons_of_pos (beq_self_eq_true _), rfl, isFingerprint⟩
    · rcases ih bound with before | ⟨later, isLater, same⟩
      · rw [KeyedTable.find?_set, if_neg here] at before
        exact .inl before
      · refine .inr ⟨later, ?_, same⟩
        rw [List.find?_cons_of_neg (by simpa using here)]
        exact isLater

theorem decodeSchemaCatalog_document {data : Bytes}
    (accepted : decodeSchemaCatalog F compile data = .ok catalog)
    (found : catalog.find? key = some checked) :
    ∃ (value : Value) (document : List (Bytes × Any)), schemaDocument data key = some document ∧
      value.decode = .object document ∧
      checked.fingerprint = sha256Hex F (canonical document) := by
  unfold decodeSchemaCatalog at accepted
  obtain ⟨decoded, isDecoded, accepted⟩ := bind_ok.mp accepted
  obtain ⟨_, bound⟩ := check_ok.mp accepted
  rcases bindSchemas_find bound found with before | ⟨binding, isBinding, _, isChecked⟩
  · exact nomatch before
  · obtain ⟨value, document, isDocument, isObject, isFingerprint⟩ :=
      checkSchemaDocument_ok isChecked
    refine ⟨value, document, ?_, isObject, isFingerprint⟩
    simp [schemaDocument, isDecoded, isBinding, isDocument, Except.toOption]

theorem comparePreserved_ok {candidate : Catalog} {rows : List (Bytes × CheckedSchema)}
    {preserved count : Nat} (accepted : comparePreserved candidate rows preserved = .ok count) :
    ∀ row ∈ rows, ∃ current, candidate.find? row.1 = some current ∧ current.info = row.2.info ∧
      current.fingerprint = row.2.fingerprint := by
  induction rows generalizing preserved with
  | nil => exact nofun
  | cons row rest ih =>
    unfold comparePreserved at accepted
    split at accepted
    · exact nomatch accepted
    next current isCurrent =>
      split at accepted
      · exact nomatch accepted
      next sameInfo =>
        split at accepted
        · exact nomatch accepted
        next sameFingerprint =>
          rintro other member
          rcases List.mem_cons.mp member with rfl | later
          · exact ⟨current, isCurrent, not_not.mp sameInfo, not_not.mp sameFingerprint⟩
          · exact ih accepted other later

/-- The check accepts a catalog against a baseline. -/
def Accepted (F : Type) [Sha256 F] (compile : List (Bytes × Any) → Option (Any → Bool))
    (urlParse : Bytes → Bool) (baseline candidate : Bytes) : Prop :=
  ∃ pin manifest report, checkSchemas F compile urlParse pin (.ok manifest) (.ok candidate)
    (.ok baseline) = .ok report

theorem readSchemaFile_ok {contents data : Bytes}
    (accepted : readSchemaFile (.ok contents) = .ok data) :
    contents = data := by
  unfold readSchemaFile at accepted
  obtain ⟨found, isFound, accepted⟩ := bind_ok.mp accepted
  obtain ⟨_, accepted⟩ := check_ok.mp accepted
  exact (Except.ok.inj isFound).trans (Except.ok.inj accepted)

theorem Accepted.compared {baseline candidate : Bytes}
    (accepted : Accepted F compile urlParse baseline candidate) :
    ∃ old current count, decodeSchemaCatalog F compile baseline = .ok old ∧
      decodeSchemaCatalog F compile candidate = .ok current ∧
        comparePreserved current old.rows 0 = .ok count := by
  obtain ⟨pin, manifest, report, accepted⟩ := accepted
  have files : checkFiles F compile urlParse pin (.ok manifest) (.ok candidate)
      (.ok baseline) = .ok report := by
    unfold checkSchemas at accepted
    split at accepted
    · exact nomatch accepted
    · split at accepted
      · exact nomatch accepted
      · split at accepted
        · exact nomatch accepted
        next result isResult => rw [isResult, Except.ok.inj accepted]
  unfold checkFiles at files
  obtain ⟨baselineBytes, isBaseline, files⟩ := bind_ok.mp files
  obtain ⟨_, files⟩ := check_ok.mp files
  obtain ⟨old, isOld, files⟩ := bind_ok.mp files
  obtain ⟨candidateBytes, isCandidate, files⟩ := bind_ok.mp files
  obtain ⟨current, isCurrent, files⟩ := bind_ok.mp files
  obtain ⟨_, _, files⟩ := bind_ok.mp files
  obtain ⟨_, _, files⟩ := bind_ok.mp files
  obtain ⟨_, _, files⟩ := bind_ok.mp files
  obtain ⟨_, _, files⟩ := bind_ok.mp files
  obtain ⟨result, isResult, _⟩ := bind_ok.mp files
  unfold compareSchemaCatalogs at isResult
  obtain ⟨count, isCount, _⟩ := bind_ok.mp isResult
  rw [← readSchemaFile_ok isBaseline] at isOld
  rw [← readSchemaFile_ok isCandidate] at isCurrent
  exact ⟨old, current, count, isOld, isCurrent, isCount⟩

/-- The canonical texts of the documents in a set of catalogs. -/
def documentTexts (catalogs : Set Bytes) : Set Bytes :=
  { text | ∃ data ∈ catalogs, ∃ key document, schemaDocument data key = some document ∧
    text = canonical document }

/-- One release keeps what the one before it holds under a key. -/
theorem Accepted.keeps {baseline candidate : Bytes} {catalogs : Set Bytes}
    (accepted : Accepted F compile urlParse baseline candidate)
    (collisionFree : CollisionFree F (documentTexts catalogs))
    (isBaseline : baseline ∈ catalogs) (isCandidate : candidate ∈ catalogs) {old : Catalog}
    (isOld : decodeSchemaCatalog F compile baseline = .ok old)
    (found : old.find? key = some checked) :
    ∃ current found, decodeSchemaCatalog F compile candidate = .ok current ∧
      current.find? key = some found ∧
      found.info = checked.info ∧ schemaDocument candidate key = schemaDocument baseline key := by
  obtain ⟨other, current, count, isOther, isCurrent, compared⟩ := accepted.compared
  have same : other = old := Except.ok.inj (isOther.symm.trans isOld)
  subst same
  obtain ⟨present, isPresent, info, fingerprint⟩ :=
    comparePreserved_ok compared (key, checked) ((other.mem_rows key checked).mpr found)
  obtain ⟨oldValue, oldDocument, isOldDocument, oldObject, oldFingerprint⟩ :=
    decodeSchemaCatalog_document isOld found
  obtain ⟨value, document, isDocument, isObject, isFingerprint⟩ :=
    decodeSchemaCatalog_document isCurrent isPresent
  refine ⟨current, present, isCurrent, isPresent, info, ?_⟩
  have digests : Sha256.bytes (Sha256.sum (canonical document) : F) =
      Sha256.bytes (Sha256.sum (canonical oldDocument) : F) := by
    apply Hex.encode_injective
    exact isFingerprint.symm.trans (fingerprint.trans oldFingerprint)
  have texts : canonical document = canonical oldDocument :=
    collisionFree ⟨candidate, isCandidate, key, document, isDocument, rfl⟩
      ⟨baseline, isBaseline, key, oldDocument, isOldDocument, rfl⟩ digests
  unfold canonical at texts
  rw [← isObject, ← oldObject] at texts
  have values := decode_eq_of_text texts
  rw [isObject, oldObject] at values
  rw [isDocument, isOldDocument, Any.object.inj values]

/-- Whatever a release says of a key, every later release says too. -/
theorem released_schemas_immutable (release : Nat → Bytes) (count : Nat)
    (collisionFree : CollisionFree F (documentTexts { data | ∃ index ≤ count,
      data = release index }))
    (accepted : ∀ index < count, Accepted F compile urlParse (release index) (release (index + 1)))
    (earlier later : Nat) (ordered : earlier ≤ later) (within : later ≤ count) (catalog : Catalog)
    (isCatalog : decodeSchemaCatalog F compile (release earlier) = .ok catalog) (key : Bytes)
    (checked : CheckedSchema)
    (found : catalog.find? key = some checked) :
    ∃ document current kept, schemaDocument (release earlier) key = some document ∧
      decodeSchemaCatalog F compile (release later) = .ok current ∧ current.find? key = some kept ∧
      kept.info = checked.info ∧ schemaDocument (release later) key = some document := by
  obtain ⟨_, document, isDocument, _⟩ := decodeSchemaCatalog_document isCatalog found
  induction later, ordered using Nat.le_induction with
  | base => exact ⟨document, catalog, checked, isDocument, isCatalog, found, rfl, isDocument⟩
  | succ later ordered ih =>
    obtain ⟨original, current, kept, isOriginal, isCurrent, isKept, info, same⟩ :=
      ih (Nat.le_of_succ_le within)
    obtain ⟨next, present, isNext, isPresent, nextInfo, nextDocument⟩ :=
      (accepted later within).keeps collisionFree ⟨later, Nat.le_of_succ_le within,
        rfl⟩ ⟨later + 1, within, rfl⟩
        isCurrent isKept
    exact ⟨original, next, present, isOriginal, isNext, isPresent, nextInfo.trans info,
      nextDocument.trans same⟩

section Sample

open Messenger (TailDigest)

def utf8 (text : String) : Bytes := text.toUTF8.toList

def infoText (name : String) : Bytes :=
  utf8 "\"kind\":\"event\",\"schemaVersion\":1,\"contentType\":\"application/json\"," ++
    utf8 "\"dataEncoding\":\"json\",\"name\":\"" ++ utf8 name ++ utf8 "\""

def draftText : Bytes := utf8 "\"$schema\":\"https://json-schema.org/draft/2020-12/schema\""

def documentText (kind : String) : Bytes :=
  utf8 "\x7b" ++ draftText ++ utf8 ",\"type\":\"" ++ utf8 kind ++ utf8 "\"\x7d"

/-- The document of an object, in another order, with blanks and with an escape. -/
def respeltText : Bytes :=
  utf8 "\x7b \"type\" : \"\\u006fbject\",\n" ++ draftText ++ utf8 " \x7d"

def bindingText (name : String) (document : Bytes) : Bytes :=
  utf8 "\x7b" ++ infoText name ++ utf8 ",\"document\":" ++ document ++ utf8 "\x7d"

def catalogText (bindings : List Bytes) : Bytes :=
  utf8 "\x7b\"specVersion\":\"1.0\",\"policy\":\"immutable-version-v1\",\"descriptors\":[" ++
    [0x2c].intercalate bindings ++ utf8 "]\x7d"

/-- The second release spells the document of the first one in another way and
adds a key. -/
def sampleReleases : Nat → Bytes
  | 0 => catalogText [bindingText "order" (documentText "object")]
  | _ => catalogText [bindingText "invoice" (documentText "array"), bindingText "order" respeltText]

def sampleManifest : Bytes :=
  utf8 "\x7b\"specVersion\":\"1.0\",\"source\":\"shop\",\"descriptors\":[\x7b" ++
    infoText "invoice" ++ utf8 "\x7d,\x7b" ++ infoText "order" ++ utf8 "\x7d]\x7d"

def lenient (_ : List (Bytes × Any)) : Option (Any → Bool) := some (fun _ => true)

theorem sampleReleases_checked :
    (checkSchemas TailDigest lenient (fun _ => true) (sha256Hex TailDigest (sampleReleases 0))
      (.ok sampleManifest) (.ok (sampleReleases 1)) (.ok (sampleReleases 0))).toOption.isSome =
        true ∧
    ((decodeSchemaCatalog TailDigest lenient (sampleReleases 0)).toOption.bind
      (·.find? (ofString "event/order/v1"))).isSome = true := by
  decide +kernel

theorem sampleReleases_accepted (index : Nat) (first : index < 1) :
    Accepted TailDigest lenient (fun _ => true) (sampleReleases index)
      (sampleReleases (index + 1)) := by
  obtain rfl := Nat.lt_one_iff.mp first
  obtain ⟨report, isReport⟩ := exists_ok sampleReleases_checked.1
  exact ⟨_, _, report, isReport⟩

def documentsOf (data : Bytes) : List (List (Bytes × Any)) :=
  match decodeSchemaJSON decodeCatalog data with
  | .error _ => []
  | .ok catalog => catalog.descriptors.elements.filterMap fun binding =>
      (decodeSchemaJSON decodeDocument binding.document).toOption

theorem schemaDocument_mem {data key : Bytes} {document : List (Bytes × Any)}
    (found : schemaDocument data key = some document) : document ∈ documentsOf data := by
  obtain ⟨catalog, isCatalog, found⟩ := Option.bind_eq_some_iff.mp found
  obtain ⟨binding, isBinding, found⟩ := Option.bind_eq_some_iff.mp found
  rw [documentsOf, toOption_ok.mp isCatalog]
  exact List.mem_filterMap.mpr ⟨binding, List.mem_of_find?_eq_some isBinding, found⟩

theorem sampleReleases_texts :
    ([0, 1].flatMap (documentsOf ∘ sampleReleases)).map canonical =
      [documentText "object", documentText "array", documentText "object"] := by
  decide +kernel

theorem sampleReleases_collisionFree :
    CollisionFree TailDigest (documentTexts {data | ∃ index ≤ 1, data = sampleReleases index}) := by
  have apart : ∀ left ∈ [documentText "object", documentText "array"],
      ∀ right ∈ [documentText "object", documentText "array"],
        Sha256.bytes (Sha256.sum left : TailDigest) = Sha256.bytes (Sha256.sum right : TailDigest) →
          left = right := by
    decide +kernel
  have listed : ∀ text ∈ documentTexts {data | ∃ index ≤ 1, data = sampleReleases index},
      text ∈ [documentText "object", documentText "array"] := by
    rintro _ ⟨_, ⟨index, small, rfl⟩, _, document, found, rfl⟩
    have among : canonical document ∈
        ([0, 1].flatMap (documentsOf ∘ sampleReleases)).map canonical := by
      refine List.mem_map_of_mem (List.mem_flatMap.mpr ⟨index, ?_, schemaDocument_mem found⟩)
      simp only [List.mem_cons, List.not_mem_nil, or_false]
      omega
    rw [sampleReleases_texts, List.mem_cons] at among
    rcases among with isObject | later
    · exact isObject ▸ List.mem_cons_self
    · exact List.mem_cons.mpr (List.mem_cons.mp later |>.elim
        (fun isArray => .inr (isArray ▸ List.mem_cons_self))
        fun last => .inl (List.mem_singleton.mp last))
  intro left isLeft right isRight
  exact apart left (listed left isLeft) right (listed right isRight)

theorem released_schemas_immutable_sample :
    ∃ (catalog current : Catalog) (checked kept : CheckedSchema) (document : List (Bytes × Any)),
      decodeSchemaCatalog TailDigest lenient (sampleReleases 0) = .ok catalog ∧
      catalog.find? (ofString "event/order/v1") = some checked ∧
      decodeSchemaCatalog TailDigest lenient (sampleReleases 1) = .ok current ∧
      current.find? (ofString "event/order/v1") = some kept ∧ kept.info = checked.info ∧
      schemaDocument (sampleReleases 0) (ofString "event/order/v1") = some document ∧
      schemaDocument (sampleReleases 1) (ofString "event/order/v1") = some document := by
  obtain ⟨checked, found⟩ := Option.isSome_iff_exists.mp sampleReleases_checked.2
  obtain ⟨catalog, isCatalog, isChecked⟩ := Option.bind_eq_some_iff.mp found
  obtain ⟨document, current, kept, isDocument, isCurrent, isKept, info, same⟩ :=
    released_schemas_immutable sampleReleases 1 sampleReleases_collisionFree
      sampleReleases_accepted 0 1 (Nat.zero_le 1) (Nat.le_refl 1) catalog
      (toOption_ok.mp isCatalog) _ checked isChecked
  exact ⟨catalog, current, checked, kept, document, toOption_ok.mp isCatalog, isChecked,
    isCurrent, isKept, info, isDocument, same⟩

end Sample

end Gomessenger.SchemaCheck
