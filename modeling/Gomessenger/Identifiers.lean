import Gomessenger.Kafka.Wire.Topics
import Gomessenger.Lib.Netstring
import Gomessenger.Messenger.ReplayID

/-! What is hashed for the identifiers that brokers and the Inbox compare: the
NATS dead letters and their replays, the quarantined messages, the attempt
generations and the Kafka transactions.

A header map is the list of its rows in the order one iteration visits them. -/

namespace Gomessenger.Identifiers

open Utf8 Fallible
open Inbox (Sha256 utf8 attemptFingerprint)
open Messenger (invalidMessage trimmed hasLineBreak defaultMaxHeaders
  defaultMaxHeaderBytes defaultMaxEnvelopeBytes
  TailDigest)
open Netstring (SelfDelimiting field sequence field_delimits length_delimits mark_delimits)

abbrev Row := Bytes × List Bytes

structure Message where
  subject : Bytes
  mode : Bytes
  headers : List Row
  data : Bytes

def contentType : Bytes := ofString "Content-Type"

/-- `strings.ToLower` over any version of the Unicode tables. The two foreign
characters with an ASCII lower case give i and k, which this name does not have. -/
structure LetterCase where
  toLower : Bytes → Bytes
  contentType : ∀ name, toLower name = toLower contentType → equalFold name contentType = true

section Texts

def renamed (name : Bytes → Bytes) (rows : List Row) : List Row :=
    rows.map (fun row => (name row.1, row.2))

def sortedRows (name : Bytes → Bytes) (rows : List Row) : List Row :=
  renamed name (rows.mergeSort (fun left right => decide (name left.1 ≤ name right.1)))

def rowText (counter : Nat → Bytes) (row : Row) : Bytes :=
    field row.1 ++ sequence counter field row.2

def messageText (counter : Nat → Bytes) (name : Bytes → Bytes) (message : Message) : Bytes :=
  field message.subject ++ (field message.mode ++
    (sequence counter (rowText counter) (sortedRows name message.headers) ++ field message.data))

def replayText (letters : LetterCase) : Message → Bytes :=
    messageText Netstring.length letters.toLower

def fieldCount (count : Nat) : Bytes := field (Decimal.text count)

def quarantineText (message : Message) : Bytes :=
  field (ofString "gomessenger/quarantine/v2") ++ messageText fieldCount id message

variable (F : Type) [Sha256 F]

def replayDigest (letters : LetterCase) (message : Message) : F :=
    Sha256.sum (replayText letters message)

def dedupText (letters : LetterCase) (consumerID : Bytes) (message : Message) : Bytes :=
  consumerID ++ 0 :: Sha256.bytes (replayDigest F letters message)

def dlqDedupID (letters : LetterCase) (consumerID : Bytes) (message : Message) : Bytes :=
  ofString "gm-dlq-" ++
    Hex.encode (Sha256.bytes (Sha256.sum (dedupText F letters consumerID message) : F))

def quarantineDigest (message : Message) : Bytes :=
  Hex.encode (Sha256.bytes (Sha256.sum (quarantineText message) : F))

def quarantineIDText (consumerID : Bytes) (message : Message) : Bytes :=
    consumerID ++ 0 :: quarantineDigest F message

def quarantineID (consumerID : Bytes) (message : Message) : Bytes :=
  ofString "gm-quarantine-" ++ Hex.encode
    (Sha256.bytes (Sha256.sum (quarantineIDText F consumerID message) : F))

/-- The fields of a dead letter that its replay ID depends on. -/
structure DeadLetter where
  specVersion : Bytes
  consumerID : Bytes
  attempt : UInt64
  failureKind : Bytes
  error : Bytes
  failedAt : Rfc3339.Stamp

/-- What `replayRecordDigest` hashes. -/
def replayRecordText (record : DeadLetter) (inputDigest : F) : Bytes :=
  field record.specVersion ++ (field record.consumerID ++
    (field (Decimal.text record.attempt.toNat) ++
    (field record.failureKind ++ (field record.error ++ (field (Rfc3339.display record.failedAt) ++
      Sha256.bytes inputDigest)))))

def replayRecordDigest (record : DeadLetter) (inputDigest : F) : F :=
  Sha256.sum (replayRecordText F record inputDigest)

def replayID (letters : LetterCase) (record : DeadLetter) (message : Message) : Bytes :=
  Messenger.replayIDPrefix ++
    Hex.encode (Sha256.bytes (replayRecordDigest F record (replayDigest F letters message)))

variable {F}

def attemptText (fingerprint : F) (generation : Bytes) : Bytes :=
  utf8 "gomessenger/inbox/attempt-generation/v1\x00" ++
    (Sha256.bytes fingerprint ++ 0 :: generation)

def transactionText (group instanceID : Bytes) (worker : Int64) : Bytes :=
  group ++ 0 :: (instanceID ++ 0 :: Json.intText worker.toInt)

variable (F)

open KafkaWire in
def transactionalID (group instanceID : Bytes) (worker : Int64) : Except GoError Bytes :=
  if worker.toInt < 0 then .error (invalidConfig "negative worker index")
  else do
    validateKafkaIdentifier "transactional group" group
    validateKafkaIdentifier "instance ID" instanceID
    let digest : F := Sha256.sum (transactionText group instanceID worker)
    let identifier := ofString "gm.tx.v1." ++ Hex.encode (Sha256.bytes digest) ++ ofString ".w" ++
      Json.intText worker.toInt
    validateKafkaIdentifier "transactional ID" identifier
    return identifier

end Texts

section Reached

variable (letters : LetterCase)

def maxReplayHeaderBytes : Nat := defaultMaxEnvelopeBytes + 8 * defaultMaxHeaderBytes

/-- The loop of `copyReplayHeaders`: the names seen so far, and their bytes. -/
def scanReplayHeaders : List Row → List Bytes → Nat → Except GoError Nat
  | [], _, total => .ok total
  | (key, values) :: rest, seen, total =>
    if key = [] ∨ trimmed key = false ∨ hasLineBreak key = true
      then .error (invalidMessage "invalid DLQ header")
    else if letters.toLower key ∈ seen then .error (invalidMessage "duplicate DLQ header")
    else if values.any hasLineBreak then .error (invalidMessage "invalid DLQ header")
    else scanReplayHeaders rest (letters.toLower key :: seen)
      (total + key.length + (values.map List.length).sum)

def copyReplayHeaders (source : List Row) : Except GoError (List Row) :=
  if defaultMaxHeaders < source.length then .error (invalidMessage "too many DLQ headers")
  else do
    let total ← scanReplayHeaders letters source [] 0
    if maxReplayHeaderBytes < total then .error (invalidMessage "DLQ headers exceed byte limit")
      else .ok source

def losslessHeaders (headers : List Row) : Bool :=
  headers.all (fun row => decide (Valid row.1) && row.2.all (fun value => decide (Valid value)))

def removeHeader (headers : List Row) (name : Bytes) : List Row :=
    headers.filter (fun row => !equalFold row.1 name)

def setHeaderIfMissing (headers : List Row) (name value : Bytes) : List Row :=
  if headers.any (fun row => equalFold row.1 name) then headers else (name, [value]) :: headers

/-- The headers that `replayInput` keeps and adds. -/
def replayHeaders (mode : Bytes) (headers : List Row) : List Row :=
  let bare := ["Nats-Msg-Id", "Gomessenger-Replay-Id", "Gomessenger-Replay-Consumer"].foldl
    (fun kept name => removeHeader kept (ofString name)) headers
  if mode = ofString "native" then
    setHeaderIfMissing bare contentType (ofString "application/vnd.gomessenger+json; version=1.0")
  else if mode = ofString "cloudevents-structured" then
    setHeaderIfMissing bare contentType (ofString "application/cloudevents+json; charset=utf-8")
  else bare

/-- The messages that come to `replayDigest`, with their headers in any order:
those `prepareDLQ` does not quarantine, and those `replayInput` accepts. -/
inductive Reaches (message : Message) : Prop
  | deadLetter (headers copied : List Row)
    (accepted : copyReplayHeaders letters headers = .ok copied)
      (lossless : losslessHeaders headers = true) (visit : message.headers.Perm headers)
  | replay (headers copied : List Row) (accepted : copyReplayHeaders letters headers = .ok copied)
      (visit : message.headers.Perm (replayHeaders message.mode copied))

def Distinct (name : Bytes → Bytes) (rows : List Row) : Prop :=
    (rows.map (fun row => name row.1)).Nodup

variable {letters} {rows headers : List Row}

theorem scanReplayHeaders_distinct {seen : List Bytes} {total result : Nat}
    (accepted : scanReplayHeaders letters rows seen total = .ok result) :
    Distinct letters.toLower rows ∧ ∀ row ∈ rows, letters.toLower row.1 ∉ seen := by
  induction rows generalizing seen total with
  | nil => exact ⟨List.nodup_nil, nofun⟩
  | cons row rest ih =>
    unfold scanReplayHeaders at accepted
    split at accepted
    · exact absurd accepted (by simp)
    split at accepted
    · exact absurd accepted (by simp)
    next fresh =>
      split at accepted
      · exact absurd accepted (by simp)
      obtain ⟨distinct, later⟩ := ih accepted
      refine ⟨List.nodup_cons.mpr ⟨?_, distinct⟩, List.forall_mem_cons.mpr ⟨fresh, ?_⟩⟩
      · intro repeated
        obtain ⟨other, inside, same⟩ := List.mem_map.mp repeated
        exact later other inside (same ▸ List.mem_cons_self ..)
      · exact fun other inside isSeen => later other inside (.tail _ isSeen)

theorem copyReplayHeaders_distinct {copied : List Row}
    (accepted : copyReplayHeaders letters headers = .ok copied) :
    copied = headers ∧ Distinct letters.toLower headers := by
  unfold copyReplayHeaders at accepted
  split at accepted
  · exact absurd accepted (by simp)
  · obtain ⟨total, scanned, accepted⟩ := bind_ok.mp accepted
    split at accepted
    · exact absurd accepted (by simp)
    · exact ⟨(Except.ok.inj accepted).symm, (scanReplayHeaders_distinct scanned).1⟩

theorem Distinct.filter {name : Bytes → Bytes} (distinct : Distinct name rows) (kept : Row → Bool) :
    Distinct name (rows.filter kept) :=
  distinct.sublist ((List.filter_sublist).map _)

theorem Distinct.setContentType (distinct : Distinct letters.toLower rows) (value : Bytes) :
    Distinct letters.toLower (setHeaderIfMissing rows contentType value) := by
  unfold setHeaderIfMissing
  split
  · exact distinct
  next missing =>
    refine List.nodup_cons.mpr ⟨?_, distinct⟩
    intro repeated
    obtain ⟨row, inside, same⟩ := List.mem_map.mp repeated
    exact missing (List.any_eq_true.mpr ⟨row, inside, letters.contentType row.1 same⟩)

theorem Distinct.replayHeaders (distinct : Distinct letters.toLower rows) (mode : Bytes) :
    Distinct letters.toLower (replayHeaders mode rows) := by
  have bare := ((distinct.filter (fun row => !equalFold row.1 (ofString "Nats-Msg-Id"))).filter
    (fun row => !equalFold row.1 (ofString "Gomessenger-Replay-Id"))).filter
    (fun row => !equalFold row.1 (ofString "Gomessenger-Replay-Consumer"))
  unfold Identifiers.replayHeaders
  split
  · exact bare.setContentType _
  split
  · exact bare.setContentType _
  · exact bare

theorem Reaches.distinct {message : Message} (reaches : Reaches letters message) :
    Distinct letters.toLower message.headers := by
  cases reaches with
  | deadLetter headers copied accepted lossless visit =>
    exact (visit.map _).nodup_iff.mpr (copyReplayHeaders_distinct accepted).2
  | replay headers copied accepted visit =>
    obtain ⟨rfl, distinct⟩ := copyReplayHeaders_distinct accepted
    exact (visit.map _).nodup_iff.mpr (distinct.replayHeaders _)

end Reached

section Decoded

/-- Messages that differ at most in the order their maps are visited, with the
header names as `name` gives them. -/
structure Same (name : Bytes → Bytes) (left right : Message) : Prop where
  subject : left.subject = right.subject
  mode : left.mode = right.mode
  headers : (renamed name left.headers).Perm (renamed name right.headers)
  data : left.data = right.data

variable {name : Bytes → Bytes} {counter : Nat → Bytes} {left right : Message}

theorem sortedRows_perm (rows : List Row) : (sortedRows name rows).Perm (renamed name rows) :=
  (List.mergeSort_perm _ _).map _

theorem sortedRows_sorted (rows : List Row) :
    (sortedRows name rows).Pairwise (fun left right => left.1 ≤ right.1) := by
  have sorted :=
    @List.pairwise_mergeSort _ (fun left right : Row => decide (name left.1 ≤ name right.1))
    (fun _ _ _ below above => decide_eq_true
      (le_trans (of_decide_eq_true below) (of_decide_eq_true above)))
    (fun left right => by simpa using le_total (name left.1) (name right.1)) rows
  exact List.pairwise_map.mpr (sorted.imp of_decide_eq_true)

theorem sortedRows_eq_iff {first second : List Row} (distinct : Distinct name first) :
    sortedRows name first = sortedRows name second ↔
      (renamed name first).Perm (renamed name second) := by
  constructor
  · intro same
    exact (sortedRows_perm first).symm.trans (same ▸ sortedRows_perm second)
  · intro perm
    have sorted := (sortedRows_perm first).trans (perm.trans (sortedRows_perm second).symm)
    have names : ((sortedRows name first).map Prod.fst).Nodup := by
      rw [((sortedRows_perm first).map Prod.fst).nodup_iff, renamed, List.map_map]
      exact distinct
    refine sorted.eq_of_pairwise ?_ (sortedRows_sorted first) (sortedRows_sorted second)
    intro a b isFirst isSecond below above
    exact List.inj_on_of_nodup_map names isFirst (sorted.mem_iff.mpr isSecond)
      (le_antisymm below above)

theorem rowText_delimits (counts : SelfDelimiting counter) : SelfDelimiting (rowText counter) := by
  rintro ⟨left, values⟩ ⟨right, others⟩ leftRest rightRest same
  simp only [rowText, List.append_assoc] at same
  obtain ⟨rfl, later⟩ := field_delimits _ _ _ _ same
  obtain ⟨rfl, rests⟩ := counts.sequence field_delimits _ _ _ _ later
  exact ⟨rfl, rests⟩

theorem messageText_eq_iff (counts : SelfDelimiting counter)
    (distinct : Distinct name left.headers) :
    messageText counter name left = messageText counter name right ↔ Same name left right := by
  constructor
  · intro same
    obtain ⟨subject, same⟩ := field_delimits _ _ _ _ same
    obtain ⟨mode, same⟩ := field_delimits _ _ _ _ same
    obtain ⟨rows, same⟩ := counts.sequence (rowText_delimits counts) _ _ _ _ same
    have data := (field_delimits _ _ [] [] (congrArg (· ++ []) same)).1
    exact ⟨subject, mode, (sortedRows_eq_iff distinct).mp rows, data⟩
  · intro same
    rw [messageText, messageText, same.subject, same.mode,
      (sortedRows_eq_iff distinct).mpr same.headers, same.data]

theorem replayText_eq_iff {letters : LetterCase} (reaches : Reaches letters left) :
    replayText letters left = replayText letters right ↔ Same letters.toLower left right :=
  messageText_eq_iff length_delimits reaches.distinct

theorem quarantineText_eq_iff (distinct : Distinct id left.headers) :
    quarantineText left = quarantineText right ↔ Same id left right :=
  (List.append_right_inj _).trans (messageText_eq_iff
    (field_delimits.comp Netstring.text_injective) distinct)

end Decoded

section Digests

structure SameLetter (left right : DeadLetter) : Prop where
  specVersion : left.specVersion = right.specVersion
  consumerID : left.consumerID = right.consumerID
  attempt : left.attempt = right.attempt
  failureKind : left.failureKind = right.failureKind
  error : left.error = right.error
  failedAt : Rfc3339.display left.failedAt = Rfc3339.display right.failedAt

structure DigestBytes (F : Type) [Sha256 F] : Prop where
  size : ∀ digest : F, (Sha256.bytes digest).length = 32
  exact : ∀ left right : F, Sha256.bytes left = Sha256.bytes right → left = right

def Collision (F : Type) [Sha256 F] (left right : Bytes) : Prop :=
  left ≠ right ∧ (Sha256.sum left : F) = Sha256.sum right

variable {F : Type} [Sha256 F]

theorem sum_eq_iff (left right : Bytes) : (Sha256.sum left : F) = Sha256.sum right ↔ left = right ∨
    Collision F left right := by
  by_cases same : left = right
  · simp [same]
  · simp [same, Collision]

theorem tagged_eq_iff {left right leftTail rightTail : Bytes}
    (size : leftTail.length = rightTail.length) :
    left ++ 0 :: leftTail = right ++ 0 :: rightTail ↔ left = right ∧ leftTail = rightTail := by
  constructor
  · intro same
    obtain ⟨heads, tails⟩ := List.append_inj' same (by simp [size])
    exact ⟨heads, List.tail_eq_of_cons_eq tails⟩
  · rintro ⟨rfl, rfl⟩
    rfl

variable (digests : DigestBytes F)
include digests

theorem DigestBytes.bytes_eq_iff (left right : F) :
    Sha256.bytes left = Sha256.bytes right ↔ left = right :=
  ⟨digests.exact left right, fun same => by rw [same]⟩

theorem dedupText_eq_iff {letters : LetterCase} {left right : Message}
    (reaches : Reaches letters left) (consumerID other : Bytes) :
    dedupText F letters consumerID left = dedupText F letters other right ↔ consumerID = other ∧
      (Same letters.toLower left right ∨
        Collision F (replayText letters left) (replayText letters right)) := by
  rw [dedupText, dedupText, tagged_eq_iff ((digests.size _).trans (digests.size _).symm),
    digests.bytes_eq_iff, replayDigest, replayDigest, sum_eq_iff, replayText_eq_iff reaches]

theorem quarantineIDText_eq_iff {left right : Message} (distinct : Distinct id left.headers)
    (consumerID other : Bytes) :
    quarantineIDText F consumerID left = quarantineIDText F other right ↔ consumerID = other ∧
      (Same id left right ∨ Collision F (quarantineText left) (quarantineText right)) := by
  have hex : ∀ first second : Bytes, Hex.encode first = Hex.encode second ↔ first = second :=
    fun _ _ => ⟨Hex.encode_injective, congrArg _⟩
  rw [quarantineIDText, quarantineIDText, tagged_eq_iff, quarantineDigest, quarantineDigest, hex,
    digests.bytes_eq_iff, sum_eq_iff, quarantineText_eq_iff distinct]
  simp only [quarantineDigest, Hex.encode_length, digests.size]

theorem replayRecordText_eq_iff (left right : DeadLetter) (input other : F) :
    replayRecordText F left input = replayRecordText F right other ↔
      SameLetter left right ∧ input = other := by
  constructor
  · intro same
    obtain ⟨specVersion, same⟩ := field_delimits _ _ _ _ same
    obtain ⟨consumerID, same⟩ := field_delimits _ _ _ _ same
    obtain ⟨attempt, same⟩ := field_delimits _ _ _ _ same
    obtain ⟨failureKind, same⟩ := field_delimits _ _ _ _ same
    obtain ⟨error, same⟩ := field_delimits _ _ _ _ same
    obtain ⟨failedAt, same⟩ := field_delimits _ _ _ _ same
    exact ⟨⟨specVersion, consumerID, UInt64.toNat_inj.mp (Netstring.text_injective attempt),
      failureKind,
      error, failedAt⟩, digests.exact _ _ same⟩
  · rintro ⟨letter, rfl⟩
    rw [replayRecordText, replayRecordText, letter.specVersion, letter.consumerID, letter.attempt,
      letter.failureKind, letter.error, letter.failedAt]

theorem DigestBytes.identifier_eq_iff (mark left right : Bytes) :
    mark ++ Hex.encode (Sha256.bytes (Sha256.sum left : F)) =
        mark ++ Hex.encode (Sha256.bytes (Sha256.sum right : F)) ↔
      left = right ∨ Collision F left right := by
  rw [List.append_right_inj, ← sum_eq_iff]
  exact ⟨fun same => digests.exact _ _ (Hex.encode_injective same), fun same => by rw [same]⟩

theorem attemptText_eq_iff (left right : F) (generation other : Bytes) :
    attemptText left generation = attemptText right other ↔ left = right ∧ generation = other := by
  constructor
  · intro same
    obtain ⟨bytes, tails⟩ := List.append_inj (List.append_cancel_left same)
      ((digests.size _).trans (digests.size _).symm)
    exact ⟨digests.exact _ _ bytes, List.tail_eq_of_cons_eq tails⟩
  · rintro ⟨rfl, rfl⟩
    rfl

end Digests

section Transactions

open KafkaWire

theorem validateKafkaIdentifier_bytes {role : String} {value : Bytes}
    (accepted : validateKafkaIdentifier role value = .ok ()) :
    value.all kafkaIdentifierByte = true := by
  unfold validateKafkaIdentifier at accepted
  split at accepted
  · exact absurd accepted (by simp)
  split at accepted
  next bytes => exact bytes
  · exact absurd accepted (by simp)

variable {F : Type} [Sha256 F] {group instanceID identifier : Bytes} {worker : Int64}

theorem transactionalID_parts (accepted : transactionalID F group instanceID
    worker = .ok identifier) :
    group.all kafkaIdentifierByte = true ∧ instanceID.all kafkaIdentifierByte = true := by
  unfold transactionalID at accepted
  split at accepted
  · exact absurd accepted (by simp)
  · obtain ⟨_, isGroup, accepted⟩ := bind_ok.mp accepted
    obtain ⟨_, isInstance, _⟩ := bind_ok.mp accepted
    exact ⟨validateKafkaIdentifier_bytes isGroup, validateKafkaIdentifier_bytes isInstance⟩

theorem transactionText_eq_iff {otherGroup otherInstance otherIdentifier : Bytes}
    {otherWorker : Int64} (accepted : transactionalID F group instanceID worker = .ok identifier)
    (otherAccepted : transactionalID F otherGroup otherInstance otherWorker = .ok otherIdentifier) :
    transactionText group instanceID worker = transactionText otherGroup otherInstance otherWorker ↔
      group = otherGroup ∧ instanceID = otherInstance ∧ worker = otherWorker := by
  obtain ⟨isGroup, isInstance⟩ := transactionalID_parts accepted
  obtain ⟨isOtherGroup, isOtherInstance⟩ := transactionalID_parts otherAccepted
  constructor
  · intro same
    obtain ⟨groups, same⟩ := mark_delimits (by decide) isGroup isOtherGroup same
    obtain ⟨instances, same⟩ := mark_delimits (by decide) isInstance isOtherInstance same
    exact ⟨groups, instances, Messenger.intText_injective same⟩
  · rintro ⟨rfl, rfl, rfl⟩
    rfl

end Transactions

def folding : LetterCase := ⟨foldCase, fun _ same => beq_iff_eq.mpr same⟩

def storedMessage : Message :=
  ⟨ofString "media", ofString "cloudevents-binary",
    [(ofString "ce-id", [ofString "7"]), (ofString "A", [])], []⟩

def visitedMessage : Message :=
  ⟨ofString "media", ofString "cloudevents-binary",
    [(ofString "a", []), (ofString "ce-id", [ofString "7"])], []⟩

end Gomessenger.Identifiers
