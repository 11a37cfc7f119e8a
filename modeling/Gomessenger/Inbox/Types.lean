import Mathlib.Data.Fintype.Basic
import Mathlib.Data.List.Lex
import Mathlib.Data.String.Basic
import Gomessenger.Lib.KeyedTable
import Gomessenger.Failure

/-! The data model shared by the Inbox store and its two SQL backends. -/

namespace Gomessenger

/-- A 128-bit identity; its canonical lowercase UUID text sorts as the number. -/
abbrev MessageID := Fin (2 ^ 128)

instance instNeZeroMessageID : NeZero (2 ^ 128) := ⟨by decide⟩

def hexDigit (value : Nat) : Char := "0123456789abcdef".toList.getD value '0'

def hexText (value : Nat) : Nat → List Char
  | 0 => []
  | digits + 1 => hexText (value / 16) digits ++ [hexDigit (value % 16)]

def messageText (id : MessageID) : String :=
  let digits := hexText id.val 32
  String.ofList (digits.take 8 ++ '-' :: (digits.drop 8).take 4 ++ '-' :: (digits.drop 12).take 4 ++
    '-' :: (digits.drop 16).take 4 ++ '-' :: digits.drop 20)

abbrev Time := Nat

namespace Inbox

structure Key where
  consumerID : String
  source : String
  messageID : MessageID
  attemptGeneration : String
  deriving DecidableEq, Repr

structure Identity where
  consumerID : String
  source : String
  messageID : MessageID
  deriving DecidableEq, Repr

def Identity.columns (id : Identity) : String ×ₗ String ×ₗ MessageID :=
  toLex (id.consumerID, toLex (id.source, id.messageID))

theorem Identity.columns_injective : Function.Injective Identity.columns := by
  intro left right same
  cases left
  cases right
  simp only [Identity.columns, toLex_inj, Prod.mk.injEq] at same
  obtain ⟨rfl, rfl, rfl⟩ := same
  rfl

instance : LinearOrder Identity := LinearOrder.lift' Identity.columns Identity.columns_injective

def Key.identity (key : Key) : Identity := ⟨key.consumerID, key.source, key.messageID⟩

theorem Key.eq_of_identity (left right : Key) (identity : left.identity = right.identity)
    (generation : left.attemptGeneration = right.attemptGeneration) : left = right := by
  obtain ⟨consumer, source, message, attempt⟩ := left
  obtain ⟨consumer₂, source₂, message₂, attempt₂⟩ := right
  simp only [Key.identity, Identity.mk.injEq] at identity generation
  obtain ⟨rfl, rfl, rfl⟩ := identity
  rw [generation]

def isSpace (char : Char) : Bool :=
  let code := char.toNat
  (0x09 ≤ code && code ≤ 0x0d) || code == 0x20 || code == 0x85 || code == 0xa0 || code == 0x1680 ||
    (0x2000 ≤ code && code ≤ 0x200a) || code == 0x2028 || code == 0x2029 || code == 0x202f ||
    code == 0x205f || code == 0x3000

def trimSpace (text : String) : String :=
  String.ofList ((text.toList.dropWhile isSpace).reverse.dropWhile isSpace).reverse

def validateKey (key : Key) : Option GoError :=
  if trimSpace key.consumerID = "" ∨ trimSpace key.source = "" ∨ key.messageID = 0 ∨
      trimSpace key.attemptGeneration ≠ key.attemptGeneration ∨
      key.attemptGeneration.utf8ByteSize > 128 then
    some (.wrap ("consumer=" ++ key.consumerID.quote ++ " source=" ++
      key.source.quote) (.sentinel .invalidKey))
  else none

/-- The SHA-256 functions the Inbox uses on its digest type. -/
class Sha256 (F : Type) where
  sum : List UInt8 → F
  bytes : F → List UInt8

def utf8 (text : String) : List UInt8 := text.toUTF8.data.toList

section Digest

variable {F : Type} [Sha256 F]

/-- `AttemptFingerprint`; the empty generation keeps the envelope fingerprint. -/
def attemptFingerprint (generation : String) (fingerprint : F) : F :=
  if generation = "" then fingerprint
  else Sha256.sum (utf8 "gomessenger/inbox/attempt-generation/v1\x00" ++ Sha256.bytes fingerprint ++
    [0] ++ utf8 generation)

@[simp] theorem attemptFingerprint_empty (fingerprint : F) :
    attemptFingerprint "" fingerprint = fingerprint := rfl

/-- The attempt fingerprints tell the two generations of an envelope apart. -/
def Separates (fingerprint : F) (left right : String) : Prop :=
  attemptFingerprint left fingerprint = attemptFingerprint right fingerprint → left = right

end Digest

structure Preimage where
  bytes : List UInt8
  deriving DecidableEq

theorem Preimage.codes_injective :
    Function.Injective (fun digest : Preimage => digest.bytes.map UInt8.toNat) := by
  intro left right same
  obtain ⟨left⟩ := left
  obtain ⟨right⟩ := right
  exact congrArg Preimage.mk (List.map_injective_iff.mpr (fun _ _ => UInt8.toNat_inj.mp) same)

instance : LinearOrder Preimage := LinearOrder.lift' _ Preimage.codes_injective

instance : Sha256 Preimage := ⟨Preimage.mk, Preimage.bytes⟩

inductive FailureKind
  | identityConflict
  | attemptsExhausted
  | permanent
  deriving DecidableEq, Repr

structure IdentityRow (F : Type) where
  fingerprint : F
  createdAt : Time
  completedAt : Option Time
  deriving DecidableEq, Repr

structure CounterRow where
  attempts : Nat
  terminal : Bool
  updatedAt : Time
  deriving DecidableEq, Repr

structure AttemptRow (F : Type) extends CounterRow where
  fingerprint : F
  deriving DecidableEq, Repr

def AttemptRow.recount {F : Type} (change : CounterRow → CounterRow)
    (row : AttemptRow F) : AttemptRow F :=
  ⟨change row.toCounterRow, row.fingerprint⟩

inductive TerminalKind
  | permanent
  | attemptsExhausted
  deriving DecidableEq, Repr

def TerminalKind.failureKind : TerminalKind → FailureKind
  | .permanent => .permanent
  | .attemptsExhausted => .attemptsExhausted

structure TerminalRow where
  attempts : Nat
  counted : 0 < attempts
  failureKind : TerminalKind
  terminalAt : Time
  handoffConfirmedAt : Option Time
  deriving DecidableEq, Repr

section Store

variable (F : Type) [LinearOrder F]

structure Tables where
  inbox : KeyedTable Identity (IdentityRow F)
  attempts : KeyedTable Identity (AttemptRow F)
  attemptGenerations : KeyedTable (Identity ×ₗ F) CounterRow
  terminal : KeyedTable (Identity ×ₗ F) TerminalRow
  deriving DecidableEq

def Tables.empty : Tables F := ⟨.empty, .empty, .empty, .empty⟩

end Store

/-- The clock readings of one call, one for each statement that stores a time. -/
structure Readings where
  created : Time
  attempted : Time
  completed : Time
  marked : Time
  deferred : Time
  recorded : Time
  confirmed : Time
  deriving DecidableEq, Repr

structure Result where
  duplicate : Bool
  attempt : Nat
  deriving DecidableEq, Repr

structure BatchItem (F : Type) where
  key : Key
  fingerprint : F
  deriving DecidableEq, Repr

structure BatchItemKey where
  source : String
  messageID : MessageID
  deriving DecidableEq, Repr

structure BatchItemResult where
  key : BatchItemKey
  err : Option GoError
  deriving DecidableEq, Repr

/-- `BatchHandler`: the item results and the top-level error of one invocation. -/
abbrev BatchHandler (F : Type) := List (BatchItem F) → List BatchItemResult × Option GoError

inductive BatchOutcome
  | ack
  | retry
  | defer
  | dlq
  deriving DecidableEq, Repr

structure BatchItemOutcome (F : Type) where
  key : Key
  fingerprint : F
  outcome : BatchOutcome
  attempt : Nat
  duplicate : Bool
  delay : Duration
  failureKind : Option FailureKind
  err : Option GoError
  deriving DecidableEq, Repr

structure BatchProcessResult (F : Type) where
  items : List (BatchItemOutcome F)
  handlerMessages : Nat
  deriving DecidableEq, Repr

/-- What one call did: the tables after its transaction ended, the items handed
to a handler, the item outcomes whose transaction committed, the generations
whose terminal row that transaction wrote, and the two Go return values. -/
structure Call (F : Type) [LinearOrder F] (Reply : Type) where
  tables : Tables F
  invoked : List (BatchItem F)
  finished : List (BatchItem F × Option GoError)
  recorded : List (Identity ×ₗ F)
  reply : Reply
  err : Option GoError

namespace Call

variable {F : Type} [LinearOrder F] {Reply : Type}

/-- The deferred `tx.Rollback`: nothing but the handler invocation remains. -/
def rollback (tables : Tables F) (invoked : List (BatchItem F)) (reply : Reply)
    (err : GoError) : Call F Reply :=
  ⟨tables, invoked, [], [], reply, some err⟩

def map {Other : Type} (convert : Reply → Other) (call : Call F Reply) : Call F Other :=
  ⟨call.tables, call.invoked, call.finished, call.recorded, convert call.reply, call.err⟩

end Call

end Inbox

end Gomessenger
