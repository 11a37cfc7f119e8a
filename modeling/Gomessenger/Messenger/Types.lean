import Gomessenger.Inbox.Types
import Gomessenger.Lib.Base64
import Gomessenger.Lib.JsonRecord
import Gomessenger.Lib.Rfc3339

/-! Message metadata, the native envelope and the checks on their texts.

Go strings are byte strings. Whether `url.Parse` accepts a source is an input of
the functions. -/

namespace Gomessenger.Messenger

open Utf8 Rfc3339

inductive Kind
  | command
  | event
  | query
  | other (text : Bytes)
  deriving DecidableEq

def Kind.text : Kind → Bytes
  | .command => ofString "command"
  | .event => ofString "event"
  | .query => ofString "query"
  | .other text => text

def Kind.ofText (text : Bytes) : Kind :=
  if text = ofString "command" then .command
  else if text = ofString "event" then .event
  else if text = ofString "query" then .query
  else .other text

def Kind.validWire : Kind → Bool
  | .command => true
  | .event => true
  | _ => false

inductive DataEncoding
  | unset
  | json
  | text
  | binary
  deriving DecidableEq

def DataEncoding.string : DataEncoding → Bytes
  | .unset => []
  | .json => ofString "json"
  | .text => ofString "text"
  | .binary => ofString "binary"

def DataEncoding.valid (encoding : DataEncoding) : Bool := encoding != .unset

def DataEncoding.ofName? (name : Bytes) : Option DataEncoding :=
  if name = DataEncoding.json.string then some .json
  else if name = DataEncoding.text.string then some .text
  else if name = DataEncoding.binary.string then some .binary
  else none

abbrev Headers := KeyedTable Bytes Bytes

structure Metadata where
  id : MessageID
  kind : Kind
  name : Bytes
  schemaVersion : Int64
  source : Bytes
  subject : Bytes
  time : Stamp
  correlationID : MessageID
  causationID : MessageID
  key : Bytes
  contentType : Bytes
  schema : Bytes
  headers : Headers
  notBefore : Stamp
  expiresAt : Stamp

structure Envelope where
  specVersion : Bytes
  id : MessageID
  kind : Kind
  name : Bytes
  schemaVersion : Int64
  source : Bytes
  subject : Bytes
  time : Stamp
  correlationID : MessageID
  causationID : MessageID
  key : Bytes
  contentType : Bytes
  dataEncoding : DataEncoding
  schema : Bytes
  headers : Headers
  notBefore : Stamp
  expiresAt : Stamp
  data : Option Bytes
  dataBase64 : Option Bytes

def Envelope.metadata (envelope : Envelope) : Metadata where
  id := envelope.id
  kind := envelope.kind
  name := envelope.name
  schemaVersion := envelope.schemaVersion
  source := envelope.source
  subject := envelope.subject
  time := envelope.time
  correlationID := envelope.correlationID
  causationID := envelope.causationID
  key := envelope.key
  contentType := envelope.contentType
  schema := envelope.schema
  headers := envelope.headers
  notBefore := envelope.notBefore
  expiresAt := envelope.expiresAt

section MessageID

open Json

def hexPadded : Nat → Nat → Bytes
  | 0, _ => []
  | width + 1, value => hexPadded width (value / 16) ++ [hexByte (value % 16)]

structure Groups where
  first : Nat
  second : Nat
  third : Nat
  fourth : Nat
  fifth : Nat

def Groups.text (groups : Groups) : Bytes :=
  hexPadded 8 groups.first ++ 0x2d :: (hexPadded 4 groups.second ++
    0x2d :: (hexPadded 4 groups.third ++
    0x2d :: (hexPadded 4 groups.fourth ++ 0x2d :: hexPadded 12 groups.fifth)))

def Groups.number (groups : Groups) : Nat :=
  (((groups.first * 2 ^ 16 + groups.second) * 2 ^ 16 + groups.third) * 2 ^ 16 + groups.fourth) *
    2 ^ 48 + groups.fifth

def groupsOf (number : Nat) : Groups :=
  ⟨number / 2 ^ 96, number / 2 ^ 80 % 2 ^ 16, number / 2 ^ 64 % 2 ^ 16,
    number / 2 ^ 48 % 2 ^ 16, number % 2 ^ 48⟩

def messageIDString (id : MessageID) : Bytes := (groupsOf id.val).text

def hexFrom : Nat → Bytes → Option Nat
  | prior, [] => some prior
  | prior, byte :: rest => (hexValue? byte).bind (fun digit => hexFrom (prior * 16 + digit) rest)

def hexNumber (count : Nat) (input : Bytes) : Option (Nat × Bytes) :=
  if count ≤ input.length then
    (hexFrom 0 (input.take count)).map (fun value => (value, input.drop count))
  else none

def parseGroups (value : Bytes) : Option Groups := do
  let (first, value) ← hexNumber 8 value
  let value ← mark 0x2d value
  let (second, value) ← hexNumber 4 value
  let value ← mark 0x2d value
  let (third, value) ← hexNumber 4 value
  let value ← mark 0x2d value
  let (fourth, value) ← hexNumber 4 value
  let value ← mark 0x2d value
  let (fifth, value) ← hexNumber 12 value
  if value = [] then return ⟨first, second, third, fourth, fifth⟩ else none

/-- `uuid.Parse` on a text of five groups, 128 bits in all. -/
def uuidParse (value : Bytes) : Option MessageID :=
  (parseGroups value).map (fun groups => Fin.ofNat (2 ^ 128) groups.number)

/-- `ParseMessageID`: only the canonical text is accepted. -/
def parseMessageID (value : Bytes) : Option MessageID := do
  let id ← uuidParse value
  if messageIDString id = value then return id else none

theorem hexFrom_append (prior : Nat) (left right : Bytes) :
    hexFrom prior (left ++ right) = (hexFrom prior left).bind
      (fun value => hexFrom value right) := by
  induction left generalizing prior with
  | nil => rfl
  | cons byte left ih => simp [hexFrom, ih, Option.bind_assoc]

variable (id : MessageID) (number width value : Nat)

theorem hexPadded_length : (hexPadded width value).length = width := by
  induction width generalizing value with
  | zero => rfl
  | succ width ih => simp [hexPadded, ih]

theorem hexFrom_padded (prior value : Nat) (fits : value < 16 ^ width) :
    hexFrom prior (hexPadded width value) = some (prior * 16 ^ width + value) := by
  induction width generalizing value with
  | zero =>
    rw [Nat.pow_zero, Nat.lt_one_iff] at fits
    simp [hexPadded, hexFrom, fits]
  | succ width ih =>
    have smaller : value / 16 < 16 ^ width := by
      rw [Nat.pow_succ] at fits
      omega
    rw [hexPadded, hexFrom_append, ih (value / 16) smaller, Option.bind_some]
    simp only [hexFrom, hexValue?_hexByte (value % 16) (Nat.mod_lt _ (by decide)), Option.bind_some]
    rw [Nat.pow_succ, ← Nat.mul_assoc]
    congr 1
    omega

theorem hexNumber_padded (rest : Bytes) (fits : value < 16 ^ width) :
    hexNumber width (hexPadded width value ++ rest) = some (value, rest) := by
  have length := hexPadded_length width value
  have enough : width ≤ (hexPadded width value ++ rest).length := by
    rw [List.length_append, length]
    exact Nat.le_add_right width _
  rw [hexNumber, if_pos enough, List.take_left' length, List.drop_left' length,
    hexFrom_padded width 0 value fits, Nat.zero_mul, Nat.zero_add, Option.map_some]

theorem parseGroups_text (groups : Groups) (first : groups.first < 16 ^ 8)
    (second : groups.second < 16 ^ 4) (third : groups.third < 16 ^ 4)
    (fourth : groups.fourth < 16 ^ 4)
    (fifth : groups.fifth < 16 ^ 12) : parseGroups groups.text = some groups := by
  have last := hexNumber_padded 12 groups.fifth [] fifth
  rw [List.append_nil] at last
  simp only [Groups.text, parseGroups, hexNumber_padded 8 groups.first _ first,
    hexNumber_padded 4 groups.second _ second, hexNumber_padded 4 groups.third _ third,
    hexNumber_padded 4 groups.fourth _ fourth, last, mark_cons, Option.bind_eq_bind,
    Option.bind_some, if_true, Option.pure_def]

theorem groupsOf_number : (groupsOf number).number = number := by
  simp only [groupsOf, Groups.number]
  omega

theorem parseGroups_groupsOf (small : number < 2 ^ 128) :
    parseGroups (groupsOf number).text = some (groupsOf number) := by
  apply parseGroups_text <;> simp only [groupsOf] <;> omega

theorem parseMessageID_string : parseMessageID (messageIDString id) = some id := by
  have parsed : uuidParse (messageIDString id) = some id := by
    rw [uuidParse, messageIDString, parseGroups_groupsOf id.val id.isLt,
      Option.map_some, groupsOf_number]
    exact congrArg some (Fin.ext (Nat.mod_eq_of_lt id.isLt))
  rw [parseMessageID, parsed, Option.bind_eq_bind, Option.bind_some, if_pos rfl, Option.pure_def]

theorem hexByte_simple : ∀ value < 16, simpleByte (hexByte value) = true := by decide

theorem hexPadded_simple : (hexPadded width value).all simpleByte = true := by
  induction width generalizing value with
  | zero => rfl
  | succ width ih => simp [hexPadded, ih, hexByte_simple (value % 16) (Nat.mod_lt _ (by decide))]

theorem messageIDString_simple : (messageIDString id).all simpleByte = true := by
  have dash : simpleByte 0x2d = true := by decide
  simp [messageIDString, Groups.text, hexPadded_simple, dash]

end MessageID

def unicodeSpaces : List Char :=
  ['\t', '\n', '\u000b', '\u000c', '\r', ' ', '\u0085', '\u00a0', '\u1680', '\u2000', '\u2001',
    '\u2002', '\u2003', '\u2004', '\u2005', '\u2006', '\u2007', '\u2008', '\u2009', '\u200a',
    '\u2028', '\u2029', '\u202f', '\u205f', '\u3000']

def trimmed (text : Bytes) : Bool :=
  unicodeSpaces.all (fun space => !(encode space).isPrefixOf text &&
    !(encode space).isSuffixOf text)

def hasLineBreak (text : Bytes) : Bool := text.any (fun byte => byte == 0x0d || byte == 0x0a)

def lowerByte (byte : UInt8) : Bool := decide (0x61 ≤ byte) && decide (byte ≤ 0x7a)

def nameByte (byte : UInt8) : Bool := lowerByte byte || Decimal.isDigit byte

def nameMark (byte : UInt8) : Bool := byte == 0x2e || byte == 0x5f || byte == 0x2d

def matchesNameTail : Bytes → Bool
  | [] => true
  | byte :: rest =>
    if nameByte byte then matchesNameTail rest
    else nameMark byte && rest.head?.any nameByte && matchesNameTail rest

def matchesName : Bytes → Bool
  | [] => false
  | byte :: rest => lowerByte byte && matchesNameTail rest

theorem nameBytes_ascii (byte : UInt8) : nameByte byte = true ∨
    nameMark byte = true → byte < 0x80 := by
  revert byte
  apply forall_byte
  decide +kernel

theorem matchesNameTail_ascii {name : Bytes} (tail : matchesNameTail name = true) :
    ∀ byte ∈ name, byte < 0x80 := by
  induction name with
  | nil => intro byte member; cases member
  | cons first rest ih =>
    have split : (nameByte first = true ∨ nameMark first = true) ∧ matchesNameTail rest = true := by
      simp only [matchesNameTail] at tail
      split at tail
      next isName => exact ⟨.inl isName, tail⟩
      next =>
        simp only [Bool.and_eq_true] at tail
        exact ⟨.inr tail.1.1, tail.2⟩
    intro byte member
    rcases List.mem_cons.mp member with rfl | later
    · exact nameBytes_ascii byte split.1
    · exact ih split.2 byte later

theorem valid_of_matchesName {name : Bytes} (matched : matchesName name = true) : Valid name := by
  cases name with
  | nil => exact valid_nil
  | cons byte rest =>
    simp only [matchesName, Bool.and_eq_true] at matched
    have tail : matchesNameTail (byte :: rest) = true := by
      simp [matchesNameTail, nameByte, matched.1, matched.2]
    exact valid_ascii (matchesNameTail_ascii tail)

end Gomessenger.Messenger
