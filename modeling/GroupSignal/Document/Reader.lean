import GroupSignal.Document.Basic
import GroupSignal.Numeral
import GroupSignal.ValueError

/-!
# Reading values from documents

A reader takes the events of one value off the front of a list. The two forms differ in what they
take for a value: JSON has texts where CBOR has byte strings, JSON wants the closing bracket of a
tuple where CBOR leaves what it did not ask for to the next reader, and only CBOR has marks.

Two kinds of values travel in hexadecimal. Byte strings are texts behind `0x` in JSON and plain in
CBOR. Integers of 64 bits are texts in both: the canonical numeral is written, and any numeral below
the limit is read, with or without `0x`.

## Main definitions

* `ReadError`: why a document denotes no value
* `Reader`: a function that takes a value off a list of events
* `Reader.text`, `Reader.natural`, `Reader.byteString`, `Reader.tuple`, `Reader.list`,
  `Reader.variant`: readers of the parts of documents
* `Reader.ignored`: passes over an item
* `Reader.hexBytes`, `Reader.hexInteger`: byte strings and integers in hexadecimal
* `Reader.runJson`, `Reader.runCbor`: a value from a whole text or from the front of bytes
-/

namespace GroupSignal

/-- Why a document denotes no value. -/
inductive ReadError where
  /-- The syntax is broken, or something else stands where a part of the value should. -/
  | malformed
  | missingField (name : String)
  | duplicateField (name : String)
  /-- A part denotes no value of its type. -/
  | value (cause : ValueError)
  | missingHexPrefix
  /-- A byte string is not in hexadecimal behind `0x`. -/
  | invalidHexBytes (cause : Hex.DecodeError)
  /-- A hexadecimal integer is not a numeral that fits 64 bits. -/
  | invalidHexInteger (cause : Numeral.IntegerError)
  /-- A scalar does not have 32 bytes. -/
  | wrongByteCount
  deriving DecidableEq, Repr

/-- The wording of a refusal. That a document is malformed has none. -/
def ReadError.message? : ReadError → Option String
  | .malformed => none
  | .missingField name => some ("missing field `" ++ name ++ "`")
  | .duplicateField name => some ("duplicate field `" ++ name ++ "`")
  | .value cause => some cause.message
  | .missingHexPrefix => some "expected 0x prefix"
  | .invalidHexBytes cause => some ("invalid hex bytes: " ++ cause.message)
  | .invalidHexInteger cause => some ("invalid hex u64: " ++ cause.message)
  | .wrongByteCount => some "expected 32 bytes"

/-- A reader takes the events of a value off the front of a list. -/
abbrev Reader (α : Type) := StateT (List Event) (Except ReadError) α

namespace Reader

variable {α σ ε : Type}

/-- Reports that no value can be read. -/
def fail (e : ReadError) : Reader α := throw e

/-- The value of a conversion that may refuse. -/
def ofExcept (cause : ε → ReadError) : Except ε α → Reader α
  | .ok a => return a
  | .error e => fail (cause e)

/-- The next event. -/
def event : Reader Event := fun
  | [] => .error .malformed
  | e :: rest => .ok (e, rest)

/-- The list behind the marks at its front. -/
def dropMarks : List Event → List Event
  | .tag _ :: rest => dropMarks rest
  | .unwieldy :: rest => dropMarks rest
  | es => es

/-- The next event behind marks. -/
def item : Reader Event := do
  modify dropMarks
  event

/-! ## Leaves -/

/-- A text. -/
def text : Reader String := do
  match ← item with
  | .text s => return s
  | _ => fail .malformed

/-- The number that marked bytes write, if it fits 64 bits: at most eight bytes without the zeros in
front of them. -/
def wideNatural (b : Bytes) (rest : List Event) : Except ReadError (UInt64 × List Event) :=
  let digits : Bytes := b.dropWhile (· = 0)
  if digits.length ≤ 8 then .ok (UInt64.ofNat digits.toNat, rest) else .error .malformed

/-- A number of 64 bits: plain, or as bytes behind the mark 2. Mark 3 makes bytes negative, and
other marks mean nothing. -/
def naturalFrom : List Event → Except ReadError (UInt64 × List Event)
  | .natural n :: rest => .ok (n, rest)
  | .tag 2 :: .unwieldy :: .bytes b :: rest => wideNatural b rest
  | .tag 2 :: .bytes b :: rest => wideNatural b rest
  | .tag 2 :: _ => .error .malformed
  | .tag 3 :: _ => .error .malformed
  | .tag _ :: rest => naturalFrom rest
  | _ => .error .malformed

/-- A number of 64 bits. -/
def natural : Reader UInt64 := fun es => naturalFrom es

/-! ## Brackets -/

/-- Takes `n` steps. -/
def repeatCounted (step : σ → Reader σ) : (n : Nat) → σ → Reader σ
  | 0, s => return s
  | n + 1, s => do repeatCounted step n (← step s)

/-- Takes steps up to a closing bracket, at most one for each of the events that are left. -/
def repeatClosed (step : σ → Reader σ) : (left : List Event) → σ → Reader σ
  | [], _ => fail .malformed
  | _ :: left, s => do
    match ← get with
    | .close :: rest =>
      set rest
      return s
    | _ => repeatClosed step left (← step s)

/-- Takes a step for every thing between brackets that have just opened. -/
def within (step : σ → Reader σ) (s : σ) : (count : Option Nat) → Reader σ
  | some n => repeatCounted step n s
  | none => do repeatClosed step (← get) s

/-- Takes the closing bracket. -/
def close : Reader Unit := do
  match ← event with
  | .close => return ()
  | _ => fail .malformed

/-- The items of a sequence that has just begun. -/
def items (one : Reader α) (count : Option Nat) : Reader (List α) := do
  let reversed ← within (fun found => return (← one) :: found) [] count
  return reversed.reverse

/-- A sequence of any length. In CBOR an empty byte string is an empty sequence. -/
def list (one : Reader α) : Reader (List α) := do
  match ← item with
  | .openSeq count => items one count
  | .bytes [] => return []
  | _ => fail .malformed

/-- A sequence of exactly `size` items, read one after the other. What CBOR has beyond them is left
to the next reader. -/
def tuple (fmt : Format) (size : Nat) (body : Reader α) : Reader α := do
  match ← item with
  | .openSeq count =>
    if count.any (· < size) then fail .malformed
    else
      let a ← body
      if fmt = .json then close
      return a
  | _ => fail .malformed

/-- A byte, as an item of a sequence of numbers. -/
def byte : Reader UInt8 := do
  let n ← natural
  if n < 256 then return n.toUInt8 else fail .malformed

/-- A byte string, or a sequence of numbers below 256. -/
def byteString : Reader Bytes := do
  match ← item with
  | .bytes b => return b
  | .openSeq count => items byte count
  | _ => fail .malformed

/-! ## Keys and variants -/

/-- The list behind the tags at its front. -/
def dropTags : List Event → List Event
  | .tag _ :: rest => dropTags rest
  | es => es

/-- A key: a text, or a byte string that holds one. A byte string that holds none is the key of
nothing. -/
def key : Reader String := do
  modify dropTags
  match ← event with
  | .text s => return s
  | .bytes b => return (Bytes.toText? b).getD ""
  | _ => fail .malformed

/-- One of several variants, each with one value: a record of one member, whose key chooses the
reader. CBOR also takes the key and the value without brackets. -/
def variant (fmt : Format) (choose : String → Option (Reader α)) : Reader α := do
  let chosen : Reader α := do
    match choose (← key) with
    | some value => value
    | none => fail .malformed
  match fmt with
  | .json =>
    match ← event with
    | .openRecord _ =>
      let a ← chosen
      close
      return a
    | _ => fail .malformed
  | .cbor =>
    modify dropTags
    match ← get with
    | .openRecord (some 1) :: rest =>
      set rest
      chosen
    | .text _ :: _ => chosen
    | _ => fail .malformed

/-! ## Passing over an item -/

/-- The most brackets and marks of an item that may stand in each other, with the record around them
among them. -/
def nestingLimit : Format → Option Nat
  | .json => none
  | .cbor => some 256

/-- What is still to come in brackets that are open. -/
inductive Pending where
  /-- This many items, the last of which ends the brackets. -/
  | items (n : Nat)
  /-- Any number of items and a closing bracket. -/
  | sequence
  /-- Any number of keys with their items and a closing bracket. The next to come may be the item
  of a key. -/
  | members (hasKey : Bool)
  deriving DecidableEq, Repr

/-- What is to come in a sequence that has just begun. -/
def Pending.ofSeq : (count : Option Nat) → Pending
  | some n => items n
  | none => sequence

/-- What is to come in a record that has just begun. -/
def Pending.ofRecord : (count : Option Nat) → Pending
  | some n => items (2 * n)
  | none => members false

/-- The open brackets after an item. When it is the last to come in the innermost ones, they are the
item that comes to an end in the brackets around them. -/
def afterItem : List Pending → List Pending
  | .items (n + 2) :: outer => .items (n + 1) :: outer
  | .items _ :: outer => afterItem outer
  | .sequence :: outer => .sequence :: outer
  | .members hasKey :: outer => .members (!hasKey) :: outer
  | [] => []

/-- Whether one more bracket or mark may stand in those that are open. -/
def hasRoom (fmt : Format) (outer : List Pending) : Bool :=
  (nestingLimit fmt).all (outer.length < ·)

/-- The open brackets after one more opens, if there is room for it. Brackets around nothing are an
item. -/
def opened? (fmt : Format) (inner : Pending) (outer : List Pending) : Option (List Pending) :=
  if hasRoom fmt outer then
    match inner with
    | .items 0 => some (afterItem outer)
    | _ => some (inner :: outer)
  else none

/-- The open brackets after marked bytes. The marks 2 and 3 make at most 16 bytes a number, which is
an item without a mark. Its absolute value has 128 bits, of which mark 3 takes one for the sign. -/
def afterMarkedBytes? (fmt : Format) (mark : Nat) (b : Bytes) (outer : List Pending) :
    Option (List Pending) :=
  let isPassed :=
    if b.length ≤ 16 ∧ mark = 2 then true
    else if b.length ≤ 16 ∧ mark = 3 then b.toNat < UInt64.size * (UInt64.size / 2)
    else hasRoom fmt outer
  if isPassed then some (afterItem outer) else none

/-- The events behind what is to come in the open brackets. -/
def passed? (fmt : Format) : (outer : List Pending) → List Event → Option (List Event)
  | [], es => some es
  | _ :: _, [] => none
  | .sequence :: outer, .close :: rest => passed? fmt (afterItem outer) rest
  | .members false :: outer, .close :: rest => passed? fmt (afterItem outer) rest
  | outer, .openSeq count :: rest => do passed? fmt (← opened? fmt (.ofSeq count) outer) rest
  | outer, .openRecord count :: rest => do passed? fmt (← opened? fmt (.ofRecord count) outer) rest
  | outer, .tag n :: .bytes b :: rest => do passed? fmt (← afterMarkedBytes? fmt n b outer) rest
  | outer, .tag _ :: rest => do passed? fmt (← opened? fmt (.items 1) outer) rest
  | outer, .unwieldy :: rest => passed? fmt outer rest
  | outer, .text _ :: rest => passed? fmt (afterItem outer) rest
  | outer, .bytes _ :: rest => passed? fmt (afterItem outer) rest
  | outer, .natural _ :: rest => passed? fmt (afterItem outer) rest
  | outer, .atom :: rest => passed? fmt (afterItem outer) rest
  | _, _ => none

/-- Passes over one item of a record. -/
def ignored (fmt : Format) : Reader Unit := do
  match passed? fmt [.items 1] (← get) with
  | some rest => set rest
  | none => fail .malformed

/-! ## Whole texts -/

/-- The value of events that it takes up to the last one. -/
def runJson (reader : Reader α) (es : List Event) : Except ReadError α :=
  match reader es with
  | .ok (a, []) => .ok a
  | .ok (_, _ :: _) => .error .malformed
  | .error e => .error e

/-- The value at the front of a list of events. -/
def runCbor (reader : Reader α) (es : List Event) : Except ReadError α :=
  (reader es).map (·.1)

end Reader

/-! ## Values in hexadecimal -/

/-- Reads a byte string. -/
def Reader.hexBytes : Format → Reader Bytes
  | .json => do
    Reader.ofExcept (fun
      | .missingPrefix => ReadError.missingHexPrefix
      | .digits cause => ReadError.invalidHexBytes cause) (Hex.decodePrefixed (← Reader.text))
  | .cbor => Reader.byteString

/-- The document of an integer. -/
def Document.hexInteger (n : UInt64) : Document := .text (Numeral.hex n.toNat)

/-- Reads an integer. -/
def Reader.hexInteger : Reader UInt64 := do
  let digits := Numeral.dropPrefix (← Reader.text).toList
  let n ← Reader.ofExcept ReadError.invalidHexInteger (Numeral.readBounded 16 UInt64.size digits)
  return UInt64.ofNat n

end GroupSignal
