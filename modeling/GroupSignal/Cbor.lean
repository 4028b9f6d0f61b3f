import GroupSignal.Document.Basic

/-!
# CBOR

The concise binary form of a document. Every item begins with a head: three bits for its kind and an
argument on as few bytes as it needs, which is the number itself, the length of a string, or the
count of things between brackets. Written documents carry every count. Read ones may also leave a
count open and mark the end, write strings in pieces, and put marks on items.

## Main definitions

* `encode`: the bytes of a document
* `events`: the events of bytes
-/

namespace GroupSignal.Cbor

/-! ## Heads -/

/-- The eight kinds of items. -/
inductive Kind where
  | natural
  | negative
  | bytes
  | text
  | seq
  | record
  | tag
  | simple
  deriving DecidableEq, Repr

namespace Kind

/-- The number of a kind. -/
def number : Kind → Nat
  | natural => 0
  | negative => 1
  | bytes => 2
  | text => 3
  | seq => 4
  | record => 5
  | tag => 6
  | simple => 7

/-- The kind of a number. -/
def ofNumber : Nat → Kind
  | 0 => natural
  | 1 => negative
  | 2 => bytes
  | 3 => text
  | 4 => seq
  | 5 => record
  | 6 => tag
  | _ => simple

end Kind

/-- The head of a kind with an argument on as few bytes as possible. -/
def head (kind : Kind) (n : Nat) : Bytes :=
  let first (low : Nat) : UInt8 := UInt8.ofNat (kind.number * 32 + low)
  if n < 24 then [first n]
  else if n < UInt8.size then first 24 :: Bytes.ofNat 1 n
  else if n < UInt16.size then first 25 :: Bytes.ofNat 2 n
  else if n < UInt32.size then first 26 :: Bytes.ofNat 4 n
  else first 27 :: Bytes.ofNat 8 n

/-! ## Writing -/

mutual

/-- The bytes of a document. -/
def encode : Document → Bytes
  | .text s => head .text (Bytes.ofText s).length ++ Bytes.ofText s
  | .bytes b => head .bytes b.length ++ b
  | .natural n => head .natural n.toNat
  | .seq items => head .seq items.length ++ encodeItems items
  | .record members => head .record members.length ++ encodeMembers members

/-- The bytes of the items of a sequence. -/
def encodeItems : List Document → Bytes
  | [] => []
  | d :: rest => encode d ++ encodeItems rest

/-- The bytes of the members of a record. -/
def encodeMembers : List (String × Document) → Bytes
  | [] => []
  | (name, d) :: rest =>
    head .text (Bytes.ofText name).length ++ Bytes.ofText name ++ (encode d ++ encodeMembers rest)

end

/-! ## Reading -/

/-- The head of an item as it is read. The low bits say how the argument is written. -/
structure Head where
  kind : Kind
  /-- The low bits of the first byte. -/
  low : Nat
  /-- The argument, which a head without count lacks. -/
  argument : Option Nat

/-- Reads a number of bytes. What stands behind them is not looked at. -/
def splitExactly? (n : Nat) (b : Bytes) : Option (Bytes × Bytes) :=
  let front := b.take n
  if front.length = n then some (front, b.drop n) else none

/-- Reads a number on a fixed count of bytes. -/
def number? (size : Nat) (b : Bytes) : Option (Option Nat × Bytes) :=
  (splitExactly? size b).map fun (word, rest) => (some word.toNat, rest)

/-- Reads the argument that the low bits of a first byte announce. -/
def argument? (low : Nat) (b : Bytes) : Option (Option Nat × Bytes) :=
  if low < 24 then some (some low, b)
  else if low = 24 then number? 1 b
  else if low = 25 then number? 2 b
  else if low = 26 then number? 4 b
  else if low = 27 then number? 8 b
  else if low = 31 then some (none, b)
  else none

/-- Reads a head. -/
def head? : Bytes → Option (Head × Bytes)
  | [] => none
  | first :: rest =>
    let low := first.toNat % 32
    (argument? low rest).map fun (argument, rest) =>
      ({ kind := Kind.ofNumber (first.toNat / 32), low, argument }, rest)

/-- Whether a head marks the end of something that began without a count. -/
def Head.isBreak (h : Head) : Bool := h.kind = .simple && h.argument = none

/-- Reads the pieces of a string up to the mark at their end, from at most `room` heads. A piece may
be in pieces again, which is so `depth` times where the reading begins. -/
def pieces? (kind : Kind) : (room depth : Nat) → Bytes → Option (List Bytes × Bytes)
  | 0, _, _ => none
  | room + 1, depth, b => do
    let (h, rest) ← head? b
    if h.isBreak then
      match depth with
      | 0 => return ([], rest)
      | depth + 1 => pieces? kind room depth rest
    else if h.kind = kind then
      match h.argument with
      | none => pieces? kind room (depth + 1) rest
      | some n =>
        let (piece, rest) ← splitExactly? n rest
        let (pieces, rest) ← pieces? kind room depth rest
        return (piece :: pieces, rest)
    else none

/-- The length of the longest string that can be a key. -/
def longestKey : Nat := 4096

/-- Reads the pieces of the string that a head announces, with a mark when it cannot be a key. At
most `room` heads are read. -/
def string? (room : Nat) (h : Head) (b : Bytes) : Option (List Event × List Bytes × Bytes) :=
  match h.argument with
  | some n => do
    let (s, rest) ← splitExactly? n b
    return (if n ≤ longestKey then [] else [.unwieldy], [s], rest)
  | none => do
    let (pieces, rest) ← pieces? h.kind room 0 b
    return ([.unwieldy], pieces, rest)

/-- Whether a simple head is a fractional number, as its low bits say, or one of the known values:
the two truth values and the two nulls. -/
def Head.isKnownSimple (h : Head) : Bool :=
  h.argument.any fun n => (25 ≤ h.low && h.low ≤ 27) || (20 ≤ n && n ≤ 23)

/-- Reads the events of one head and of the string that it announces, which has at most `room`
heads. -/
def item? (room : Nat) (b : Bytes) : Option (List Event × Bytes) := do
  let (h, rest) ← head? b
  match h.kind with
  | .natural => return ([.natural (UInt64.ofNat (← h.argument))], rest)
  | .negative =>
    let _ ← h.argument
    return ([.atom], rest)
  | .bytes =>
    let (mark, pieces, rest) ← string? room h rest
    return (mark ++ [.bytes pieces.flatten], rest)
  | .text =>
    let (mark, pieces, rest) ← string? room h rest
    return (mark ++ [.text (String.join (← pieces.mapM Bytes.toText?))], rest)
  | .seq => return ([.openSeq h.argument], rest)
  | .record => return ([.openRecord h.argument], rest)
  | .tag => return ([.tag (← h.argument)], rest)
  | .simple =>
    if h.isBreak then return ([.close], rest)
    else if h.isKnownSimple then return ([.atom], rest)
    else none

/-- Reads events, at most as many heads as there are bytes. -/
def eventsFrom : (room : Nat) → Bytes → List Event
  | _, [] => []
  | 0, _ => [.broken]
  | room + 1, b =>
    match item? room b with
    | none => [.broken]
    | some (es, rest) => es ++ eventsFrom room rest

/-- The events of bytes. -/
def events (b : Bytes) : List Event := eventsFrom b.length b

end GroupSignal.Cbor
