import GroupSignal.Hex

/-!
# Documents

The data model that the two written forms share. A value is written as a `Document`, a tree of
texts, byte strings, numbers, sequences and records. It is read from a list of `Event`s, the leaves
and brackets of a document in the order in which they stand. Reading from events rather than from a
tree makes the first fault in the text the one that is reported, whether it is in the syntax or in
the meaning.

## Main definitions

* `Format`: the two written forms
* `Document`: what is written
* `Event`, `Document.events`: what is read, and the events of a document
-/

namespace GroupSignal

/-- The two written forms of a document. -/
inductive Format where
  /-- Text for people: every leaf is a text or a number. -/
  | json
  /-- Concise bytes, with byte strings as leaves. -/
  | cbor
  deriving DecidableEq, Repr

/-- A document to be written. -/
inductive Document where
  | text (s : String)
  | bytes (b : Bytes)
  | natural (n : UInt64)
  | seq (items : List Document)
  | record (members : List (String × Document))

/-- A step through a document that is being read. -/
inductive Event where
  /-- A text, as an item or as a key. -/
  | text (s : String)
  /-- A byte string, as an item or as a key. -/
  | bytes (b : Bytes)
  | natural (n : UInt64)
  /-- A whole item that no value is read from. -/
  | atom
  /-- A mark on the item that follows. -/
  | tag (number : Nat)
  /-- The string that follows is written in pieces or is very long, so it is no key. -/
  | unwieldy
  /-- A sequence begins, of a known length or up to its `close`. -/
  | openSeq (count : Option Nat)
  /-- A record begins, of a known number of members or up to its `close`. -/
  | openRecord (count : Option Nat)
  /-- The end of a sequence or record that did not begin with a count. -/
  | close
  /-- From here on there is no document. -/
  | broken
  deriving DecidableEq, Repr

namespace Document

/-- The count with which brackets around `n` things open. -/
def counted : Format → Nat → Option Nat
  | .json, _ => none
  | .cbor, n => some n

/-- What stands at the end of brackets. -/
def closing : Format → List Event
  | .json => [.close]
  | .cbor => []

/-- The event of a byte string, which JSON writes as a hexadecimal text. -/
def leaf : Format → Bytes → Event
  | .json, b => .text (Hex.prefixed b)
  | .cbor, b => .bytes b

mutual

/-- The events of a document. -/
def events (fmt : Format) : Document → List Event
  | text s => [.text s]
  | bytes b => [leaf fmt b]
  | natural n => [.natural n]
  | seq items => .openSeq (counted fmt items.length) :: (itemEvents fmt items ++ closing fmt)
  | record members =>
    .openRecord (counted fmt members.length) :: (memberEvents fmt members ++ closing fmt)

/-- The events of the items of a sequence. -/
def itemEvents (fmt : Format) : List Document → List Event
  | [] => []
  | d :: rest => events fmt d ++ itemEvents fmt rest

/-- The events of the members of a record. -/
def memberEvents (fmt : Format) : List (String × Document) → List Event
  | [] => []
  | (name, d) :: rest => .text name :: (events fmt d ++ memberEvents fmt rest)

end

end Document

end GroupSignal
