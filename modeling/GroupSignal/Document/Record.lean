import GroupSignal.Document.Reader

/-!
# Records with named members

A record type is described once, by the names of its members in order and a reader for each. From
the description come both readings: from a record, whose members may stand in any order among others
that are passed over, and, in JSON, from a sequence of the values in order. A member that is read
twice is refused before its second value is looked at, and what is missing is noticed where the
record ends.

## Main definitions

* `Members`: the description of a record type
* `Members.read`: the reader of a record type
-/

namespace GroupSignal

/-- The members of a record type: names, values for members that may be missing, and readers. -/
inductive Members : List Type → Type 1 where
  | nil : Members []
  | cons {α : Type} {types : List Type} (name : String) (fallback? : Option α) (reader : Reader α)
      (rest : Members types) : Members (α :: types)

namespace Members

/-- A member that must be there. -/
def required {α : Type} {types : List Type} (name : String) (reader : Reader α)
    (rest : Members types) : Members (α :: types) :=
  cons name none reader rest

/-- A member that may be missing. -/
def optional {α : Type} {types : List Type} (name : String) (fallback : α) (reader : Reader α)
    (rest : Members types) : Members (α :: types) :=
  cons name (some fallback) reader rest

/-- The values of all members, in order. -/
def Values : List Type → Type
  | [] => Unit
  | α :: types => α × Values types

/-- The values that have been read so far. -/
def Slots : List Type → Type
  | [] => Unit
  | α :: types => Option α × Slots types

/-- No value has been read. -/
def noSlots : (types : List Type) → Slots types
  | [] => ()
  | _ :: types => (none, noSlots types)

/-- Reads the value of a named member into its slot, if there is such a member. -/
def fill? {types : List Type} (key : String) : Members types → Slots types →
    Option (Reader (Slots types))
  | nil, _ => none
  | cons name _ reader rest, (slot, slots) =>
    if key = name then
      some do
        if slot.isSome then Reader.fail (.duplicateField name)
        return (some (← reader), slots)
    else (rest.fill? key slots).map fun filled => do return (slot, ← filled)

/-- Reads one member of a record, and passes over the value of a key that names none. -/
def step {types : List Type} (members : Members types) (fmt : Format) (slots : Slots types) :
    Reader (Slots types) := do
  match members.fill? (← Reader.key) slots with
  | some filled => filled
  | none =>
    Reader.ignored fmt
    return slots

/-- The values in the slots, with the fallbacks of those that are empty. -/
def collect {types : List Type} : Members types → Slots types → Except ReadError (Values types)
  | nil, _ => .ok ()
  | cons name fallback? _ rest, (slot, slots) =>
    match slot.or fallback? with
    | none => .error (.missingField name)
    | some a => (rest.collect slots).map fun values => (a, values)

/-- Reads the values in order from a sequence that has just begun. Where the sequence ends early,
the fallbacks stand in. -/
def readInOrder {types : List Type} : Members types → Reader (Values types)
  | nil => do
    Reader.close
    return ()
  | cons _ fallback? reader rest => do
    match fallback?, (← get).head? with
    | some a, some .close => return (a, ← rest.readInOrder)
    | _, _ => return (← reader, ← rest.readInOrder)

/-- Reads the members in any order up to the end of a record that has just begun. -/
def readByName {types : List Type} (members : Members types) (fmt : Format) (count : Option Nat) :
    Reader (Values types) := do
  let slots ← Reader.within (members.step fmt) (noSlots types) count
  Reader.ofExcept id (members.collect slots)

/-- Reads a record type. -/
def read {types : List Type} (members : Members types) (fmt : Format) : Reader (Values types) := do
  match fmt, ← Reader.item with
  | _, .openRecord count => members.readByName fmt count
  | .json, .openSeq _ => members.readInOrder
  | _, _ => Reader.fail .malformed

end Members

end GroupSignal
