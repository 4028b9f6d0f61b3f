import GroupSignal.Document.Basic
import GroupSignal.Json.Token

/-!
# The events of a JSON text

Tokens become events as long as brackets, commas and colons stand where they may. The first token
out of place ends the document. Brackets in JSON carry no count, so every one is closed by an event.

## Main definitions

* `Place`: what may come next
* `events`: the events of a JSON text
-/

namespace GroupSignal.Json

/-- What brackets are open around a place. -/
inductive Bracket where
  | seq
  | record
  deriving DecidableEq, Repr

/-- What may come next in a JSON text. -/
inductive Place where
  | item
  /-- An item, or the end of the sequence that has just begun. -/
  | firstItem
  | key
  /-- A key, or the end of the record that has just begun. -/
  | firstKey
  | colon
  /-- A comma or the closing bracket, or the end of the text outside brackets. -/
  | behind
  deriving DecidableEq, Repr

/-- The events of tokens at a place inside brackets, of which the innermost comes first. -/
def arrange : Place → List Bracket → List Token → List Event
  | place, open', [] => if place = .behind ∧ open' = [] then [] else [.broken]
  | .firstItem, .seq :: open', .closeSeq :: rest => .close :: arrange .behind open' rest
  | .firstKey, .record :: open', .closeRecord :: rest => .close :: arrange .behind open' rest
  | .behind, .seq :: open', .closeSeq :: rest => .close :: arrange .behind open' rest
  | .behind, .record :: open', .closeRecord :: rest => .close :: arrange .behind open' rest
  | .behind, .seq :: open', .comma :: rest => arrange .item (.seq :: open') rest
  | .behind, .record :: open', .comma :: rest => arrange .key (.record :: open') rest
  | .behind, _, _ => [.broken]
  | .colon, open', .colon :: rest => arrange .item open' rest
  | .colon, _, _ => [.broken]
  | .key, open', .text s :: rest => .text s :: arrange .colon open' rest
  | .firstKey, open', .text s :: rest => .text s :: arrange .colon open' rest
  | .key, open', .halfText :: rest => .atom :: arrange .colon open' rest
  | .firstKey, open', .halfText :: rest => .atom :: arrange .colon open' rest
  | .key, _, _ => [.broken]
  | .firstKey, _, _ => [.broken]
  | _, open', .text s :: rest => .text s :: arrange .behind open' rest
  | _, open', .natural n :: rest => .natural n :: arrange .behind open' rest
  | _, open', .halfText :: rest => .atom :: arrange .behind open' rest
  | _, open', .atom :: rest => .atom :: arrange .behind open' rest
  | _, open', .openSeq :: rest => .openSeq none :: arrange .firstItem (.seq :: open') rest
  | _, open', .openRecord :: rest => .openRecord none :: arrange .firstKey (.record :: open') rest
  | _, _, _ => [.broken]

/-- The events of a JSON text. -/
def events (s : String) : List Event := arrange .item [] (tokens s)

end GroupSignal.Json
