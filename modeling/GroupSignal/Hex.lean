import GroupSignal.Bytes
import GroupSignal.Text.Quoted

/-!
# Hexadecimal

Byte strings written with two digits a byte. Writing uses lowercase digits; reading takes either
case, and refuses an odd count of digits before it looks at any of them.

## Main definitions

* `Hex.encode`, `Hex.decode`: writing and reading
* `Hex.prefixed`, `Hex.decodePrefixed`: the same behind `0x`
* `Hex.DecodeError`, `Hex.PrefixedError`: why a text is refused
-/

namespace GroupSignal.Hex

/-- Why a text is not the hexadecimal form of a byte string. -/
inductive DecodeError where
  /-- The digits do not pair up. -/
  | oddLength
  /-- The byte at this position is not a digit. -/
  | invalidCharacter (byte : UInt8) (position : Nat)
  deriving DecidableEq, Repr

/-- The wording of a refusal. The offending byte is shown as the character of its number. -/
def DecodeError.message : DecodeError → String
  | .oddLength => "Odd number of digits"
  | .invalidCharacter byte position =>
    "Invalid character " ++ Text.quoteChar (Char.ofNat byte.toNat) ++ " at position " ++
      toString position

/-- The value of an ASCII digit in base 16, in either case. -/
def nibble? (c : UInt8) : Option UInt8 :=
  if 48 ≤ c ∧ c ≤ 57 then some (c - 48)
  else if 97 ≤ c ∧ c ≤ 102 then some (c - 87)
  else if 65 ≤ c ∧ c ≤ 70 then some (c - 55)
  else none

/-- The two digits of a byte. -/
def digits (b : UInt8) : List Char :=
  [Nat.digitChar (b.toNat / 16), Nat.digitChar (b.toNat % 16)]

/-- A byte string with two lowercase digits a byte. -/
def encode (b : Bytes) : String := String.ofList (b.flatMap digits)

/-- Reads pairs of digits, the first of which stands at `position`. -/
def decodePairs (position : Nat) : Bytes → Except DecodeError Bytes
  | high :: low :: rest => do
    let h ← (nibble? high).elim (.error (.invalidCharacter high position)) .ok
    let l ← (nibble? low).elim (.error (.invalidCharacter low (position + 1))) .ok
    return (h * 16 + l) :: (← decodePairs (position + 2) rest)
  | [_] => .error .oddLength
  | [] => .ok []

/-- Reads a byte string from its hexadecimal form. -/
def decode (s : String) : Except DecodeError Bytes :=
  let chars := Bytes.ofText s
  if chars.length % 2 = 1 then .error .oddLength else decodePairs 0 chars

/-! ## Behind a prefix -/

/-- Why a text is not the hexadecimal form of a byte string behind `0x`. -/
inductive PrefixedError where
  | missingPrefix
  /-- What stands behind `0x` is refused. -/
  | digits (cause : DecodeError)
  deriving DecidableEq, Repr

/-- The text of a byte string: `0x` and two lowercase digits a byte. -/
def prefixed (b : Bytes) : String := "0x" ++ encode b

/-- Reads a byte string from its hexadecimal form behind `0x`. -/
def decodePrefixed (s : String) : Except PrefixedError Bytes :=
  match s.toList with
  | '0' :: 'x' :: ds => (decode (String.ofList ds)).mapError .digits
  | _ => .error .missingPrefix

end GroupSignal.Hex
