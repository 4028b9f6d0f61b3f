import GroupSignal.Keccak
import GroupSignal.Numeral
import GroupSignal.Residue
import GroupSignal.ValueError

/-!
# Scalars as text and bytes

A scalar has one text: its canonical hexadecimal numeral. Reading also takes the canonical decimal
numeral, and nothing else, so equal scalars are equal texts up to radix and letter case. As bytes a
scalar is its representative on 32 bytes, most significant first; a byte string of any length can
also be reduced. Signals and topics enter the protocol as scalars: the Keccak-256 digest without its
last byte, which is below the modulus.

## Main definitions

* `Scalar.toText`, `Scalar.ofText`: the text form
* `Scalar.toBytes`, `Scalar.ofBytes`: the 32-byte form
* `Scalar.reduceBytes`, `Scalar.ofHexDigits`: readers that reduce
* `hashToScalar`: the scalar of a signal or a topic
-/

namespace GroupSignal

/-- The count of words of 256 bits. -/
def wordCount : Nat := 1 <<< 256

/-- Reads a canonical numeral that fits 256 bits, with the cause of a refusal in terms of the
text. -/
def readWord (s : String) : Except ValueError Nat :=
  match Numeral.readCanonical s with
  | .error .noDigits => .error (.noDigits s)
  | .error (.invalidDigits radix) => .error (.invalidDigits radix s)
  | .error .leadingZero => .error (.nonCanonical s)
  | .ok n => if n < wordCount then .ok n else .error .notInField

namespace Scalar

/-- The scalar of a number below the modulus. -/
def ofNat (n : Nat) : Except ValueError Scalar :=
  match Residue.ofNat? scalarModulus n with
  | some x => .ok x
  | none => .error .notInField

/-- The text of a scalar: its canonical hexadecimal numeral. -/
def toText (x : Scalar) : String := Numeral.hex x.val

/-- Reads a scalar from its canonical decimal or hexadecimal numeral. -/
def ofText (s : String) : Except ValueError Scalar := do ofNat (← readWord s)

/-- The 32 bytes of a scalar, most significant first. -/
def toBytes (x : Scalar) : Bytes := Bytes.ofNat 32 x.val

/-- The scalar that a byte string writes, which must be below the modulus. -/
def ofBytes (b : Bytes) : Except ValueError Scalar := ofNat b.toNat

/-- The scalar that a byte string of any length writes. It is reduced with every byte that is read,
so the number that the whole string writes is never built. -/
def reduceBytes (b : Bytes) : Scalar :=
  b.foldl (fun x digit => Residue.ofNat scalarModulus (x.val * 256 + digit.toNat)) 0

/-- The inverse of a scalar other than zero. -/
def inverse (x : Scalar) : Except ValueError Scalar :=
  match x.inverse? with
  | some y => .ok y
  | none => .error .divisionByZero

/-- Reads a grouped hexadecimal numeral of any size behind an optional `0x`, and reduces it. -/
def ofHexDigits (s : String) : Except Numeral.IntegerError Scalar :=
  (Numeral.readGrouped 16 (Numeral.dropPrefix s.toList)).map (Residue.ofNat scalarModulus)

end Scalar

/-- The scalar of a byte string: the number that all but the last byte of its digest write. -/
def hashToScalar (b : Bytes) : Scalar :=
  Scalar.reduceBytes (Bytes.ofNat 32 ((keccak256 b).toNat / 256))

end GroupSignal
