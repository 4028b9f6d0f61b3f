import GroupSignal.Curve.Groups
import GroupSignal.Field.Scalar

/-!
# Proofs

A proof is three points, the outer two from the first group and the middle one from the second.
Outside the library it is its eight coordinates in a fixed order, in which the part of a coordinate
of the second group with `u` comes first, and the point at infinity is zeros. However the
coordinates are spelled, they are read in one order: point by point, and within a coordinate of the
second group the part without `u` first.

## Main definitions

* `Proof`: the three points
* `Proof.coordinates`: the eight coordinates
* `Proof.ofCoordinates`: the proof of eight spelled coordinates, checked
* `Proof.byPoint`: eight things grouped like the coordinates
-/

namespace GroupSignal

namespace Coordinate

/-- The coordinate of a number, which must be below the modulus. -/
def ofNat (n : Nat) : Except ValueError Coordinate :=
  match Residue.ofNat? baseModulus n with
  | some x => .ok x
  | none => .error (.point .coordinateTooLarge)

/-- The text of a coordinate: its canonical hexadecimal numeral. -/
def toText (x : Coordinate) : String := Numeral.hex x.val

/-- Reads a coordinate from its canonical decimal or hexadecimal numeral. -/
def ofText (s : String) : Except ValueError Coordinate := do ofNat (← readWord s)

end Coordinate

namespace Groth16

/-- A proof. -/
structure Proof where
  a : G1.Point
  b : G2.Point
  c : G1.Point
  deriving DecidableEq

namespace Proof

/-- The eight coordinates, in the order in which they are written. -/
def coordinates (proof : Proof) : Vector Coordinate 8 :=
  let (ax, ay) := proof.a.coordinates
  let (bx, by') := proof.b.coordinates
  let (cx, cy) := proof.c.coordinates
  #v[ax, ay, bx.im, bx.re, by'.im, by'.re, cx, cy]

/-- The proof of eight coordinates. Each point is checked before the next one is read. -/
def ofCoordinates {α : Type} (read : α → Except ValueError Coordinate) (v : Vector α 8) :
    Except ValueError Proof := do
  let a ← G1.ofCoordinates (← read v[0]) (← read v[1])
  let b ← G2.ofCoordinates ⟨← read v[3], ← read v[2]⟩ ⟨← read v[5], ← read v[4]⟩
  let c ← G1.ofCoordinates (← read v[6]) (← read v[7])
  return { a, b, c }

/-- Eight things grouped by point, and in the second group by coordinate. -/
def byPoint {α : Type} (v : Vector α 8) : (α × α) × ((α × α) × (α × α)) × (α × α) :=
  ((v[0], v[1]), ((v[2], v[3]), (v[4], v[5])), (v[6], v[7]))

/-- The texts of the coordinates. -/
def texts (proof : Proof) : Vector String 8 := proof.coordinates.map Coordinate.toText

/-- The proof of the texts of its coordinates. -/
def ofTexts (v : Vector String 8) : Except ValueError Proof := ofCoordinates Coordinate.ofText v

end Proof

end Groth16

end GroupSignal
