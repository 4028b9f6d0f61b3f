import GroupSignal.Curve.Groups

/-!
# The field of pairing values

The extension of degree twelve over the prime field, as a tower: a cubic extension of the quadratic
one by a cube root `v` of the nonresidue, and a quadratic extension of that by a square root `w` of
`v`.

## Main definitions

* `Sextic`, `Dodecic`: the extensions of degree six and twelve, with their products
-/

namespace GroupSignal

/-- Multiplication by the nonresidue `9 + u`. -/
def Quadratic.twist (x : Quadratic) : Quadratic :=
  let nine (k : Coordinate) : Coordinate :=
    let k2 := k + k
    let k4 := k2 + k2
    k4 + k4 + k
  ⟨nine x.re - x.im, nine x.im + x.re⟩

/-- An element `c0 + c1 * v + c2 * v ^ 2`, where `v ^ 3` is the nonresidue. -/
structure Sextic where
  c0 : Quadratic
  c1 : Quadratic
  c2 : Quadratic
  deriving DecidableEq

namespace Sextic

instance : Add Sextic where
  add x y := ⟨x.c0 + y.c0, x.c1 + y.c1, x.c2 + y.c2⟩

instance : Sub Sextic where
  sub x y := ⟨x.c0 - y.c0, x.c1 - y.c1, x.c2 - y.c2⟩

instance : Mul Sextic where
  mul x y :=
    let p0 := x.c0 * y.c0
    let p1 := x.c1 * y.c1
    let p2 := x.c2 * y.c2
    ⟨p0 + ((x.c1 + x.c2) * (y.c1 + y.c2) - p1 - p2).twist,
      (x.c0 + x.c1) * (y.c0 + y.c1) - p0 - p1 + p2.twist,
      (x.c0 + x.c2) * (y.c0 + y.c2) - p0 - p2 + p1⟩

/-- Multiplication by `v`. -/
def shift (x : Sextic) : Sextic := ⟨x.c2.twist, x.c0, x.c1⟩

end Sextic

/-- An element `c0 + c1 * w`, where `w ^ 2 = v`. -/
structure Dodecic where
  c0 : Sextic
  c1 : Sextic
  deriving DecidableEq

namespace Dodecic

/-- One. -/
def one : Dodecic := ⟨⟨1, 0, 0⟩, ⟨0, 0, 0⟩⟩

instance : Mul Dodecic where
  mul x y :=
    let p0 := x.c0 * y.c0
    let p1 := x.c1 * y.c1
    ⟨p0 + p1.shift, (x.c0 + x.c1) * (y.c0 + y.c1) - p0 - p1⟩

instance : Pow Dodecic Nat where
  pow x n := power (· * ·) one x n

end Dodecic

end GroupSignal
