import GroupSignal.Pairing.Tower

/-!
# The pairing

The optimal ate pairing of the two groups. A point of the second group is walked to a multiple of
itself by doublings and additions; the line through the two points of each step, evaluated at the
point of the first group, is multiplied into a running product. A final power makes the product
independent of the factors from smaller fields, among them the vertical lines, which are left out.

## Main definitions

* `millerProduct`: the product of the lines of one pair of points
* `finalPower`: the last step
* `pairingProduct`: the product of the pairings of several pairs
* `pairing`: the pairing
-/

namespace GroupSignal

open CoordinateField

/-- The parameter that generates the family of curves. -/
def curveParameter : Nat := 4965661367192848881

/-- The multiple that a point of the second group is walked to. -/
def ateLoop : Nat := 6 * curveParameter + 2

/-- The exponent of the last step. It is a multiple of the cofactor that takes every nonzero element
to a root of unity of the order of the groups. -/
def finalExponent : Nat :=
  (power (· * ·) 1 baseModulus 12 - 1) / scalarModulus *
    (2 * curveParameter * (6 * curveParameter * curveParameter + 3 * curveParameter + 1))

/-- The last step of the pairing. -/
def finalPower (f : Dodecic) : Dodecic := f ^ finalExponent

/-- The slope of the line through two points of the twist: the tangent where they coincide, and none
where it is vertical. -/
def slope? (t q : Quadratic × Quadratic) : Option Quadratic :=
  if t.1 = q.1 then
    if t.2 = q.2 then
      let xx := square t.1
      (inverse? (double t.2)).map (· * (xx + xx + xx))
    else none
  else (inverse? (q.1 - t.1)).map (· * (q.2 - t.2))

/-- The line of slope `m` through the point `t` of the twist, evaluated at `(x, y)`. -/
def line (m : Quadratic) (t : Quadratic × Quadratic) (x y : Coordinate) : Dodecic :=
  ⟨⟨⟨y, 0⟩, 0, 0⟩, ⟨-(m.scale x), m * t.1 - t.2, 0⟩⟩

/-- A point on the way and the product of the lines so far. -/
structure Walk where
  point : Quadratic × Quadratic
  product : Dodecic

/-- Adds a point of the twist to the point on the way, and multiplies in the line through both. A
vertical line is left out. -/
def Walk.add (x y : Coordinate) (walk : Walk) (q : Quadratic × Quadratic) : Walk :=
  match slope? walk.point q with
  | none => walk
  | some m =>
    let x3 := square m - walk.point.1 - q.1
    { point := (x3, m * (walk.point.1 - x3) - walk.point.2)
      product := walk.product * line m walk.point x y }

/-- Walks from `q` to its multiple by the number with these binary digits behind a leading one. -/
def Walk.along (x y : Coordinate) (q : Quadratic × Quadratic) (digits : List Bool) : Walk :=
  digits.foldl (fun walk digit =>
    let walk := { walk with product := walk.product * walk.product }
    let walk := walk.add x y walk.point
    if digit then walk.add x y q else walk) { point := q, product := Dodecic.one }

/-- The binary digits of a number behind the leading one, most significant first. -/
def binaryDigits (n : Nat) : List Bool :=
  ((List.range n.log2).map n.testBit).reverse

/-- The image of a point of the twist under the power `q` of the coordinates, in the twist. -/
def frobenius (q : Quadratic × Quadratic) : Quadratic × Quadratic :=
  (q.1.conj * twistConstant ^ ((baseModulus - 1) / 3),
    q.2.conj * twistConstant ^ ((baseModulus - 1) / 2))

/-- The product of the lines of a pair of points, and one if either is the point at infinity. -/
def millerProduct : G1.Point → G2.Point → Dodecic
  | .affine x y, .affine qx qy =>
    let q := (qx, qy)
    let walk := Walk.along x y q (binaryDigits ateLoop)
    let q1 := frobenius q
    let q2 := frobenius q1
    ((walk.add x y q1).add x y (q2.1, -q2.2)).product
  | _, _ => Dodecic.one

/-- The product of the pairings of several pairs of points. -/
def pairingProduct (pairs : List (G1.Point × G2.Point)) : Dodecic :=
  finalPower (pairs.foldl (fun f pq => f * millerProduct pq.1 pq.2) Dodecic.one)

/-- The pairing. -/
def pairing (p : G1.Point) (q : G2.Point) : Dodecic := pairingProduct [(p, q)]

end GroupSignal
