import GroupSignal.Curve.Field

/-!
# Points of a curve

Curves `y ^ 2 = x ^ 3 + b` in affine coordinates, and the group law on them. Multiples are computed
in Jacobian coordinates, where `(x, y, z)` stands for the point `(x / z ^ 2, y / z ^ 3)` and `z = 0`
for the point at infinity, so that no step divides.

## Main definitions

* `Point`: the point at infinity, or a pair of coordinates that may or may not lie on a curve
* `Point.coordinates`: the pair of coordinates, zeros at infinity
* `Jacobian`: a point without division
* `Point.multiple`, `Point.sum`: the group law
* `Curve`, `Curve.contains`, `Curve.hasOrder`: membership in a curve and in its subgroup
-/

namespace GroupSignal

open CoordinateField

/-- The point at infinity, or a pair of coordinates. -/
inductive Point (F : Type) where
  | infinity
  | affine (x y : F)
  deriving DecidableEq

/-- A point in coordinates that share a denominator. -/
structure Jacobian (F : Type) where
  x : F
  y : F
  z : F

namespace Jacobian

variable {F : Type} [CoordinateField F]

/-- The point at infinity. -/
def infinity : Jacobian F := ⟨one, one, zero⟩

/-- Whether a point is the point at infinity. -/
def isInfinity (p : Jacobian F) : Bool := isZero p.z

/-- Twice a point. -/
def double (p : Jacobian F) : Jacobian F :=
  let a := square p.x
  let b := square p.y
  let c := square b
  let d := CoordinateField.double (square (p.x + b) - a - c)
  let e := a + a + a
  let x := square e - CoordinateField.double d
  ⟨x, e * (d - x) - CoordinateField.double (CoordinateField.double (CoordinateField.double c)),
    CoordinateField.double (p.y * p.z)⟩

/-- The sum of two points. -/
def add (p q : Jacobian F) : Jacobian F :=
  if p.isInfinity then q
  else if q.isInfinity then p
  else
    let pzz := square p.z
    let qzz := square q.z
    let u := p.x * qzz
    let s := p.y * qzz * q.z
    let h := q.x * pzz - u
    let r := q.y * pzz * p.z - s
    if isZero h then
      if isZero r then p.double else infinity
    else
      let hh := square h
      let hhh := hh * h
      let v := u * hh
      let x := square r - hhh - CoordinateField.double v
      ⟨x, r * (v - x) - s * hhh, h * p.z * q.z⟩

/-- A multiple of a point. -/
def multiple (n : Nat) (p : Jacobian F) : Jacobian F := power add infinity p n

/-- The affine form of a point. -/
def toPoint (p : Jacobian F) : Point F :=
  match inverse? p.z with
  | none => .infinity
  | some w =>
    let ww := square w
    .affine (p.x * ww) (p.y * ww * w)

end Jacobian

namespace Point

variable {F : Type} [CoordinateField F]

/-- A point with denominator one. -/
def toJacobian : Point F → Jacobian F
  | infinity => Jacobian.infinity
  | affine x y => ⟨x, y, one⟩

/-- The coordinates of a point, with zeros for the point at infinity. -/
def coordinates : Point F → F × F
  | infinity => (zero, zero)
  | affine x y => (x, y)

/-- The opposite point. -/
def opposite : Point F → Point F
  | infinity => infinity
  | affine x y => affine x (-y)

/-- A multiple of a point. -/
def multiple (n : Nat) (p : Point F) : Point F := (p.toJacobian.multiple n).toPoint

/-- The sum of the multiples of points. -/
def sum (terms : List (Nat × Point F)) : Point F :=
  (terms.foldl (fun s t => s.add (t.2.toJacobian.multiple t.1)) Jacobian.infinity).toPoint

end Point

/-- A curve `y ^ 2 = x ^ 3 + b`, with the prime order of the subgroup that is used and a point that
generates it. -/
structure Curve (F : Type) where
  /-- The constant of the equation. -/
  b : F
  order : Nat
  generator : Point F

namespace Curve

variable {F : Type} [CoordinateField F] [DecidableEq F]

/-- The square of the ordinate that belongs to an abscissa. -/
def ySquared (C : Curve F) (x : F) : F := square x * x + C.b

/-- Whether a point satisfies the equation of the curve. -/
def contains (C : Curve F) : Point F → Bool
  | .infinity => true
  | .affine x y => square y == C.ySquared x

/-- Whether a point is killed by the order of the subgroup. -/
def hasOrder (C : Curve F) (p : Point F) : Bool := (p.toJacobian.multiple C.order).isInfinity

end Curve

end GroupSignal
