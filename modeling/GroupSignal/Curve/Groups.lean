import GroupSignal.Curve.Point
import GroupSignal.ValueError

/-!
# The two groups of the pairing

The first group is the whole curve `y ^ 2 = x ^ 3 + 3` over the prime field, the second the subgroup
of prime order of its sextic twist over the quadratic extension. Outside the library a point is a
pair of coordinates, and the pair of zeros, which lies on neither curve, stands for the point at
infinity.

## Main definitions

* `Curve.ofCoordinates`: the point of a pair of coordinates, checked
* `G1.curve`, `G2.curve`: the two curves
* `G1.ofCoordinates`, `G2.ofCoordinates`: the points of the two groups
-/

namespace GroupSignal

open CoordinateField in
/-- The point of a pair of coordinates, which must lie on the curve and in the subgroup. What goes
wrong names the group. -/
def Curve.ofCoordinates {F : Type} [CoordinateField F] [DecidableEq F] (C : Curve F)
    (group : CurveGroup) (x y : F) : Except ValueError (Point F) :=
  if isZero x && isZero y then .ok .infinity
  else if !C.contains (.affine x y) then .error (.point (.offCurve group))
  else if !C.hasOrder (.affine x y) then .error (.point (.outsideSubgroup group))
  else .ok (.affine x y)

/-- The nonresidue `9 + u` by which the twist and the tower of extensions are built. -/
def twistConstant : Quadratic := ⟨9, 1⟩

namespace G1

/-- The points of the first group. -/
abbrev Point := GroupSignal.Point Coordinate

/-- The curve of the first group. -/
def curve : Curve Coordinate where
  b := 3
  order := scalarModulus
  generator := .affine 1 2

/-- The point of a pair of coordinates, which must lie on the curve and in the subgroup. -/
def ofCoordinates : Coordinate → Coordinate → Except ValueError Point := curve.ofCoordinates .g1

end G1

namespace G2

/-- The points of the second group. -/
abbrev Point := GroupSignal.Point Quadratic

/-- The curve of the second group. -/
def curve : Curve Quadratic where
  b := ⟨19485874751759354771024239261021720505790618469301721065564631296452457478373,
    266929791119991161246907387137283842545076965332900288569378510910307636690⟩
  order := scalarModulus
  generator := .affine
    ⟨10857046999023057135944570762232829481370756359578518086990519993285655852781,
      11559732032986387107991004021392285783925812861821192530917403151452391805634⟩
    ⟨8495653923123431417604973247489272438418190587263600148770280649306958101930,
      4082367875863433681332203403145435568316851327593401208105741076214120093531⟩

/-- The point of a pair of coordinates, which must lie on the curve and in the subgroup. -/
def ofCoordinates : Quadratic → Quadratic → Except ValueError Point := curve.ofCoordinates .g2

end G2

end GroupSignal
