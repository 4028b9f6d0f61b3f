import GroupSignal.Residue

/-!
# Fields of coordinates

What the arithmetic of points needs of the field that their coordinates come from, and the two such
fields: the prime field, and its quadratic extension by a root of minus one.

The prime field has a characteristic that leaves 3 modulo 4, so a square has its root as a power of
itself, and that root is a square again. In the quadratic extension a root is built from a root of
the norm; which of the two roots of the norm leads to it is a hint that the caller gives. A root
whose first part is zero is not found.

## Main definitions

* `CoordinateField`: ring operations and a partial inverse
* `Quadratic`: the quadratic extension
* `Coordinate.sqrt?`, `Quadratic.sqrt?`: square roots
-/

namespace GroupSignal

/-- A field that coordinates come from. -/
class CoordinateField (F : Type) extends Add F, Sub F, Neg F, Mul F where
  zero : F
  one : F
  /-- The inverse, which zero lacks. -/
  inverse? : F → Option F
  isZero : F → Bool

namespace CoordinateField

variable {F : Type} [CoordinateField F]

/-- The square. -/
def square (x : F) : F := x * x

/-- Twice an element. -/
def double (x : F) : F := x + x

/-- A quotient, and zero when the divisor is zero. -/
def divide (x y : F) : F := ((inverse? y).map (x * ·)).getD zero

end CoordinateField

instance : CoordinateField Coordinate where
  zero := 0
  one := 1
  inverse? := Residue.inverse?
  isZero x := x.val == 0

/-- An element `re + im * u` of the quadratic extension, where `u * u = -1`. -/
@[ext] structure Quadratic where
  /-- The part without `u`. -/
  re : Coordinate
  /-- The part with `u`. -/
  im : Coordinate
  deriving DecidableEq

namespace Quadratic

instance : Add Quadratic where
  add x y := ⟨x.re + y.re, x.im + y.im⟩

instance : Sub Quadratic where
  sub x y := ⟨x.re - y.re, x.im - y.im⟩

instance : Neg Quadratic where
  neg x := ⟨-x.re, -x.im⟩

instance : Mul Quadratic where
  mul x y :=
    let re := x.re * y.re
    let im := x.im * y.im
    ⟨re - im, (x.re + x.im) * (y.re + y.im) - re - im⟩

instance (n : Nat) : OfNat Quadratic n where
  ofNat := ⟨Residue.ofNat baseModulus n, 0⟩

/-- The conjugate. -/
def conj (x : Quadratic) : Quadratic := ⟨x.re, -x.im⟩

/-- The norm: the product with the conjugate. -/
def norm (x : Quadratic) : Coordinate := x.re * x.re + x.im * x.im

/-- Multiplication by an element of the prime field. -/
def scale (k : Coordinate) (x : Quadratic) : Quadratic := ⟨k * x.re, k * x.im⟩

/-- The inverse: the conjugate divided by the norm. Zero has none. -/
def inverse? (x : Quadratic) : Option Quadratic := x.norm.inverse?.map fun k => x.conj.scale k

instance : CoordinateField Quadratic where
  zero := 0
  one := 1
  inverse? := inverse?
  isZero x := x.re.val == 0 && x.im.val == 0

instance : Pow Quadratic Nat where
  pow x n := power (· * ·) 1 x n

end Quadratic

/-! ## Square roots -/

/-- The square root that is itself a square, if there is one. -/
def Coordinate.sqrt? (a : Coordinate) : Option Coordinate :=
  let root := a ^ ((baseModulus + 1) / 4)
  if root.square = a then some root else none

/-- The inverse of two. -/
def Coordinate.half : Coordinate := Residue.ofNat baseModulus ((baseModulus + 1) / 2)

namespace Quadratic

/-- The square of the first part of a root, by the root of the norm that is chosen. -/
def firstPartSquared (a : Quadratic) (normRoot : Coordinate) (hint : Bool) : Coordinate :=
  (a.re + (if hint then -normRoot else normRoot)) * Coordinate.half

/-- The square root with a first part other than zero that the hint leads to, if there is one. -/
def sqrt? (a : Quadratic) (hint : Bool) : Option Quadratic := do
  let normRoot ← Coordinate.sqrt? a.norm
  let re ← Coordinate.sqrt? (a.firstPartSquared normRoot hint)
  let im := a.im * (← (re + re).inverse?)
  let root : Quadratic := ⟨re, im⟩
  if root * root = a then some root else none

end Quadratic

end GroupSignal
