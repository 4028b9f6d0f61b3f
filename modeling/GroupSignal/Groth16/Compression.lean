import GroupSignal.Curve.Field
import GroupSignal.Groth16.Encoding

/-!
# Compressed proofs

A compressed proof keeps the abscissas only. Beside an abscissa stands a sign, which tells the two
square roots apart, and in the second group also the hint that finds them. Zero words stand for the
point at infinity.

A point whose root is not found has no compressed form. In the second group these are the points
whose ordinate has no part without `u`.

## Main definitions

* `Proof.compress`, `EncodedProof.decompress`: the two directions
-/

namespace GroupSignal

/-- The bit of a sign at the low end of a word. -/
def signBit (sign : Bool) : Groth16.Word := if sign then 1 else 0

namespace G1

/-- The word of a point, if it has one. -/
def compress? : Point → Option Groth16.Word
  | .infinity => some 0
  | .affine x y => do
    let root ← Coordinate.sqrt? (curve.ySquared x)
    if y = root then some (x.toWord <<< 1)
    else if y = -root then some (x.toWord <<< 1 ||| signBit true)
    else none

/-- The point of a word. -/
def decompress (w : Groth16.Word) : Except ValueError Point :=
  if w = 0 then .ok .infinity
  else do
    let x ← Coordinate.ofWord (w >>> 1)
    match Coordinate.sqrt? (curve.ySquared x) with
    | none => .error (.point (.offCurveCompressed .g1))
    | some root => ofCoordinates x (if w.getLsbD 0 then -root else root)

end G1

namespace G2

/-- Whether the second root of the norm leads to the root. -/
def hintOf (ySquared : Quadratic) (normRoot : Coordinate) : Bool :=
  (Coordinate.sqrt? (ySquared.firstPartSquared normRoot false)).isNone

/-- The two words of a point, if it has them. -/
def compress? : Point → Option (Groth16.Word × Groth16.Word)
  | .infinity => some (0, 0)
  | .affine x y => do
    let ySquared := curve.ySquared x
    let normRoot ← Coordinate.sqrt? ySquared.norm
    let hint := hintOf ySquared normRoot
    let root ← ySquared.sqrt? hint
    let head := x.re.toWord <<< 2 ||| (signBit hint <<< 1)
    if y = root then some (head, x.im.toWord)
    else if y = -root then some (head ||| signBit true, x.im.toWord)
    else none

/-- The point of two words. -/
def decompress (head tail : Groth16.Word) : Except ValueError Point :=
  if head = 0 ∧ tail = 0 then .ok .infinity
  else do
    let x : Quadratic := ⟨← Coordinate.ofWord (head >>> 2), ← Coordinate.ofWord tail⟩
    match (curve.ySquared x).sqrt? (head.getLsbD 1) with
    | none => .error (.point (.offCurveCompressed .g2))
    | some root => ofCoordinates x (if head.getLsbD 0 then -root else root)

end G2

namespace Groth16

/-- The compressed form of four words. -/
def EncodedProof.ofWords (a head tail c : Word) : EncodedProof .compressed := ⟨#v[a, head, tail, c]⟩

/-- The words of a proof, if all its points have theirs. -/
def Proof.compress? (proof : Proof) : Option (EncodedProof .compressed) := do
  let a ← G1.compress? proof.a
  let (head, tail) ← G2.compress? proof.b
  let c ← G1.compress? proof.c
  return .ofWords a head tail c

/-- The compressed form of a proof. -/
def Proof.compress (proof : Proof) : Except ValueError (EncodedProof .compressed) :=
  match proof.compress? with
  | some compressed => .ok compressed
  | none => .error (.point .incompressible)

/-- The proof of a compressed form. -/
def EncodedProof.decompress (compressed : EncodedProof .compressed) : Except ValueError Proof := do
  let v : Vector Word 4 := compressed.words
  let a ← G1.decompress v[0]
  let b ← G2.decompress v[1] v[2]
  let c ← G1.decompress v[3]
  return { a, b, c }

end Groth16

end GroupSignal
