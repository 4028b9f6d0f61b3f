import GroupSignal.Field.Scalar
import GroupSignal.Groth16.VerifyingKey
import GroupSignal.Signal.Proof

/-!
# Rehearsals

A proof system for trying the protocol without the circuit. Its circuit does not look at the group:
it has the public values of the real one, and asks that the sum of the last two times the identity
nullifier be a further private value, which binds a proof to every public value. The secrets of its
key come from a seed and stay with the prover, so its proofs convince nobody who did not see the
setup. Its keys and proofs are judged by the same equation as all others.

Around it stand provers that go wrong in the ways that the protocol has to notice.

## Main definitions

* `Rehearsal`, `Rehearsal.setup`: the secrets of a key, and those of a seed
* `Rehearsal.key`, `Rehearsal.prover`: the key and the prover
* `Prover.constant`, `Prover.failing`, `Prover.withValues`: provers for trials
-/

namespace GroupSignal

/-! ## Provers for trials -/

/-- The prover that returns one proof for every input. -/
def Prover.constant (proof : Groth16.Proof) : Prover := fun input =>
  .ok (proof, input.publicValues.toList)

/-- The prover that fails on every input. -/
def Prover.failing : Prover := fun _ => .error (.prover "witness generation failed")

/-- A prover that reports other public values than it computed. -/
def Prover.withValues (change : List Scalar → List Scalar) (prover : Prover) : Prover :=
  fun input => (prover input).map fun (proof, values) => (proof, change values)

/-- The values with the one at a position raised by one. -/
def raiseAt (i : Nat) (values : List Scalar) : List Scalar := values.modify i (· + 1)

/-! ## The proof system -/

/-- The secrets of a key. Every row of constraints has a weight: the first one is the product that
is asked for, and one each keeps the constant one and the public values apart. -/
structure Rehearsal where
  alpha : Scalar
  beta : Scalar
  gamma : Scalar
  delta : Scalar
  /-- The weight of the product. -/
  product : Scalar
  /-- The weights of the constant one and of the public values. -/
  weights : List Scalar
  /-- What hides the first two points of a proof. -/
  blinding : Scalar × Scalar

namespace Rehearsal

/-- A secret of a seed, by its number. -/
def secret (seed : Nat) (number : UInt8) : Scalar := hashToScalar (number :: Bytes.ofNat 8 seed)

/-- The secrets of a seed. -/
def setup (seed : Nat) : Rehearsal where
  alpha := secret seed 0
  beta := secret seed 1
  gamma := secret seed 2
  delta := secret seed 3
  product := secret seed 4
  weights := [secret seed 5, secret seed 6, secret seed 7, secret seed 8, secret seed 9]
  blinding := (secret seed 10, secret seed 11)

/-- A quotient, and zero when the divisor is zero. -/
def quotient (x y : Scalar) : Scalar := (y.inverse?.map (x * ·)).getD 0

/-- The left coefficients of the constant one and of the public values: their weights, and that of
the product for the two values in its left factor. -/
def leftCoefficients (r : Rehearsal) : List Scalar :=
  r.weights.zipWith (· + ·) [0, 0, 0, r.product, r.product]

/-- The verifying key. -/
def key (r : Rehearsal) : Groth16.VerifyingKey :=
  let first (x : Scalar) : G1.Point := G1.curve.generator.multiple x.val
  let second (x : Scalar) : G2.Point := G2.curve.generator.multiple x.val
  { alpha := first r.alpha
    beta := second r.beta
    gamma := second r.gamma
    delta := second r.delta
    bases := r.leftCoefficients.map fun u => first (quotient (r.beta * u) r.gamma) }

/-- The proof of public values and an identity nullifier. The private product enters the last point
once as a value and once, with the other sign, as what the constraint takes away, so it is not
written. -/
def prove (r : Rehearsal) (values : PublicValues) (identityNullifier : Scalar) : Groth16.Proof :=
  let left := ((1 :: values.toList).zipWith (· * ·) r.leftCoefficients).foldl (· + ·) 0
  let right := identityNullifier * r.product
  let a := r.alpha + left + r.blinding.1 * r.delta
  let b := r.beta + right + r.blinding.2 * r.delta
  let c := quotient ((r.alpha + left) * right) r.delta +
    r.blinding.2 * a + r.blinding.1 * b - r.blinding.1 * r.blinding.2 * r.delta
  { a := G1.curve.generator.multiple a.val
    b := G2.curve.generator.multiple b.val
    c := G1.curve.generator.multiple c.val }

/-- The prover. -/
def prover (r : Rehearsal) : Prover := fun input =>
  .ok (r.prove input.publicValues input.identityNullifier, input.publicValues.toList)

/-- The prover of a key that is not the key of the circuit: it reports another signal. -/
def mismatchedProver (r : Rehearsal) : Prover := r.prover.withValues (raiseAt 2)

end Rehearsal

end GroupSignal
