import GroupSignal.Groth16.Error
import GroupSignal.Groth16.Proof
import GroupSignal.Pairing.Ate

/-!
# Verifying keys

A verifying key has four fixed points and one point for the constant one and each public value. A
proof is accepted when the pairing equation holds: the pairing of its first two points is the
product of the fixed pairing, the pairing of the combined public values with `gamma`, and the
pairing of its last point with `delta`.

A key fits the circuit when it was made for four public values.

## Main definitions

* `VerifyingKey`, `VerifyingKey.verify`: keys and their verdict on a proof
* `CircuitKey`: the keys that fit the circuit
-/

namespace GroupSignal.Groth16

/-- A verifying key. -/
structure VerifyingKey where
  alpha : G1.Point
  beta : G2.Point
  gamma : G2.Point
  delta : G2.Point
  /-- The points of the constant one and of the public values. -/
  bases : List G1.Point
  deriving DecidableEq

namespace VerifyingKey

/-- The number of public values that a key was made for. -/
def publicValues (key : VerifyingKey) : Nat := key.bases.length - 1

/-- The combination of the public values: their points times their values, and the point of the
constant one. -/
def combine (key : VerifyingKey) (values : List Scalar) : G1.Point :=
  Point.sum ((1 :: values.map Residue.val).zip key.bases)

/-- Whether the pairing equation holds. -/
def accepts (key : VerifyingKey) (proof : Proof) (values : List Scalar) : Bool :=
  pairingProduct [
    (proof.a, proof.b),
    ((key.combine values).opposite, key.gamma),
    (proof.c.opposite, key.delta),
    (key.alpha.opposite, key.beta)] = Dodecic.one

/-- The verdict on a proof for public values. -/
def verify (key : VerifyingKey) (proof : Proof) (values : List Scalar) :
    Except ProofSystemError Bool :=
  if values.length ≠ key.publicValues then
    .error (.publicValueCount key.publicValues values.length)
  else if key.bases = [] then .error (.verifier "malformed verifying key")
  else .ok (key.accepts proof values)

end VerifyingKey

/-- A verifying key that fits the circuit. -/
structure CircuitKey where
  key : VerifyingKey
  /-- It was made for the public values of the circuit. -/
  publicValues_eq : key.publicValues = publicValueCount
  deriving DecidableEq

namespace CircuitKey

/-- The key itself, if it fits the circuit. -/
def ofKey (key : VerifyingKey) : Except ProofSystemError CircuitKey :=
  if h : key.publicValues = publicValueCount then .ok ⟨key, h⟩
  else .error (.invalidKey (.publicValues key.publicValues))

/-- The verdict on a proof for public values. -/
def verify (circuit : CircuitKey) (proof : Proof) (values : List Scalar) :
    Except ProofSystemError Bool :=
  circuit.key.verify proof values

/-- How messages show a key. -/
def describe (circuit : CircuitKey) : String :=
  "SemaphoreVerifyingKey \x7b public_inputs: " ++ toString circuit.key.publicValues ++ " \x7d"

end CircuitKey

end GroupSignal.Groth16
