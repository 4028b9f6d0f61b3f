import GroupSignal.Identity
import GroupSignal.Merkle.Proof

/-!
# What a prover is given

The secrets of the member, the sides and siblings of the path, the topic and the signal. The circuit
takes them under names, as numbers, and computes the public values from them. A proof is checked
against these values, in the order of the circuit.

## Main definitions

* `PublicValues`: the four public values
* `agree`: the comparison with what a prover says that it computed
* `CircuitInput`, `CircuitInput.ofPath`: the input of the circuit
* `CircuitInput.assignment`: the named numbers
* `CircuitInput.publicValues`: what the circuit computes
-/

namespace GroupSignal

/-! ## Public values -/

/-- The public values of a signal. -/
structure PublicValues where
  root : Scalar
  /-- The nullifier hash of the member for the topic. -/
  nullifierHash : Scalar
  /-- The signal, as a scalar. -/
  signalHash : Scalar
  /-- The topic, as a scalar. -/
  externalNullifier : Scalar
  deriving DecidableEq

/-- The public values in the order of the circuit. -/
def PublicValues.toList (values : PublicValues) : List Scalar :=
  [values.root, values.nullifierHash, values.signalHash, values.externalNullifier]

@[simp] theorem PublicValues.length_toList (values : PublicValues) : values.toList.length = 4 := rfl

theorem PublicValues.toList_inj {a b : PublicValues} : a.toList = b.toList ↔ a = b := by
  cases a
  cases b
  simp [toList]

/-- Whether two lists of values are as long as each other, with no two values at one position that
differ. -/
def agree (computed expected : List Scalar) : Bool :=
  computed.length == expected.length && !(computed.zip expected).any fun pair => pair.1 != pair.2

/-- Lists that agree are the same: the lengths are compared, so neither continues the other. -/
theorem agree_iff {computed expected : List Scalar} :
    agree computed expected = true ↔ computed = expected := by
  induction computed generalizing expected with
  | nil => cases expected <;> simp [agree]
  | cons x xs ih =>
    cases expected with
    | nil => simp [agree]
    | cons y ys =>
      rw [List.cons.injEq, ← ih]
      simp [agree, and_left_comm]

/-! ## The input -/

/-- The input of the circuit. -/
structure CircuitInput where
  identityNullifier : Scalar
  identityTrapdoor : Scalar
  /-- The bits of the steps, from the leaf upwards. -/
  pathBits : List Scalar
  siblings : List Scalar
  externalNullifier : Scalar
  signalHash : Scalar
  deriving DecidableEq

namespace CircuitInput

/-- The input of two secrets, a path, a topic and a signal. -/
def ofPath (identityNullifier identityTrapdoor : Scalar) (proof : MerkleProof)
    (externalNullifier signalHash : Scalar) : CircuitInput where
  identityNullifier := identityNullifier
  identityTrapdoor := identityTrapdoor
  pathBits := proof.bits.map fun bit => Residue.ofNat scalarModulus bit.toNat
  siblings := proof.siblings
  externalNullifier := externalNullifier
  signalHash := signalHash

/-- The number of siblings. -/
def depth (input : CircuitInput) : Nat := input.siblings.length

/-- The inputs of the circuit by their names. -/
def assignment (input : CircuitInput) : List (String × List Nat) := [
  ("identityNullifier", [input.identityNullifier.val]),
  ("identityTrapdoor", [input.identityTrapdoor.val]),
  ("treePathIndices", input.pathBits.map Residue.val),
  ("treeSiblings", input.siblings.map Residue.val),
  ("externalNullifier", [input.externalNullifier.val]),
  ("signalHash", [input.signalHash.val])]

/-- The parent of a node by the bit of its side, which is zero for a left child. -/
def climb (node : Scalar) (step : Scalar × Scalar) : Scalar :=
  if step.2 = 0 then hash2 node step.1 else hash2 step.1 node

/-- The public values that the circuit computes. -/
def publicValues (input : CircuitInput) : PublicValues where
  root := (input.siblings.zip input.pathBits).foldl climb
    (hash2 input.identityNullifier input.identityTrapdoor)
  nullifierHash := hash2 input.externalNullifier input.identityNullifier
  signalHash := input.signalHash
  externalNullifier := input.externalNullifier

/-- How messages show an input: without its secrets. -/
def describe (input : CircuitInput) : String :=
  "SemaphoreCircuitInput \x7b identity_nullifier: \"<redacted>\", " ++
    "identity_trapdoor: \"<redacted>\", depth: " ++ toString input.depth ++
    ", external_nullifier: " ++ Scalar.toText input.externalNullifier ++
    ", signal_hash: " ++ Scalar.toText input.signalHash ++ ", .. \x7d"

/-- An input with its secrets and its path wiped. -/
def wiped (input : CircuitInput) : CircuitInput :=
  { input with identityNullifier := 0, identityTrapdoor := 0, pathBits := [], siblings := [] }

end CircuitInput

end GroupSignal
