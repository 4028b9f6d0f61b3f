import GroupSignal.Groth16.Proof
import GroupSignal.Signal.CircuitInput

/-!
# Signals

A member signals by a proof that one of the commitments under a root is theirs, bound to a signal
and a topic. Provers and verifiers are functions, so that the protocol can be run with any proof
system. A prover also returns the public values that its circuit computed, and a proof with other
values than expected is not given out: its proving key is of another circuit.

A member can also prove to hold an identity without a group: in a tree that holds the commitment
alone.

A prover is made from two files of the circuit, the proving key and the witness graph. How their
bytes become a prover is a parameter, for it depends on the tools that compiled the circuit. Bytes
that are not understood are malformed, whatever is wrong with them.

## Main definitions

* `Prover`, `Verifier`: what the protocol needs of a proof system
* `SignalProof`: a proof with its public values
* `SignalProof.generate`, `verifySignal`: the protocol on scalars
* `SignalProof.generateFor`, `verifySignalFor`: the protocol on byte strings
* `Authentication.generate`, `Authentication.verify`: the protocol without a group
* `CircuitLoader`: how bytes become a prover
* `CircuitLoader.ofBytes`, `CircuitLoader.ofFiles`: the prover of two byte strings and of two files
-/

namespace GroupSignal

/-- A prover makes a proof for an input, and says what public values the circuit computed. -/
abbrev Prover := CircuitInput → Except ProofSystemError (Groth16.Proof × List Scalar)

/-- A verifier judges a proof for public values. -/
abbrev Verifier := Groth16.Proof → List Scalar → Except ProofSystemError Bool

/-- A proof with its public values. -/
structure SignalProof where
  values : PublicValues
  proof : Groth16.Proof
  deriving DecidableEq

/-- The verdict of a verifier on a proof for public values. -/
def verifySignal (values : PublicValues) (proof : Groth16.Proof) (verifier : Verifier) :
    Except SignalError Bool :=
  (verifier proof values.toList).mapError .proofSystem

/-- The verdict of a verifier on a proof for a signal and a topic that are byte strings. -/
def verifySignalFor (root nullifierHash : Scalar) (signal topic : Bytes) (proof : Groth16.Proof)
    (verifier : Verifier) : Except SignalError Bool :=
  verifySignal
    { root, nullifierHash, signalHash := hashToScalar signal
      externalNullifier := hashToScalar topic } proof verifier

namespace SignalProof

/-- The verdict of a verifier on a signal. -/
def verify (signal : SignalProof) (verifier : Verifier) : Except SignalError Bool :=
  verifySignal signal.values signal.proof verifier

/-- The public values that a member's signal has when it is proven along a path. -/
def expectedValues (identity : Identity) (externalNullifier signalHash : Scalar)
    (path : MerkleProof) : PublicValues where
  root := path.root identity.commitment
  nullifierHash := identity.nullifierHash externalNullifier
  signalHash := signalHash
  externalNullifier := externalNullifier

/-- Proves the signal of a member. The path is checked before the prover is asked. -/
def generate (identity : Identity) (externalNullifier signalHash : Scalar) (path : MerkleProof)
    (prover : Prover) : Except SignalError SignalProof :=
  if !isSupportedDepth path.depth then .error (.tree (.unsupportedDepth path.depth))
  else if !path.isConsistent then .error (.misplacedPath path.leafIndex)
  else
    let values := expectedValues identity externalNullifier signalHash path
    let input :=
      CircuitInput.ofPath identity.nullifier identity.trapdoor path externalNullifier signalHash
    match prover input with
    | .error cause => .error (.proofSystem cause)
    | .ok (proof, computed) =>
      if agree computed values.toList then .ok { values, proof } else .error .publicValuesMismatch

/-- Proves a signal of a member, where the topic and the signal are byte strings. -/
def generateFor (identity : Identity) (topic signal : Bytes) (path : MerkleProof)
    (prover : Prover) : Except SignalError SignalProof :=
  generate identity (hashToScalar topic) (hashToScalar signal) path prover

end SignalProof

namespace Authentication

/-- The tree that holds a commitment alone. -/
def tree (depth : Nat) (commitment : Scalar) : Except SignalError MerkleTree :=
  (do
    let (_, tree) ← (← MerkleTree.create depth).insert commitment
    return tree : Except TreeError MerkleTree).mapError .tree

/-- Proves to hold an identity, for a circuit of the given depth. -/
def generate (depth : Nat) (identity : Identity) (externalNullifier signalHash : Scalar)
    (prover : Prover) : Except SignalError SignalProof := do
  let path ← ((← tree depth identity.commitment).proof 0).mapError .tree
  SignalProof.generate identity externalNullifier signalHash path prover

/-- The verdict of a verifier on a proof of holding the identity with a commitment. -/
def verify (depth : Nat) (commitment nullifierHash signalHash externalNullifier : Scalar)
    (proof : Groth16.Proof) (verifier : Verifier) : Except SignalError Bool := do
  let root := (← tree depth commitment).root
  verifySignal { root, nullifierHash, signalHash, externalNullifier } proof verifier

end Authentication

/-! ## Proving material -/

/-- How a proving key and a witness graph become a prover. -/
structure CircuitLoader where
  /-- The prover, if the bytes are understood. -/
  prover? : (zkey graph : Bytes) → Option Prover

namespace CircuitLoader

/-- Understands no circuit. -/
def none : CircuitLoader := ⟨fun _ _ => .none⟩

/-- The prover of two byte strings. -/
def ofBytes (loader : CircuitLoader) (zkey graph : Bytes) : Except ProofSystemError Prover :=
  match loader.prover? zkey graph with
  | some prover => .ok prover
  | .none => .error .malformedArtifact

/-- The prover of two files. Both must be there before either is read. -/
def ofFiles {m : Type → Type} [Monad m] (loader : CircuitLoader) (files : FileSystem m)
    (zkeyPath graphPath : String) : m (Except ProofSystemError Prover) := do
  if !(← files.isFile zkeyPath) then return .error (.unreadable zkeyPath .noFile)
  if !(← files.isFile graphPath) then return .error (.unreadable graphPath .noFile)
  match ← files.read zkeyPath, ← files.read graphPath with
  | .ok zkey, .ok graph => return loader.ofBytes zkey graph
  | _, _ => return .error .malformedArtifact

end CircuitLoader

end GroupSignal
