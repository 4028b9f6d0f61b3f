import GroupSignal.Groth16.Error
import GroupSignal.Merkle.Tree

/-!
# Refusals

Why an operation of the protocol is refused. Callers that only need to know what to do about a
refusal look at its kind: mend the input, mind the state, or see to the proof system.

## Main definitions

* `SignalError`, `SignalError.message`: the causes and their wording
* `ErrorKind`, `SignalError.kind`: the kinds of causes
-/

namespace GroupSignal

/-- What kind of thing went wrong. -/
inductive ErrorKind where
  /-- An input is malformed or out of range. -/
  | inputMalformed
  /-- The state of an object does not allow the operation. -/
  | stateInvalid
  /-- The proof system or its files fail. -/
  | backendFailure
  deriving DecidableEq, Repr

/-- Why an operation is refused. -/
inductive SignalError where
  | input (cause : InputError)
  /-- An identity is asked for without a seed. -/
  | emptySeed
  | tree (cause : TreeError)
  /-- The path of a Merkle proof is not the one to the leaf that the proof names. -/
  | misplacedPath (leafIndex : UInt64)
  | proofSystem (cause : ProofSystemError)
  /-- A prover computes other public values than were expected. -/
  | publicValuesMismatch
  deriving DecidableEq, Repr

namespace SignalError

/-- The wording of a refusal. -/
def message : SignalError → String
  | input cause => cause.message
  | emptySeed => "identity seed must not be empty"
  | tree cause => cause.message
  | misplacedPath leafIndex =>
    "invalid merkle proof: path does not lead to leaf " ++ toString leafIndex.toNat
  | proofSystem cause => cause.message
  | publicValuesMismatch => "public signals returned by the prover do not match the inputs"

/-- The kind of a refusal. -/
def kind : SignalError → ErrorKind
  | input _ => .inputMalformed
  | emptySeed => .inputMalformed
  | tree (.unsupportedDepth _) => .inputMalformed
  | tree (.full _) => .stateInvalid
  | tree (.leafNotInserted ..) => .stateInvalid
  | misplacedPath _ => .inputMalformed
  | proofSystem _ => .backendFailure
  | publicValuesMismatch => .backendFailure

end SignalError

end GroupSignal
