import GroupSignal.Document.Reader
import GroupSignal.File
import GroupSignal.InputError

/-!
# Failures of the proof system

Why circuit files cannot be used, why there is no proof, and why a proof cannot be looked at. That a
proof is rejected is no failure.

## Main definitions

* `ProofSystemError`, `ProofSystemError.message`: the causes and their wording
-/

namespace GroupSignal

/-- The number of public values of the circuit. -/
def publicValueCount : Nat := 4

/-- Why a verifying key is refused. -/
inductive KeyError where
  /-- Its document denotes no key. -/
  | document (cause : ReadError)
  /-- It was made for another number of public values. -/
  | publicValues (actual : Nat)
  deriving DecidableEq, Repr

/-- Why the proof system fails. -/
inductive ProofSystemError where
  | unreadable (path : String) (cause : FileError)
  /-- The proving key or the witness graph is malformed. -/
  | malformedArtifact
  | invalidKey (cause : KeyError)
  /-- A prover fails for a reason of its own. -/
  | prover (reason : String)
  /-- A verifier fails for a reason of its own. -/
  | verifier (reason : String)
  /-- There are more or fewer public values than the key was made for. -/
  | publicValueCount (expected actual : Nat)
  deriving DecidableEq, Repr

namespace ProofSystemError

/-- The wording of a failure. -/
def message : ProofSystemError → String
  | unreadable path cause => "failed to read " ++ path ++ ": " ++ cause.message
  | malformedArtifact => "malformed circuit artifact"
  | invalidKey (.document cause) => InputError.withCause "invalid verifying key" cause
  | invalidKey (.publicValues actual) =>
    "invalid verifying key: key has " ++ toString actual ++ " public inputs, the circuit has " ++
      toString GroupSignal.publicValueCount
  | prover reason => "prover failure: " ++ reason
  | verifier reason => "verifier failure: " ++ reason
  | publicValueCount expected actual =>
    "expected " ++ toString expected ++ " public inputs, got " ++ toString actual

end ProofSystemError

end GroupSignal
