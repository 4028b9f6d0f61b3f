import GroupSignal.Document.Reader

/-!
# Refused inputs

Why a whole text is not the input that it should be. Where a document is at fault, its own cause
follows the name of the input, unless it has no wording.

## Main definitions

* `InputError`, `InputError.message`: the causes and their wording
-/

namespace GroupSignal

/-- Why a text is refused as an input. -/
inductive InputError where
  /-- It denotes no value. -/
  | value (cause : ValueError)
  /-- It is not the texts of the coordinates of a proof. -/
  | malformedProof
  /-- It is not the document of a configuration. -/
  | malformedConfig (cause : ReadError)
  deriving DecidableEq, Repr

namespace InputError

/-- A cause behind what it is the cause of. -/
def withCause (what : String) (cause : ReadError) : String :=
  match cause.message? with
  | some message => what ++ ": " ++ message
  | none => what

/-- The wording of a refusal. -/
def message : InputError → String
  | value cause => cause.message
  | malformedProof => "Deserialization error: invalid proof"
  | malformedConfig cause => withCause "Serialization error: failed to parse config" cause

end InputError

end GroupSignal
