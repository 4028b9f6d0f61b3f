import GroupSignal.Groth16.Proof
import GroupSignal.Identity

/-!
# Calls from outside

What a program in another language can ask for. It holds identities, trees, Merkle proofs, proofs
and texts by handles, and passes texts as memory that ends at a null byte. Every handle and every
text may be missing. The values are kept in tables. A handle is never used twice, so one whose value
has been released stays dead.

## Main definitions

* `Handle α`: a handle of a value of type `α`
* `Table α`: a table, with `get?`, `insert`, `set` and `release`
* `Call`: the calls
* `Reply`: what a call returns
* `CallError`, `CallError.code`, `CallError.message`: why a call fails
-/

namespace GroupSignal

/-! ## Tables of owned values -/

/-- A handle of a value of type `α`. -/
@[ext] structure Handle (α : Type) where
  index : Nat

instance {α : Type} : DecidableEq (Handle α) := fun h k =>
  decidable_of_iff (h.index = k.index) Handle.ext_iff.symm

/-- A table of values, with a vacant place for each that has been released. -/
structure Table (α : Type) where
  /-- The places, in the order in which they were taken. -/
  places : List (Option α)

namespace Table

variable {α : Type}

/-- No place has been taken. -/
def empty : Table α := ⟨[]⟩

/-- The value of a live handle. -/
def get? (table : Table α) (h : Handle α) : Option α := (table.places[h.index]?).join

/-- Takes a new place. -/
def insert (table : Table α) (a : α) : Handle α × Table α :=
  (⟨table.places.length⟩, ⟨table.places ++ [some a]⟩)

/-- Puts a value in place of the one under a handle. -/
def set (table : Table α) (h : Handle α) (a : α) : Table α := ⟨table.places.set h.index (some a)⟩

/-- Vacates the place of a handle. -/
def release (table : Table α) (h : Handle α) : Table α := ⟨table.places.set h.index none⟩

end Table

/-! ## Calls -/

/-- Memory that holds a text up to a null byte, or nothing. -/
abbrev Memory := Option Bytes

/-- A call. -/
inductive Call where
  | newIdentity (seed : Option Bytes)
  | identityCommitment (identity : Option (Handle Identity))
  | nullifierHash (identity : Option (Handle Identity)) (topic : Memory)
  | createTree (depth : UInt64)
  | insertLeaf (tree : Option (Handle MerkleTree)) (identity : Option (Handle Identity))
  | treeRoot (tree : Option (Handle MerkleTree))
  | merkleProof (tree : Option (Handle MerkleTree)) (index : UInt64)
  | generateProof (identity : Option (Handle Identity)) (topic signal : Memory)
      (path : Option (Handle MerkleProof)) (zkeyPath graphPath : Memory)
  | proofToText (proof : Option (Handle Groth16.Proof))
  | proofOfText (text : Memory)
  | verifyProof (root topic signal nullifierHash : Memory) (proof : Option (Handle Groth16.Proof))
      (keyPath : Memory)
  | freeIdentity (h : Option (Handle Identity))
  | freeTree (h : Option (Handle MerkleTree))
  | freeMerkleProof (h : Option (Handle MerkleProof))
  | freeProof (h : Option (Handle Groth16.Proof))
  | freeText (h : Option (Handle String))

/-- What a call returns. -/
inductive Reply where
  | identity (h : Option (Handle Identity))
  | tree (h : Option (Handle MerkleTree))
  | merkleProof (h : Option (Handle MerkleProof))
  | proof (h : Option (Handle Groth16.Proof))
  /-- A text, with the handle by which it is released. -/
  | text (h : Option (Handle String × String))
  | flag (b : Bool)
  | number (n : Nat)
  | done
  deriving DecidableEq

/-- What a call returns when it fails. -/
def Call.fallback : Call → Reply
  | newIdentity _ => .identity none
  | identityCommitment _ => .text none
  | nullifierHash .. => .text none
  | createTree _ => .tree none
  | insertLeaf .. => .flag false
  | treeRoot _ => .text none
  | merkleProof .. => .merkleProof none
  | generateProof .. => .proof none
  | proofToText _ => .text none
  | proofOfText _ => .proof none
  | verifyProof .. => .number 0
  | freeIdentity _ => .done
  | freeTree _ => .done
  | freeMerkleProof _ => .done
  | freeProof _ => .done
  | freeText _ => .done

/-- Why a call fails. -/
inductive CallError where
  /-- An argument is missing, or its handle is dead. -/
  | missing (argument : String)
  /-- An argument is not UTF-8. -/
  | notText (argument : String)
  /-- A text to be returned contains the null character. -/
  | nullInText
  | refused (cause : SignalError)
  deriving DecidableEq, Repr

namespace CallError

/-- The number of a kind of refusal. -/
def codeOfKind : ErrorKind → Nat
  | .inputMalformed => 1
  | .stateInvalid => 2
  | .backendFailure => 3

/-- The number of a failure. -/
def code : CallError → Nat
  | missing _ => codeOfKind .inputMalformed
  | notText _ => codeOfKind .inputMalformed
  | nullInText => codeOfKind .backendFailure
  | refused cause => codeOfKind cause.kind

/-- The wording of a failure. -/
def message : CallError → String
  | missing argument => "argument `" ++ argument ++ "` is null"
  | notText argument => "argument `" ++ argument ++ "` is not valid UTF-8"
  | nullInText => "output contains an interior NUL byte"
  | refused cause => cause.message

end CallError

end GroupSignal
