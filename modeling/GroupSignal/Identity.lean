import GroupSignal.Field.Scalar
import GroupSignal.Poseidon.Hash
import GroupSignal.Signal.Error

/-!
# Identities

An identity is two secret scalars, the trapdoor and the nullifier. Its public face is the
commitment, the hash of the nullifier and the trapdoor. For every topic it has one nullifier hash,
by which a second signal on the topic is recognised without telling whose it is.

A seed yields an identity. Each secret comes from 64 bytes, twice as many as a scalar has, so that
reducing them favours no scalar noticeably.

## Main definitions

* `Identity`, `Identity.ofSeed`: identities, and the one of a seed
* `Identity.commitment`: the public face
* `nullifierHash`, `Identity.nullifierHash`: what a signal reveals
-/

namespace GroupSignal

/-- The nullifier hash of a topic, given as a scalar, and an identity nullifier. -/
def nullifierHash (externalNullifier identityNullifier : Scalar) : Scalar :=
  hash2 externalNullifier identityNullifier

/-- The secrets of a member. -/
structure Identity where
  trapdoor : Scalar
  nullifier : Scalar
  deriving DecidableEq

namespace Identity

/-- The two secrets that a seed yields. -/
inductive Secret where
  | trapdoor
  | nullifier
  deriving DecidableEq, Repr

/-- The label under which a secret is derived. -/
def Secret.label : Secret → String
  | trapdoor => "identity_trapdoor"
  | nullifier => "identity_nullifier"

/-- What is hashed for one half of a secret: the digest of the seed in hexadecimal, the label of the
secret and the number of the half. -/
def message (seed : Bytes) (secret : Secret) (half : UInt8) : Bytes :=
  Bytes.ofText (Hex.encode (keccak256 seed)) ++ Bytes.ofText secret.label ++ [half]

/-- The 64 bytes of a secret. -/
def wideSecret (seed : Bytes) (secret : Secret) : Bytes :=
  keccak256 (message seed secret 0) ++ keccak256 (message seed secret 1)

/-- A secret of a seed. -/
def derive (seed : Bytes) (secret : Secret) : Scalar := Scalar.reduceBytes (wideSecret seed secret)

/-- The identity of a seed, which must not be empty. -/
def ofSeed (seed : Bytes) : Except SignalError Identity :=
  if seed = [] then .error .emptySeed
  else .ok { trapdoor := derive seed .trapdoor, nullifier := derive seed .nullifier }

/-- The public face of an identity: the hash of its nullifier and its trapdoor. -/
def commitment (identity : Identity) : Scalar := hash2 identity.nullifier identity.trapdoor

/-- The nullifier hash of an identity for a topic, given as a scalar. -/
def nullifierHash (identity : Identity) (externalNullifier : Scalar) : Scalar :=
  GroupSignal.nullifierHash externalNullifier identity.nullifier

/-- How messages show an identity: by its commitment. -/
def describe (identity : Identity) : String :=
  "Identity \x7b commitment: " ++ Scalar.toText identity.commitment ++ ", .. \x7d"

/-- An identity with its secrets wiped. -/
def wiped (_ : Identity) : Identity := ⟨0, 0⟩

end Identity

end GroupSignal
