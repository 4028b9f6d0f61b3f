import GroupSignal.Document.Values
import GroupSignal.Groth16.KeyDocument
import GroupSignal.Session.Call
import GroupSignal.Signal.Proof

/-!
# Sessions

A session keeps what a caller holds handles of, and the last failure. A call that succeeds clears
the failure, one that fails records it and changes nothing else, and releasing nothing is as if no
call were made. The record of the last failure can be read as often as the caller likes; its wording
is then one more text that the caller holds.

## Main definitions

* `Holdings`: what is held
* `Session`, `Session.call`: a session and a call in it
* `Session.lastErrorCode`, `Session.lastErrorMessage?`: the record of the last failure
* `Action`, `Session.act`: a call or a look at the record
-/

namespace GroupSignal

/-- What a caller holds. -/
structure Holdings where
  identities : Table Identity
  trees : Table MerkleTree
  merkleProofs : Table MerkleProof
  proofs : Table Groth16.Proof
  texts : Table String

namespace Holdings

/-- Nothing is held. -/
def empty : Holdings :=
  { identities := .empty, trees := .empty, merkleProofs := .empty, proofs := .empty
    texts := .empty }

/-! ## Arguments and results -/

/-- The value of a handle argument. -/
def value {α : Type} (table : Table α) (name : String) (h : Option (Handle α)) :
    Except CallError α :=
  match h.bind table.get? with
  | some a => .ok a
  | none => .error (.missing name)

/-- The bytes of a text argument, which end before the first null byte. -/
def bytes (name : String) : Memory → Except CallError Bytes
  | some b => .ok (b.takeWhile (· ≠ 0))
  | none => .error (.missing name)

/-- The text of a text argument. -/
def text (name : String) (memory : Memory) : Except CallError String := do
  match Bytes.toText? (← bytes name memory) with
  | some s => return s
  | none => throw (.notText name)

/-- The result of an operation that may refuse. -/
def attempt {α : Type} (result : Except SignalError α) : Except CallError α :=
  result.mapError .refused

/-- Returns a text. -/
def giveText (held : Holdings) (s : String) : Except CallError (Reply × Holdings) :=
  if s.contains '\x00' then .error .nullInText
  else
    let (h, texts) := held.texts.insert s
    .ok (.text (some (h, s)), { held with texts })

/-! ## Calls -/

/-- The scalar of a text argument. -/
def scalar (s : String) : Except CallError Scalar :=
  attempt ((Scalar.ofText s).mapError fun cause => .input (.value cause))

/-- The verdict on a proof for texts from outside. All arguments are looked at before any is read
as a scalar. -/
def verdict (held : Holdings) (files : FileSystem Id) (root topic signal nullifierHash : Memory)
    (proof : Option (Handle Groth16.Proof)) (keyPath : Memory) : Except CallError Bool := do
  let root ← text "root" root
  let topic ← bytes "external_nullifier" topic
  let signal ← bytes "signal" signal
  let nullifierHash ← text "nullifier_hash" nullifierHash
  let proof ← value held.proofs "proof" proof
  let keyPath ← text "verifying_key_path" keyPath
  let root ← scalar root
  let nullifierHash ← scalar nullifierHash
  let key ← attempt ((Groth16.CircuitKey.load files keyPath).run.mapError .proofSystem)
  attempt (verifySignalFor root nullifierHash signal topic proof key.verify)

/-- The proof of a signal for texts from outside. -/
def prove (held : Holdings) (files : FileSystem Id) (loader : CircuitLoader)
    (identity : Option (Handle Identity)) (topic signal : Memory)
    (path : Option (Handle MerkleProof)) (zkeyPath graphPath : Memory) :
    Except CallError Groth16.Proof := do
  let identity ← value held.identities "identity" identity
  let topic ← bytes "external_nullifier" topic
  let signal ← bytes "signal" signal
  let path ← value held.merkleProofs "merkle_proof" path
  let zkeyPath ← text "zkey_path" zkeyPath
  let graphPath ← text "graph_path" graphPath
  let prover ← attempt ((loader.ofFiles files zkeyPath graphPath).run.mapError .proofSystem)
  return (← attempt (SignalProof.generateFor identity topic signal path prover)).proof

/-- Releases a handle that the caller holds or once held. -/
def free {α : Type} (table : Table α) : Option (Handle α) → Table α
  | some h => table.release h
  | none => table

/-- Carries out a call on what is held. -/
def perform (held : Holdings) (files : FileSystem Id) (loader : CircuitLoader) :
    Call → Except CallError (Reply × Holdings)
  | .newIdentity seed => do
    let seed ← seed.elim (.error (.missing "seed")) .ok
    let (h, identities) := held.identities.insert (← attempt (Identity.ofSeed seed))
    return (.identity (some h), { held with identities })
  | .identityCommitment identity => do
    held.giveText (Scalar.toText (← value held.identities "identity" identity).commitment)
  | .nullifierHash identity topic => do
    let identity ← value held.identities "identity" identity
    let topic ← bytes "external_nullifier" topic
    held.giveText (Scalar.toText (identity.nullifierHash (hashToScalar topic)))
  | .createTree depth => do
    let tree ← attempt ((MerkleTree.create depth.toNat).mapError .tree)
    let (h, trees) := held.trees.insert tree
    return (.tree (some h), { held with trees })
  | .insertLeaf h identity => do
    let tree ← value held.trees "tree" h
    let identity ← value held.identities "identity" identity
    let (_, tree) ← attempt ((tree.insert identity.commitment).mapError .tree)
    return (.flag true, { held with trees := h.elim held.trees (held.trees.set · tree) })
  | .treeRoot tree => do
    held.giveText (Scalar.toText (← value held.trees "tree" tree).root)
  | .merkleProof tree index => do
    let tree ← value held.trees "tree" tree
    let (h, merkleProofs) :=
      held.merkleProofs.insert (← attempt ((tree.proof index).mapError .tree))
    return (.merkleProof (some h), { held with merkleProofs })
  | .generateProof identity topic signal path zkeyPath graphPath => do
    let proof ← held.prove files loader identity topic signal path zkeyPath graphPath
    let (h, proofs) := held.proofs.insert proof
    return (.proof (some h), { held with proofs })
  | .proofToText proof => do
    held.giveText (← value held.proofs "proof" proof).toText
  | .proofOfText s => do
    let s ← text "text" s
    let (h, proofs) :=
      held.proofs.insert (← attempt ((Groth16.Proof.ofText s).mapError .input))
    return (.proof (some h), { held with proofs })
  | .verifyProof root topic signal nullifierHash proof keyPath => do
    let valid ← held.verdict files root topic signal nullifierHash proof keyPath
    return (.number (if valid then 1 else 0), held)
  | .freeIdentity h => .ok (.done, { held with identities := free held.identities h })
  | .freeTree h => .ok (.done, { held with trees := free held.trees h })
  | .freeMerkleProof h => .ok (.done, { held with merkleProofs := free held.merkleProofs h })
  | .freeProof h => .ok (.done, { held with proofs := free held.proofs h })
  | .freeText h => .ok (.done, { held with texts := free held.texts h })

/-- Whether a call releases nothing. -/
def freesNothing (held : Holdings) : Call → Bool
  | .freeIdentity h => (h.bind held.identities.get?).isNone
  | .freeTree h => (h.bind held.trees.get?).isNone
  | .freeMerkleProof h => (h.bind held.merkleProofs.get?).isNone
  | .freeProof h => (h.bind held.proofs.get?).isNone
  | .freeText h => (h.bind held.texts.get?).isNone
  | _ => false

end Holdings

/-- What a caller holds, and the last failure. -/
structure Session where
  held : Holdings
  lastError : Option CallError

namespace Session

/-- A session in which nothing has happened. -/
def new : Session := { held := .empty, lastError := none }

/-- Makes a call. -/
def call (session : Session) (files : FileSystem Id) (loader : CircuitLoader) (c : Call) :
    Reply × Session :=
  if session.held.freesNothing c then (c.fallback, session)
  else
    match session.held.perform files loader c with
    | .ok (reply, held) => (reply, { held, lastError := none })
    | .error e => (c.fallback, { session with lastError := some e })

/-- The number of the last failure, and zero when the last call succeeded. -/
def lastErrorCode (session : Session) : Nat := session.lastError.elim 0 CallError.code

/-- The wording of the last failure, which cannot be returned if it contains the null character. -/
def lastErrorMessage? (session : Session) : Option String :=
  (session.lastError.map CallError.message).filter fun s => !s.contains '\x00'

end Session

/-! ## Reading the record -/

/-- What a caller can do in a session. -/
inductive Action where
  | call (c : Call)
  | readErrorCode
  | readErrorMessage

namespace Session

/-- Returns the wording of the last failure, which stays on record. -/
def giveErrorMessage (session : Session) : Reply × Session :=
  match session.lastErrorMessage? with
  | none => (.text none, session)
  | some s =>
    let (h, texts) := session.held.texts.insert s
    (.text (some (h, s)), { session with held := { session.held with texts } })

/-- Does what a caller does. -/
def act (session : Session) (files : FileSystem Id) (loader : CircuitLoader) :
    Action → Reply × Session
  | .call c => session.call files loader c
  | .readErrorCode => (.number session.lastErrorCode, session)
  | .readErrorMessage => session.giveErrorMessage

end Session

end GroupSignal
