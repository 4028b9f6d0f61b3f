import GroupSignal.Proofs.Groth16.KeyText
import GroupSignal.Proofs.Groth16.Text
import GroupSignal.Proofs.Merkle.Insertion
import GroupSignal.Proofs.Session.Record

/-!
# Verifying with what was handed out

A caller holds texts where the library holds values. It is told the root of a tree, the nullifier
hash of an identity and a proof as texts, and passes these back to have the proof judged, perhaps in
another session. That is the verdict on the values themselves: each text is read as the value that
it was written for, so nothing is malformed, and every argument stands for what its name says.

## Main definitions

* `Session.Tells`: a call hands out a text
* `Session.sampleKey`, `Session.sampleFiles`: a key, and files that hold it

## Main results

* `Session.call_proofOfText_toText`: a proof from the text that was written for it
* `Session.call_verifyProof_toText`: the verdict on texts that were handed out
* `Session.exists_texts_verified`: the whole way
-/

namespace GroupSignal.Session

open Groth16 (CircuitKey)

/-- A call hands out a text, behind some handle. -/
def Tells (session : Session) (c : Call) (s : String) : Prop :=
  ∀ files loader, ∃ t, (session.call files loader c).1 = .text (some (t, s))

section Texts

variable {session : Session} {tree : MerkleTree} {identity : Identity} {proof : Groth16.Proof}

theorem tells_of_giveText {c : Call} {s : String} (hactive : ¬Idle session.held (.call c))
    (hs : Text.NullFree s)
    (h : ∀ files loader, session.held.perform files loader c = session.held.giveText s) :
    session.Tells c s := by
  intro files loader
  have hperform := (h files loader).trans (Holdings.giveText_eq hs session.held)
  rw [call_of_ok hactive hperform]
  exact ⟨_, rfl⟩

theorem tells_treeRoot {t : Handle MerkleTree} (htree : session.held.trees.get? t = some tree) :
    session.Tells (.treeRoot (some t)) (Scalar.toText tree.root) := by
  refine tells_of_giveText nofun (Scalar.nullFree_toText _) ?_
  intro files loader
  have htaken : Holdings.value session.held.trees "tree" (some t) = .ok tree :=
    Holdings.value_eq_ok_iff.mpr htree
  simp only [Holdings.perform, htaken]
  rfl

theorem tells_nullifierHash {i : Handle Identity} {topic : Bytes}
    (hidentity : session.held.identities.get? i = some identity) (htopic : 0 ∉ topic) :
    session.Tells (.nullifierHash (some i) (some topic))
      (Scalar.toText (identity.nullifierHash (hashToScalar topic))) := by
  refine tells_of_giveText nofun (Scalar.nullFree_toText _) ?_
  intro files loader
  have htaken : Holdings.value session.held.identities "identity" (some i) = .ok identity :=
    Holdings.value_eq_ok_iff.mpr hidentity
  have hread : Holdings.bytes "external_nullifier" (some topic) = .ok topic :=
    Holdings.bytes_eq_ok_iff.mpr (Memory.bytes?_some htopic)
  simp only [Holdings.perform, htaken, hread]
  rfl

theorem tells_proofToText {p : Handle Groth16.Proof}
    (hproof : session.held.proofs.get? p = some proof) :
    session.Tells (.proofToText (some p)) proof.toText := by
  refine tells_of_giveText nofun (Groth16.Proof.nullFree_toText proof) ?_
  intro files loader
  have htaken : Holdings.value session.held.proofs "proof" (some p) = .ok proof :=
    Holdings.value_eq_ok_iff.mpr hproof
  simp only [Holdings.perform, htaken]
  rfl

/-- **A proof from the text** that was written for it is the same proof. -/
theorem call_proofOfText_toText (hvalid : proof.Valid) (session : Session) (files : FileSystem Id)
    (loader : CircuitLoader) : ∃ p,
      (session.call files loader (.proofOfText (some (Bytes.ofText proof.toText)))).1 =
        .proof (some p) ∧
      (session.call files loader
        (.proofOfText (some (Bytes.ofText proof.toText)))).2.held.proofs.get? p = some proof := by
  have hperform : session.held.perform files loader
      (.proofOfText (some (Bytes.ofText proof.toText))) =
        .ok (.proof (some (session.held.proofs.insert proof).1),
          { session.held with proofs := (session.held.proofs.insert proof).2 }) := by
    refine bind_eq_ok_iff.mpr ⟨proof.toText, Holdings.text_eq_ok_iff.mpr ?_, ?_⟩
    · exact Memory.text?_ofText (Groth16.Proof.nullFree_toText proof)
    · refine bind_eq_ok_iff.mpr ⟨proof, Holdings.attempt_eq_ok_iff.mpr ?_, rfl⟩
      exact mapError_eq_ok_iff.mpr (Groth16.Proof.ofText_toText hvalid)
  have hactive : ¬Idle session.held
      (.call (.proofOfText (some (Bytes.ofText proof.toText)))) := nofun
  rw [call_of_ok hactive hperform]
  refine ⟨_, rfl, ?_⟩
  show (session.held.proofs.insert proof).2.get? _ = _
  rw [Table.get?_insert, Function.update_self]

/-- **The verdict on texts** that were written for a root and a nullifier hash is the verdict on
these, and leaves no failure. -/
theorem call_verifyProof_toText {p : Handle Groth16.Proof} {topic signal : Bytes} {keyPath : Memory}
    {path : String} {files : FileSystem Id} {key : CircuitKey}
    (hproof : session.held.proofs.get? p = some proof) (htopic : 0 ∉ topic) (hsignal : 0 ∉ signal)
    (hpath : keyPath.text? = some path) (hkey : (CircuitKey.load files path).run = .ok key)
    (loader : CircuitLoader) (root nullifierHash : Scalar) : ∃ valid,
      verifySignalFor root nullifierHash signal topic proof key.verify = .ok valid ∧
      session.call files loader (.verifyProof (some (Bytes.ofText (Scalar.toText root)))
        (some topic) (some signal) (some (Bytes.ofText (Scalar.toText nullifierHash))) (some p)
        keyPath) = (.number (if valid then 1 else 0), { session with lastError := none }) := by
  obtain ⟨valid, hvalid⟩ := key.exists_verifySignalFor root nullifierHash signal topic proof
  have hverdict : Verdict session.held.proofs.get? files
      (some (Bytes.ofText (Scalar.toText root))) (some topic) (some signal)
      (some (Bytes.ofText (Scalar.toText nullifierHash))) (some p) keyPath valid :=
    .intro (Memory.text?_ofText (Scalar.nullFree_toText root)) (Memory.bytes?_some htopic)
      (Memory.bytes?_some hsignal) (Memory.text?_ofText (Scalar.nullFree_toText nullifierHash))
      hproof hpath (Scalar.ofText_toText root) (Scalar.ofText_toText nullifierHash) hkey hvalid
  refine ⟨valid, hvalid, call_of_ok nofun (bind_eq_ok_iff.mpr ⟨valid, ?_, rfl⟩)⟩
  exact Holdings.verdict_eq_ok_iff.mpr hverdict

end Texts

/-- **The whole way.** The root of a live tree, the nullifier hash of a live identity and a live
proof are told as texts, perhaps in different sessions. The last is read back as a proof, and with
its handle and the two texts a verdict is asked for, again in any session where that handle holds
what it was given with. The call leaves no failure, and its reply is the verdict on the values. -/
theorem exists_texts_verified {tree : MerkleTree} {identity : Identity} {proof : Groth16.Proof}
    {t : Handle MerkleTree} {i : Handle Identity} {p : Handle Groth16.Proof}
    {ofTree ofIdentity ofProof : Session} {topic signal : Bytes} {keyPath : Memory} {path : String}
    {files : FileSystem Id} {key : CircuitKey}
    (htree : ofTree.held.trees.get? t = some tree)
    (hidentity : ofIdentity.held.identities.get? i = some identity)
    (hproof : ofProof.held.proofs.get? p = some proof) (hvalid : proof.Valid)
    (htopic : 0 ∉ topic) (hsignal : 0 ∉ signal) (hpath : keyPath.text? = some path)
    (hkey : (CircuitKey.load files path).run = .ok key) :
    ∃ rootText hashText proofText, ofTree.Tells (.treeRoot (some t)) rootText ∧
      ofIdentity.Tells (.nullifierHash (some i) (some topic)) hashText ∧
      ofProof.Tells (.proofToText (some p)) proofText ∧
      ∀ (reader : Session) (files' : FileSystem Id) (loader' : CircuitLoader),
        let read := reader.call files' loader' (.proofOfText (some (Bytes.ofText proofText)))
        ∃ p', read.1 = .proof (some p') ∧ ∀ (judge : Session) (loader : CircuitLoader),
          judge.held.proofs.get? p' = read.2.held.proofs.get? p' →
          let judged := judge.call files loader (.verifyProof (some (Bytes.ofText rootText))
            (some topic) (some signal) (some (Bytes.ofText hashText)) (some p') keyPath)
          let verdict := verifySignalFor tree.root (identity.nullifierHash (hashToScalar topic))
            signal topic proof key.verify
          judged.2.lastErrorCode = 0 ∧ (judged.1 = .number 1 ↔ verdict = .ok true) ∧
            (judged.1 = .number 0 ↔ verdict = .ok false) := by
  refine ⟨_, _, _, tells_treeRoot htree, tells_nullifierHash hidentity htopic,
    tells_proofToText hproof, fun reader files' loader' => ?_⟩
  obtain ⟨p', hreply, hread⟩ := call_proofOfText_toText hvalid reader files' loader'
  refine ⟨p', hreply, fun judge loader hsame => ?_⟩
  -- The two texts are read as the root and the hash that they were written for.
  obtain ⟨valid, hverdict, hcall⟩ := call_verifyProof_toText (hsame.trans hread) htopic hsignal
    hpath hkey loader tree.root (identity.nullifierHash (hashToScalar topic))
  dsimp only
  rw [hverdict, hcall]
  refine ⟨rfl, ?_, ?_⟩ <;> cases valid <;> simp

/-- A key of generators. -/
def sampleKey : CircuitKey where
  key :=
    { alpha := Groth16.Proof.sample.a
      beta := G2.curve.generator
      gamma := G2.curve.generator
      delta := G2.curve.generator
      bases := List.replicate 5 Groth16.Proof.sample.a }
  publicValues_eq := rfl

/-- Files that all hold the text of this key. -/
def sampleFiles : FileSystem Id where
  read _ := .ok (Bytes.ofText sampleKey.key.toText)

theorem load_sampleKey (path : String) :
    (CircuitKey.load sampleFiles path).run = .ok sampleKey := by
  have hvalid : sampleKey.key.Valid := Groth16.VerifyingKey.valid_sample 5
  have hfinite : sampleKey.key.Finite := Groth16.VerifyingKey.finite_sample 5
  exact CircuitKey.load_toText hvalid hfinite rfl

/-- A session that holds an empty tree, an identity and a proof, where every file holds the key. -/
theorem exists_texts_verified_sample : ∃ (tree : MerkleTree) (session : Session),
    let identity : Identity := ⟨1, 2⟩
    session.held.trees.get? ⟨0⟩ = some tree ∧ session.held.identities.get? ⟨0⟩ = some identity ∧
      session.held.proofs.get? ⟨0⟩ = some Groth16.Proof.sample ∧
      ∃ rootText hashText proofText, session.Tells (.treeRoot (some ⟨0⟩)) rootText ∧
        session.Tells (.nullifierHash (some ⟨0⟩) (some [3])) hashText ∧
        session.Tells (.proofToText (some ⟨0⟩)) proofText ∧
        let read := session.call sampleFiles .none (.proofOfText (some (Bytes.ofText proofText)))
        ∃ p', read.1 = .proof (some p') ∧
          let judged := read.2.call sampleFiles .none (.verifyProof (some (Bytes.ofText rootText))
            (some [3]) (some [4]) (some (Bytes.ofText hashText)) (some p')
            (some (Bytes.ofText "key")))
          judged.2.lastErrorCode = 0 ∧ (judged.1 = .number 1 ↔
            verifySignalFor tree.root (identity.nullifierHash (hashToScalar [3])) [4] [3]
              Groth16.Proof.sample sampleKey.verify = .ok true) := by
  obtain ⟨tree, -⟩ := MerkleTree.exists_create (show minDepth ≤ 1 by decide) (by decide)
  let session : Session :=
    { held :=
        { Holdings.empty with
          identities := ⟨[some ⟨1, 2⟩]⟩
          trees := ⟨[some tree]⟩
          proofs := ⟨[some Groth16.Proof.sample]⟩ }
      lastError := none }
  have htopic : 0 ∉ ([3] : Bytes) := by decide
  have hsignal : 0 ∉ ([4] : Bytes) := by decide
  have hpath : Memory.text? (some (Bytes.ofText "key")) = some "key" :=
    Memory.text?_ofText (by decide)
  have htree : session.held.trees.get? ⟨0⟩ = some tree := rfl
  have hidentity : session.held.identities.get? ⟨0⟩ = some ⟨1, 2⟩ := rfl
  have hproof : session.held.proofs.get? ⟨0⟩ = some Groth16.Proof.sample := rfl
  refine ⟨tree, session, htree, hidentity, hproof, ?_⟩
  obtain ⟨rootText, hashText, proofText, hroot, hhash, htold, hjudged⟩ :=
    exists_texts_verified htree hidentity hproof Groth16.Proof.valid_sample htopic hsignal hpath
      (load_sampleKey "key")
  obtain ⟨p', hread, hverdict⟩ := hjudged session sampleFiles .none
  obtain ⟨hcode, hvalid, -⟩ := hverdict _ .none rfl
  exact ⟨rootText, hashText, proofText, hroot, hhash, htold, p', hread, hcode, hvalid⟩

end GroupSignal.Session
