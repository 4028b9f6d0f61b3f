import GroupSignal.Proofs.Merkle.Membership
import GroupSignal.Proofs.Signal.Assignment
import GroupSignal.Proofs.Signal.Generation
import GroupSignal.Rehearsal

/-!
# Members are never refused

A member whose commitment stands in a group tree, with the proof that the tree gives, signals with
every prover that computes the values of the circuit, and the signal is accepted by every verifier
that accepts what the prover proves.

## Main definitions

* `CompleteOn`: a prover and a verifier that get along on an input

## Main results

* `Reached.exists_generateFor`: a member of a tree signals, and is accepted
-/

namespace GroupSignal

/-- On an input the prover returns a proof with the values of the circuit, and the verifier accepts
the proof for these values. -/
def CompleteOn (prover : Prover) (verifier : Verifier) (input : CircuitInput) : Prop :=
  ∃ proof, prover input = .ok (proof, input.publicValues.toList) ∧
    verifier proof input.publicValues.toList = .ok true

namespace MerkleTree

variable {depth : Nat} {leaves : List Scalar} {tree : MerkleTree}

/-- **A member of a tree signals and is accepted.** The tree gives the proof of the member's leaf.
With it, the signal on every topic is generated by every prover that is complete on the member's
input, carries the root of the tree and the values of the member, the signal and the topic, and is
accepted by the verifier, as it stands and from the byte strings. -/
theorem Reached.exists_generateFor (h : Reached depth leaves tree) (identity : Identity)
    {index : UInt64} (hleaf : tree.leaf? index = some identity.commitment) :
    ∃ path, tree.proof index = .ok path ∧
      ∀ (topic signal : Bytes) (prover : Prover) (verifier : Verifier),
        CompleteOn prover verifier
          (CircuitInput.ofPath identity.nullifier identity.trapdoor path (hashToScalar topic)
            (hashToScalar signal)) →
        ∃ sent, SignalProof.generateFor identity topic signal path prover = .ok sent ∧
          sent.values = { root := tree.root
                          nullifierHash := identity.nullifierHash (hashToScalar topic)
                          signalHash := hashToScalar signal
                          externalNullifier := hashToScalar topic } ∧
          sent.verify verifier = .ok true ∧
          verifySignalFor tree.root sent.values.nullifierHash signal topic sent.proof verifier =
            .ok true := by
  obtain ⟨⟨hmin, hmax⟩, -, -⟩ := h.represents
  obtain ⟨hproof, hconsistent, hroot⟩ := h.proof_eq hleaf
  refine ⟨fullProof leaves depth index, hproof, fun topic signal prover verifier hcomplete => ?_⟩
  obtain ⟨proof, hprover, hverifier⟩ := hcomplete
  have hdepth : isSupportedDepth (fullProof leaves depth index).depth = true := by
    rw [show (fullProof leaves depth index).depth = depth from length_fullPath]
    exact isSupportedDepth_iff.mpr ⟨hmin, hmax⟩
  -- What prover and verifier agree on are the values of the circuit; here they are those expected.
  rw [CircuitInput.publicValues_ofPath] at hprover hverifier
  have hvalues : SignalProof.expectedValues identity (hashToScalar topic) (hashToScalar signal)
      (fullProof leaves depth index) =
        { root := tree.root
          nullifierHash := identity.nullifierHash (hashToScalar topic)
          signalHash := hashToScalar signal
          externalNullifier := hashToScalar topic } := by
    rw [SignalProof.expectedValues, hroot]
  refine ⟨_, SignalProof.generate_of_prover hdepth hconsistent hprover, hvalues, ?_, ?_⟩
  · rw [SignalProof.verify, verifySignal, hverifier]
    rfl
  · rw [hvalues] at hverifier ⊢
    rw [verifySignalFor, verifySignal, hverifier]
    rfl

/-- The third member of a tree of depth three, with a prover that gives out one proof, and a
verifier that accepts this proof for the values of the member's input alone. -/
theorem Reached.exists_generateFor_third :
    let identity : Identity := { trapdoor := 3, nullifier := 4 }
    let only : Groth16.Proof := { a := .infinity, b := .infinity, c := .infinity }
    ∃ tree path, Reached 3 [5, 6, identity.commitment] tree ∧
      tree.leaf? 2 = some identity.commitment ∧ tree.proof 2 = .ok path ∧
      let input := CircuitInput.ofPath identity.nullifier identity.trapdoor path
        (hashToScalar [1]) (hashToScalar [2])
      let verifier : Verifier := fun proof values =>
        .ok (proof = only ∧ values = input.publicValues.toList)
      CompleteOn (Prover.constant only) verifier input ∧
      ∃ sent, SignalProof.generateFor identity [1] [2] path (Prover.constant only) = .ok sent ∧
        sent.values.root = tree.root ∧ sent.verify verifier = .ok true := by
  intro identity only
  obtain ⟨tree, -, h⟩ := exists_reached 3 [5, 6, identity.commitment] (by decide) (by decide)
    (by simp)
  have hleaf : tree.leaf? 2 = some identity.commitment :=
    h.represents.2.2.leaf?_eq (by decide)
  obtain ⟨path, hpath, hsignal⟩ := h.exists_generateFor identity hleaf
  refine ⟨tree, path, h, hleaf, hpath, ?_⟩
  intro input verifier
  have hcomplete : CompleteOn (Prover.constant only) verifier input :=
    ⟨only, rfl, congrArg Except.ok (decide_eq_true ⟨rfl, rfl⟩)⟩
  obtain ⟨sent, hsent, hvalues, hverify, -⟩ :=
    hsignal [1] [2] (Prover.constant only) verifier hcomplete
  exact ⟨hcomplete, sent, hsent, by rw [hvalues], hverify⟩

end MerkleTree

end GroupSignal
