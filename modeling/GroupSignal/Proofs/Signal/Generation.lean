import GroupSignal.Proofs.Merkle.Consistency
import GroupSignal.Proofs.Merkle.Insertion
import GroupSignal.Signal.Proof

/-!
# What becomes of a signal that is to be generated

A prover is not trusted. What it is asked to prove is looked at before it is asked, and what it says
that it computed is compared with what the inputs determine. So the inputs alone decide whether it
is asked at all, and if a signal comes out, it has the values of the inputs, whoever made the proof.

## Main definitions

* `request`: what the prover is asked

## Main results

* `generate_of_unsupported`, `generate_of_inconsistent`: the refusals for which nobody is asked
* `generate_of_error`, `generate_of_ne`: the refusals that are the prover's fault
* `generate_of_prover`: the signal of a prover that computes the expected values
* `generate_outcome`: which outcome there is for which inputs and which prover
-/

namespace GroupSignal.SignalProof

variable {identity : Identity} {externalNullifier signalHash : Scalar} {path : MerkleProof}
  {prover : Prover}

/-- What the prover is asked: the input of the circuit for the member, the path and the signal. -/
def request (identity : Identity) (externalNullifier signalHash : Scalar) (path : MerkleProof) :
    CircuitInput :=
  CircuitInput.ofPath identity.nullifier identity.trapdoor path externalNullifier signalHash

/-! ## Refused before the prover is asked -/

theorem generate_of_unsupported (h : isSupportedDepth path.depth = false) :
    generate identity externalNullifier signalHash path prover =
      .error (.tree (.unsupportedDepth path.depth)) := by
  rw [generate, h]
  rfl

theorem generate_of_inconsistent (hdepth : isSupportedDepth path.depth = true)
    (h : path.isConsistent = false) : generate identity externalNullifier signalHash path prover =
      .error (.misplacedPath path.leafIndex) := by
  rw [generate, hdepth, h]
  rfl

/-! ## Judged by the prover's answer -/

section Asked

variable (hdepth : isSupportedDepth path.depth = true) (hconsistent : path.isConsistent = true)
include hdepth hconsistent

/-- A path that passes the checks is handed to the prover, and its answer is compared. -/
theorem generate_of_consistent : generate identity externalNullifier signalHash path prover =
    match prover (request identity externalNullifier signalHash path) with
    | .error cause => .error (.proofSystem cause)
    | .ok (proof, computed) =>
      let values := expectedValues identity externalNullifier signalHash path
      if agree computed values.toList then .ok { values, proof }
      else .error .publicValuesMismatch := by
  rw [generate, hdepth, hconsistent]
  rfl

theorem generate_of_error {cause : ProofSystemError}
    (hprover : prover (request identity externalNullifier signalHash path) = .error cause) :
    generate identity externalNullifier signalHash path prover = .error (.proofSystem cause) := by
  rw [generate_of_consistent hdepth hconsistent, hprover]

theorem generate_of_ne {proof : Groth16.Proof} {computed : List Scalar}
    (hprover : prover (request identity externalNullifier signalHash path) = .ok (proof, computed))
    (hne : computed ≠ (expectedValues identity externalNullifier signalHash path).toList) :
    generate identity externalNullifier signalHash path prover = .error .publicValuesMismatch := by
  rw [generate_of_consistent hdepth hconsistent, hprover]
  exact if_neg fun hagree => hne (agree_iff.mp hagree)

/-- A path that passes the checks yields the signal of the prover's proof, when the prover computes
the expected values. -/
theorem generate_of_prover {proof : Groth16.Proof}
    (hprover : prover (request identity externalNullifier signalHash path) =
      .ok (proof, (expectedValues identity externalNullifier signalHash path).toList)) :
    generate identity externalNullifier signalHash path prover =
      .ok { values := expectedValues identity externalNullifier signalHash path, proof } := by
  rw [generate_of_consistent hdepth hconsistent, hprover]
  exact if_pos (agree_iff.mpr rfl)

end Asked

/-- **What becomes of a signal.** The depth of the path is judged first, then whether it leads to
the leaf that it names; in both cases whoever the prover is. Otherwise the prover is asked, and its
own failure is passed on. If it answers, then with the four values that the inputs determine and no
others: with these its proof makes the signal, with any other list the signal is refused. -/
theorem generate_outcome (identity : Identity) (externalNullifier signalHash : Scalar)
    (path : MerkleProof) (prover : Prover) :
    let result := generate identity externalNullifier signalHash path prover
    let answer := prover (request identity externalNullifier signalHash path)
    let supported := 1 ≤ path.depth ∧ path.depth ≤ 32
    let values := [path.root identity.commitment, hash2 externalNullifier identity.nullifier,
      signalHash, externalNullifier]
    (∀ cause, result = .error (.tree cause) ↔
      ¬ supported ∧ cause = .unsupportedDepth path.depth) ∧
    (∀ index, result = .error (.misplacedPath index) ↔
      supported ∧ ¬ path.LeadsToLeaf ∧ index = path.leafIndex) ∧
    (∀ cause, result = .error (.proofSystem cause) ↔
      supported ∧ path.LeadsToLeaf ∧ answer = .error cause) ∧
    (result = .error .publicValuesMismatch ↔
      supported ∧ path.LeadsToLeaf ∧ ∃ proof computed, answer = .ok (proof, computed) ∧
        computed ≠ values) ∧
    ∀ signal, result = .ok signal ↔
      supported ∧ path.LeadsToLeaf ∧ answer = .ok (signal.proof, values) ∧
        signal.values.toList = values := by
  intro result answer supported values
  -- Every run ends in one of the five outcomes, and the outcomes exclude one another.
  by_cases hsupported : supported
  · have hdepth : isSupportedDepth path.depth = true :=
      MerkleTree.isSupportedDepth_iff.mpr hsupported
    have hcheck := MerkleProof.isConsistent_iff_leadsToLeaf hsupported.2
    by_cases hleads : path.LeadsToLeaf
    · rcases hanswer : answer with cause | ⟨proof, computed⟩
      · have hresult : result = .error (.proofSystem cause) :=
          generate_of_error hdepth (hcheck.mpr hleads) hanswer
        simp [hresult, hsupported, hleads, eq_comm]
      · by_cases hvalues : computed = values
        · -- A signal is its proof and its values, and the values are told by their list.
          subst hvalues
          have hresult : result = .ok { values := _, proof } :=
            generate_of_prover hdepth (hcheck.mpr hleads) hanswer
          have hsignal : ∀ signal : SignalProof, result = .ok signal ↔
              proof = signal.proof ∧ signal.values.toList = values := by
            rintro ⟨values', proof'⟩
            rw [hresult, Except.ok.injEq, mk.injEq, and_comm, eq_comm (a := expectedValues ..),
              ← PublicValues.toList_inj]
            rfl
          refine ⟨by simp [hresult, hsupported], by simp [hresult, hleads], by simp [hresult],
            by simp [hresult], fun signal => ?_⟩
          simp [hsignal, hsupported, hleads]
        · have hresult : result = .error .publicValuesMismatch :=
            generate_of_ne hdepth (hcheck.mpr hleads) hanswer hvalues
          simp [hresult, hsupported, hleads, hvalues]
    · have hresult : result = .error (.misplacedPath path.leafIndex) :=
        generate_of_inconsistent hdepth (Bool.eq_false_iff.mpr fun hc => hleads (hcheck.mp hc))
      simp [hresult, hsupported, hleads, eq_comm]
  · have hdepth : isSupportedDepth path.depth = false :=
      Bool.eq_false_iff.mpr fun hs => hsupported (MerkleTree.isSupportedDepth_iff.mp hs)
    have hresult : result = .error (.tree (.unsupportedDepth path.depth)) :=
      generate_of_unsupported hdepth
    simp [hresult, hsupported, eq_comm]

end GroupSignal.SignalProof
