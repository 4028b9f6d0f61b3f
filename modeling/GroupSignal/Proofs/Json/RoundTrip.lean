import GroupSignal.Proofs.Document.Values

/-!
# JSON texts are read as what they were written from

What is written for a document without blanks has the events of the document, and the reader of a
type takes just these events from the document of a value. So the JSON text of a value is read as
the value, for every type that has a document.

## Main definitions

* `Json.ReadBack`: the JSON text of a value is read as the value

## Main results

* `Json.readBack_all`: the values of every type are read back
-/

namespace GroupSignal

/-- The JSON text that is written for a value is read as this value. -/
def Json.ReadBack {α : Type} (document : α → Document) (reader : Reader α) (a : α) : Prop :=
  Reader.runJson reader (Json.events (Json.compact (document a))) = .ok a

theorem Reader.Takes.readBack {α : Type} {document : α → Document} {reader : Reader α} {a : α}
    (h : Takes reader ((document a).events .json) a) : Json.ReadBack document reader a := by
  rw [Json.ReadBack, Document.events_compact]
  exact h.runJson

theorem Config.ofText_compact {config : Config} (hmin : minDepth ≤ config.treeDepth.toNat)
    (hmax : config.treeDepth.toNat ≤ maxDepth) :
    ofText (Json.compact config.document) = .ok config := by
  have hread : Reader.runJson (read .json) (Json.events (Json.compact config.document)) =
      .ok config := config.takes_read.readBack
  rw [ofText, hread]
  show (config.validate).mapError InputError.value = _
  rw [validate, if_pos ⟨hmin, hmax⟩]
  rfl

/-- **JSON texts are read as what they were written from**: scalars, steps and Merkle proofs of any
leaf index and length, proofs of points in their groups, encoded proofs of any words, signals with
such proofs, and configurations of a valid depth and any paths. -/
theorem Json.readBack_all :
    (∀ x, ReadBack (Scalar.document .json) (Scalar.read .json) x) ∧
    (∀ step, ReadBack (Branch.document .json) (Branch.read .json) step) ∧
    (∀ proof, ReadBack (MerkleProof.document .json) (MerkleProof.read .json) proof) ∧
    (∀ proof : Groth16.Proof, proof.Valid →
      ReadBack Groth16.Proof.document (Groth16.Proof.read .json) proof) ∧
    (∀ e, ∀ w : Groth16.EncodedProof e,
      ReadBack Groth16.EncodedProof.document (Groth16.EncodedProof.read e .json) w) ∧
    (∀ signal : SignalProof, signal.proof.Valid →
      ReadBack (SignalProof.document .json) (SignalProof.read .json) signal) ∧
    ∀ treeDepth : UInt64, 1 ≤ treeDepth.toNat → treeDepth.toNat ≤ 32 →
      ∀ zkeyPath graphPath verifyingKeyPath : String,
        let config : Config := { treeDepth, zkeyPath, graphPath, verifyingKeyPath }
        Config.ofText (Json.compact config.document) = .ok config :=
  ⟨fun x => x.takes_read.readBack, fun step => step.takes_read.readBack,
    fun proof => proof.takes_read.readBack, fun _ h => (Groth16.Proof.takes_read h).readBack,
    fun _ w => w.takes_read.readBack, fun _ h => (SignalProof.takes_read h).readBack,
    fun _ hmin hmax _ _ _ => Config.ofText_compact hmin hmax⟩

/-- The sample proof, a signal with it, and a configuration with escapes in its paths. -/
theorem Json.readBack_all_sample :
    let signal : SignalProof := ⟨⟨1, 2, 3, 4⟩, Groth16.Proof.sample⟩
    let config : Config := ⟨32, "a\"\\\n", "\x00\x1f", "π/😀"⟩
    Groth16.Proof.sample.Valid ∧
      ReadBack Groth16.Proof.document (Groth16.Proof.read .json) Groth16.Proof.sample ∧
      ReadBack (SignalProof.document .json) (SignalProof.read .json) signal ∧
      config.treeDepth.toNat = 32 ∧ Config.ofText (Json.compact config.document) = .ok config := by
  intro signal config
  have hvalid := Groth16.Proof.valid_sample
  obtain ⟨-, -, -, hproof, -, hsignal, hconfig⟩ := readBack_all
  exact ⟨hvalid, hproof _ hvalid, hsignal signal hvalid, rfl,
    hconfig 32 (by decide) (by decide) _ _ _⟩

end GroupSignal
