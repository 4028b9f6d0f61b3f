import GroupSignal.Proofs.Groth16.Valid

/-!
# Packed proofs

A word carries a coordinate in one way, and the eight coordinates of a valid proof are those of no
other, since the zeros that stand for infinity belong to no other point of a group. So a packed form
gives a proof if and only if the proof is valid and has that packed form, packing and unpacking undo
each other, and every byte of a packed proof counts.

## Main results

* `EncodedProof.unpack_eq_ok_iff`: which packed forms give a proof
* `EncodedProof.unpack_pack`: the two round trips
-/

namespace GroupSignal.Groth16

variable {proof : Proof} {w w' : EncodedProof .packed}

/-- **Which packed forms give a proof.** -/
theorem EncodedProof.unpack_eq_ok_iff : w.unpack = .ok proof ↔ proof.Valid ∧ proof.pack = w := by
  obtain ⟨v⟩ := w
  change Vector Word 8 at v
  -- Each word carries its coordinate if and only if it is the word of the coordinate.
  have hwords : (∀ i : Fin 8, Coordinate.ofWord v[i] = .ok proof.coordinates[i]) ↔
      proof.coordinates.map Coordinate.toWord = v := by
    simp only [Coordinate.ofWord_eq_ok_iff]
    constructor
    · intro h
      refine Vector.ext fun i hi => ?_
      rw [Vector.getElem_map]
      exact (h ⟨i, hi⟩).symm
    · rintro rfl i
      exact Vector.getElem_map ..
  have hpack : proof.pack = ⟨v⟩ ↔ proof.coordinates.map Coordinate.toWord = v :=
    ⟨congrArg EncodedProof.words, congrArg (EncodedProof.mk (e := .packed))⟩
  rw [hpack, ← hwords]
  exact Proof.ofCoordinates_eq_ok_iff

/-- No two packed forms give one proof. -/
theorem EncodedProof.eq_of_unpack (h : w.unpack = .ok proof) (h' : w'.unpack = .ok proof) :
    w' = w :=
  (unpack_eq_ok_iff.mp h').2.symm.trans (unpack_eq_ok_iff.mp h).2

/-- **Valid proofs and accepted byte strings of 256 bytes are the same thing.** The bytes of a valid
proof are read and unpacked to it. Any 256 bytes are a packed form. If it gives a proof, the proof
is valid and has that packed form, and a byte string that differs anywhere gives another proof or
none. -/
theorem EncodedProof.unpack_pack :
    (∀ proof : Proof, proof.Valid → proof.pack.toBytes.length = 256 ∧
      ofBytes .packed proof.pack.toBytes = .ok proof.pack ∧ proof.pack.unpack = .ok proof) ∧
    ∀ b : Bytes, b.length = 256 → ∃ w, ofBytes .packed b = .ok w ∧ w.toBytes = b ∧
      ∀ proof, w.unpack = .ok proof → proof.Valid ∧ proof.pack = w ∧
        ∀ b' w', b' ≠ b → ofBytes .packed b' = .ok w' → w'.unpack ≠ .ok proof := by
  refine ⟨fun proof h => ?_, fun b hlength => ?_⟩
  · exact ⟨length_toBytes _, ofBytes_toBytes _, unpack_eq_ok_iff.mpr ⟨h, rfl⟩⟩
  · obtain ⟨w, hw⟩ := exists_ofBytes (e := .packed) hlength
    have hbytes : w.toBytes = b := ofBytes_eq_ok_iff.mp hw
    refine ⟨w, hw, hbytes, fun proof hproof => ?_⟩
    obtain ⟨hvalid, hpack⟩ := unpack_eq_ok_iff.mp hproof
    -- Another byte string with this proof would have the same packed form.
    refine ⟨hvalid, hpack, fun b' w' hne hw' hproof' => hne ?_⟩
    rw [← ofBytes_eq_ok_iff.mp hw', ← hbytes, eq_of_unpack hproof hproof']

/-- The sample proof there and back, and its bytes with the last one changed, which makes the zeros
of infinity the coordinates of a point off the curve. -/
theorem EncodedProof.unpack_pack_sample :
    let b := Proof.sample.pack.toBytes
    Proof.sample.Valid ∧ b.length = 256 ∧ b.set 255 1 ≠ b ∧
      Proof.sample.pack.unpack = .ok Proof.sample ∧
      ∃ w, ofBytes .packed (b.set 255 1) = .ok w ∧ w.unpack ≠ .ok Proof.sample := by
  intro b
  obtain ⟨hlength, hread, hunpack⟩ := unpack_pack.1 _ Proof.valid_sample
  have hne : b.set 255 1 ≠ b := by decide +kernel
  obtain ⟨w, hw, -, hunique⟩ := unpack_pack.2 b hlength
  obtain rfl := Except.ok.inj (hw.symm.trans hread)
  obtain ⟨w', hw', -⟩ := unpack_pack.2 (b.set 255 1) ((List.length_set ..).trans hlength)
  exact ⟨Proof.valid_sample, hlength, hne, hunpack, w', hw',
    (hunique _ hunpack).2.2 _ _ hne hw'⟩

end GroupSignal.Groth16
