import GroupSignal.Proofs.Groth16.Compression
import GroupSignal.Proofs.Groth16.Valid

/-!
# Compressed proofs are canonical

A compressed form gives a proof if and only if the proof is valid and has that compressed form. So
compressing and decompressing undo each other, and no proof has a second form. A proof has no
compressed form if its second point has an ordinate with no part without `u`; there are such points
on the twist.

## Main definitions

* `EncodedProof.flip`: the bits of a mask changed in one word

## Main results

* `Proof.exists_compress_iff`: which proofs have a compressed form
* `EncodedProof.decompress_eq_ok_iff`: which compressed forms give a proof
* `Proof.compress_decompress`, `EncodedProof.decompress_compress`: the two round trips
-/

namespace GroupSignal

/-! ## Points that have words -/

theorem G1.exists_compress? {p : G1.Point} (h : curve.contains p = true) :
    ∃ w, compress? p = some w := by
  cases p with
  | infinity => exact ⟨0, rfl⟩
  | affine x y => exact ⟨_, compress?_affine h⟩

/-- Infinity, or a point of the second group whose ordinate has a part without `u`. -/
def G2.HasFirstPart (p : G2.Point) : Prop := p = .infinity ∨ ∃ x y, p = .affine x y ∧ y.re ≠ 0

theorem G2.exists_compress?_iff {p : G2.Point} (h : curve.contains p = true) :
    (∃ w, compress? p = some w) ↔ HasFirstPart p := by
  cases p with
  | infinity => exact iff_of_true ⟨(0, 0), rfl⟩ (.inl rfl)
  | affine x y => simp [compress?_affine h, HasFirstPart]

namespace Groth16

/-! ## Points and words of a proof -/

variable {proof : Proof} {w : EncodedProof .compressed} {a head tail c : Word}

theorem EncodedProof.ofWords_inj {a' head' tail' c' : Word} :
    ofWords a head tail c = ofWords a' head' tail' c' ↔
      a = a' ∧ head = head' ∧ tail = tail' ∧ c = c' := by
  constructor
  · intro h
    have hwords : #v[a, head, tail, c] = #v[a', head', tail', c'] := congrArg EncodedProof.words h
    simpa using hwords
  · rintro ⟨rfl, rfl, rfl, rfl⟩
    rfl

theorem EncodedProof.exists_ofWords (w : EncodedProof .compressed) :
    ∃ a head tail c, w = ofWords a head tail c := by
  obtain ⟨v⟩ := w
  have hsize : ProofEncoding.compressed.words = 4 := rfl
  refine ⟨v[0], v[1], v[2], v[3], congrArg EncodedProof.mk (Vector.ext fun i hi => ?_)⟩
  match i, hi with
  | 0, _ | 1, _ | 2, _ | 3, _ => rfl

theorem Proof.compress_eq_ok_iff_compress? : proof.compress = .ok w ↔ proof.compress? = some w := by
  rw [compress]
  cases proof.compress? <;> simp

theorem Proof.compress_eq_ofWords_iff : proof.compress = .ok (.ofWords a head tail c) ↔
    G1.compress? proof.a = some a ∧ G2.compress? proof.b = some (head, tail) ∧
      G1.compress? proof.c = some c := by
  rw [compress_eq_ok_iff_compress?]
  show (G1.compress? proof.a).bind (fun a => (G2.compress? proof.b).bind fun b =>
    (G1.compress? proof.c).bind fun c => some (EncodedProof.ofWords a b.1 b.2 c)) = _ ↔ _
  simp only [Option.bind_eq_some_iff, Option.some.injEq, EncodedProof.ofWords_inj]
  constructor
  · rintro ⟨_, ha, _, hb, _, hc, rfl, rfl, rfl, rfl⟩
    exact ⟨ha, hb, hc⟩
  · rintro ⟨ha, hb, hc⟩
    exact ⟨_, ha, _, hb, _, hc, rfl, rfl, rfl, rfl⟩

theorem EncodedProof.decompress_ofWords_iff : (ofWords a head tail c).decompress = .ok proof ↔
    G1.decompress a = .ok proof.a ∧ G2.decompress head tail = .ok proof.b ∧
      G1.decompress c = .ok proof.c := by
  show (G1.decompress a >>= fun a => G2.decompress head tail >>= fun b =>
    G1.decompress c >>= fun c => .ok { a, b, c }) = .ok proof ↔ _
  simp only [bind_eq_ok_iff, Except.ok.injEq]
  constructor
  · rintro ⟨_, ha, _, hb, _, hc, rfl⟩
    exact ⟨ha, hb, hc⟩
  · rintro ⟨ha, hb, hc⟩
    exact ⟨_, ha, _, hb, _, hc, rfl⟩

/-- **Which proofs on the curves have a compressed form.** -/
theorem Proof.exists_compress_iff (h : proof.OnCurves) :
    (∃ w, proof.compress = .ok w) ↔ G2.HasFirstPart proof.b := by
  rw [← G2.exists_compress?_iff h.b]
  constructor
  · rintro ⟨w, hw⟩
    obtain ⟨a, head, tail, c, rfl⟩ := w.exists_ofWords
    exact ⟨_, (compress_eq_ofWords_iff.mp hw).2.1⟩
  · -- The points of the first group always have a word.
    rintro ⟨⟨head, tail⟩, hb⟩
    obtain ⟨a, ha⟩ := G1.exists_compress? h.a
    obtain ⟨c, hc⟩ := G1.exists_compress? h.c
    exact ⟨_, compress_eq_ofWords_iff.mpr ⟨ha, hb, hc⟩⟩

/-- **Which compressed forms give a proof.** -/
theorem EncodedProof.decompress_eq_ok_iff :
    w.decompress = .ok proof ↔ proof.Valid ∧ proof.compress = .ok w := by
  obtain ⟨a, head, tail, c, rfl⟩ := w.exists_ofWords
  rw [decompress_ofWords_iff, Proof.compress_eq_ofWords_iff, G1.decompress_eq_ok_iff,
    G2.decompress_eq_ok_iff, G1.decompress_eq_ok_iff]
  constructor
  · rintro ⟨⟨ha, hwa⟩, ⟨hb, hwb⟩, hc, hwc⟩
    exact ⟨⟨ha, hb, hc⟩, hwa, hwb, hwc⟩
  · rintro ⟨h, hwa, hwb, hwc⟩
    exact ⟨⟨h.a, hwa⟩, ⟨h.b, hwb⟩, h.c, hwc⟩

/-- No two compressed forms give one proof. -/
theorem EncodedProof.eq_of_decompress {w' : EncodedProof .compressed}
    (h : w.decompress = .ok proof) (h' : w'.decompress = .ok proof) : w' = w :=
  Except.ok.inj ((decompress_eq_ok_iff.mp h').2.symm.trans (decompress_eq_ok_iff.mp h).2)

/-! ## The round trips -/

/-- **From a valid proof and back.** There is a compressed form unless the ordinate of the second
point has no part without `u`. Its bytes are read and decompressed to the proof. -/
theorem Proof.compress_decompress (h : proof.Valid) :
    ((∃ w, proof.compress = .ok w) ↔ G2.HasFirstPart proof.b) ∧
      ∀ w, proof.compress = .ok w →
        EncodedProof.ofBytes .compressed w.toBytes = .ok w ∧ w.decompress = .ok proof :=
  ⟨exists_compress_iff h.onCurves, fun w hw =>
    ⟨w.ofBytes_toBytes, EncodedProof.decompress_eq_ok_iff.mpr ⟨h, hw⟩⟩⟩

/-- The compressed form of `Proof.sample`: a sign in the first word, a hint in the second, and zero
for infinity in the last. -/
def EncodedProof.sample : EncodedProof .compressed :=
  .ofWords 3 43428187996092228543778283048931317925483025438314072347962079973142623411126
    11559732032986387107991004021392285783925812861821192530917403151452391805634 0

theorem Proof.compress_decompress_sample :
    Proof.sample.Valid ∧ Proof.sample.compress = .ok EncodedProof.sample ∧
      G2.HasFirstPart Proof.sample.b ∧ EncodedProof.sample.decompress = .ok Proof.sample := by
  have hcompress : Proof.sample.compress = .ok EncodedProof.sample := by decide +kernel
  obtain ⟨hexists, hread⟩ := compress_decompress valid_sample
  exact ⟨valid_sample, hcompress, hexists.mp ⟨_, hcompress⟩, (hread _ hcompress).2⟩

/-- The bits of a mask changed in one word. -/
def EncodedProof.flip {e : ProofEncoding} (w : EncodedProof e) (i : Fin e.words) (mask : Word) :
    EncodedProof e :=
  ⟨w.words.set i (w.words[i] ^^^ mask)⟩

theorem EncodedProof.flip_ne {e : ProofEncoding} (w : EncodedProof e) (i : Fin e.words)
    {mask : Word} (h : mask ≠ 0) : w.flip i mask ≠ w := by
  intro heq
  -- A word that a mask leaves as it is says that the mask is zero.
  have hword : w.words[i] ^^^ mask = w.words[i] := by
    have hset := congrArg (fun w => w.words[i]) heq
    simpa [flip] using hset
  refine h ?_
  calc mask = w.words[i] ^^^ (w.words[i] ^^^ mask) := by
        rw [← BitVec.xor_assoc, BitVec.xor_self, BitVec.zero_xor]
    _ = 0 := by
        rw [hword]
        exact BitVec.xor_self

/-- **From a byte string and back.** Any 128 bytes are a compressed form. If it gives a proof, the
proof is valid and has that compressed form, and no other byte string gives it; in particular none
with other bits in a word, be it the sign or the hint, at infinity or elsewhere. -/
theorem EncodedProof.decompress_compress {b : Bytes} (h : b.length = 128) :
    ∃ w, ofBytes .compressed b = .ok w ∧ w.toBytes = b ∧
      ∀ proof, w.decompress = .ok proof →
        proof.Valid ∧ proof.compress = .ok w ∧
          (∀ b' w', ofBytes .compressed b' = .ok w' → w'.decompress = .ok proof → b' = b) ∧
          ∀ i mask, mask ≠ 0 → (w.flip i mask).decompress ≠ .ok proof := by
  obtain ⟨w, hw⟩ := exists_ofBytes (e := .compressed) h
  have hbytes : w.toBytes = b := ofBytes_eq_ok_iff.mp hw
  refine ⟨w, hw, hbytes, fun proof hproof => ?_⟩
  obtain ⟨hvalid, hcompress⟩ := decompress_eq_ok_iff.mp hproof
  refine ⟨hvalid, hcompress, fun b' w' hw' hproof' => ?_, fun i mask hmask hproof' => ?_⟩
  · rw [← ofBytes_eq_ok_iff.mp hw', ← hbytes, eq_of_decompress hproof hproof']
  · exact w.flip_ne i hmask (eq_of_decompress hproof hproof')

theorem EncodedProof.decompress_compress_sample :
    EncodedProof.sample.toBytes.length = 128 ∧ EncodedProof.sample.decompress = .ok Proof.sample ∧
      (EncodedProof.sample.flip ⟨3, by decide⟩ 1).decompress ≠ .ok Proof.sample := by
  have hlength : EncodedProof.sample.toBytes.length = 128 := length_toBytes _
  have hsample : EncodedProof.sample.decompress = .ok Proof.sample := by decide +kernel
  obtain ⟨w, hw, -, hread⟩ := decompress_compress hlength
  obtain rfl := Except.ok.inj (hw.symm.trans (ofBytes_toBytes _))
  exact ⟨hlength, hsample, (hread _ hsample).2.2.2 _ 1 (by decide)⟩

/-! ## Proofs without a compressed form -/

/-- **Which proofs on the curves have no compressed form.** -/
theorem Proof.compress_eq_error_iff (h : proof.OnCurves) :
    proof.compress = .error (.point .incompressible) ↔ ∃ x y, proof.b = .affine x y ∧ y.re = 0 := by
  have herror : proof.compress = .error (.point .incompressible) ↔
      ¬ ∃ w, proof.compress = .ok w := by
    rw [compress]
    cases proof.compress? <;> simp
  rw [herror, exists_compress_iff h, G2.HasFirstPart]
  cases proof.b <;> simp

/-- A proof on the curves, with a point of the twist whose ordinate has no part without `u`. -/
def Proof.incompressible : Proof where
  a := G1.curve.generator
  b := .affine
    ⟨11161263371744170948612641958984674565273994439799910679997480016513227936221, 2⟩
    ⟨0, 18127337043531875153454218246218864057855276167243230465787263263660018995022⟩
  c := G1.curve.generator

theorem Proof.onCurves_incompressible : Proof.incompressible.OnCurves where
  a := by decide +kernel
  b := by decide +kernel
  c := by decide +kernel

theorem Proof.compress_eq_error_iff_incompressible : Proof.incompressible.OnCurves ∧
    Proof.incompressible.compress = .error (.point .incompressible) :=
  ⟨onCurves_incompressible, (compress_eq_error_iff onCurves_incompressible).mpr ⟨_, _, rfl, rfl⟩⟩

/-- To lie on the curves is not enough for a compressed form. -/
theorem Proof.not_forall_onCurves_exists_compress :
    ¬ ∀ proof : Proof, proof.OnCurves → ∃ w, proof.compress = .ok w := by
  intro h
  obtain hinfinity | ⟨x, y, hpoint, hre⟩ :=
    (exists_compress_iff onCurves_incompressible).mp (h _ onCurves_incompressible)
  · cases hinfinity
  · exact hre (by cases hpoint; rfl)

end Groth16

end GroupSignal
