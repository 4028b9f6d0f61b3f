import GroupSignal.Proofs.Cbor.Reading
import GroupSignal.Proofs.Document.Values

/-!
# CBOR bytes are read as what they were written from

The reader of every type takes the events of the document of a value, and these are what the bytes
of the document have. Only the paths of a configuration can be so long that marks stand among them,
and readers of texts pass over marks. CBOR writes lengths and counts on 64 bits, so the bytes stand
for the document when no path has more steps and no text more bytes than that.

The same bytes show how each part travels: scalars and encoded proofs as byte strings, leaf indices
and the coordinates of proofs as the texts that JSON has too.

## Main definitions

* `Event.IsMark`, `Cbor.HoldsBytes`: marks, and bytes whose first item is a byte string
* `Cbor.ReadBack`: the bytes of a value are read as the value
* `Cbor.carried`, `Cbor.pairEvents`: the events that the bytes of a document have, and those of two
  texts

## Main results

* `Scalar.read_eq_ok_iff`: which byte strings are read as a scalar
* `Cbor.readBack_values`: the values of every type are read back, and how they travel
-/

namespace GroupSignal

open Reader

/-! ## Documents of short strings -/

/-- A document has short strings only, so that no mark is read. -/
abbrev Document.Short (d : Document) : Prop := d.Fits (Cbor.longestKey + 1)

theorem Numeral.utf8ByteSize_hex_le {n k : ℕ} (hk : 0 < k) (h : n < 16 ^ k) :
    (hex n).utf8ByteSize ≤ k + 2 := by
  have hascii : ∀ c ∈ '0' :: 'x' :: Nat.toDigits 16 n, c.toNat < 128 := by
    intro c hc
    rcases List.mem_cons.mp hc with rfl | hc
    · decide
    rcases List.mem_cons.mp hc with rfl | hc
    · decide
    have hdigit := isDigit_of_mem_toDigits (by decide) (by decide) hc
    obtain ⟨d, hd, -⟩ := isDigit_eq_true_iff.mp hdigit
    exact toNat_lt_of_digit? hd
  have hlength := (Nat.length_toDigits_le_iff (by decide) hk).mpr h
  rw [hex, ← Bytes.length_ofText, Bytes.ofText_ofList hascii, List.length_map, List.length_cons,
    List.length_cons]
  omega

/-- Hexadecimal numerals of a word are short. -/
theorem Document.short_hex {n : ℕ} (h : n < 16 ^ 64) : (text (Numeral.hex n)).Short := by
  have hsize := Numeral.utf8ByteSize_hex_le (by decide) h
  rw [Short, fits_text]
  exact Nat.lt_of_le_of_lt hsize (by decide)

theorem Scalar.short_document (x : Scalar) : (document .cbor x).Short := by
  have hlength : (toBytes x).length = 32 := Bytes.length_ofNat 32 x.val
  rw [document, Document.Short, Document.fits_bytes, hlength]
  decide

theorem Branch.short_document (step : Branch) : (document .cbor step).Short := by
  cases step with
  | left s =>
    rw [document, Document.Short, Document.fits_record, List.forall_mem_singleton]
    exact ⟨(by decide : 1 < UInt64.size), (by decide : "Left".utf8ByteSize < _), s.short_document⟩
  | right s =>
    rw [document, Document.Short, Document.fits_record, List.forall_mem_singleton]
    exact ⟨(by decide : 1 < UInt64.size), (by decide : "Right".utf8ByteSize < _), s.short_document⟩

theorem MerkleProof.short_document {proof : MerkleProof} (h : proof.path.length < UInt64.size) :
    (document .cbor proof).Short := by
  have hindex : (Document.hexInteger proof.leafIndex).Short :=
    Document.short_hex (proof.leafIndex.toNat_lt.trans (by decide))
  have hpath : (Document.seq (proof.path.map (Branch.document .cbor))).Short := by
    rw [Document.Short, Document.fits_seq, List.length_map]
    refine ⟨h, fun d hd => ?_⟩
    obtain ⟨step, -, rfl⟩ := List.mem_map.mp hd
    exact step.short_document
  rw [document, Document.Short, Document.fits_record]
  simp only [List.forall_mem_cons]
  exact ⟨(by decide : 2 < UInt64.size), ⟨by decide, hindex⟩, ⟨by decide, hpath⟩,
    List.forall_mem_nil _⟩

namespace Groth16

theorem Proof.short_pairDocument {p : String × String} (h₁ : (Document.text p.1).Short)
    (h₂ : (Document.text p.2).Short) : (pairDocument p).Short := by
  rw [pairDocument, Document.Short, Document.fits_seq]
  simp only [List.forall_mem_cons]
  exact ⟨(by decide : 2 < UInt64.size), h₁, h₂, List.forall_mem_nil _⟩

theorem Proof.short_document (proof : Proof) : proof.document.Short := by
  have htext : ∀ i (hi : i < 8), (Document.text proof.texts[i]).Short := by
    intro i hi
    rw [texts, Vector.getElem_map]
    exact Document.short_hex ((Residue.isLt _).trans (by decide))
  have hpair : ∀ i j (hi : i < 8) (hj : j < 8),
      (pairDocument (proof.texts[i], proof.texts[j])).Short :=
    fun i j hi hj => short_pairDocument (htext i hi) (htext j hj)
  have hb : (Document.seq [pairDocument (proof.texts[2], proof.texts[3]),
      pairDocument (proof.texts[4], proof.texts[5])]).Short := by
    rw [Document.Short, Document.fits_seq]
    simp only [List.forall_mem_cons]
    exact ⟨(by decide : 2 < UInt64.size), hpair 2 3 _ _, hpair 4 5 _ _, List.forall_mem_nil _⟩
  rw [document, textsDocument, byPoint, Document.Short, Document.fits_seq]
  simp only [List.forall_mem_cons]
  exact ⟨(by decide : 3 < UInt64.size), hpair 0 1 _ _, hb, hpair 6 7 _ _, List.forall_mem_nil _⟩

theorem EncodedProof.short_document {e : ProofEncoding} (w : EncodedProof e) :
    w.document.Short := by
  rw [document, Document.Short, Document.fits_bytes, w.length_toBytes]
  cases e <;> decide

end Groth16

theorem SignalProof.short_document (signal : SignalProof) : (document .cbor signal).Short := by
  rw [document, Document.Short, Document.fits_record]
  simp only [List.forall_mem_cons]
  exact ⟨(by decide : 5 < UInt64.size), ⟨by decide, Scalar.short_document _⟩,
    ⟨by decide, Scalar.short_document _⟩, ⟨by decide, Scalar.short_document _⟩,
    ⟨by decide, Scalar.short_document _⟩, ⟨by decide, signal.proof.short_document⟩,
    List.forall_mem_nil _⟩

/-! ## Reading behind marks -/

/-- A mark on the item that follows. -/
def Event.IsMark : Event → Prop
  | .tag _ | .unwieldy => True
  | _ => False

theorem Reader.dropMarks_append {marks es : List Event} (h : ∀ e ∈ marks, e.IsMark) :
    dropMarks (marks ++ es) = dropMarks es := by
  induction marks with
  | nil => rfl
  | cons e marks ih =>
    obtain ⟨he, hmarks⟩ := List.forall_mem_cons.mp h
    rw [← ih hmarks]
    cases e <;> first | rfl | exact he.elim

/-- A text is read whether it is marked as long or not. -/
theorem Reader.takes_marked_text (s : String) : Takes text (Cbor.marked (.text s)) s := by
  rw [Cbor.marked, Cbor.mark]
  split
  · exact fun _ => rfl
  · exact fun _ => rfl

theorem Config.takes_marked (config : Config) : Takes (read .cbor)
    ((config.document.events .cbor).flatMap Cbor.marked) config := by
  obtain ⟨treeDepth, zkeyPath, graphPath, verifyingKeyPath⟩ := config
  have hwritten : members.Written _ (treeDepth, zkeyPath, graphPath, verifyingKeyPath, ()) :=
    .cons (takes_natural .cbor treeDepth) (.cons (takes_marked_text zkeyPath)
      (.cons (takes_marked_text graphPath) (.cons (takes_marked_text verifyingKeyPath) .nil)))
  have hnames : ["tree_depth", "zkey_path", "graph_path", "verifying_key_path"].Nodup := by decide
  -- The names are short, so only the paths can have marks.
  have hkey : ∀ name ∈ ["tree_depth", "zkey_path", "graph_path", "verifying_key_path"],
      Cbor.marked (.text name) = [.text name] := by
    have hshort : ∀ name ∈ ["tree_depth", "zkey_path", "graph_path", "verifying_key_path"],
        name.utf8ByteSize < Cbor.longestKey + 1 := by decide
    exact fun name hname => Cbor.marked_eq (hshort name hname)
  simp only [List.forall_mem_cons] at hkey
  obtain ⟨hdepth, hzkey, hgraph, hkey, -⟩ := hkey
  have hevents : ((document ⟨treeDepth, zkeyPath, graphPath, verifyingKeyPath⟩).events
      .cbor).flatMap Cbor.marked =
      .openRecord (some 4) :: (Members.namedEvents [
        ("tree_depth", [.natural treeDepth]), ("zkey_path", Cbor.marked (.text zkeyPath)),
        ("graph_path", Cbor.marked (.text graphPath)),
        ("verifying_key_path", Cbor.marked (.text verifyingKeyPath))] ++ []) := by
    simp [document, Document.events, Document.memberEvents, Document.closing, Document.counted,
      Members.namedEvents, hdepth, hzkey, hgraph, hkey]
  rw [hevents]
  exact (hwritten.takes_read hnames .cbor).bind_pure

/-! ## Scalars from byte strings -/

/-- The first item of the bytes is a byte string, whether it is written in one piece or in several,
with or without marks. -/
def Cbor.HoldsBytes (wire b : Bytes) : Prop :=
  ∃ marks behind, (∀ e ∈ marks, Event.IsMark e) ∧ events wire = marks ++ .bytes b :: behind

theorem Cbor.holdsBytes_encode {b : Bytes} (h : b.length < UInt64.size) :
    HoldsBytes (encode (.bytes b)) b := by
  refine ⟨mark b.length, [], ?_, ?_⟩
  · intro e he
    rw [mark] at he
    split at he
    · cases he
    · rw [List.mem_singleton.mp he]
      trivial
  · rw [events_encode (Document.fits_bytes.mpr h)]
    exact List.append_nil _

/-- **Which byte strings are read as a scalar**: those of 32 bytes that write its number. -/
theorem Scalar.read_eq_ok_iff {wire b : Bytes} (h : Cbor.HoldsBytes wire b) {x : Scalar} :
    runCbor (read .cbor) (Cbor.events wire) = .ok x ↔ b.length = 32 ∧ b.toNat = x.val := by
  obtain ⟨marks, behind, hmarks, hevents⟩ := h
  have hbytes : byteString (marks ++ .bytes b :: behind) = .ok (b, behind) := by
    have hitem : item (marks ++ .bytes b :: behind) = event (dropMarks (.bytes b :: behind)) :=
      congrArg event (dropMarks_append hmarks)
    show (item >>= _ : Reader Bytes) _ = _
    exact run_bind_eq_ok_iff.mpr ⟨.bytes b, behind, hitem, rfl⟩
  have hread : read .cbor (marks ++ .bytes b :: behind) =
      (do if b.length ≠ 32 then Reader.fail .wrongByteCount
          Reader.ofExcept ReadError.value (ofBytes b) : Reader Scalar) behind := by
    show (byteString _ >>= _) = _
    rw [hbytes]
    rfl
  rw [hevents, runCbor, hread]
  by_cases hlength : b.length = 32
  · rw [if_neg (not_not.mpr hlength), and_iff_right hlength, ← ofNat_eq_ok_iff]
    show Except.map _ (Reader.ofExcept ReadError.value (ofNat b.toNat) behind) = _ ↔ _
    cases ofNat b.toNat with
    | error cause => exact iff_of_false nofun nofun
    | ok y =>
      exact ⟨fun hy => congrArg _ (Except.ok.inj hy), fun hy => congrArg _ (Except.ok.inj hy)⟩
  · rw [if_pos hlength]
    exact iff_of_false nofun fun hb => hlength hb.1

/-! ## Every type -/

namespace Cbor

/-- The CBOR bytes that are written for a value are read as this value, and the JSON text of what is
read is that of the value. -/
def ReadBack {α : Type} (document : Format → α → Document) (read : Format → Reader α) (a : α) :
    Prop :=
  let decoded := runCbor (read .cbor) (events (encode (document .cbor a)))
  decoded = .ok a ∧
    decoded.map (fun a => Json.compact (document .json a)) = .ok (Json.compact (document .json a))

section Values

variable {α : Type} {document : Format → α → Document} {read : Format → Reader α} {a : α}

theorem readBack_of_eq (h : runCbor (read .cbor) (events (encode (document .cbor a))) = .ok a) :
    ReadBack document read a := by
  refine ⟨h, ?_⟩
  rw [h]
  rfl

theorem readBack_of_takes (hshort : (document .cbor a).Short)
    (h : Takes (read .cbor) ((document .cbor a).events .cbor) a) : ReadBack document read a := by
  refine readBack_of_eq ?_
  have hread := h []
  rw [List.append_nil] at hread
  rw [events_encode_of_short hshort, runCbor, hread]
  rfl

end Values

theorem readBack_config {config : Config} (hzkey : config.zkeyPath.utf8ByteSize < UInt64.size)
    (hgraph : config.graphPath.utf8ByteSize < UInt64.size)
    (hkey : config.verifyingKeyPath.utf8ByteSize < UInt64.size) :
    ReadBack (fun _ => Config.document) Config.read config := by
  have hfits : config.document.Fits UInt64.size := by
    rw [Config.document, Document.fits_record]
    simp only [List.forall_mem_cons, Document.fits_text, Document.fits_natural]
    exact ⟨(by decide : 4 < UInt64.size), ⟨by decide, trivial⟩, ⟨by decide, hzkey⟩,
      ⟨by decide, hgraph⟩, ⟨by decide, hkey⟩, List.forall_mem_nil _⟩
  refine readBack_of_eq ?_
  have hread := config.takes_marked []
  rw [List.append_nil] at hread
  rw [events_encode hfits, runCbor, hread]
  rfl

/-! ## How the parts travel -/

/-- The events that the bytes of a document have. -/
def carried (d : Document) : List Event := events (encode d)

theorem carried_scalar (x : Scalar) : carried (x.document .cbor) = [.bytes x.toBytes] := by
  rw [carried, events_encode_of_short x.short_document]
  rfl

theorem carried_branch (step : Branch) : carried (step.document .cbor) =
    [.openRecord (some 1), .text (if step.bit = 0 then "Left" else "Right"),
      .bytes step.sibling.toBytes] := by
  rw [carried, events_encode_of_short step.short_document]
  cases step with
  | left s => rfl
  | right s => rfl

theorem carried_merkleProof {proof : MerkleProof} (h : proof.path.length < UInt64.size) :
    carried (proof.document .cbor) =
      [.openRecord (some 2), .text "leaf_index", .text (Numeral.hex proof.leafIndex.toNat),
        .text "path", .openSeq (some proof.path.length)] ++
      proof.path.flatMap fun step => carried (step.document .cbor) := by
  have hpath : Document.itemEvents .cbor (proof.path.map (Branch.document .cbor)) =
      proof.path.flatMap fun step => carried (step.document .cbor) := by
    induction proof.path with
    | nil => rfl
    | cons step path ih =>
      rw [List.map_cons, Document.itemEvents, ih, List.flatMap_cons, carried,
        events_encode_of_short step.short_document]
  rw [carried, events_encode_of_short (MerkleProof.short_document h), ← hpath]
  simp [MerkleProof.document, Document.hexInteger, Document.events, Document.memberEvents,
    Document.counted, Document.closing]

/-- The events of two texts. -/
def pairEvents (p : String × String) : List Event :=
  [.openSeq (some 2), .text p.1, .text p.2]

theorem carried_proof (proof : Groth16.Proof) :
    let points := Groth16.Proof.byPoint proof.texts
    carried proof.document = .openSeq (some 3) ::
      (pairEvents points.1 ++
        .openSeq (some 2) :: (pairEvents points.2.1.1 ++ pairEvents points.2.1.2) ++
        pairEvents points.2.2) := by
  rw [carried, events_encode_of_short proof.short_document]
  rfl

theorem carried_encodedProof {e : ProofEncoding} (w : Groth16.EncodedProof e) :
    carried w.document = [.bytes w.toBytes] := by
  rw [carried, events_encode_of_short w.short_document]
  rfl

theorem carried_signal (signal : SignalProof) : carried (signal.document .cbor) =
    [.openRecord (some 5), .text "root", .bytes signal.values.root.toBytes,
      .text "nullifier_hash", .bytes signal.values.nullifierHash.toBytes,
      .text "signal_hash", .bytes signal.values.signalHash.toBytes,
      .text "external_nullifier", .bytes signal.values.externalNullifier.toBytes,
      .text "proof"] ++ carried signal.proof.document := by
  rw [carried, carried, events_encode_of_short signal.short_document,
    events_encode_of_short signal.proof.short_document]
  rfl

/-- **CBOR bytes are read as what they were written from**, so the JSON text is the same before and
after: scalars, steps, Merkle proofs, proofs of points in their groups, encoded proofs of any words,
signals with such proofs, and configurations. The path of a Merkle proof and the three paths of a
configuration are as long as a length of 64 bits can say, which is what CBOR can write and a machine
can hold.

Scalars and encoded proofs travel as byte strings, alone and within other values; leaf indices and
the coordinates of proofs travel as their texts. And from a byte string a scalar is read just if
the string has 32 bytes that write a number below the modulus, which is then the number of the
scalar. -/
theorem readBack_values :
    ((∀ x, ReadBack Scalar.document Scalar.read x) ∧
      (∀ step, ReadBack Branch.document Branch.read step) ∧
      (∀ proof : MerkleProof, proof.depth < UInt64.size →
        ReadBack MerkleProof.document MerkleProof.read proof) ∧
      (∀ proof : Groth16.Proof, proof.Valid →
        ReadBack (fun _ => Groth16.Proof.document) Groth16.Proof.read proof) ∧
      (∀ e, ∀ w : Groth16.EncodedProof e,
        ReadBack (fun _ => Groth16.EncodedProof.document) (Groth16.EncodedProof.read e) w) ∧
      (∀ signal : SignalProof, signal.proof.Valid →
        ReadBack SignalProof.document SignalProof.read signal) ∧
      ∀ config : Config, config.zkeyPath.utf8ByteSize < UInt64.size →
        config.graphPath.utf8ByteSize < UInt64.size →
        config.verifyingKeyPath.utf8ByteSize < UInt64.size →
        ReadBack (fun _ => Config.document) Config.read config) ∧
    ((∀ x : Scalar, carried (x.document .cbor) = [.bytes x.toBytes]) ∧
      (∀ step : Branch, carried (step.document .cbor) =
        [.openRecord (some 1), .text (if step.bit = 0 then "Left" else "Right"),
          .bytes step.sibling.toBytes]) ∧
      (∀ proof : MerkleProof, proof.depth < UInt64.size → carried (proof.document .cbor) =
        [.openRecord (some 2), .text "leaf_index", .text (Numeral.hex proof.leafIndex.toNat),
          .text "path", .openSeq (some proof.depth)] ++
        proof.path.flatMap fun step => carried (step.document .cbor)) ∧
      (∀ proof : Groth16.Proof, let points := Groth16.Proof.byPoint proof.texts
        carried proof.document = .openSeq (some 3) ::
          (pairEvents points.1 ++
            .openSeq (some 2) :: (pairEvents points.2.1.1 ++ pairEvents points.2.1.2) ++
            pairEvents points.2.2)) ∧
      (∀ e, ∀ w : Groth16.EncodedProof e, carried w.document = [.bytes w.toBytes]) ∧
      ∀ signal : SignalProof, carried (signal.document .cbor) =
        [.openRecord (some 5), .text "root", .bytes signal.values.root.toBytes,
          .text "nullifier_hash", .bytes signal.values.nullifierHash.toBytes,
          .text "signal_hash", .bytes signal.values.signalHash.toBytes,
          .text "external_nullifier", .bytes signal.values.externalNullifier.toBytes,
          .text "proof"] ++ carried signal.proof.document) ∧
    (∀ b : Bytes, b.length < UInt64.size → HoldsBytes (encode (.bytes b)) b) ∧
    ∀ wire b, HoldsBytes wire b →
      ((∃ x, runCbor (Scalar.read .cbor) (events wire) = .ok x) ↔
        b.length = 32 ∧ b.toNat < scalarModulus) ∧
      ∀ x, runCbor (Scalar.read .cbor) (events wire) = .ok x ↔ b.length = 32 ∧ b.toNat = x.val := by
  refine ⟨⟨?_, ?_, ?_, ?_, ?_, ?_, ?_⟩, ⟨carried_scalar, carried_branch,
    fun _ => carried_merkleProof, carried_proof, fun _ => carried_encodedProof, carried_signal⟩,
    fun _ => holdsBytes_encode, ?_⟩
  · exact fun x => readBack_of_takes x.short_document x.takes_read
  · exact fun step => readBack_of_takes step.short_document step.takes_read
  · exact fun proof h => readBack_of_takes (MerkleProof.short_document h) proof.takes_read
  · exact fun proof h => readBack_of_takes proof.short_document (Groth16.Proof.takes_read h)
  · exact fun _ w => readBack_of_takes w.short_document w.takes_read
  · exact fun signal h => readBack_of_takes signal.short_document (SignalProof.takes_read h)
  · exact fun _ => readBack_config
  · intro wire b h
    refine ⟨⟨?_, ?_⟩, fun x => Scalar.read_eq_ok_iff h⟩
    · rintro ⟨x, hx⟩
      obtain ⟨hlength, hvalue⟩ := (Scalar.read_eq_ok_iff h).mp hx
      exact ⟨hlength, hvalue ▸ x.isLt⟩
    · rintro ⟨hlength, hvalue⟩
      exact ⟨⟨b.toNat, hvalue⟩, (Scalar.read_eq_ok_iff h).mpr ⟨hlength, rfl⟩⟩

/-- A signal with the sample proof, a Merkle proof with a step of either side, a configuration with
a path that is too long for a key, and the modulus as a byte string. -/
theorem readBack_values_sample :
    let signal : SignalProof := ⟨⟨1, 2, 3, 4⟩, Groth16.Proof.sample⟩
    let proof : MerkleProof := ⟨2, [.left 5, .right 6]⟩
    let config : Config := ⟨32, String.ofList (List.replicate 5000 'a'), "", "π/😀"⟩
    let b := Bytes.ofNat 32 scalarModulus
    (Groth16.Proof.sample.Valid ∧
      ReadBack (fun _ => Groth16.Proof.document) Groth16.Proof.read Groth16.Proof.sample ∧
      ReadBack SignalProof.document SignalProof.read signal) ∧
    (proof.depth < UInt64.size ∧ ReadBack MerkleProof.document MerkleProof.read proof) ∧
    (config.zkeyPath.utf8ByteSize = 5000 ∧
      ReadBack (fun _ => Config.document) Config.read config) ∧
    HoldsBytes (encode (.bytes b)) b ∧
      ¬∃ x, runCbor (Scalar.read .cbor) (events (encode (.bytes b))) = .ok x := by
  intro signal proof config b
  have hvalid := Groth16.Proof.valid_sample
  have hdepth : proof.depth < UInt64.size := by decide
  have hsize : config.zkeyPath.utf8ByteSize = 5000 := by
    have hascii : ∀ c ∈ List.replicate 5000 'a', c.toNat < 128 := by
      intro c hc
      rw [List.eq_of_mem_replicate hc]
      decide
    rw [← Bytes.length_ofText, Bytes.ofText_ofList hascii, List.length_map, List.length_replicate]
  have hzkey : config.zkeyPath.utf8ByteSize < UInt64.size := by
    rw [hsize]
    decide
  have hlength : b.length = 32 := Bytes.length_ofNat 32 scalarModulus
  obtain ⟨⟨-, -, hmerkle, hproof, -, hsignal, hconfig⟩, -, hholds, hread⟩ := readBack_values
  have hb : HoldsBytes (encode (.bytes b)) b := hholds b (hlength ▸ by decide)
  refine ⟨⟨hvalid, hproof _ hvalid, hsignal signal hvalid⟩, ⟨hdepth, hmerkle proof hdepth⟩,
    ⟨hsize, hconfig config hzkey (by decide) (by decide)⟩, hb, ?_⟩
  have hlarge : ¬b.toNat < scalarModulus := by decide +kernel
  exact fun hx => hlarge ((hread _ b hb).1.mp hx).2

end Cbor

end GroupSignal
