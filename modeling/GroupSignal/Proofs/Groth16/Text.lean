import GroupSignal.Document.Values
import GroupSignal.Proofs.Document.Reading
import GroupSignal.Proofs.Field.Text
import GroupSignal.Proofs.Groth16.Valid
import GroupSignal.Proofs.Json.Arranging

/-!
# Proofs as texts

The text of a proof is a JSON array of one shape, with the coordinates as canonical numerals. All of
its reader's steps can be turned round: the events that are taken are those of an array of the
shape, only the array's own tokens have these events, and the eight texts are read if they spell the
coordinates of a valid proof.

## Main results

* `Coordinate.ofText_eq_ok_iff`: the texts of a coordinate
* `Proof.takes_read`: a valid proof is read from its document
* `Proof.ofText_eq_ok_iff`: the texts of a proof
* `Proof.ofText_shape`: what is read, and what is written
-/

namespace GroupSignal

open Numeral

/-- **The texts of a coordinate** are those that spell its number. -/
theorem Coordinate.ofText_eq_ok_iff {s : String} {x : Coordinate} :
    ofText s = .ok x ↔ Spells s x.val :=
  readWord_bind_eq_ok_iff (by decide) ofNat_eq_ok_iff

namespace Groth16.Proof

variable {proof : Proof} {v : Vector String 8} {fmt : Format}

/-- **Which eight texts make a proof**: those that spell the coordinates of a valid proof. -/
theorem ofTexts_eq_ok_iff : ofTexts v = .ok proof ↔
    proof.Valid ∧ ∀ i, Spells (v.get i) (proof.coordinates.get i).val := by
  simp only [ofTexts, ofCoordinates_eq_ok_iff, Coordinate.ofText_eq_ok_iff]
  rfl

theorem ofTexts_texts (h : proof.Valid) : ofTexts proof.texts = .ok proof := by
  refine ofTexts_eq_ok_iff.mpr ⟨h, fun i => ?_⟩
  show Spells proof.texts[i.val] _
  rw [texts, Vector.getElem_map]
  exact spells_hex _

/-! ## Documents of texts -/

open Reader

theorem takes_readPair (p : String × String) :
    Takes (readPair fmt) ((pairDocument p).events fmt) p :=
  takes_tuple ((takes_text fmt p.1).bind (takes_text fmt p.2).bind_pure)

theorem takes_readTexts (v : Vector String 8) :
    Takes (readTexts fmt) ((textsDocument v).events fmt) v := by
  -- The texts are read one by one, and make up the vector again.
  have hv : v = #v[v[0], v[1], v[2], v[3], v[4], v[5], v[6], v[7]] := by
    refine Vector.ext fun i hi => ?_
    interval_cases i <;> rfl
  have hb : Takes (tuple fmt 2 do return (← readPair fmt, ← readPair fmt))
      ((Document.seq [pairDocument (v[2], v[3]), pairDocument (v[4], v[5])]).events fmt)
      ((v[2], v[3]), (v[4], v[5])) := by
    refine takes_tuple ((takes_readPair _).bind ?_)
    rw [Document.itemEvents, Document.itemEvents, List.append_nil]
    exact (takes_readPair _).bind_pure
  rw [readTexts]
  show Takes _ ((Document.seq [_, _, _]).events fmt) v
  refine takes_tuple ((takes_readPair (v[0], v[1])).bind ?_)
  refine hb.bind ?_
  rw [Document.itemEvents, Document.itemEvents, List.append_nil]
  conv => rhs; rw [hv]
  exact (takes_readPair (v[6], v[7])).bind_pure

theorem takes_read (h : proof.Valid) : Takes (read fmt) (proof.document.events fmt) proof :=
  (takes_readTexts proof.texts).ofExcept _ (ofTexts_texts h)

/-! ## What is read as texts of coordinates -/

theorem takesOnly_readPair : TakesOnly (readPair .json) fun p => (pairDocument p).events .json := by
  have hbody : TakesOnly (do return (← text, ← text) : Reader (String × String))
      fun p => [.text p.1, .text p.2] := by
    intro es p rest hjson h
    obtain ⟨s, es₁, rfl, hjson₁, h⟩ := takesOnly_text.exists_of_bind hjson h
    obtain ⟨t, es₂, rfl, hjson₂, h⟩ := takesOnly_text.exists_of_bind hjson₁ h
    cases h
    exact ⟨rfl, hjson₂⟩
  exact takesOnly_tuple hbody

theorem takesOnly_readTexts :
    TakesOnly (readTexts .json) fun v => (textsDocument v).events .json := by
  -- A coordinate of the second group is a pair of texts, and the point is a pair of these.
  have hpairs : TakesOnly (do return (← readPair .json, ← readPair .json) :
      Reader ((String × String) × (String × String))) fun b =>
        Document.itemEvents .json [pairDocument b.1, pairDocument b.2] := by
    intro es b rest hjson h
    obtain ⟨bx, es₁, rfl, hjson₁, h⟩ := takesOnly_readPair.exists_of_bind hjson h
    obtain ⟨by', es₂, rfl, hjson₂, h⟩ := takesOnly_readPair.exists_of_bind hjson₁ h
    cases h
    exact ⟨by simp [Document.itemEvents], hjson₂⟩
  have hb : TakesOnly (tuple .json 2 do return (← readPair .json, ← readPair .json)) fun b =>
      (Document.seq [pairDocument b.1, pairDocument b.2]).events .json := takesOnly_tuple hpairs
  refine takesOnly_tuple ?_
  -- The three points are taken one after the other.
  intro es v rest hjson h
  obtain ⟨a, es₁, rfl, hjson₁, h⟩ := takesOnly_readPair.exists_of_bind hjson h
  obtain ⟨b, es₂, rfl, hjson₂, h⟩ := hb.exists_of_bind hjson₁ h
  obtain ⟨c, es₃, rfl, hjson₃, h⟩ := takesOnly_readPair.exists_of_bind hjson₂ h
  cases h
  exact ⟨by simp [Document.itemEvents], hjson₃⟩

/-! ## The text form -/

/-- **The texts of a proof** are the JSON texts of the shape that it is written in, with texts that
spell the coordinates of a valid proof. -/
theorem ofText_eq_ok_iff {s : String} : ofText s = .ok proof ↔ proof.Valid ∧
    ∃ v, Json.tokens s = (textsDocument v).tokens ∧
      ∀ i, Spells (v.get i) (proof.coordinates.get i).val := by
  rw [ofText]
  constructor
  · intro h
    split at h
    case h_1 => cases h
    case h_2 v hrun =>
      obtain ⟨hvalid, hspells⟩ := ofTexts_eq_ok_iff.mp (mapError_eq_ok_iff.mp h)
      refine ⟨hvalid, v, Document.events_eq_iff.mp ?_, hspells⟩
      exact takesOnly_readTexts.eq_of_runJson (fun e => Json.inJson_of_mem_arrange) hrun
  · rintro ⟨hvalid, v, htokens, hspells⟩
    rw [Document.events_eq_iff.mpr htokens, (takes_readTexts v).runJson]
    exact mapError_eq_ok_iff.mpr (ofTexts_eq_ok_iff.mpr ⟨hvalid, hspells⟩)

theorem ofText_toText (h : proof.Valid) : ofText proof.toText = .ok proof := by
  refine ofText_eq_ok_iff.mpr ⟨h, proof.texts, Document.tokens_compact _, fun i => ?_⟩
  exact (ofTexts_eq_ok_iff.mp (ofTexts_texts h)).2 i

/-- **The text form of proofs.** The text of a valid proof is read back. A text that is read as a
proof is a JSON array of the one shape, whose eight texts are canonical numerals of the coordinates
in their order, zeros for a point at infinity. The proof is valid, and what is written for it is
read as the same proof. -/
theorem ofText_shape :
    (∀ proof : Proof, proof.Valid → ofText proof.toText = .ok proof) ∧
    ∀ s proof, ofText s = .ok proof → proof.Valid ∧ ofText proof.toText = .ok proof ∧
      ∃ ax ay bx₁ bx₀ by₁ by₀ cx cy : String,
        Json.tokens s = [.openSeq,
          .openSeq, .text ax, .comma, .text ay, .closeSeq, .comma,
          .openSeq, .openSeq, .text bx₁, .comma, .text bx₀, .closeSeq, .comma,
            .openSeq, .text by₁, .comma, .text by₀, .closeSeq, .closeSeq, .comma,
          .openSeq, .text cx, .comma, .text cy, .closeSeq, .closeSeq] ∧
        Spells ax proof.a.coordinates.1.val ∧ Spells ay proof.a.coordinates.2.val ∧
        Spells bx₁ proof.b.coordinates.1.im.val ∧ Spells bx₀ proof.b.coordinates.1.re.val ∧
        Spells by₁ proof.b.coordinates.2.im.val ∧ Spells by₀ proof.b.coordinates.2.re.val ∧
        Spells cx proof.c.coordinates.1.val ∧ Spells cy proof.c.coordinates.2.val := by
  refine ⟨fun proof => ofText_toText, fun s proof h => ?_⟩
  obtain ⟨hvalid, v, htokens, hspells⟩ := ofText_eq_ok_iff.mp h
  exact ⟨hvalid, ofText_toText hvalid, v[0], v[1], v[2], v[3], v[4], v[5], v[6], v[7], htokens,
    hspells 0, hspells 1, hspells 2, hspells 3, hspells 4, hspells 5, hspells 6, hspells 7⟩

/-- A proof of a generator and twice infinity, with numerals in both radices. What is written for it
is another text. -/
theorem ofText_shape_mixed_radix :
    let s := "[ [\"1\",\"0x2\"],[[\"0\",\"0x0\"],[\"0\",\"0\"]],[\"0\",\"0\"]]"
    let proof : Proof := ⟨G1.curve.generator, .infinity, .infinity⟩
    ofText s = .ok proof ∧ proof.Valid ∧ proof.toText ≠ s ∧ ofText proof.toText = .ok proof := by
  intro s proof
  have h : ofText s = .ok proof := by decide +kernel
  have hne : proof.toText ≠ s := by decide +kernel
  obtain ⟨hvalid, hwritten, -⟩ := ofText_shape.2 s proof h
  exact ⟨h, hvalid, hne, hwritten⟩

end Groth16.Proof

end GroupSignal
