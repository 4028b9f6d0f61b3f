import GroupSignal.Proofs.Document.Stopping
import GroupSignal.Proofs.Groth16.KeyText

/-!
# Which keys are read back

The written form of the point at infinity is a pair of zeros over one, which is no point of a curve.
So a written point is taken if it lies in its group and is not at infinity, and refused if not, and
reading the text of a key stops at the first such point. A key is read back just if none of its
points is refused. Whether it fits the circuit is looked at behind that.

## Main results

* `refuses_readPoint`: written points that are refused
* `VerifyingKey.ofText_toText_eq_error`: the text of a key with such a point
* `CircuitKey.ofText_toText_iff_finite`: which keys are read back as keys of the circuit
-/

namespace GroupSignal

open Reader

theorem Curve.not_inSubgroup_origin {F : Type} [LawfulCoordinateField F] [DecidableEq F]
    {C : Curve F} (hb : C.b ≠ 0) : ¬ C.InSubgroup (.affine 0 0) :=
  fun h => not_contains_origin hb h.contains

namespace Groth16

/-! ## Points -/

/-- A written point is refused if it does not lie in the group. -/
theorem refuses_readPoint {F : Type} [LawfulCoordinateField F] [DecidableEq F] {C : Curve F}
    {coordinate : Reader F} {document : F → Document} {x y u : F} (hb : C.b ≠ 0)
    (hcoordinate : ∀ x, Takes coordinate ((document x).events .json) x) (hu : u = 1)
    (hone : CoordinateField.inverse? (1 : F) = some 1) (h : ¬ C.InSubgroup (.affine x y)) :
    Refuses (readPoint C coordinate)
      ((Document.seq [document x, document y, document u]).events .json) .malformed := by
  -- The three coordinates are taken, and then the point is checked.
  have hcheck : ¬ (C.contains (.affine x y) && C.hasOrder (.affine x y)) = true := by
    rwa [Bool.and_eq_true, ← Curve.inSubgroup_iff hb]
  rw [← List.append_nil (Document.events _ _)]
  refine (takes_triple hcoordinate hu hone).refuses_bind ?_
  rw [if_neg hcheck]
  exact refuses_fail _

theorem refuses_readPoint1 {p : G1.Point} (h : ¬ (G1.curve.InSubgroup p ∧ p ≠ .infinity)) :
    Refuses readPoint1 ((pointDocument1 p).events .json) .malformed := by
  have hrefuses : ∀ x y, ¬ G1.curve.InSubgroup (.affine x y) → Refuses readPoint1 _ .malformed :=
    fun x y => refuses_readPoint G1.b_ne_zero takes_readDecimal rfl coordinate_inverse?_one
  cases p with
  | infinity => exact hrefuses 0 0 (Curve.not_inSubgroup_origin G1.b_ne_zero)
  | affine x y => exact hrefuses x y fun hsubgroup => h ⟨hsubgroup, nofun⟩

theorem refuses_readPoint2 {p : G2.Point} (h : ¬ (G2.curve.InSubgroup p ∧ p ≠ .infinity)) :
    Refuses readPoint2 ((pointDocument2 p).events .json) .malformed := by
  have hrefuses : ∀ x y, ¬ G2.curve.InSubgroup (.affine x y) → Refuses readPoint2 _ .malformed :=
    fun x y => refuses_readPoint G2.b_ne_zero takes_readQuadratic rfl quadratic_inverse?_one
  cases p with
  | infinity => exact hrefuses 0 0 (Curve.not_inSubgroup_origin G2.b_ne_zero)
  | affine x y => exact hrefuses x y fun hsubgroup => h ⟨hsubgroup, nofun⟩

theorem refuses_bases {bases : List G1.Point}
    (h : ¬ ∀ p ∈ bases, G1.curve.InSubgroup p ∧ p ≠ .infinity) :
    Refuses (Reader.list readPoint1)
      ((Document.seq (bases.map pointDocument1)).events .json) .malformed :=
  refuses_list (fun _ _ hp => takes_readPoint1 hp.1 hp.2) (fun _ _ => refuses_readPoint1) h

/-! ## Keys -/

namespace VerifyingKey

variable {key : VerifyingKey}

/-- Each member is taken, but for points that are refused. -/
theorem admits_or_denies (key : VerifyingKey) : ∀ member ∈ key.written,
    members.Admits .json key.values member ∨ members.Denies .malformed member.1 member.2 := by
  have hpoint1 (p : G1.Point) : Takes readPoint1 ((pointDocument1 p).events .json) p ∨
      Refuses readPoint1 ((pointDocument1 p).events .json) .malformed := by
    by_cases hp : G1.curve.InSubgroup p ∧ p ≠ .infinity
    · exact .inl (takes_readPoint1 hp.1 hp.2)
    · exact .inr (refuses_readPoint1 hp)
  have hpoint2 (p : G2.Point) : Takes readPoint2 ((pointDocument2 p).events .json) p ∨
      Refuses readPoint2 ((pointDocument2 p).events .json) .malformed := by
    by_cases hp : G2.curve.InSubgroup p ∧ p ≠ .infinity
    · exact .inl (takes_readPoint2 hp.1 hp.2)
    · exact .inr (refuses_readPoint2 hp)
  have hbases : Takes (Reader.list readPoint1)
        ((Document.seq (key.bases.map pointDocument1)).events .json) key.bases ∨
      Refuses (Reader.list readPoint1)
        ((Document.seq (key.bases.map pointDocument1)).events .json) .malformed := by
    by_cases hbases : ∀ p ∈ key.bases, G1.curve.InSubgroup p ∧ p ≠ .infinity
    · exact .inl (takes_list fun p hp => takes_readPoint1 (hbases p hp).1 (hbases p hp).2)
    · exact .inr (refuses_bases hbases)
  simp only [written, List.forall_mem_cons, Members.Admits, Members.Denies, members,
    Members.required, values, Members.Holds, String.reduceEq, ↓reduceIte]
  refine ⟨hbases.imp_left .inl, .inl (.inr ⟨?_, takes_ignored_text _⟩),
    .inl (.inl (takes_natural .json _)), .inl (.inl (takes_text .json _)),
    (hpoint1 _).imp_left .inl, .inl (.inl (takes_readPairing _)), (hpoint2 _).imp_left .inl,
    (hpoint2 _).imp_left .inl, (hpoint2 _).imp_left .inl, List.forall_mem_nil _⟩
  -- The name of the curve is not among those that are described.
  decide

theorem exists_denies (h : ¬ (key.Valid ∧ key.Finite)) :
    ∃ member ∈ key.written, members.Denies .malformed member.1 member.2 := by
  by_contra hnone
  have hnot : ∀ member ∈ key.written, ¬ members.Denies .malformed member.1 member.2 :=
    fun member hmember hdenies => hnone ⟨member, hmember, hdenies⟩
  simp only [written, List.forall_mem_cons, Members.Denies, members, Members.required,
    String.reduceEq, ↓reduceIte] at hnot
  obtain ⟨hbases, -, -, -, halpha, -, hbeta, hdelta, hgamma, -⟩ := hnot
  -- If no member is refused, then all points lie in their groups and none is at infinity.
  replace hbases := not_imp_comm.mp refuses_bases hbases
  replace halpha := not_imp_comm.mp refuses_readPoint1 halpha
  replace hbeta := not_imp_comm.mp refuses_readPoint2 hbeta
  replace hdelta := not_imp_comm.mp refuses_readPoint2 hdelta
  replace hgamma := not_imp_comm.mp refuses_readPoint2 hgamma
  exact h ⟨⟨halpha.1, hbeta.1, hgamma.1, hdelta.1, fun p hp => (hbases p hp).1⟩,
    ⟨halpha.2, hbeta.2, hgamma.2, hdelta.2, fun p hp => (hbases p hp).2⟩⟩

theorem refuses_read (h : ¬ (key.Valid ∧ key.Finite)) :
    Refuses read (key.document.events .json) .malformed := by
  rw [events_document]
  exact (Members.refuses_read nodup_names key.nodup_written key.admits_or_denies
    (exists_denies h)).bind _

/-- **A key with a point at infinity**, or outside of its group, is written as a text that is
refused. -/
theorem ofText_toText_eq_error (h : ¬ (key.Valid ∧ key.Finite)) :
    ofText key.toText = .error (.invalidKey (.document .malformed)) := by
  rw [ofText, toText, Document.events_compact, (refuses_read h).runJson]
  rfl

end VerifyingKey

/-! ## The key of the circuit -/

namespace CircuitKey

variable {key : VerifyingKey}

theorem ofText_toText (hvalid : key.Valid) (hfinite : key.Finite) :
    ofText key.toText = ofKey key := by
  rw [ofText, VerifyingKey.ofText_toText hvalid hfinite]
  rfl

theorem ofKey_of_length_eq (h : key.bases.length = 5) :
    ∃ circuit, ofKey key = .ok circuit ∧ circuit.key = key := by
  have hpublic : key.publicValues = publicValueCount := by
    rw [VerifyingKey.publicValues, h]
    rfl
  exact ⟨⟨key, hpublic⟩, dif_pos hpublic, rfl⟩

theorem ofKey_of_length_ne (h : key.bases.length ≠ 5) :
    ofKey key = .error (.invalidKey (.publicValues (key.bases.length - 1))) := by
  have hpublic : key.publicValues ≠ publicValueCount := by
    rw [VerifyingKey.publicValues, publicValueCount]
    omega
  exact dif_neg hpublic

/-- **Keys survive being written, but for points at infinity.** A key with five bases whose points
lie in their groups is read back from its text just if none of them is at infinity, and otherwise
the text is refused as malformed. A key with another number of bases does not fit the circuit, and
the refusal names the number of public values that it was made for, none if there are no bases; so
does reading its text, if that gives the key. -/
theorem ofText_toText_iff_finite (key : VerifyingKey) :
    (key.bases.length = 5 → key.Valid →
      ((∃ circuit, ofText key.toText = .ok circuit ∧ circuit.key = key) ↔ key.Finite) ∧
      (¬ key.Finite → ofText key.toText = .error (.invalidKey (.document .malformed)))) ∧
    (key.bases.length ≠ 5 →
      let e := ProofSystemError.invalidKey (.publicValues (key.bases.length - 1))
      e.message = "invalid verifying key: key has " ++ toString (key.bases.length - 1) ++
        " public inputs, the circuit has " ++ "4" ∧
      ofKey key = .error e ∧
      (1 ≤ key.bases.length → key.Valid → key.Finite → ofText key.toText = .error e)) := by
  refine ⟨fun hlength hvalid => ?_, fun hlength => ⟨rfl, ofKey_of_length_ne hlength, ?_⟩⟩
  · have hrefused : ¬ key.Finite →
        ofText key.toText = .error (.invalidKey (.document .malformed)) := by
      intro hinfinite
      rw [ofText, VerifyingKey.ofText_toText_eq_error fun h => hinfinite h.2]
      rfl
    refine ⟨⟨?_, fun hfinite => ?_⟩, hrefused⟩
    · rintro ⟨circuit, hread, -⟩
      by_contra hinfinite
      rw [hrefused hinfinite] at hread
      cases hread
    · rw [ofText_toText hvalid hfinite]
      exact ofKey_of_length_eq hlength
  · intro _ hvalid hfinite
    rw [ofText_toText hvalid hfinite, ofKey_of_length_ne hlength]

end CircuitKey

/-- The sample key with five bases, the same with a point at infinity, and those with three bases
and without any. -/
theorem CircuitKey.ofText_toText_iff_finite_sample :
    let key := VerifyingKey.sample 5
    let infinite := { key with delta := .infinity }
    let short := VerifyingKey.sample 3
    let empty := VerifyingKey.sample 0
    (key.bases.length = 5 ∧ key.Valid ∧ key.Finite ∧
      ∃ circuit, ofText key.toText = .ok circuit ∧ circuit.key = key) ∧
    (infinite.bases.length = 5 ∧ infinite.Valid ∧ ¬ infinite.Finite ∧
      ofText infinite.toText = .error (.invalidKey (.document .malformed))) ∧
    (short.bases.length = 3 ∧ short.Valid ∧ short.Finite ∧
      ofKey short = .error (.invalidKey (.publicValues 2)) ∧
      ofText short.toText = .error (.invalidKey (.publicValues 2))) ∧
    empty.bases.length = 0 ∧ ofKey empty = .error (.invalidKey (.publicValues 0)) := by
  intro key infinite short empty
  have hkey : key.Valid := VerifyingKey.valid_sample 5
  have hinfinite : infinite.Valid := { hkey with delta := Curve.inSubgroup_infinity }
  have hnot : ¬ infinite.Finite := fun h => h.delta rfl
  have hshort : short.Valid := VerifyingKey.valid_sample 3
  have hfinite : key.Finite := VerifyingKey.finite_sample 5
  have hfinite' : short.Finite := VerifyingKey.finite_sample 3
  obtain ⟨-, hrefused, hread⟩ := (ofText_toText_iff_finite short).2 (by decide)
  refine ⟨⟨rfl, hkey, hfinite, ?_⟩, ⟨rfl, hinfinite, hnot, ?_⟩,
    ⟨rfl, hshort, hfinite', hrefused, hread (by decide) hshort hfinite'⟩, rfl, ?_⟩
  · exact ((ofText_toText_iff_finite key).1 rfl hkey).1.mpr hfinite
  · exact ((ofText_toText_iff_finite infinite).1 rfl hinfinite).2 hnot
  · exact ((ofText_toText_iff_finite empty).2 (by decide)).2.1

end Groth16

end GroupSignal
