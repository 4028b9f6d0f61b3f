import GroupSignal.Proofs.Curve.Subgroup
import GroupSignal.Proofs.Groth16.Encoding

/-!
# Valid proofs

A proof value is three points, whether or not they lie on a curve. The readers of the library give
proofs whose points lie in the groups; these are the valid ones.

## Main definitions

* `Proof.OnCurves`, `Proof.Valid`: the points lie on the curves, and in the groups
* `Proof.sample`: a valid proof

## Main results

* `Proof.ofCoordinates_eq_ok_iff`: which eight coordinates make a proof, however they are spelled
-/

namespace GroupSignal.Groth16.Proof

/-- The points lie on their curves. -/
structure OnCurves (proof : Proof) : Prop where
  a : G1.curve.contains proof.a = true
  b : G2.curve.contains proof.b = true
  c : G1.curve.contains proof.c = true

/-- The points lie in their groups. -/
structure Valid (proof : Proof) : Prop where
  a : G1.curve.InSubgroup proof.a
  b : G2.curve.InSubgroup proof.b
  c : G1.curve.InSubgroup proof.c

theorem Valid.onCurves {proof : Proof} (h : proof.Valid) : proof.OnCurves where
  a := h.a.contains
  b := h.b.contains
  c := h.c.contains

/-- **Which eight coordinates make a proof**: those of a valid proof, however they are spelled. -/
theorem ofCoordinates_eq_ok_iff {α : Type} {read : α → Except ValueError Coordinate}
    {v : Vector α 8} {proof : Proof} : ofCoordinates read v = .ok proof ↔
      proof.Valid ∧ ∀ i : Fin 8, read v[i] = .ok proof.coordinates[i] := by
  simp only [ofCoordinates, bind_eq_ok_iff, G1.ofCoordinates_eq_ok_iff, G2.ofCoordinates_eq_ok_iff]
  constructor
  · rintro ⟨ax, hax, ay, hay, a, ⟨ha, haG⟩, bx₀, hbx₀, bx₁, hbx₁, by₀, hby₀, by₁, hby₁, b,
      ⟨hb, hbG⟩, cx, hcx, cy, hcy, c, ⟨hc, hcG⟩, h⟩
    obtain rfl := Except.ok.inj h
    refine ⟨⟨haG, hbG, hcG⟩, ?_⟩
    simpa [Fin.forall_fin_succ, coordinates, ha, hb, hc] using
      ⟨hax, hay, hbx₁, hbx₀, hby₁, hby₀, hcx, hcy⟩
  · rintro ⟨h, hread⟩
    -- In the second group the part without `u` is read first, and stands second.
    exact ⟨_, hread 0, _, hread 1, _, ⟨rfl, h.a⟩, _, hread 3, _, hread 2, _, hread 5, _, hread 4, _,
      ⟨rfl, h.b⟩, _, hread 6, _, hread 7, _, ⟨rfl, h.c⟩, rfl⟩

/-- The opposite of a generator, a generator, and infinity. -/
def sample : Proof where
  a := G1.curve.generator.opposite
  b := G2.curve.generator
  c := .infinity

theorem valid_sample : sample.Valid where
  a := (Curve.inSubgroup_iff G1.b_ne_zero).mpr (by decide +kernel)
  b := (Curve.inSubgroup_iff G2.b_ne_zero).mpr (by decide +kernel)
  c := Curve.inSubgroup_infinity

end GroupSignal.Groth16.Proof
