import GroupSignal.Proofs.Curve.Group
import GroupSignal.Proofs.Field.Quadratic
import GroupSignal.Curve.Groups

/-!
# The points of the two groups

The order of both groups is prime to six and neither curve goes through the origin. So the checks of
a pair of coordinates accept the points of the subgroup and no others, the pair of zeros is free for
the point at infinity, and no other point of a group has a coordinate that is zero.

## Main results

* `Curve.ofCoordinates_eq_ok_iff`, `G1.ofCoordinates_eq_ok_iff`, `G2.ofCoordinates_eq_ok_iff`: the
  points that are accepted
* `G1.abscissa_ne_zero`, `G2.abscissa_ne_zero`: no abscissa is zero
-/

namespace GroupSignal

open CoordinateField

/-! ## Points from their coordinates -/

namespace Curve

variable {F : Type} [LawfulCoordinateField F] [DecidableEq F] {C : Curve F} {group : CurveGroup}
  {p : Point F} {x y : F}

/-- The curve does not go through the origin. -/
theorem not_contains_origin (hb : C.b ≠ 0) : ¬ C.contains (.affine 0 0) = true := by
  rw [contains_affine_iff]
  intro h
  exact hb (by linear_combination -h)

/-- So the coordinates of a point of the curve are not those of infinity. -/
theorem eq_affine_of_coordinates (hb : C.b ≠ 0) (hcontains : C.contains (.affine x y) = true)
    (h : p.coordinates = (x, y)) : p = .affine x y := by
  cases p with
  | infinity =>
    obtain ⟨rfl, rfl⟩ := Prod.mk.inj h
    exact absurd hcontains (not_contains_origin hb)
  | affine x' y' =>
    obtain ⟨rfl, rfl⟩ := Prod.mk.inj h
    rfl

theorem ofCoordinates_zero (C : Curve F) (group : CurveGroup) :
    C.ofCoordinates group 0 0 = .ok .infinity := by
  rw [ofCoordinates, (isZero_eq_true_iff 0).mpr rfl]
  rfl

theorem ofCoordinates_of_ne_zero (h : x ≠ 0 ∨ y ≠ 0) :
    C.ofCoordinates group x y = .ok p ↔
      (C.contains (.affine x y) = true ∧ C.hasOrder (.affine x y) = true) ∧ p = .affine x y := by
  have hzero : ¬(isZero x && isZero y) = true := by
    rw [Bool.and_eq_true, isZero_eq_true_iff, isZero_eq_true_iff]
    tauto
  rw [ofCoordinates, if_neg hzero]
  cases C.contains (.affine x y) <;> cases C.hasOrder (.affine x y) <;> simp [eq_comm]

/-- **The points that are accepted**: those of the subgroup, by their coordinates. -/
theorem ofCoordinates_eq_ok_iff (hb : C.b ≠ 0) (horder : C.order.Coprime 2) :
    C.ofCoordinates group x y = .ok p ↔ p.coordinates = (x, y) ∧ C.InSubgroup p := by
  by_cases h : x = 0 ∧ y = 0
  · obtain ⟨rfl, rfl⟩ := h
    rw [ofCoordinates_zero, Except.ok.injEq]
    constructor
    · rintro rfl
      exact ⟨rfl, inSubgroup_infinity⟩
    · rintro ⟨hcoordinates, hsubgroup⟩
      cases p with
      | infinity => rfl
      | affine x y =>
        -- A point of the subgroup does not have the ordinate of the code of infinity.
        exact absurd (congrArg Prod.snd hcoordinates) (hsubgroup.ordinate_ne_zero horder)
  · rw [ofCoordinates_of_ne_zero (not_and_or.mp h), ← inSubgroup_iff hb]
    constructor
    · rintro ⟨hsubgroup, rfl⟩
      exact ⟨rfl, hsubgroup⟩
    · rintro ⟨hcoordinates, hsubgroup⟩
      cases p with
      | infinity => exact absurd (Prod.mk.inj hcoordinates) fun h' => h ⟨h'.1.symm, h'.2.symm⟩
      | affine x' y' =>
        obtain ⟨rfl, rfl⟩ := Prod.mk.inj hcoordinates
        exact ⟨hsubgroup, rfl⟩

end Curve

/-! ## The two fields and their curves -/

instance : LawfulCoordinateField Coordinate where
  __ := (inferInstance : Field Coordinate)
  __ := (inferInstance : CoordinateField Coordinate)
  isZero_iff _ := beq_iff_eq.trans Residue.val_eq_zero_iff
  two_ne_zero := Coordinate.two_ne_zero
  three_ne_zero := by decide

instance : LawfulCoordinateField Quadratic where
  __ := (inferInstance : Field Quadratic)
  __ := (inferInstance : CoordinateField Quadratic)
  isZero_iff x := by
    show (x.re.val == 0 && x.im.val == 0) = true ↔ x = 0
    rw [Bool.and_eq_true, beq_iff_eq, beq_iff_eq, Residue.val_eq_zero_iff, Residue.val_eq_zero_iff,
      Quadratic.ext_iff]
    rfl
  two_ne_zero := by decide
  three_ne_zero := by decide

theorem coprime_scalarModulus_two : scalarModulus.Coprime 2 := by decide

theorem coprime_scalarModulus_three : scalarModulus.Coprime 3 := by decide

namespace G1

variable {p : Point} {x y : Coordinate}

theorem b_ne_zero : curve.b ≠ 0 := by decide

theorem ordinate_ne_zero (h : curve.InSubgroup (.affine x y)) : y ≠ 0 :=
  h.ordinate_ne_zero coprime_scalarModulus_two

theorem abscissa_ne_zero (h : curve.InSubgroup (.affine x y)) : x ≠ 0 :=
  h.abscissa_ne_zero coprime_scalarModulus_three coprime_scalarModulus_two

theorem ofCoordinates_eq_ok_iff :
    ofCoordinates x y = .ok p ↔ p.coordinates = (x, y) ∧ curve.InSubgroup p :=
  Curve.ofCoordinates_eq_ok_iff b_ne_zero coprime_scalarModulus_two

end G1

namespace G2

variable {p : Point} {x y : Quadratic}

theorem b_ne_zero : curve.b ≠ 0 := by decide

theorem ordinate_ne_zero (h : curve.InSubgroup (.affine x y)) : y ≠ 0 :=
  h.ordinate_ne_zero coprime_scalarModulus_two

theorem abscissa_ne_zero (h : curve.InSubgroup (.affine x y)) : x ≠ 0 :=
  h.abscissa_ne_zero coprime_scalarModulus_three coprime_scalarModulus_two

theorem ofCoordinates_eq_ok_iff :
    ofCoordinates x y = .ok p ↔ p.coordinates = (x, y) ∧ curve.InSubgroup p :=
  Curve.ofCoordinates_eq_ok_iff b_ne_zero coprime_scalarModulus_two

end G2

end GroupSignal
