import GroupSignal.Proofs.Curve.SquareRoot
import GroupSignal.Proofs.Curve.Subgroup
import GroupSignal.Proofs.Groth16.Encoding

/-!
# Compressed points

The word of a point is its abscissa above the sign of its ordinate, and in the second group also
above the hint, which is the sign of the norm of the ordinate. A point of the second group whose
ordinate has no part without `u` has no words. A word gives a point of the group if and only if it
is the word of that point: no other bits below the abscissa lead to the point, and the zero word is
left to infinity.

## Main results

* `G1.compress?_affine`, `G2.compress?_affine`: the words of the points of a curve
* `G1.decompress_eq_ok_iff`, `G2.decompress_eq_ok_iff`: what is read back
-/

namespace GroupSignal

open Coordinate (sign)

/-! ## The first group -/

namespace G1

variable {p : Point} {x y : Coordinate} {w : Groth16.Word}

/-- **The word of a point** of the first curve. -/
theorem compress?_affine (h : curve.contains (.affine x y) = true) :
    compress? (.affine x y) = some (x.toWord <<< 1 ||| signBit (sign y)) := by
  have hsquare : y * y = curve.ySquared x := beq_iff_eq.mp h
  rw [compress?, ← hsquare, Coordinate.sqrt?_mul_self, Option.bind_eq_bind, Option.bind_some]
  cases hsign : sign y with
  | false =>
    rw [if_neg Bool.false_ne_true, if_pos rfl]
    exact congrArg some (BitVec.or_zero).symm
  | true =>
    have hne : y ≠ -y := (Coordinate.neg_ne_self (Coordinate.ne_zero_of_sign hsign)).symm
    rw [if_pos rfl, if_neg hne, if_pos (neg_neg y).symm]

theorem compress?_eq_zero_iff (h : curve.InSubgroup p) : compress? p = some 0 ↔ p = .infinity := by
  cases p with
  | infinity => exact iff_of_true rfl rfl
  | affine x y =>
    refine iff_of_false ?_ (fun h => by cases h)
    rw [compress?_affine h.contains, Option.some.injEq, ← BitVec.toNat_inj,
      Coordinate.toNat_signed]
    intro (hword : 2 * x.val + (sign y).toNat = 0)
    exact abscissa_ne_zero h (Residue.val_eq_zero_iff.mp (by omega))

/-- The steps by which a word is read. -/
theorem decompress_of_ne_zero (h : w ≠ 0) : decompress w = .ok p ↔
    ∃ x, Coordinate.ofWord (w >>> 1) = .ok x ∧ ∃ y, (∃ root,
      Coordinate.sqrt? (curve.ySquared x) = some root ∧
        (if w.getLsbD 0 then -root else root) = y) ∧
      p.coordinates = (x, y) ∧ curve.InSubgroup p := by
  rw [decompress, if_neg h, bind_eq_ok_iff]
  refine exists_congr fun x => and_congr_right fun _ => ?_
  cases Coordinate.sqrt? (curve.ySquared x) with
  | none => simp
  | some root => simp [ofCoordinates_eq_ok_iff]

/-- **What is read back**: the word of a point of the group, and no other word, gives the point. -/
theorem decompress_eq_ok_iff :
    decompress w = .ok p ↔ curve.InSubgroup p ∧ compress? p = some w := by
  by_cases hzero : w = 0
  · subst hzero
    rw [decompress, if_pos rfl, Except.ok.injEq]
    constructor
    · rintro rfl
      exact ⟨Curve.inSubgroup_infinity, rfl⟩
    · rintro ⟨hsubgroup, hword⟩
      exact ((compress?_eq_zero_iff hsubgroup).mp hword).symm
  · rw [decompress_of_ne_zero hzero]
    constructor
    · rintro ⟨x, hx, y, hroot, hcoordinates, hsubgroup⟩
      obtain ⟨hsquare, hsign⟩ := Coordinate.exists_sqrt?_signed_iff.mp hroot
      have hcontains : curve.contains (.affine x y) = true := beq_iff_eq.mpr hsquare
      obtain rfl := Curve.eq_affine_of_coordinates b_ne_zero hcontains hcoordinates
      have hsign := hsign.resolve_left (ordinate_ne_zero hsubgroup)
      refine ⟨hsubgroup, ?_⟩
      rw [compress?_affine hcontains, ← Coordinate.ofWord_signed_iff.mp ⟨hx, hsign.symm⟩]
    · rintro ⟨hsubgroup, hword⟩
      cases p with
      | infinity => exact absurd (Option.some.inj hword).symm hzero
      | affine x y =>
        rw [compress?_affine hsubgroup.contains] at hword
        obtain ⟨hx, hsign⟩ := Coordinate.ofWord_signed_iff.mpr (Option.some.inj hword).symm
        exact ⟨x, hx, y, Coordinate.exists_sqrt?_signed_iff.mpr
          ⟨beq_iff_eq.mp hsubgroup.contains, .inr hsign.symm⟩, rfl, hsubgroup⟩

end G1

/-! ## The second group -/

namespace G2

variable {p : Point} {x y : Quadratic} {head tail : Groth16.Word}

/-- The hint that is taken is the sign of the norm of the ordinate. -/
theorem hintOf_mul_self (y : Quadratic) :
    hintOf (y * y) (if sign y.norm then -y.norm else y.norm) = sign y.norm := by
  show sign ((y * y).firstPartSquared _ false) = _
  cases hsign : sign y.norm with
  | false =>
    rw [Quadratic.firstPartSquared_mul_self (y := y) rfl]
    exact Coordinate.sign_mul_self y.re
  | true =>
    -- With a norm that is no square the second part is not zero.
    have him : y.im ≠ 0 := by
      intro him
      rw [Quadratic.norm, him, mul_zero, add_zero, Coordinate.sign_mul_self] at hsign
      exact Bool.false_ne_true hsign
    rw [Quadratic.firstPartSquared_mul_self_of_neg (y := y) rfl,
      Coordinate.sign_neg (mul_ne_zero him him), Coordinate.sign_mul_self]
    rfl

/-- **The words of a point** of the second curve. -/
theorem compress?_affine (h : curve.contains (.affine x y) = true) :
    compress? (.affine x y) = if y.re = 0 then none else
      some (x.re.toWord <<< 2 ||| signBit (sign y.norm) <<< 1 ||| signBit (sign y.re),
        x.im.toWord) := by
  have hsquare : y * y = curve.ySquared x := beq_iff_eq.mp h
  simp only [compress?, ← hsquare, Quadratic.sqrt?_norm_mul_self, Option.bind_eq_bind,
    Option.bind_some, hintOf_mul_self]
  by_cases hre : y.re = 0
  · rw [if_pos hre, Quadratic.sqrt?_mul_self_of_re hre, Option.bind_none]
  · obtain ⟨root, hroot, hsigned⟩ :=
      Quadratic.exists_sqrt?_signed_iff.mpr ⟨rfl, hre, rfl, rfl⟩
    rw [if_neg hre, hroot, Option.bind_some]
    cases hsign : sign y.re with
    | false =>
      rw [hsign, if_neg Bool.false_ne_true] at hsigned
      rw [if_pos hsigned.symm]
      exact congrArg (fun w => some (w, x.im.toWord)) (BitVec.or_zero).symm
    | true =>
      rw [hsign, if_pos rfl] at hsigned
      have hne : y ≠ root := by
        rintro rfl
        exact Coordinate.neg_ne_self hre (congrArg Quadratic.re hsigned)
      rw [if_neg hne, if_pos hsigned.symm]

theorem compress?_eq_zero_iff (h : curve.InSubgroup p) :
    compress? p = some (0, 0) ↔ p = .infinity := by
  cases p with
  | infinity => exact iff_of_true rfl rfl
  | affine x y =>
    refine iff_of_false ?_ (fun h => by cases h)
    rw [compress?_affine h.contains, Option.ite_none_left_eq_some,
      Option.some.injEq, Prod.mk.injEq, ← BitVec.toNat_inj, ← BitVec.toNat_inj,
      Coordinate.toNat_hinted, Coordinate.toNat_toWord]
    rintro ⟨-, hhead, htail⟩
    have hhead : 4 * x.re.val + 2 * (sign y.norm).toNat + (sign y.re).toNat = 0 := hhead
    exact abscissa_ne_zero h (Quadratic.ext (Residue.val_eq_zero_iff.mp (by omega))
      (Residue.val_eq_zero_iff.mp htail))

/-- The steps by which two words are read. -/
theorem decompress_of_ne_zero (h : ¬(head = 0 ∧ tail = 0)) : decompress head tail = .ok p ↔
    ∃ x : Quadratic, Coordinate.ofWord (head >>> 2) = .ok x.re ∧
      Coordinate.ofWord tail = .ok x.im ∧ ∃ y, (∃ root,
        (curve.ySquared x).sqrt? (head.getLsbD 1) = some root ∧
          (if head.getLsbD 0 then -root else root) = y) ∧
        p.coordinates = (x, y) ∧ curve.InSubgroup p := by
  rw [decompress, if_neg h, bind_eq_ok_iff]
  constructor
  · rintro ⟨re, hre, h⟩
    obtain ⟨im, him, h⟩ := bind_eq_ok_iff.mp h
    refine ⟨⟨re, im⟩, hre, him, ?_⟩
    cases hroot : (curve.ySquared ⟨re, im⟩).sqrt? (head.getLsbD 1) with
    | none =>
      simp only [hroot] at h
      cases h
    | some root =>
      simp only [hroot] at h
      exact ⟨_, ⟨root, rfl, rfl⟩, ofCoordinates_eq_ok_iff.mp h⟩
  · rintro ⟨⟨re, im⟩, hre, him, y, ⟨root, hroot, rfl⟩, h⟩
    refine ⟨re, hre, bind_eq_ok_iff.mpr ⟨im, him, ?_⟩⟩
    simp only [hroot]
    exact ofCoordinates_eq_ok_iff.mpr h

/-- **What is read back**: the words of a point of the group, and no other words, give the point. -/
theorem decompress_eq_ok_iff :
    decompress head tail = .ok p ↔ curve.InSubgroup p ∧ compress? p = some (head, tail) := by
  by_cases hzero : head = 0 ∧ tail = 0
  · rw [decompress, if_pos hzero, hzero.1, hzero.2, Except.ok.injEq]
    constructor
    · rintro rfl
      exact ⟨Curve.inSubgroup_infinity, rfl⟩
    · rintro ⟨hsubgroup, hword⟩
      exact ((compress?_eq_zero_iff hsubgroup).mp hword).symm
  · rw [decompress_of_ne_zero hzero]
    constructor
    · rintro ⟨x, hre, him, y, hroot, hcoordinates, hsubgroup⟩
      obtain ⟨hsquare, hne, hhint, hsign⟩ := Quadratic.exists_sqrt?_signed_iff.mp hroot
      have hcontains : curve.contains (.affine x y) = true := beq_iff_eq.mpr hsquare
      obtain rfl := Curve.eq_affine_of_coordinates b_ne_zero hcontains hcoordinates
      refine ⟨hsubgroup, ?_⟩
      rw [compress?_affine hcontains, if_neg hne,
        ← Coordinate.ofWord_hinted_iff.mp ⟨hre, hhint.symm, hsign.symm⟩,
        ← Coordinate.ofWord_eq_ok_iff.mp him]
    · rintro ⟨hsubgroup, hword⟩
      cases p with
      | infinity =>
        obtain ⟨rfl, rfl⟩ := Prod.mk.inj (Option.some.inj hword)
        exact absurd ⟨rfl, rfl⟩ hzero
      | affine x y =>
        rw [compress?_affine hsubgroup.contains, Option.ite_none_left_eq_some, Option.some.injEq,
          Prod.mk.injEq] at hword
        obtain ⟨hne, hhead, htail⟩ := hword
        obtain ⟨hre, hhint, hsign⟩ := Coordinate.ofWord_hinted_iff.mpr hhead.symm
        exact ⟨x, hre, Coordinate.ofWord_eq_ok_iff.mpr htail.symm, y,
          Quadratic.exists_sqrt?_signed_iff.mpr
            ⟨beq_iff_eq.mp hsubgroup.contains, hne, hhint.symm, hsign.symm⟩, rfl, hsubgroup⟩

end G2

end GroupSignal
