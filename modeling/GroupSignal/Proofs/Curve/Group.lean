import Mathlib.AlgebraicGeometry.EllipticCurve.Affine.Point
import GroupSignal.Proofs.Field.Residue
import GroupSignal.Curve.Point

/-!
# Multiples are taken in the group of the curve

The points of a curve are a group. Multiples are computed without division, in coordinates that
share a denominator; such a triple denotes an element of the group, and every step of the
computation keeps what it denotes. So the test whether a point is killed by the order of the
subgroup is what it says.

An element that is killed by an order prime to six has no coordinate that is zero: with ordinate
zero it would have order two, and with abscissa zero order three.

## Main definitions

* `LawfulCoordinateField`: a coordinate field that is a field
* `Curve.Group`: the group of a curve
* `Curve.Denotes`, `Jacobian.Denotes`: the element that a point or a triple stands for
* `Curve.InSubgroup`: the points of the subgroup

## Main results

* `Jacobian.Denotes.double`, `Jacobian.Denotes.add`, `Jacobian.Denotes.multiple`: the group law
* `Curve.inSubgroup_iff`: the checks of a point decide whether it lies in the subgroup
* `Curve.InSubgroup.ordinate_ne_zero`, `Curve.InSubgroup.abscissa_ne_zero`: no coordinate is zero
-/

namespace GroupSignal

open CoordinateField

/-- A coordinate field that is a field, with two and three not zero and a test for zero. -/
class LawfulCoordinateField (F : Type) extends Field F, CoordinateField F where
  isZero_iff (x : F) : isZero x = true ↔ x = 0
  two_ne_zero : (2 : F) ≠ 0
  three_ne_zero : (3 : F) ≠ 0

variable {F : Type} [LawfulCoordinateField F] [DecidableEq F]

omit [DecidableEq F] in
theorem isZero_eq_true_iff (x : F) : isZero x = true ↔ x = 0 := LawfulCoordinateField.isZero_iff x

/-! ## The group -/

namespace Curve

/-- The curve by its equation. -/
def toAffine (C : Curve F) : WeierstrassCurve.Affine F :=
  { a₁ := 0, a₂ := 0, a₃ := 0, a₄ := 0, a₆ := C.b }

/-- The group of the points of a curve. -/
abbrev Group (C : Curve F) : Type := C.toAffine.Point

/-- The element of the group that a point of the curve is. -/
def Denotes (C : Curve F) : Point F → C.Group → Prop
  | .infinity, P => P = 0
  | .affine x y, P => ∃ h : C.toAffine.Nonsingular x y, P = .some x y h

/-- The points of the subgroup: those of the curve that its order kills. -/
def InSubgroup (C : Curve F) (p : Point F) : Prop := ∃ P, C.Denotes p P ∧ C.order • P = 0

end Curve

/-- The element of the group that a triple stands for: its denominator is zero at infinity, and
elsewhere its square and its cube divide the other two. -/
def Jacobian.Denotes (C : Curve F) (p : Jacobian F) : C.Group → Prop
  | .zero => p.z = 0
  | .some x y _ => p.z ≠ 0 ∧ p.x = x * p.z ^ 2 ∧ p.y = y * p.z ^ 3

namespace Curve

section Equation

omit [DecidableEq F]

variable {C : Curve F} {x y : F}

@[simp] theorem negY_toAffine : C.toAffine.negY x y = -y := by
  simp [WeierstrassCurve.Affine.negY, toAffine]

theorem ne_negY_toAffine (hy : y ≠ 0) : y ≠ C.toAffine.negY x y := by
  rw [negY_toAffine]
  intro hneg
  have hdouble : 2 * y = 0 := by linear_combination hneg
  exact hy ((mul_eq_zero.mp hdouble).resolve_left LawfulCoordinateField.two_ne_zero)

theorem addX_toAffine (x₁ x₂ slope : F) : C.toAffine.addX x₁ x₂ slope = slope ^ 2 - x₁ - x₂ := by
  simp [WeierstrassCurve.Affine.addX, toAffine]

theorem addY_toAffine (x₁ x₂ y₁ slope : F) : C.toAffine.addY x₁ x₂ y₁ slope =
    -(slope * (slope ^ 2 - x₁ - x₂ - x₁) + y₁) := by
  rw [WeierstrassCurve.Affine.addY, negY_toAffine, WeierstrassCurve.Affine.negAddY, addX_toAffine]

end Equation

variable {C : Curve F} {x y : F}

theorem contains_affine_iff : C.contains (.affine x y) = true ↔ y * y = x * x * x + C.b :=
  beq_iff_eq

theorem equation_iff : C.toAffine.Equation x y ↔ C.contains (.affine x y) = true := by
  rw [WeierstrassCurve.Affine.equation_iff, contains_affine_iff]
  simp only [toAffine]
  constructor <;> intro h <;> linear_combination h

/-- A point of a curve whose constant is not zero is an element of its group. -/
theorem nonsingular_iff (hb : C.b ≠ 0) :
    C.toAffine.Nonsingular x y ↔ C.contains (.affine x y) = true := by
  rw [WeierstrassCurve.Affine.nonsingular_iff', equation_iff, and_iff_left_iff_imp,
    contains_affine_iff]
  simp only [toAffine]
  intro h
  -- Where both derivatives vanish, so do both coordinates, and the constant with them.
  by_contra! hsingular
  obtain ⟨hx, hy⟩ := hsingular
  have hx : x = 0 := by
    have hsquare : 3 * x ^ 2 = 0 := by linear_combination -hx
    exact pow_eq_zero_iff two_ne_zero |>.mp
      ((mul_eq_zero.mp hsquare).resolve_left LawfulCoordinateField.three_ne_zero)
  have hy : y = 0 := by
    have hdouble : 2 * y = 0 := by linear_combination hy
    exact (mul_eq_zero.mp hdouble).resolve_left LawfulCoordinateField.two_ne_zero
  rw [hx, hy] at h
  exact hb (by linear_combination -h)

end Curve

/-! ## The group law without division -/

namespace Jacobian

open WeierstrassCurve.Affine

variable {C : Curve F} {p q : Jacobian F} {P Q : C.Group}

section Formulas

omit [DecidableEq F]

theorem isInfinity_iff : p.isInfinity = true ↔ p.z = 0 := isZero_eq_true_iff p.z

theorem Denotes.isInfinity_iff (h : p.Denotes C P) : p.isInfinity = true ↔ P = 0 := by
  rw [Jacobian.isInfinity_iff]
  cases P with
  | zero => exact iff_of_true h rfl
  | some x y hxy => exact iff_of_false h.1 (Point.some_ne_zero hxy)

theorem denotes_infinity : (infinity : Jacobian F).Denotes C 0 := rfl

theorem double_x (p : Jacobian F) : p.double.x = (3 * p.x ^ 2) ^ 2 - 8 * (p.x * p.y ^ 2) := by
  simp only [Jacobian.double, square, CoordinateField.double]
  ring

theorem double_y (p : Jacobian F) :
    p.double.y = 3 * p.x ^ 2 * (4 * (p.x * p.y ^ 2) - p.double.x) - 8 * p.y ^ 4 := by
  simp only [Jacobian.double, square, CoordinateField.double]
  ring

theorem double_z (p : Jacobian F) : p.double.z = 2 * (p.y * p.z) := by
  simp only [Jacobian.double, CoordinateField.double]
  ring

/-- How far apart the abscissas of two triples are, times the squares of both denominators. -/
def gapX (p q : Jacobian F) : F := q.x * square p.z - p.x * square q.z

/-- How far apart the ordinates of two triples are, times the cubes of both denominators. -/
def gapY (p q : Jacobian F) : F := q.y * square p.z * p.z - p.y * square q.z * q.z

/-- The sum of two triples whose abscissas differ. -/
def secant (p q : Jacobian F) : Jacobian F :=
  let v := p.x * square q.z * square (gapX p q)
  let x := square (gapY p q) - square (gapX p q) * gapX p q - CoordinateField.double v
  ⟨x, gapY p q * (v - x) - p.y * square q.z * q.z * (square (gapX p q) * gapX p q),
    gapX p q * p.z * q.z⟩

theorem secant_x (p q : Jacobian F) : (secant p q).x =
    gapY p q ^ 2 - gapX p q ^ 3 - 2 * (p.x * q.z ^ 2 * gapX p q ^ 2) := by
  simp only [secant, square, CoordinateField.double]
  ring

theorem secant_y (p q : Jacobian F) : (secant p q).y =
    gapY p q * (p.x * q.z ^ 2 * gapX p q ^ 2 - (secant p q).x) -
      p.y * q.z ^ 3 * gapX p q ^ 3 := by
  simp only [secant, square, CoordinateField.double]
  ring

theorem secant_z (p q : Jacobian F) : (secant p q).z = gapX p q * p.z * q.z := rfl

theorem add_of_isInfinity_left (hp : p.z = 0) : p.add q = q := by
  rw [add, if_pos (isInfinity_iff.mpr hp)]

theorem add_of_isInfinity_right (hp : p.z ≠ 0) (hq : q.z = 0) : p.add q = p := by
  rw [add, if_neg (mt isInfinity_iff.mp hp), if_pos (isInfinity_iff.mpr hq)]

section Finite

variable (hp : p.z ≠ 0) (hq : q.z ≠ 0)
include hp hq

theorem add_of_gaps_eq (hx : gapX p q = 0) (hy : gapY p q = 0) : p.add q = p.double := by
  rw [add, if_neg (mt isInfinity_iff.mp hp), if_neg (mt isInfinity_iff.mp hq)]
  exact (if_pos ((isZero_eq_true_iff _).mpr hx)).trans (if_pos ((isZero_eq_true_iff _).mpr hy))

theorem add_of_gapY_ne (hx : gapX p q = 0) (hy : gapY p q ≠ 0) : p.add q = infinity := by
  rw [add, if_neg (mt isInfinity_iff.mp hp), if_neg (mt isInfinity_iff.mp hq)]
  exact (if_pos ((isZero_eq_true_iff _).mpr hx)).trans
    (if_neg (mt (isZero_eq_true_iff _).mp hy))

theorem add_of_gapX_ne (hx : gapX p q ≠ 0) : p.add q = secant p q := by
  rw [add, if_neg (mt isInfinity_iff.mp hp), if_neg (mt isInfinity_iff.mp hq)]
  exact if_neg (mt (isZero_eq_true_iff _).mp hx)

end Finite

end Formulas

/-- **Doubling.** -/
theorem Denotes.double (h : p.Denotes C P) : p.double.Denotes C (P + P) := by
  cases P with
  | zero =>
    have hz : p.z = 0 := h
    show p.double.z = 0
    rw [double_z, hz, mul_zero, mul_zero]
  | some x y hxy =>
    obtain ⟨hz, hx, hy⟩ := h
    by_cases hzero : y = 0
    · -- The tangent is vertical.
      rw [Point.add_self_of_Y_eq (by rw [Curve.negY_toAffine, hzero, neg_zero])]
      show p.double.z = 0
      rw [double_z, hy, hzero]
      ring
    · have hdouble : 2 * y ≠ 0 := mul_ne_zero LawfulCoordinateField.two_ne_zero hzero
      have hne : y ≠ C.toAffine.negY x y := Curve.ne_negY_toAffine hzero
      rw [Point.add_self_of_Y_ne hne]
      -- The formulas have no division, so the slope enters them through its defining equation.
      have hslope : C.toAffine.slope x x y y * (2 * y) = 3 * x ^ 2 := by
        rw [slope_of_Y_ne rfl hne, Curve.negY_toAffine, sub_neg_eq_add, ← two_mul,
          div_mul_cancel₀ _ hdouble]
        simp [Curve.toAffine]
      refine ⟨?_, ?_, ?_⟩
      · rw [double_z, hy]
        exact mul_ne_zero LawfulCoordinateField.two_ne_zero
          (mul_ne_zero (mul_ne_zero hzero (pow_ne_zero 3 hz)) hz)
      · rw [double_x, double_z, hx, hy, Curve.addX_toAffine]
        linear_combination
          -(C.toAffine.slope x x y y * (2 * y) + 3 * x ^ 2) * p.z ^ 8 * hslope
      · rw [double_y, double_x, double_z, hx, hy, Curve.addY_toAffine]
        linear_combination ((3 * x ^ 2) ^ 2 + 3 * x ^ 2 * (C.toAffine.slope x x y y * (2 * y)) +
          (C.toAffine.slope x x y y * (2 * y)) ^ 2 - 12 * x * y ^ 2) * p.z ^ 12 * hslope

/-- **Addition.** -/
theorem Denotes.add (hp : p.Denotes C P) (hq : q.Denotes C Q) : (p.add q).Denotes C (P + Q) := by
  cases P with
  | zero =>
    rw [add_of_isInfinity_left hp]
    exact (zero_add Q).symm ▸ hq
  | some x₁ y₁ h₁ =>
    cases Q with
    | zero =>
      rw [add_of_isInfinity_right hp.1 hq]
      exact hp
    | some x₂ y₂ h₂ =>
      obtain ⟨hpz, hpx, hpy⟩ := id hp
      obtain ⟨hqz, hqx, hqy⟩ := id hq
      -- The gaps are zero exactly where the coordinates of the points agree.
      have hgapX : gapX p q = (x₂ - x₁) * p.z ^ 2 * q.z ^ 2 := by
        rw [gapX, hpx, hqx, square, square]
        ring
      have hgapY : gapY p q = (y₂ - y₁) * p.z ^ 3 * q.z ^ 3 := by
        rw [gapY, hpy, hqy, square, square]
        ring
      by_cases hx : x₁ = x₂
      · by_cases hy : y₁ = y₂
        · subst hx hy
          rw [add_of_gaps_eq hpz hqz (by rw [hgapX]; ring) (by rw [hgapY]; ring)]
          exact hp.double
        · -- The ordinates of points with one abscissa are the same or opposite.
          have hneg : y₁ = C.toAffine.negY x₂ y₂ := (Y_eq_of_X_eq h₁.1 h₂.1 hx).resolve_left hy
          rw [Point.add_of_Y_eq hx hneg, add_of_gapY_ne hpz hqz (by rw [hgapX, hx]; ring)]
          · exact denotes_infinity
          · rw [hgapY]
            exact mul_ne_zero (mul_ne_zero (sub_ne_zero.mpr (Ne.symm hy)) (pow_ne_zero 3 hpz))
              (pow_ne_zero 3 hqz)
      · have hne : gapX p q ≠ 0 := by
          rw [hgapX]
          exact mul_ne_zero (mul_ne_zero (sub_ne_zero.mpr (Ne.symm hx)) (pow_ne_zero 2 hpz))
            (pow_ne_zero 2 hqz)
        rw [Point.add_of_X_ne hx]
        have hslope : C.toAffine.slope x₁ x₂ y₁ y₂ * (x₁ - x₂) = y₁ - y₂ := by
          rw [slope_of_X_ne hx, div_mul_cancel₀ _ (sub_ne_zero.mpr hx)]
        have hx' : (secant p q).x = C.toAffine.addX x₁ x₂ (C.toAffine.slope x₁ x₂ y₁ y₂) *
            (secant p q).z ^ 2 := by
          rw [secant_x, secant_z, hgapX, hgapY, hpx, Curve.addX_toAffine]
          linear_combination (y₂ - y₁ + C.toAffine.slope x₁ x₂ y₁ y₂ * (x₂ - x₁)) *
            p.z ^ 6 * q.z ^ 6 * hslope
        rw [add_of_gapX_ne hpz hqz hne]
        refine ⟨?_, hx', ?_⟩
        · exact mul_ne_zero (mul_ne_zero hne hpz) hqz
        · rw [secant_y, hx', secant_z, hgapX, hgapY, hpx, hpy, Curve.addX_toAffine,
            Curve.addY_toAffine]
          linear_combination (x₁ - (C.toAffine.slope x₁ x₂ y₁ y₂ ^ 2 - x₁ - x₂)) * (x₂ - x₁) ^ 2 *
            p.z ^ 9 * q.z ^ 9 * hslope

/-- **Multiples.** -/
theorem Denotes.multiple (h : p.Denotes C P) (n : ℕ) : (p.multiple n).Denotes C (n • P) := by
  have hpower : (power Jacobian.add infinity p n).Denotes C
      (Multiplicative.toAdd (Multiplicative.ofAdd P ^ n)) :=
    power_rel (R := fun p Q => Jacobian.Denotes C p (Multiplicative.toAdd Q)) denotes_infinity
      (fun hp hq => Denotes.add hp hq) h n
  rwa [toAdd_pow, toAdd_ofAdd] at hpower

end Jacobian

/-! ## The subgroup -/

namespace Curve

open WeierstrassCurve.Affine

variable {C : Curve F} {p : Point F} {P : C.Group} {x y : F}

omit [DecidableEq F] in
theorem Denotes.toJacobian (h : C.Denotes p P) : p.toJacobian.Denotes C P := by
  cases p with
  | infinity =>
    obtain rfl : P = 0 := h
    exact Jacobian.denotes_infinity
  | affine x y =>
    obtain ⟨hxy, rfl⟩ := h
    refine ⟨one_ne_zero, ?_, ?_⟩
    · show x = x * 1 ^ 2
      ring
    · show y = y * 1 ^ 3
      ring

/-- **The test of the order** is what it says. -/
theorem Denotes.hasOrder_iff (h : C.Denotes p P) : C.hasOrder p = true ↔ C.order • P = 0 :=
  (h.toJacobian.multiple C.order).isInfinity_iff

theorem Denotes.contains (h : C.Denotes p P) : C.contains p = true := by
  cases p with
  | infinity => rfl
  | affine x y =>
    obtain ⟨hxy, -⟩ := h
    exact equation_iff.mp hxy.1

theorem exists_denotes (hb : C.b ≠ 0) (h : C.contains p = true) : ∃ P, C.Denotes p P := by
  cases p with
  | infinity => exact ⟨0, rfl⟩
  | affine x y => exact ⟨_, (nonsingular_iff hb).mpr h, rfl⟩

/-- **The checks of a point** decide whether it lies in the subgroup. -/
theorem inSubgroup_iff (hb : C.b ≠ 0) :
    C.InSubgroup p ↔ C.contains p = true ∧ C.hasOrder p = true := by
  constructor
  · rintro ⟨P, hdenotes, horder⟩
    exact ⟨hdenotes.contains, hdenotes.hasOrder_iff.mpr horder⟩
  · rintro ⟨hcontains, horder⟩
    obtain ⟨P, hdenotes⟩ := exists_denotes hb hcontains
    exact ⟨P, hdenotes, hdenotes.hasOrder_iff.mp horder⟩

theorem InSubgroup.contains (h : C.InSubgroup p) : C.contains p = true := by
  obtain ⟨P, hdenotes, -⟩ := h
  exact hdenotes.contains

theorem inSubgroup_infinity : C.InSubgroup .infinity := ⟨0, rfl, smul_zero C.order⟩

/-- An element that two coprime numbers kill is zero. -/
theorem eq_zero_of_coprime {m n : ℕ} (hcoprime : m.Coprime n) (hm : m • P = 0) (hn : n • P = 0) :
    P = 0 := by
  -- Its order divides both numbers.
  have hdvd : addOrderOf P ∣ m.gcd n :=
    Nat.dvd_gcd (addOrderOf_dvd_of_nsmul_eq_zero hm) (addOrderOf_dvd_of_nsmul_eq_zero hn)
  rw [hcoprime, Nat.dvd_one] at hdvd
  exact AddMonoid.addOrderOf_eq_one_iff.mp hdvd

/-- A point with ordinate zero has order two. -/
theorem InSubgroup.ordinate_ne_zero (horder : C.order.Coprime 2)
    (h : C.InSubgroup (.affine x y)) : y ≠ 0 := by
  obtain ⟨P, ⟨hxy, rfl⟩, hkilled⟩ := h
  rintro rfl
  have htwo : 2 • Point.some x 0 hxy = 0 := by
    rw [two_nsmul, Point.add_self_of_Y_eq (by rw [negY_toAffine, neg_zero])]
  exact Point.some_ne_zero hxy (eq_zero_of_coprime horder hkilled htwo)

/-- A point with abscissa zero has order three: its tangent is horizontal. -/
theorem InSubgroup.abscissa_ne_zero (horder : C.order.Coprime 3) (htwo : C.order.Coprime 2)
    (h : C.InSubgroup (.affine x y)) : x ≠ 0 := by
  have hy := h.ordinate_ne_zero htwo
  obtain ⟨P, ⟨hxy, rfl⟩, hkilled⟩ := h
  rintro rfl
  have hne : y ≠ C.toAffine.negY 0 y := ne_negY_toAffine hy
  have hslope : C.toAffine.slope 0 0 y y = 0 := by
    rw [slope_of_Y_ne rfl hne]
    simp [toAffine]
  have hdouble : Point.some 0 y hxy + Point.some 0 y hxy = -Point.some 0 y hxy := by
    rw [Point.add_self_of_Y_ne hne, Point.neg_some, Point.some.injEq, addX_toAffine, addY_toAffine,
      negY_toAffine, hslope]
    constructor <;> ring
  have hthree : 3 • Point.some 0 y hxy = 0 := by
    rw [succ_nsmul, two_nsmul, hdouble, neg_add_cancel]
  exact Point.some_ne_zero hxy (eq_zero_of_coprime horder hkilled hthree)

end Curve

end GroupSignal
