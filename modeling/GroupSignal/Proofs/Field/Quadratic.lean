import Mathlib.Algebra.QuadraticAlgebra.Basic
import Mathlib.NumberTheory.LegendreSymbol.Basic
import Mathlib.Tactic.LinearCombination
import GroupSignal.Proofs.Field.Prime
import GroupSignal.Curve.Field

/-!
# The quadratic extension is a field

Minus one is no square among the coordinates, so adjoining a root of it gives a field. Products are
taken with three multiplications; they are those of the quadratic algebra, and the norm is
multiplicative and vanishes at zero alone.

## Main definitions

* `Quadratic.toAlgebra`: an element of the extension in the quadratic algebra
* the instances `CommRing Quadratic` and `Field Quadratic`

## Main results

* `Coordinate.not_isSquare_neg_one`: minus one is no square
* `Quadratic.norm_mul`, `Quadratic.norm_eq_zero_iff`: the norm
-/

namespace GroupSignal

/-! ## Squares of coordinates -/

namespace Coordinate

theorem not_isSquare_neg_one : ¬ IsSquare (-1 : Coordinate) := by
  rintro ⟨a, ha⟩
  have hsquare : IsSquare (-1 : ZMod baseModulus) := by
    refine ⟨a.toZMod, ?_⟩
    rw [← Residue.toZMod_mul, ← ha, Residue.toZMod_neg]
    exact congrArg (- ·) (Nat.cast_one (R := ZMod baseModulus)).symm
  exact ZMod.exists_sq_eq_neg_one_iff.mp hsquare (by decide +kernel)

theorem two_ne_zero : (2 : Coordinate) ≠ 0 := by decide

/-- A sum of two squares vanishes only if both do. -/
theorem eq_zero_of_mul_self_add_mul_self {a b : Coordinate} (h : a * a + b * b = 0) :
    a = 0 ∧ b = 0 := by
  have hb : b = 0 := by
    by_contra hb
    refine not_isSquare_neg_one ⟨a * b⁻¹, ?_⟩
    field_simp
    linear_combination -h
  rw [hb, mul_zero, add_zero, mul_self_eq_zero] at h
  exact ⟨h, hb⟩

end Coordinate

namespace Quadratic

/-! ## The ring -/

/-- An element of the extension in the quadratic algebra. -/
def toAlgebra (x : Quadratic) : QuadraticAlgebra Coordinate (-1) 0 := ⟨x.re, x.im⟩

theorem toAlgebra_injective : Function.Injective toAlgebra := fun _ _ h =>
  Quadratic.ext (congrArg QuadraticAlgebra.re h) (congrArg QuadraticAlgebra.im h)

theorem toAlgebra_mul (x y : Quadratic) : (x * y).toAlgebra = x.toAlgebra * y.toAlgebra := by
  apply QuadraticAlgebra.ext
  · show x.re * y.re - x.im * y.im = x.re * y.re + -1 * x.im * y.im
    ring
  · show (x.re + x.im) * (y.re + y.im) - x.re * y.re - x.im * y.im =
      x.re * y.im + x.im * y.re + 0 * x.im * y.im
    ring

theorem toAlgebra_pow (x : Quadratic) (n : ℕ) : (x ^ n).toAlgebra = x.toAlgebra ^ n :=
  power_rel (R := fun x y => toAlgebra x = y) rfl
    (fun hx hy => by rw [toAlgebra_mul, hx, hy]) rfl n

instance : Zero Quadratic := ⟨0⟩

instance : One Quadratic := ⟨1⟩

instance : NatCast Quadratic := ⟨fun n => ⟨n, 0⟩⟩

instance : IntCast Quadratic := ⟨fun n => ⟨n, 0⟩⟩

instance : SMul ℕ Quadratic := ⟨fun n x => ⟨n • x.re, n • x.im⟩⟩

instance : SMul ℤ Quadratic := ⟨fun n x => ⟨n • x.re, n • x.im⟩⟩

instance : CommRing Quadratic :=
  toAlgebra_injective.commRing toAlgebra rfl rfl (fun _ _ => rfl) toAlgebra_mul
    (fun _ => rfl) (fun _ _ => rfl) (fun _ _ => rfl) (fun _ _ => rfl) toAlgebra_pow
    (fun _ => rfl) (fun _ => rfl)

@[simp] theorem re_neg (x : Quadratic) : (-x).re = -x.re := rfl

@[simp] theorem im_neg (x : Quadratic) : (-x).im = -x.im := rfl

theorem re_mul (x y : Quadratic) : (x * y).re = x.re * y.re - x.im * y.im := rfl

theorem im_mul (x y : Quadratic) : (x * y).im = x.re * y.im + x.im * y.re := by
  show (x.re + x.im) * (y.re + y.im) - x.re * y.re - x.im * y.im = _
  ring

/-! ## The norm -/

theorem norm_mul (x y : Quadratic) : (x * y).norm = x.norm * y.norm := by
  rw [norm, norm, norm, re_mul, im_mul]
  ring

theorem norm_eq_zero_iff {x : Quadratic} : x.norm = 0 ↔ x = 0 := by
  constructor
  · intro h
    obtain ⟨hre, him⟩ := Coordinate.eq_zero_of_mul_self_add_mul_self h
    exact Quadratic.ext hre him
  · rintro rfl
    rfl

theorem mul_conj (x : Quadratic) : x * x.conj = ⟨x.norm, 0⟩ := by
  apply Quadratic.ext
  · rw [re_mul, conj, norm]
    ring
  · rw [im_mul, conj]
    ring

/-! ## The field -/

theorem inverse?_zero : inverse? 0 = none := by
  rw [inverse?, norm_eq_zero_iff.mpr rfl, Residue.inverse?_zero]
  rfl

theorem inverse?_of_ne_zero {x : Quadratic} (h : x ≠ 0) :
    inverse? x = some (x.conj.scale x.norm⁻¹) := by
  rw [inverse?, Residue.inverse?_eq_some (mt norm_eq_zero_iff.mp h)]
  rfl

instance : Field Quadratic where
  inv x := (inverse? x).getD 0
  exists_pair_ne := ⟨0, 1, by decide⟩
  mul_inv_cancel x h := by
    have hnorm : x.norm ≠ 0 := mt norm_eq_zero_iff.mp h
    show x * (inverse? x).getD 0 = 1
    rw [inverse?_of_ne_zero h]
    calc x * x.conj.scale x.norm⁻¹ = (x * x.conj).scale x.norm⁻¹ := by
          apply Quadratic.ext
          · simp only [scale, re_mul]
            ring
          · simp only [scale, im_mul]
            ring
      _ = 1 := by
          rw [mul_conj, scale, inv_mul_cancel₀ hnorm, mul_zero]
          rfl
  inv_zero := by
    show (inverse? 0).getD 0 = 0
    rw [inverse?_zero]
    rfl
  nnqsmul := _
  nnqsmul_def := fun _ _ => rfl
  qsmul := _
  qsmul_def := fun _ _ => rfl

/-- The inverse that zero lacks is that of the field. -/
theorem inverse?_eq_some {x : Quadratic} (h : x ≠ 0) : inverse? x = some x⁻¹ := by
  show inverse? x = some ((inverse? x).getD 0)
  rw [inverse?_of_ne_zero h]
  rfl

end Quadratic

end GroupSignal
