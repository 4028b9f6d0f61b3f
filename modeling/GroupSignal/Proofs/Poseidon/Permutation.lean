import Mathlib.LinearAlgebra.Matrix.NonsingularInverse
import GroupSignal.Poseidon.Hash
import GroupSignal.Poseidon.Permutation
import GroupSignal.Proofs.Field.Prime

/-!
# The permutation is a permutation

A row of lanes is a vector over the field of residues. On it a round is the sum with a fixed vector,
then a power of some of the entries, then the product with the matrix. Each of the three is
bijective: the sum always is, the fifth power is when five has no factor in common with `p - 1`, and
the product is when the matrix is invertible. So is every run of rounds.

## Main definitions

* `lanes`, `toMatrix`: rows as vectors, and the matrix of rows
* `raiseLane`: what a round does to one lane

## Main results

* `fifth_bijective`: the fifth power is bijective
* `lanes_round`: a round on vectors
* `permute_bijective`: the permutation is bijective, for all parameters with an invertible matrix
  and for the two instances
-/

namespace GroupSignal.Poseidon

/-! ## Rows as vectors -/

section Lanes

variable {F : Type} {t : ℕ}

/-- The lanes of a row by their numbers. -/
def lanes : Vector F t ≃ (Fin t → F) where
  toFun s i := s[i]
  invFun f := .ofFn f
  left_inv s := Vector.ext fun i hi => Vector.getElem_ofFn hi
  right_inv f := funext fun i => Vector.getElem_ofFn i.isLt

@[simp] theorem lanes_apply (s : Vector F t) (i : Fin t) : lanes s i = s[i] := rfl

/-- What is bijective on vectors is bijective on rows. -/
theorem bijective_of_lanes {f : Vector F t → Vector F t} {g : (Fin t → F) → Fin t → F}
    (h : ∀ s, lanes (f s) = g (lanes s)) (hg : g.Bijective) : f.Bijective := by
  have hcomp : lanes ∘ f = g ∘ lanes := funext h
  have hlanes : Function.Bijective (lanes ∘ f) := by
    rw [hcomp]
    exact hg.comp lanes.bijective
  exact (lanes.comp_bijective f).mp hlanes

/-- The matrix whose rows are given. -/
def toMatrix (matrix : Vector (Vector F t) t) : Matrix (Fin t) (Fin t) F :=
  .of fun i => lanes matrix[i]

end Lanes

variable {p t : ℕ} [Modulus p]

theorem dot_eq (row s : Vector (Residue p) t) : dot row s = lanes row ⬝ᵥ lanes s := by
  have hproducts : (Vector.zipWith (· * ·) row s).toList =
      List.ofFn fun i => lanes row i * lanes s i := by
    refine List.ext_getElem (by simp) fun i hi _ => ?_
    simp
  rw [dot, ← Vector.foldl_toList, hproducts, ← List.sum_eq_foldl, List.sum_ofFn]
  rfl

/-! ## The parts of a round -/

theorem fifth_eq (x : Residue p) : fifth x = x ^ 5 := by
  unfold fifth
  ring

omit [Modulus p] in
theorem lanes_addRow (s row : Vector (Residue p) t) :
    lanes (addRow s row) = lanes s + lanes row := by
  funext i
  simp [addRow]

/-- What a round does to one lane after the sum. -/
def raiseLane (full : Bool) (i : Fin t) : Residue p → Residue p :=
  if full ∨ i.val = 0 then fifth else id

omit [Modulus p] in
theorem lanes_raise (full : Bool) (s : Vector (Residue p) t) :
    lanes (raise full s) = Pi.map (raiseLane full) (lanes s) := by
  funext i
  cases full with
  | true => simp [raise, raiseLane]
  | false =>
    by_cases hi : i.val = 0
    · simp [raise, raiseLane, hi]
    · simp [raise, raiseLane, hi]

theorem lanes_mix (matrix : Vector (Vector (Residue p) t) t) (s : Vector (Residue p) t) :
    lanes (mix matrix s) = (toMatrix matrix).mulVec (lanes s) := by
  funext i
  have hlane : lanes (mix matrix s) i = dot matrix[i] s := by simp [mix]
  rw [hlane, dot_eq]
  rfl

/-- **A round on vectors**: the product of the matrix with powers of the sum with the constants. -/
theorem lanes_round (matrix : Vector (Vector (Residue p) t) t) (full : Bool)
    (row s : Vector (Residue p) t) : lanes (round matrix full row s) =
      (toMatrix matrix).mulVec (Pi.map (raiseLane full) (lanes s + lanes row)) := by
  rw [round, lanes_mix, lanes_raise, lanes_addRow]

/-! ## Bijective rounds -/

theorem Parameters.matrix_of_ofRows? {F : Type} {fullRounds partialRounds : ℕ}
    {matrix : Vector (Vector F t) t} {constants : List (Vector F t)} {P : Parameters F t}
    (h : ofRows? fullRounds partialRounds matrix constants = some P) : P.matrix = matrix := by
  unfold ofRows? at h
  split at h
  · rw [← Option.some.inj h]
  · cases h

section Prime

variable [Fact p.Prime]

/-- **The fifth power is bijective** when five has no factor in common with `p - 1`. -/
theorem fifth_bijective (h : Nat.Coprime 5 (p - 1)) :
    Function.Bijective (fifth : Residue p → Residue p) := by
  have : Finite (Residue p) := .of_injective _ Residue.toZMod_injective
  refine Finite.injective_iff_bijective.mp fun x y hxy => ?_
  rw [fifth_eq, fifth_eq] at hxy
  by_cases hy : y = 0
  · rw [hy, zero_pow (by decide)] at hxy
    exact ((pow_eq_zero_iff (by decide)).mp hxy).trans hy.symm
  · have hx : x ≠ 0 := by
      rintro rfl
      rw [zero_pow (by decide)] at hxy
      exact pow_ne_zero 5 hy hxy.symm
    -- The quotient has an order that divides both five and `p - 1`.
    have hfive : (x / y) ^ 5 = 1 := by rw [div_pow, hxy, div_self (pow_ne_zero 5 hy)]
    have hcard : (x / y) ^ (p - 1) = 1 := Residue.pow_card_sub_one (div_ne_zero hx hy)
    have hone : x / y = 1 := by
      have hgcd := pow_gcd_eq_one.mpr ⟨hfive, hcard⟩
      rwa [h, pow_one] at hgcd
    exact (div_eq_one_iff_eq hy).mp hone

/-- A round is bijective when its matrix is invertible. -/
theorem round_bijective (h : Nat.Coprime 5 (p - 1)) {matrix : Vector (Vector (Residue p) t) t}
    (hmatrix : IsUnit (toMatrix matrix)) (full : Bool) (row : Vector (Residue p) t) :
    Function.Bijective (round matrix full row) := by
  have hadd : Function.Bijective fun v : Fin t → Residue p => v + lanes row :=
    (Equiv.addRight (lanes row)).bijective
  have hraise : Function.Bijective (Pi.map (raiseLane (t := t) (p := p) full)) := by
    refine Function.Bijective.piMap fun i => ?_
    unfold raiseLane
    split
    · exact fifth_bijective h
    · exact Function.bijective_id
  have hmix : Function.Bijective (toMatrix matrix).mulVec :=
    ⟨Matrix.mulVec_injective_iff_isUnit.mpr hmatrix,
      Matrix.mulVec_surjective_iff_isUnit.mpr hmatrix⟩
  exact bijective_of_lanes (lanes_round matrix full row) (hmix.comp (hraise.comp hadd))

/-- Every run of rounds is bijective, whichever round it begins with. -/
theorem runFrom_bijective (h : Nat.Coprime 5 (p - 1)) {P : Parameters (Residue p) t}
    (hmatrix : IsUnit (toMatrix P.matrix)) (rows : List (Vector (Residue p) t)) (i : ℕ) :
    Function.Bijective (runFrom P i rows) := by
  induction rows generalizing i with
  | nil => exact Function.bijective_id
  | cons row rows ih => exact (ih (i + 1)).comp (round_bijective h hmatrix (P.isFull i) row)

theorem permute_bijective_of_isUnit (h : Nat.Coprime 5 (p - 1)) {P : Parameters (Residue p) t}
    (hmatrix : IsUnit (toMatrix P.matrix)) : Function.Bijective (permute P) :=
  runFrom_bijective h hmatrix P.constants 0

end Prime

/-! ## The two instances -/

theorem coprime_five : Nat.Coprime 5 (scalarModulus - 1) := by decide +kernel

theorem isUnit_matrix2 : IsUnit (toMatrix matrix2) := by
  rw [Matrix.isUnit_iff_isUnit_det, isUnit_iff_ne_zero, Matrix.det_fin_two]
  decide +kernel

theorem isUnit_matrix3 : IsUnit (toMatrix matrix3) := by
  rw [Matrix.isUnit_iff_isUnit_det, isUnit_iff_ne_zero, Matrix.det_fin_three]
  decide +kernel

/-- **The permutation is bijective**: over every prime field with `p - 1` prime to five, on any
number of lanes, and with any accepted parameters whose matrix is invertible. The two instances are
accepted, their matrices are invertible, and their modulus is such a prime. -/
theorem permute_bijective :
    (∀ (p : ℕ) [Modulus p], p.Prime → Nat.Coprime 5 (p - 1) →
      ∀ (t fullRounds partialRounds : ℕ) (matrix : Vector (Vector (Residue p) t) t)
        (constants : List (Vector (Residue p) t)) (P : Parameters (Residue p) t),
        Parameters.ofRows? fullRounds partialRounds matrix constants = some P →
        IsUnit (toMatrix matrix) → Function.Bijective (permute P)) ∧
    (Parameters.ofRows? 8 56 matrix2 constants2 = some width2 ∧
      Function.Bijective (permute width2)) ∧
    Parameters.ofRows? 8 57 matrix3 constants3 = some width3 ∧
      Function.Bijective (permute width3) := by
  refine ⟨?_, ⟨rfl, ?_⟩, rfl, ?_⟩
  · intro p _ hp hfive t fullRounds partialRounds matrix constants P hP hmatrix
    have : Fact p.Prime := ⟨hp⟩
    rw [← Parameters.matrix_of_ofRows? hP] at hmatrix
    exact permute_bijective_of_isUnit hfive hmatrix
  · exact permute_bijective_of_isUnit coprime_five isUnit_matrix2
  · exact permute_bijective_of_isUnit coprime_five isUnit_matrix3

/-- A full round on each side of a partial one, over the field of coordinates. -/
theorem permute_bijective_coordinates :
    let matrix : Vector (Vector Coordinate 2) 2 := #v[#v[2, 1], #v[1, 1]]
    let constants : List (Vector Coordinate 2) := [#v[1, 2], #v[3, 4], #v[5, 6]]
    baseModulus.Prime ∧ Nat.Coprime 5 (baseModulus - 1) ∧ IsUnit (toMatrix matrix) ∧
      ∃ P, Parameters.ofRows? 2 1 matrix constants = some P ∧ Function.Bijective (permute P) := by
  intro matrix constants
  have hfive : Nat.Coprime 5 (baseModulus - 1) := by decide +kernel
  have hmatrix : IsUnit (toMatrix matrix) := by
    rw [Matrix.isUnit_iff_isUnit_det, isUnit_iff_ne_zero, Matrix.det_fin_two]
    decide +kernel
  refine ⟨baseModulus_prime, hfive, hmatrix, ⟨2, 1, matrix, constants, rfl, rfl⟩, rfl, ?_⟩
  exact permute_bijective.1 _ baseModulus_prime hfive _ 2 1 matrix constants _ rfl hmatrix

end GroupSignal.Poseidon
