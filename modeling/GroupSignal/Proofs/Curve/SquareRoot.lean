import Mathlib.Tactic.LinearCombination
import GroupSignal.Proofs.Field.Quadratic
import GroupSignal.Curve.Field

/-!
# Which square root is found

Of the two roots of a square coordinate exactly one is a square itself, and the power that is taken
is that one. In the quadratic extension a root is found when its first part is such a coordinate,
other than zero; the hint that finds it says whether its norm is no square. So a square with a root
whose first part is not zero has exactly one hint and one root, and all others have none. The
squares that are missed are those of the multiples of `u`: zero, and the opposites of squares of
coordinates.

## Main definitions

* `Coordinate.sign`: which of the two roots of its square a coordinate is

## Main results

* `Coordinate.sqrt?_eq_some_iff`, `Quadratic.sqrt?_eq_some_iff`: the root that is found
* `Coordinate.exists_sqrt?_signed_iff`, `Quadratic.exists_sqrt?_signed_iff`: the root with a sign
* `Quadratic.eq_of_sqrt?`, `Quadratic.isSquare_and_sqrt?_eq_none_iff`: one hint and one root, and
  the squares with neither
* `squareRoots_found`: for which elements of the two fields which roots are found
-/

namespace GroupSignal

/-! ## Coordinates -/

namespace Coordinate

variable {a b r : Coordinate}

/-- Fermat's little theorem for the exponent of the root: the modulus leaves 3 modulo 4. -/
theorem mul_self_pow_rootExponent (a : Coordinate) :
    (a * a) ^ ((baseModulus + 1) / 4) * (a * a) ^ ((baseModulus + 1) / 4) = a * a := by
  have hexponent : 2 * ((baseModulus + 1) / 4 + (baseModulus + 1) / 4) = baseModulus + 1 := by
    decide
  rw [← pow_add, ← pow_two a, ← pow_mul, hexponent, pow_succ, Residue.pow_card, pow_two]

/-- The root that is found is the one that is a square. -/
theorem sqrt?_eq_some_iff_isSquare : sqrt? a = some r ↔ r * r = a ∧ IsSquare r := by
  rw [sqrt?, Option.ite_none_right_eq_some, Option.some.injEq]
  constructor
  · rintro ⟨hsquare, rfl⟩
    refine ⟨hsquare, (a ^ ((baseModulus + 1) / 4)) ^ ((baseModulus + 1) / 4), ?_⟩
    rw [← mul_pow]
    exact congrArg (· ^ ((baseModulus + 1) / 4)) hsquare.symm
  · rintro ⟨rfl, s, rfl⟩
    have hroot : (s * s * (s * s)) ^ ((baseModulus + 1) / 4) = s * s := by
      rw [mul_pow, mul_self_pow_rootExponent]
    refine ⟨?_, hroot⟩
    rw [hroot]
    rfl

/-- No root is found of what is no square. -/
theorem sqrt?_eq_none_iff : sqrt? a = none ↔ ¬ IsSquare a := by
  rw [sqrt?, ite_eq_right_iff]
  constructor
  · rintro h ⟨s, rfl⟩
    exact Option.some_ne_none _ (h (mul_self_pow_rootExponent s))
  · intro h hsquare
    exact absurd ⟨_, hsquare.symm⟩ h

/-- A root is found of every square, and of nothing else. -/
theorem exists_sqrt?_iff : (∃ r, sqrt? a = some r) ↔ IsSquare a := by
  rw [← Option.ne_none_iff_exists', ne_eq, sqrt?_eq_none_iff, not_not]

/-- Which of the two roots of its square a coordinate is: the one that is found, or its opposite. -/
def sign (a : Coordinate) : Bool := (sqrt? a).isNone

theorem sign_eq_false_iff : sign a = false ↔ IsSquare a := by
  rw [← not_iff_not, Bool.not_eq_false, sign, Option.isNone_iff_eq_none, sqrt?_eq_none_iff]

theorem sign_eq_iff {s : Bool} : sign a = s ↔ (s = false ↔ IsSquare a) := by
  rw [← sign_eq_false_iff]
  cases s <;> simp

theorem sign_mul_self (a : Coordinate) : sign (a * a) = false :=
  sign_eq_false_iff.mpr ⟨a, rfl⟩

/-- **The root that is found** of a coordinate. -/
theorem sqrt?_eq_some_iff : sqrt? a = some r ↔ r * r = a ∧ sign r = false := by
  rw [sqrt?_eq_some_iff_isSquare, sign_eq_false_iff]

theorem neg_ne_self (h : a ≠ 0) : -a ≠ a := by
  intro hneg
  have htwo : 2 * a = 0 := by linear_combination -hneg
  exact h ((mul_eq_zero.mp htwo).resolve_left two_ne_zero)

/-- **Opposite coordinates have opposite signs.** -/
theorem sign_neg (h : a ≠ 0) : sign (-a) = !sign a := by
  obtain ⟨r, hr⟩ := exists_sqrt?_iff.mpr (IsSquare.mul_self a)
  cases hsign : sign a with
  | false =>
    -- Both would be the root that is found of their square.
    by_contra hneg
    have hroot := sqrt?_eq_some_iff.mpr ⟨neg_mul_neg a a, Bool.not_eq_true _ ▸ hneg⟩
    rw [sqrt?_eq_some_iff.mpr ⟨rfl, hsign⟩] at hroot
    exact neg_ne_self h (Option.some.inj hroot).symm
  | true =>
    obtain ⟨hmul, hroot⟩ := sqrt?_eq_some_iff.mp hr
    rcases mul_self_eq_mul_self_iff.mp hmul with rfl | rfl
    · exact absurd (hroot.symm.trans hsign) Bool.false_ne_true
    · exact hroot

theorem ne_zero_of_sign (h : sign a = true) : a ≠ 0 := by
  rintro rfl
  rw [← mul_zero (0 : Coordinate), sign_mul_self] at h
  exact Bool.false_ne_true h

/-- The root that is found of a square is what was squared, up to its sign. -/
theorem sqrt?_mul_self (a : Coordinate) :
    sqrt? (a * a) = some (if sign a then -a else a) := by
  rw [sqrt?_eq_some_iff]
  cases hsign : sign a with
  | false => exact ⟨rfl, hsign⟩
  | true =>
    refine ⟨neg_mul_neg .., ?_⟩
    rw [if_pos rfl, sign_neg (ne_zero_of_sign hsign), hsign]
    rfl

/-- **The root with a given sign.** Zero is its own opposite and has every sign. -/
theorem exists_sqrt?_signed_iff {s : Bool} :
    (∃ root, sqrt? a = some root ∧ (if s then -root else root) = r) ↔
      r * r = a ∧ (r = 0 ∨ sign r = s) := by
  constructor
  · rintro ⟨root, hroot, rfl⟩
    obtain ⟨hmul, hsign⟩ := sqrt?_eq_some_iff.mp hroot
    cases s with
    | false => exact ⟨hmul, .inr hsign⟩
    | true =>
      refine ⟨(neg_mul_neg ..).trans hmul, ?_⟩
      rw [if_pos rfl, or_iff_not_imp_left, neg_eq_zero]
      intro hne
      rw [sign_neg hne, hsign]
      rfl
  · rintro ⟨rfl, rfl | rfl⟩
    · exact ⟨_, sqrt?_mul_self 0, by simp⟩
    · refine ⟨_, sqrt?_mul_self r, ?_⟩
      cases sign r
      · rfl
      · exact neg_neg r

theorem half_eq_inv : half = 2⁻¹ := eq_inv_of_mul_eq_one_left (by decide)

end Coordinate

/-! ## The quadratic extension -/

namespace Quadratic

open Coordinate

variable {a y root root' : Quadratic} {normRoot : Coordinate} {hint hint' : Bool}

theorem double_firstPartSquared (a : Quadratic) (normRoot : Coordinate) (hint : Bool) :
    2 * a.firstPartSquared normRoot hint = a.re + if hint then -normRoot else normRoot := by
  rw [firstPartSquared, half_eq_inv, mul_comm, inv_mul_cancel_right₀ Coordinate.two_ne_zero]

/-- The right root of the norm leads to the square of the first part of a root. -/
theorem firstPartSquared_mul_self (h : (if hint then -normRoot else normRoot) = y.norm) :
    (y * y).firstPartSquared normRoot hint = y.re * y.re := by
  apply mul_left_cancel₀ Coordinate.two_ne_zero
  rw [double_firstPartSquared, h, re_mul, norm]
  ring

/-- The wrong root of the norm leads to the opposite of the square of the second part. -/
theorem firstPartSquared_mul_self_of_neg (h : (if hint then -normRoot else normRoot) = -y.norm) :
    (y * y).firstPartSquared normRoot hint = -(y.im * y.im) := by
  apply mul_left_cancel₀ Coordinate.two_ne_zero
  rw [double_firstPartSquared, h, re_mul, norm]
  ring

theorem norm_ne_zero_of_re (h : y.re ≠ 0) : y.norm ≠ 0 := by
  intro hnorm
  rw [norm_eq_zero_iff.mp hnorm] at h
  exact h rfl

/-- The root that is found of the norm of a square is the norm, up to its sign. -/
theorem sqrt?_norm_mul_self (y : Quadratic) : Coordinate.sqrt? (y * y).norm =
    some (if sign y.norm then -y.norm else y.norm) := by
  rw [norm_mul, Coordinate.sqrt?_mul_self]

/-- The steps by which a root is found. -/
theorem sqrt?_eq_some_iff_exists : a.sqrt? hint = some root ↔
    ∃ normRoot, Coordinate.sqrt? a.norm = some normRoot ∧
      ∃ re, Coordinate.sqrt? (a.firstPartSquared normRoot hint) = some re ∧
        ∃ inverse, (re + re).inverse? = some inverse ∧ root * root = a ∧
          root = ⟨re, a.im * inverse⟩ := by
  simp only [sqrt?, Option.bind_eq_bind, Option.bind_eq_some_iff, Option.ite_none_right_eq_some,
    Option.some.injEq]
  refine exists_congr fun normRoot => and_congr_right fun _ => exists_congr fun re =>
    and_congr_right fun _ => exists_congr fun inverse => and_congr_right fun _ => ?_
  constructor
  · rintro ⟨hroot, rfl⟩
    exact ⟨hroot, rfl⟩
  · rintro ⟨hroot, rfl⟩
    exact ⟨hroot, rfl⟩

/-- **The root that is found in the quadratic extension**: its first part has a sign that says so,
and the hint is the sign of its norm. -/
theorem sqrt?_eq_some_iff : a.sqrt? hint = some root ↔
    root * root = a ∧ root.re ≠ 0 ∧ sign root.re = false ∧ sign root.norm = hint := by
  rw [sqrt?_eq_some_iff_exists]
  constructor
  · rintro ⟨normRoot, hnorm, re, hre, inverse, hinverse, hroot, hparts⟩
    obtain ⟨hmul, hsign⟩ := Coordinate.sqrt?_eq_some_iff.mp hre
    have hparts : root.re = re := congrArg Quadratic.re hparts
    have hne : root.re ≠ 0 := by
      rintro hzero
      rw [← hparts, hzero, add_zero, Residue.inverse?_zero] at hinverse
      exact Option.some_ne_none _ hinverse.symm
    refine ⟨hroot, hne, hparts ▸ hsign, ?_⟩
    -- The equation of the first part says that the hint picks the norm of the root.
    have hpicked : (if hint then -normRoot else normRoot) = root.norm := by
      have hfirst := double_firstPartSquared a normRoot hint
      rw [← hmul, ← hroot, re_mul, ← hparts] at hfirst
      rw [norm]
      linear_combination -hfirst
    rw [← hroot, sqrt?_norm_mul_self, Option.some.injEq] at hnorm
    by_contra hwrong
    have hneg : -root.norm = root.norm := by
      rw [← hnorm] at hpicked
      revert hpicked hwrong
      cases sign root.norm <;> cases hint <;> simp
    exact neg_ne_self (norm_ne_zero_of_re hne) hneg
  · rintro ⟨rfl, hre, hsign, rfl⟩
    have hpicked : (if sign root.norm then -(if sign root.norm then -root.norm else root.norm)
        else (if sign root.norm then -root.norm else root.norm)) = root.norm := by
      cases sign root.norm
      · rfl
      · exact neg_neg _
    have hdouble : root.re + root.re ≠ 0 := by
      rw [← two_mul]
      exact mul_ne_zero Coordinate.two_ne_zero hre
    have him : (root * root).im = root.im * (root.re + root.re) := by
      rw [im_mul]
      ring
    refine ⟨_, sqrt?_norm_mul_self root, root.re, ?_, _, Residue.inverse?_eq_some hdouble, rfl, ?_⟩
    · rw [firstPartSquared_mul_self hpicked]
      exact Coordinate.sqrt?_eq_some_iff.mpr ⟨rfl, hsign⟩
    · rw [him, mul_inv_cancel_right₀ hdouble]

theorem norm_neg (y : Quadratic) : (-y).norm = y.norm := by
  rw [norm, norm, re_neg, im_neg, neg_mul_neg, neg_mul_neg]

/-- **The root with a given sign** in the quadratic extension. -/
theorem exists_sqrt?_signed_iff {s : Bool} :
    (∃ root, a.sqrt? hint = some root ∧ (if s then -root else root) = y) ↔
      y * y = a ∧ y.re ≠ 0 ∧ sign y.norm = hint ∧ sign y.re = s := by
  constructor
  · rintro ⟨root, hroot, rfl⟩
    obtain ⟨hmul, hre, hsign, hnorm⟩ := sqrt?_eq_some_iff.mp hroot
    cases s with
    | false => exact ⟨hmul, hre, hnorm, hsign⟩
    | true =>
      refine ⟨(neg_mul_neg ..).trans hmul, neg_ne_zero.mpr hre, ?_, ?_⟩
      · rw [if_pos rfl, norm_neg, hnorm]
      · rw [if_pos rfl, re_neg, sign_neg hre, hsign]
        rfl
  · rintro ⟨rfl, hre, rfl, rfl⟩
    refine ⟨if sign y.re then -y else y, sqrt?_eq_some_iff.mpr ?_, ?_⟩
    · cases hsign : sign y.re with
      | false => exact ⟨rfl, hre, hsign, rfl⟩
      | true =>
        rw [if_pos rfl, neg_mul_neg, norm_neg, re_neg, sign_neg hre, hsign]
        exact ⟨rfl, neg_ne_zero.mpr hre, rfl, rfl⟩
    · cases sign y.re
      · rfl
      · exact neg_neg y

/-- A root without a first part is not found. -/
theorem sqrt?_mul_self_of_re (hre : y.re = 0) (hint : Bool) : (y * y).sqrt? hint = none := by
  rw [Option.eq_none_iff_forall_ne_some]
  intro root hroot
  obtain ⟨hmul, hne, -, -⟩ := sqrt?_eq_some_iff.mp hroot
  rcases mul_self_eq_mul_self_iff.mp hmul with rfl | rfl
  · exact hne hre
  · exact hne (by rw [re_neg, hre, neg_zero])

/-! ## Hints that succeed -/

/-- **One hint and one root**: no element has two of either. -/
theorem eq_of_sqrt? (h : a.sqrt? hint = some root) (h' : a.sqrt? hint' = some root') :
    hint' = hint ∧ root' = root := by
  obtain ⟨hmul, hre, hsign, rfl⟩ := sqrt?_eq_some_iff.mp h
  obtain ⟨hmul', -, hsign', rfl⟩ := sqrt?_eq_some_iff.mp h'
  rcases mul_self_eq_mul_self_iff.mp (hmul'.trans hmul.symm) with rfl | rfl
  · exact ⟨rfl, rfl⟩
  · -- Opposite roots share the norm, hence the hint, so the sign has to tell them apart.
    rw [re_neg, sign_neg hre, hsign] at hsign'
    cases hsign'

theorem sqrt?_eq_none_or (a : Quadratic) : a.sqrt? false = none ∨ a.sqrt? true = none := by
  rw [or_iff_not_imp_left]
  intro hfalse
  obtain ⟨root, hroot⟩ := Option.ne_none_iff_exists'.mp hfalse
  rw [Option.eq_none_iff_forall_ne_some]
  intro root' hroot'
  cases (eq_of_sqrt? hroot hroot').1

/-- **Some hint succeeds** just for the squares that have a root with a first part. -/
theorem exists_sqrt?_iff :
    (∃ hint root, a.sqrt? hint = some root) ↔ ∃ y, y * y = a ∧ y.re ≠ 0 := by
  constructor
  · rintro ⟨hint, root, hroot⟩
    obtain ⟨hmul, hre, -, -⟩ := sqrt?_eq_some_iff.mp hroot
    exact ⟨root, hmul, hre⟩
  · rintro ⟨y, hmul, hre⟩
    obtain ⟨root, hroot, -⟩ := exists_sqrt?_signed_iff.mpr ⟨hmul, hre, rfl, rfl⟩
    exact ⟨_, root, hroot⟩

theorem mul_self_of_re (hre : y.re = 0) : y * y = ⟨-(y.im * y.im), 0⟩ := by
  apply Quadratic.ext
  · rw [re_mul, hre, zero_mul, zero_sub]
  · rw [im_mul, hre, zero_mul, mul_zero, add_zero]

/-- **The squares that both hints miss**: the opposites of squares of coordinates. -/
theorem isSquare_and_sqrt?_eq_none_iff :
    (IsSquare a ∧ ∀ hint, a.sqrt? hint = none) ↔ ∃ c, a = ⟨-(c * c), 0⟩ := by
  constructor
  · rintro ⟨⟨y, rfl⟩, hmissed⟩
    have hre : y.re = 0 := by
      by_contra hre
      obtain ⟨hint, root, hroot⟩ := exists_sqrt?_iff.mpr ⟨y, rfl, hre⟩
      exact Option.some_ne_none _ (hroot.symm.trans (hmissed hint))
    exact ⟨y.im, mul_self_of_re hre⟩
  · rintro ⟨c, rfl⟩
    have hsquare : (⟨0, c⟩ : Quadratic) * ⟨0, c⟩ = ⟨-(c * c), 0⟩ := mul_self_of_re rfl
    rw [← hsquare]
    exact ⟨⟨_, rfl⟩, sqrt?_mul_self_of_re rfl⟩

/-- Four is found with the first root of its norm, and its opposite with none. -/
example : sqrt? ⟨4, 0⟩ false = some ⟨2, 0⟩ ∧ sqrt? ⟨4, 0⟩ true = none ∧
    ∀ hint, sqrt? ⟨-4, 0⟩ hint = none := by
  decide +kernel

end Quadratic

/-! ## Both fields -/

/-- **Which square roots are found.** Of a coordinate a root is found just if it is a square, and
the root is the one that is a square itself. Of an element of the quadratic extension a root is
found with some hint just if it is the square of an element with a first part other than zero, and
never with both hints. The first part of the root is a square other than zero, and the hint says
whether the norm of the root is no square. -/
theorem squareRoots_found (a : Coordinate) (b : Quadratic) :
    (((∃ root, a.sqrt? = some root) ↔ IsSquare a) ∧
      ∀ root, a.sqrt? = some root ↔ root * root = a ∧ IsSquare root) ∧
    ((∃ hint root, b.sqrt? hint = some root) ↔ ∃ y, y * y = b ∧ y.re ≠ 0) ∧
    (b.sqrt? false = none ∨ b.sqrt? true = none) ∧
    ∀ hint root, b.sqrt? hint = some root ↔ root * root = b ∧ root.re ≠ 0 ∧
      IsSquare root.re ∧ (hint = false ↔ IsSquare root.norm) := by
  refine ⟨⟨Coordinate.exists_sqrt?_iff, fun root => Coordinate.sqrt?_eq_some_iff_isSquare⟩,
    Quadratic.exists_sqrt?_iff, b.sqrt?_eq_none_or, fun hint root => ?_⟩
  rw [Quadratic.sqrt?_eq_some_iff, Coordinate.sign_eq_false_iff, Coordinate.sign_eq_iff]

end GroupSignal
