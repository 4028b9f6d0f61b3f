import Mathlib.FieldTheory.Finite.Basic
import GroupSignal.Residue

/-!
# Residues are a ring, and a field when the modulus is prime

Residues are held as representatives, with their own arithmetic. The map to the integers modulo `p`
is injective and keeps every operation, so the residues have the laws of that ring. Powers are taken
by squaring; whatever relates factors to elements of a monoid relates such a power to the power
there.

## Main definitions

* `Residue.toZMod`: a residue as an integer modulo `p`
* the instances `CommRing (Residue p)` and, for a prime modulus, `Field (Residue p)`

## Main results

* `power_rel`: a relation that products keep is kept by powers
* `Residue.pow_card`, `Residue.pow_card_sub_one`: the power by a prime modulus changes nothing, and
  that by one less is one
-/

namespace GroupSignal

/-- **A relation that products keep is kept by powers.** -/
theorem power_rel {α M : Type} [Monoid M] {mul : α → α → α} {one : α} {R : α → M → Prop}
    (hone : R one 1) (hmul : ∀ {a b x y}, R a x → R b y → R (mul a b) (x * y))
    {a : α} {x : M} (h : R a x) (n : ℕ) : R (power mul one a n) (x ^ n) := by
  -- Induction on the exponent, which is halved, for all factors, which are squared.
  induction n using Nat.strong_induction_on generalizing a x with
  | _ n ih =>
    rw [power]
    by_cases hzero : n = 0
    · rw [if_pos hzero, hzero, pow_zero]
      exact hone
    · have hrest := ih (n / 2) (by omega) (hmul h h)
      rw [← pow_two, ← pow_mul] at hrest
      rw [if_neg hzero]
      by_cases hodd : n % 2 = 1
      · have hn : 2 * (n / 2) + 1 = n := by omega
        rw [if_pos hodd, ← hn, pow_succ']
        rw [hn]
        exact hmul h hrest
      · have hn : 2 * (n / 2) = n := by omega
        rw [if_neg hodd]
        rwa [hn] at hrest

namespace Residue

variable {p : ℕ}

/-- A residue as an integer modulo `p`. -/
def toZMod (a : Residue p) : ZMod p := a.val

theorem toZMod_injective : Function.Injective (toZMod (p := p)) := by
  intro a b h
  have hmod : a.val % p = b.val % p := (ZMod.natCast_eq_natCast_iff' a.val b.val p).mp h
  rw [Nat.mod_eq_of_lt a.isLt, Nat.mod_eq_of_lt b.isLt] at hmod
  exact ext hmod

theorem toZMod_add (a b : Residue p) : (a + b).toZMod = a.toZMod + b.toZMod := by
  rw [toZMod, val_add, ZMod.natCast_mod, Nat.cast_add]
  rfl

theorem toZMod_mul (a b : Residue p) : (a * b).toZMod = a.toZMod * b.toZMod := by
  rw [toZMod, val_mul, ZMod.natCast_mod, Nat.cast_mul]
  rfl

theorem toZMod_neg (a : Residue p) : (-a).toZMod = -a.toZMod := by
  have hle : a.val ≤ p := a.isLt.le
  show ((if h : a.val = 0 then a else ⟨p - a.val, by omega⟩ : Residue p).val : ZMod p) =
    -(a.val : ZMod p)
  by_cases h : a.val = 0
  · rw [dif_pos h, h, Nat.cast_zero, neg_zero]
  · rw [dif_neg h]
    show ((p - a.val : ℕ) : ZMod p) = _
    rw [Nat.cast_sub hle, ZMod.natCast_self, zero_sub]

theorem toZMod_sub (a b : Residue p) : (a - b).toZMod = a.toZMod - b.toZMod := by
  show ((if h : b.val ≤ a.val then ⟨a.val - b.val, _⟩ else ⟨a.val + p - b.val, _⟩ :
    Residue p).val : ZMod p) = (a.val : ZMod p) - (b.val : ZMod p)
  by_cases h : b.val ≤ a.val
  · rw [dif_pos h]
    exact Nat.cast_sub h
  · rw [dif_neg h]
    show ((a.val + p - b.val : ℕ) : ZMod p) = _
    rw [Nat.cast_sub (by have := b.isLt; omega), Nat.cast_add, ZMod.natCast_self, add_zero]

variable [Modulus p]

theorem toZMod_ofNat (n : ℕ) : (ofNat p n).toZMod = n := ZMod.natCast_mod n p

theorem toZMod_pow (a : Residue p) (n : ℕ) : (a ^ n).toZMod = a.toZMod ^ n :=
  power_rel (R := fun a x => toZMod a = x) ((toZMod_ofNat 1).trans Nat.cast_one)
    (fun ha hb => by rw [toZMod_mul, ha, hb]) rfl n

/-! ## The ring -/

instance : Zero (Residue p) := ⟨0⟩

instance : One (Residue p) := ⟨1⟩

instance : NatCast (Residue p) := ⟨ofNat p⟩

instance : IntCast (Residue p) := ⟨Int.castDef⟩

instance : SMul ℕ (Residue p) := ⟨fun n a => n * a⟩

instance : SMul ℤ (Residue p) := ⟨fun n a => n * a⟩

theorem toZMod_intCast (n : ℤ) : (n : Residue p).toZMod = n := by
  cases n with
  | ofNat n => exact (toZMod_ofNat n).trans (Int.cast_natCast n).symm
  | negSucc n =>
    have hneg : ((Int.negSucc n : ℤ) : Residue p) = -ofNat p (n + 1) := rfl
    rw [hneg, toZMod_neg, toZMod_ofNat, Int.cast_negSucc]

instance : CommRing (Residue p) :=
  toZMod_injective.commRing toZMod
    ((toZMod_ofNat 0).trans Nat.cast_zero) ((toZMod_ofNat 1).trans Nat.cast_one)
    toZMod_add toZMod_mul toZMod_neg toZMod_sub
    (fun n a => by
      rw [nsmul_eq_mul, ← toZMod_ofNat n, ← toZMod_mul]
      rfl)
    (fun n a => by
      rw [zsmul_eq_mul, ← toZMod_intCast n, ← toZMod_mul]
      rfl)
    toZMod_pow toZMod_ofNat toZMod_intCast

theorem val_eq_zero_iff {a : Residue p} : a.val = 0 ↔ a = 0 :=
  ⟨fun h => ext (h.trans (Nat.zero_mod p).symm), fun h => h ▸ Nat.zero_mod p⟩

/-! ## The field -/

variable [Fact p.Prime]

/-- **Fermat's little theorem.** -/
theorem pow_card (a : Residue p) : a ^ p = a :=
  toZMod_injective (by rw [toZMod_pow, ZMod.pow_card])

theorem pow_card_sub_one {a : Residue p} (h : a ≠ 0) : a ^ (p - 1) = 1 := by
  have hne : a.toZMod ≠ 0 := fun hz => h (toZMod_injective (hz.trans Nat.cast_zero.symm))
  apply toZMod_injective
  rw [toZMod_pow, ZMod.pow_card_sub_one_eq_one hne]
  exact ((toZMod_ofNat 1).trans Nat.cast_one).symm

theorem mul_pow_sub_two {a : Residue p} (h : a ≠ 0) : a * a ^ (p - 2) = 1 := by
  have htwo : 2 ≤ p := (Fact.out : p.Prime).two_le
  rw [← pow_succ', show p - 2 + 1 = p - 1 by omega, pow_card_sub_one h]

instance : Field (Residue p) where
  inv a := (inverse? a).getD 0
  exists_pair_ne := ⟨0, 1, fun h => zero_ne_one (α := ZMod p) (by
    rw [← Nat.cast_zero, ← Nat.cast_one, ← toZMod_ofNat, ← toZMod_ofNat]
    exact congrArg toZMod h)⟩
  mul_inv_cancel a h := by
    show a * (inverse? a).getD 0 = 1
    rw [inverse?, if_neg (mt val_eq_zero_iff.mp h)]
    exact mul_pow_sub_two h
  inv_zero := by
    show (inverse? (0 : Residue p)).getD 0 = 0
    rw [inverse?, if_pos (val_eq_zero_iff.mpr rfl)]
    rfl
  nnqsmul := _
  nnqsmul_def := fun _ _ => rfl
  qsmul := _
  qsmul_def := fun _ _ => rfl

/-- The inverse that zero lacks is that of the field. -/
theorem inverse?_eq_some {a : Residue p} (h : a ≠ 0) : inverse? a = some a⁻¹ := by
  show inverse? a = some ((inverse? a).getD 0)
  rw [inverse?, if_neg (mt val_eq_zero_iff.mp h)]
  rfl

omit [Fact p.Prime] in
theorem inverse?_zero : inverse? (0 : Residue p) = none := if_pos (val_eq_zero_iff.mpr rfl)

end Residue

end GroupSignal
