import Mathlib.Algebra.Order.Field.Rat
import Mathlib.Data.Int.CardIntervalMod
import Mathlib.Data.Set.Card
import Mathlib.Tactic.FieldSimp
import GroupSignal.Identity
import GroupSignal.Proofs.Field.Bytes

/-!
# Reducing 64 bytes favours no scalar

The byte strings of one length are the numbers below a power of 256. Reducing them deals them out to
the scalars in turn, so that no scalar gets more than one of them more than another. A secret is
reduced from 64 bytes, which are two digests. If these range over all pairs, then a scalar is hit
about once in as many pairs as there are scalars, and the difference is less than one in all pairs.

## Main definitions

* `dealt`: what a place gets of things that are dealt out in turn
* `Scalar.reducedTo`: the byte strings that are reduced to a scalar
* `Identity.digestsOf`: the pairs of digests that a secret comes from

## Main results

* `ncard_mod_eq`: the numbers below a bound with one remainder
* `Scalar.ncard_reducedTo`: how many byte strings of one length are reduced to a scalar
* `Identity.ncard_digestsOf`: how many pairs of digests a secret comes from
-/

namespace GroupSignal

/-! ## Dealing out in turn -/

section Dealing

variable {total places i : ℕ}

/-- How many of `total` things the place `i` gets when they are dealt out to `places` places in
turn. -/
def dealt (total places i : ℕ) : ℕ := total / places + if i < total % places then 1 else 0

/-- The numbers below a bound with one remainder. -/
theorem ncard_mod_eq (h : i < places) :
    {n | n < total ∧ n % places = i}.ncard = dealt total places i := by
  have hplaces : 0 < places := Nat.zero_lt_of_lt h
  -- The library counts what is congruent to `i`, which is its own remainder.
  have hset : {n | n < total ∧ n % places = i} =
      ↑((Finset.range total).filter (· ≡ i [MOD places])) := by
    ext n
    simp [Nat.ModEq, Nat.mod_eq_of_lt h]
  rw [hset, Set.ncard_coe_finset, ← Nat.count_eq_card_filter_range, Nat.count_modEq_card _ hplaces,
    Nat.mod_eq_of_lt h, dealt]

theorem dealt_eq_or : dealt total places i = total / places ∨
    dealt total places i = total / places + 1 := by
  rw [dealt]
  split
  · exact .inr rfl
  · exact .inl rfl

theorem dealt_eq_succ_iff : dealt total places i = total / places + 1 ↔ i < total % places := by
  rw [dealt]
  split
  case isTrue h => exact iff_of_true rfl h
  case isFalse h => exact iff_of_false (by omega) h

/-- As many times as there are places, what one of them gets is the total, up to less than one thing
for each place. -/
theorem mul_dealt_near (h : 0 < places) : places * dealt total places i < total + places ∧
    total < places * dealt total places i + places := by
  have hmod : total % places < places := Nat.mod_lt _ h
  have hdivMod : places * (total / places) + total % places = total := Nat.div_add_mod ..
  rw [dealt, Nat.mul_add]
  split <;> omega

/-- Every place gets its part of the whole, up to one thing. -/
theorem abs_dealt_div_sub_lt (htotal : 0 < total) (hplaces : 0 < places) :
    |(dealt total places i : ℚ) / total - 1 / places| < 1 / total := by
  have htotal' : (0 : ℚ) < total := Nat.cast_pos.mpr htotal
  have hplaces' : (0 : ℚ) < places := Nat.cast_pos.mpr hplaces
  -- Multiplied by both counts, this is about whole numbers.
  have hnear : |(places * dealt total places i - total : ℚ)| < places := by
    obtain ⟨hupper, hlower⟩ := @mul_dealt_near total places i hplaces
    rw [abs_sub_lt_iff, sub_lt_iff_lt_add', sub_lt_iff_lt_add']
    exact ⟨by exact_mod_cast hupper, by exact_mod_cast hlower⟩
  have hquotient : (dealt total places i : ℚ) / total - 1 / places =
      (places * dealt total places i - total) / (places * total) := by
    field_simp
  rw [hquotient, abs_div, abs_of_pos (mul_pos hplaces' htotal')]
  calc |(places * dealt total places i - total : ℚ)| / (places * total)
      < places / (places * total) := div_lt_div_of_pos_right hnear (mul_pos hplaces' htotal')
    _ = 1 / total := by field_simp

end Dealing

/-! ## Byte strings of one length -/

/-- Byte strings of one length are the numbers for which there is room. -/
theorem Bytes.bijOn_toNat (size : ℕ) (P : ℕ → Prop) :
    Set.BijOn toNat {b | b.length = size ∧ P b.toNat} {n | n < 256 ^ size ∧ P n} := by
  refine ⟨?_, ?_, ?_⟩
  · rintro b ⟨rfl, hP⟩
    exact ⟨toNat_lt b, hP⟩
  · rintro b ⟨hb, -⟩ b' ⟨hb', -⟩ heq
    rw [← ofNat_toNat hb, heq, ofNat_toNat hb']
  · rintro n ⟨hn, hP⟩
    have hvalue : toNat (ofNat size n) = n := by rw [toNat_ofNat, Nat.mod_eq_of_lt hn]
    exact ⟨ofNat size n, ⟨length_ofNat size n, by rwa [hvalue]⟩, hvalue⟩

theorem Bytes.ncard_length_eq (size : ℕ) : {b : Bytes | b.length = size}.ncard = 256 ^ size := by
  have hbij := Bytes.bijOn_toNat size fun _ => True
  simp only [and_true] at hbij
  rw [hbij.ncard_eq]
  show (Set.Iio (256 ^ size)).ncard = _
  rw [← Finset.coe_range, Set.ncard_coe_finset, Finset.card_range]

namespace Scalar

/-- The byte strings of a length that are reduced to a scalar. -/
def reducedTo (size : ℕ) (x : Scalar) : Set Bytes := {b | b.length = size ∧ reduceBytes b = x}

/-- **How many byte strings are reduced to a scalar.** -/
theorem ncard_reducedTo (size : ℕ) (x : Scalar) :
    (reducedTo size x).ncard = dealt (256 ^ size) scalarModulus x.val := by
  have hset : reducedTo size x =
      {b : Bytes | b.length = size ∧ b.toNat % scalarModulus = x.val} := by
    ext b
    refine and_congr_right fun _ => ?_
    rw [reduceBytes_eq, Residue.ext_iff]
    rfl
  rw [hset, (Bytes.bijOn_toNat size (· % scalarModulus = x.val)).ncard_eq, ncard_mod_eq x.isLt]

/-- Scalars share the byte strings of one length evenly, up to one for the lowest scalars. -/
theorem even_reducedTo (size : ℕ) (x : Scalar) :
    let hits := (reducedTo size x).ncard
    (hits = 256 ^ size / scalarModulus ∨ hits = 256 ^ size / scalarModulus + 1) ∧
      (hits = 256 ^ size / scalarModulus + 1 ↔ x.val < 256 ^ size % scalarModulus) ∧
      |(hits : ℚ) / 256 ^ size - 1 / scalarModulus| < 1 / 256 ^ size := by
  have heven := abs_dealt_div_sub_lt (i := x.val) (Nat.pow_pos (n := size) (by decide : 0 < 256))
    (Modulus.pos (p := scalarModulus))
  rw [Nat.cast_pow, Nat.cast_ofNat] at heven
  simp only [ncard_reducedTo]
  exact ⟨dealt_eq_or, dealt_eq_succ_iff, heven⟩

end Scalar

/-! ## Secrets -/

namespace Identity

open Scalar (reduceBytes reducedTo)

/-- The pairs of digests that a secret comes from. -/
def digestsOf (x : Scalar) : Set (Bytes × Bytes) :=
  {d | d.1.length = 32 ∧ d.2.length = 32 ∧ reduceBytes (d.1 ++ d.2) = x}

theorem bijOn_append_digestsOf (x : Scalar) :
    Set.BijOn (fun d : Bytes × Bytes => d.1 ++ d.2) (digestsOf x) (reducedTo 64 x) := by
  refine ⟨?_, ?_, ?_⟩
  · rintro ⟨d₀, d₁⟩ ⟨h₀, h₁, hx⟩
    exact ⟨by rw [List.length_append, h₀, h₁], hx⟩
  · rintro ⟨d₀, d₁⟩ ⟨h₀, -, -⟩ ⟨e₀, e₁⟩ ⟨h₀', -, -⟩ heq
    obtain ⟨rfl, rfl⟩ := List.append_inj heq (h₀.trans h₀'.symm)
    rfl
  · rintro w ⟨hw, hx⟩
    have hwhole : w.take 32 ++ w.drop 32 = w := List.take_append_drop 32 w
    refine ⟨(w.take 32, w.drop 32), ⟨?_, ?_, ?_⟩, hwhole⟩
    · rw [List.length_take, hw]
      rfl
    · rw [List.length_drop, hw]
    · rwa [hwhole]

/-- **How many pairs of digests a secret comes from.** -/
theorem ncard_digestsOf (x : Scalar) : (digestsOf x).ncard = (reducedTo 64 x).ncard :=
  (bijOn_append_digestsOf x).ncard_eq

theorem mem_digestsOf_derive (seed : Bytes) (secret : Secret) :
    (keccak256 (message seed secret 0), keccak256 (message seed secret 1)) ∈
      digestsOf (derive seed secret) :=
  ⟨length_keccak256 _, length_keccak256 _, rfl⟩

/-- **Reducing 64 bytes favours no scalar.** Of the `2 ^ 512` strings of 64 bytes, each scalar has
an even part, rounded down, or one more; the lowest scalars have one more. It has as many pairs of
digests, and a secret of a seed is reduced from such a pair. So its part of all pairs differs from
an even one by less than one pair. -/
theorem derive_even :
    {w : Bytes | w.length = 64}.ncard = 2 ^ 512 ∧
    (∀ x : Scalar,
      let hits := (reducedTo 64 x).ncard
      (hits = 2 ^ 512 / scalarModulus ∨ hits = 2 ^ 512 / scalarModulus + 1) ∧
      (hits = 2 ^ 512 / scalarModulus + 1 ↔ x.val < 2 ^ 512 % scalarModulus) ∧
      (digestsOf x).ncard = hits ∧
      |(hits : ℚ) / 2 ^ 512 - 1 / scalarModulus| < 1 / 2 ^ 512) ∧
    ∀ seed secret, (keccak256 (message seed secret 0), keccak256 (message seed secret 1)) ∈
      digestsOf (derive seed secret) := by
  have hbyte : 256 = 2 ^ 8 ∧ (256 : ℚ) = 2 ^ 8 := by norm_num
  have hwidth : 256 ^ 64 = 2 ^ 512 := by rw [hbyte.1, ← pow_mul]
  have hwidth' : (256 : ℚ) ^ 64 = 2 ^ 512 := by rw [hbyte.2, ← pow_mul]
  refine ⟨hwidth ▸ Bytes.ncard_length_eq 64, fun x => ?_, mem_digestsOf_derive⟩
  have heven := Scalar.even_reducedTo 64 x
  rw [hwidth, hwidth'] at heven
  exact ⟨heven.1, heven.2.1, ncard_digestsOf x, heven.2.2⟩

end Identity

end GroupSignal
