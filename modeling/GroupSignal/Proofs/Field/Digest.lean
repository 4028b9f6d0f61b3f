import Mathlib.Tactic.LinearCombination
import GroupSignal.Field.Scalar
import GroupSignal.Proofs.Field.Bytes

/-!
# The scalar of a digest is the digest without its last byte

The digest of a byte string is taken as a word, and the word is shifted by a byte. Its bytes are
then a zero and all but the last byte of the digest, so the number that they write is below the
modulus, and the reader that reduces has nothing to reduce. Two byte strings have one scalar only if
their digests agree up to the last byte.

## Main definitions

* `Limbs.shiftRight`: a word shifted towards its lowest limb

## Main results

* `Limbs.toNat_shiftRight`: shifting divides by a power of two
* `toBytes_hashToScalar`: the bytes of the scalar
* `hashToScalar_digest`: nothing is reduced, and what the scalar tells of the digest
-/

namespace GroupSignal

/-! ## Shifting words -/

namespace Limbs

variable {k : ℕ}

/-- The limb above another, and zero above the highest. -/
def above (w : Limbs) (i : Fin 4) : UInt64 := w[i.val + 1]?.getD 0

/-- A word shifted by less than 64 places towards its lowest limb. The places that become free in a
limb are those that the limb above it loses. -/
def shiftRight (w : Limbs) (k : ℕ) : Limbs :=
  Vector.ofFn fun i =>
    w.get i >>> UInt64.ofNat k ||| (w.above i <<< UInt64.ofNat (63 - k)) <<< 1

/-- What a limb loses is at the top of the limb below it. -/
theorem toNat_carry (hk : k < 64) (x : UInt64) :
    ((x <<< UInt64.ofNat (63 - k)) <<< 1).toNat = x.toNat % 2 ^ k * 2 ^ (64 - k) := by
  have hplaces : (63 - k) % 2 ^ 64 % 64 = 63 - k := by omega
  have hwidth : 2 ^ 64 = 2 ^ k * 2 ^ (64 - k) := by
    rw [← pow_add]
    congr 1
    omega
  have htwice : x.toNat * 2 ^ (63 - k) * 2 = x.toNat * 2 ^ (64 - k) := by
    rw [Nat.mul_assoc, ← pow_succ]
    congr 2
    omega
  rw [UInt64.toNat_shiftLeft, UInt64.toNat_shiftLeft, UInt64.toNat_ofNat', hplaces,
    Nat.shiftLeft_eq, Nat.shiftLeft_eq]
  show x.toNat * 2 ^ (63 - k) % 2 ^ 64 * 2 % 2 ^ 64 = _
  rw [Nat.mod_mul_mod, htwice, hwidth, Nat.mul_mod_mul_right]

theorem toNat_limb_shiftRight (hk : k < 64) (w : Limbs) (i : Fin 4) :
    (w.shiftRight k)[i].toNat =
      w[i].toNat / 2 ^ k + (w.above i).toNat % 2 ^ k * 2 ^ (64 - k) := by
  have hplaces : k % 2 ^ 64 % 64 = k := by omega
  have hkept : w[i].toNat / 2 ^ k < 2 ^ (64 - k) := by
    have hlimb : w[i].toNat < 2 ^ k * 2 ^ (64 - k) := by
      rw [← pow_add, Nat.add_sub_cancel' hk.le]
      exact w[i].toNat_lt
    exact Nat.div_lt_of_lt_mul hlimb
  have hget : w.get i = w[i] := rfl
  -- The two parts have no place in common, so putting them together adds them.
  rw [shiftRight, Fin.getElem_fin, Vector.getElem_ofFn, Fin.eta, hget, UInt64.toNat_or,
    toNat_carry hk, UInt64.toNat_shiftRight, UInt64.toNat_ofNat', hplaces,
    Nat.shiftRight_eq_div_pow, Nat.or_comm, ← Nat.shiftLeft_eq,
    ← Nat.shiftLeft_add_eq_or_of_lt hkept, Nat.add_comm]

/-- **Shifting** divides by a power of two. -/
theorem toNat_shiftRight (hk : k < 64) (w : Limbs) : (w.shiftRight k).toNat = w.toNat / 2 ^ k := by
  have hsize : UInt64.size = 2 ^ k * 2 ^ (64 - k) := by
    rw [← pow_add, Nat.add_sub_cancel' hk.le]
    rfl
  have hsplit : ∀ i : Fin 4, w[i].toNat = 2 ^ k * (w[i].toNat / 2 ^ k) + w[i].toNat % 2 ^ k :=
    fun i => (Nat.div_add_mod _ _).symm
  have habove : w.above 0 = w[(1 : Fin 4)] ∧ w.above 1 = w[(2 : Fin 4)] ∧
      w.above 2 = w[(3 : Fin 4)] ∧ w.above 3 = 0 := ⟨rfl, rfl, rfl, rfl⟩
  have hthree : (3 : Fin 4).val = 3 := rfl
  -- What a limb above the lowest loses stays in the word, so only the lowest loses anything.
  have hlost : w.toNat = 2 ^ k * (w.shiftRight k).toNat + w[(0 : Fin 4)].toNat % 2 ^ k := by
    simp only [toNat, toNat_limb_shiftRight hk, Fin.sum_univ_four, Fin.val_zero, Fin.val_one,
      Fin.val_two, hthree, habove, UInt64.toNat_zero, Nat.zero_mod, hsize]
    linear_combination hsplit 0 + 2 ^ k * 2 ^ (64 - k) * hsplit 1 +
      (2 ^ k * 2 ^ (64 - k)) ^ 2 * hsplit 2 + (2 ^ k * 2 ^ (64 - k)) ^ 3 * hsplit 3
  have hbelow : w[(0 : Fin 4)].toNat % 2 ^ k < 2 ^ k := Nat.mod_lt _ (Nat.two_pow_pos k)
  rw [hlost, Nat.mul_add_div (Nat.two_pow_pos k), Nat.div_eq_of_lt hbelow, Nat.add_zero]

end Limbs

/-! ## Dropping the last byte -/

variable {n : ℕ}

theorem Bytes.toNat_take_pred {b : Bytes} (h : b.length = n + 1) :
    toNat (b.take n) = toNat b / 256 := by
  obtain rfl | ⟨front, x, rfl⟩ := List.eq_nil_or_concat b
  · exact absurd h (Nat.succ_ne_zero n).symm
  · have hx : x.toNat < 256 := x.toNat_lt
    rw [List.concat_eq_append, List.length_append, List.length_singleton,
      Nat.add_right_cancel_iff] at h
    rw [List.concat_eq_append, List.take_left' h, toNat_concat]
    omega

/-- A zero byte in front takes the place of the last byte. -/
theorem Bytes.ofNat_div {b : Bytes} (h : b.length = n + 1) :
    ofNat (n + 1) (toNat b / 256) = 0 :: b.take n := by
  have hlength : (0 :: b.take n).length = n + 1 := by
    rw [List.length_cons, List.length_take, h, Nat.min_eq_left (Nat.le_succ n)]
  rw [← toNat_take_pred h, ← toNat_zeros_append 1 (b.take n)]
  exact ofNat_toNat hlength

/-! ## The scalar of a digest -/

variable {b b' : Bytes}

theorem length_take_keccak256 (b : Bytes) : ((keccak256 b).take 31).length = 31 := by
  rw [List.length_take, length_keccak256]
  rfl

theorem toNat_shiftRight_keccak256 (b : Bytes) :
    ((Limbs.ofBytes (keccak256 b)).shiftRight 8).toNat = Bytes.toNat (keccak256 b) / 256 := by
  rw [Limbs.toNat_shiftRight (by decide), Limbs.toNat_ofBytes (length_keccak256 b)]
  rfl

/-- The bytes of the shifted digest, which the scalar is read from. -/
theorem toBytes_shiftRight_keccak256 (b : Bytes) :
    ((Limbs.ofBytes (keccak256 b)).shiftRight 8).toBytes = 0 :: (keccak256 b).take 31 := by
  rw [Limbs.toBytes_eq, toNat_shiftRight_keccak256, Bytes.ofNat_div (length_keccak256 b)]

theorem hashToScalar_eq_reduceBytes (b : Bytes) :
    hashToScalar b = Scalar.reduceBytes (0 :: (keccak256 b).take 31) := by
  rw [hashToScalar, Bytes.ofNat_div (length_keccak256 b)]

/-- **Nothing is reduced**: from the same bytes the strict reader takes the same scalar. -/
theorem ofBytes_take_keccak256 (b : Bytes) :
    Scalar.ofBytes (0 :: (keccak256 b).take 31) = .ok (hashToScalar b) := by
  have hlt : Bytes.toNat (0 :: (keccak256 b).take 31) < scalarModulus := by
    have hbytes := Bytes.toNat_lt ((keccak256 b).take 31)
    rw [length_take_keccak256] at hbytes
    exact (Bytes.toNat_zeros_append 1 _).trans_lt (hbytes.trans (by decide))
  obtain ⟨x, hx⟩ := Scalar.exists_ofNat_iff.mpr hlt
  rw [hashToScalar_eq_reduceBytes, Scalar.reduceBytes_of_ofBytes hx]
  exact hx

theorem toBytes_hashToScalar (b : Bytes) :
    (hashToScalar b).toBytes = 0 :: (keccak256 b).take 31 := by
  have hlength : (0 :: (keccak256 b).take 31).length = 32 := by
    rw [List.length_cons, length_take_keccak256]
  exact (Scalar.ofBytes_eq_ok_iff hlength).mp (ofBytes_take_keccak256 b)

theorem val_hashToScalar (b : Bytes) :
    (hashToScalar b).val = Bytes.toNat ((keccak256 b).take 31) := by
  rw [← Scalar.toNat_toBytes, toBytes_hashToScalar]
  exact Bytes.toNat_zeros_append 1 _

theorem val_hashToScalar_lt (b : Bytes) : (hashToScalar b).val < 2 ^ 248 := by
  have hbytes := Bytes.toNat_lt ((keccak256 b).take 31)
  rw [length_take_keccak256] at hbytes
  rw [val_hashToScalar]
  exact hbytes

/-- Two byte strings have one scalar if their digests agree up to the last byte, and only then. -/
theorem hashToScalar_eq_iff :
    hashToScalar b = hashToScalar b' ↔ (keccak256 b).take 31 = (keccak256 b').take 31 := by
  constructor
  · intro h
    have hbytes := congrArg Scalar.toBytes h
    rw [toBytes_hashToScalar, toBytes_hashToScalar] at hbytes
    exact (List.cons.inj hbytes).2
  · intro h
    rw [hashToScalar_eq_reduceBytes, hashToScalar_eq_reduceBytes, h]

/-- **The scalar of a byte string** has a zero and all but the last byte of the digest as its bytes,
and these are the bytes of the digest as a word that is shifted by one of them. Their number is
below the modulus, so that nothing is reduced, and byte strings have one scalar just if their
digests agree up to the last byte. -/
theorem hashToScalar_digest :
    (∀ b : Bytes,
      let shifted := (Limbs.ofBytes (keccak256 b)).shiftRight 8
      shifted.toNat = Bytes.toNat (keccak256 b) / 256 ∧
        hashToScalar b = Scalar.reduceBytes shifted.toBytes ∧
        Scalar.ofBytes shifted.toBytes = .ok (hashToScalar b) ∧
        (hashToScalar b).toBytes = 0 :: (keccak256 b).take 31 ∧
        (hashToScalar b).val = Bytes.toNat ((keccak256 b).take 31) ∧
        (hashToScalar b).val < 2 ^ 248) ∧
    2 ^ 248 < scalarModulus ∧
    ∀ b b' : Bytes,
      hashToScalar b = hashToScalar b' ↔ (keccak256 b).take 31 = (keccak256 b').take 31 := by
  refine ⟨fun b => ?_, by decide, fun b b' => hashToScalar_eq_iff⟩
  intro shifted
  have hbytes : shifted.toBytes = 0 :: (keccak256 b).take 31 := toBytes_shiftRight_keccak256 b
  rw [hbytes]
  exact ⟨toNat_shiftRight_keccak256 b, hashToScalar_eq_reduceBytes b, ofBytes_take_keccak256 b,
    toBytes_hashToScalar b, val_hashToScalar b, val_hashToScalar_lt b⟩

end GroupSignal
