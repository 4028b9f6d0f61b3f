import Mathlib.Data.Nat.ModEq
import GroupSignal.Proofs.Bytes
import GroupSignal.Proofs.Field.Text

/-!
# Scalars as bytes and as words

A scalar is read from a word of 256 bits in four limbs, from 32 bytes, and from any byte string with
a reduction. The words and the strings of 32 bytes are the same numbers in different digits, so the
two strict readers accept the same ones: those below the modulus, each of which is what one scalar
is written as. The third reader agrees with them there. Elsewhere it still gives the remainder of
what the bytes write, whatever their number.

## Main definitions

* `Limbs`: words of 256 bits
* `Scalar.ofLimbs`, `Scalar.toLimbs`: scalars from and to words

## Main results

* `Limbs.toNat_ofBytes`, `Limbs.toBytes_eq`: words as bytes
* `Scalar.ofBytes_eq_ok_iff`, `Scalar.ofLimbs_eq_ok_iff`: the strict readers
* `Scalar.reduceBytes_eq`: the reader that reduces
* `Scalar.conversions_agree`: how all of them are related
-/

namespace GroupSignal

/-! ## Words -/

/-- A word of 256 bits in four limbs of 64, the lowest first. -/
abbrev Limbs := Vector UInt64 4

namespace Limbs

/-- The number that the limbs of a word write. -/
def toNat (w : Limbs) : ℕ := ∑ i : Fin 4, w[i].toNat * UInt64.size ^ i.val

/-- The word of a number, of which the low 256 bits are kept. -/
def ofNat (n : ℕ) : Limbs := Vector.ofFn fun i => UInt64.ofNat (n / UInt64.size ^ i.val)

/-- The word of 32 bytes, most significant first: eight for each limb, and the last eight for the
lowest. -/
def ofBytes (b : Bytes) : Limbs :=
  Vector.ofFn fun i => UInt64.ofNat (Bytes.toNat ((b.drop (8 * i.rev.val)).take 8))

/-- The 32 bytes of a word, most significant first. -/
def toBytes (w : Limbs) : Bytes := (List.ofFn fun i : Fin 4 => Bytes.ofNat 8 w[i.rev].toNat).flatten

theorem toNat_lt (w : Limbs) : w.toNat < UInt64.size ^ 4 :=
  (finFunctionFinEquiv fun i => w[i].toFin).isLt

theorem toNat_ofNat {n : ℕ} (h : n < UInt64.size ^ 4) : (ofNat n).toNat = n := by
  have hlimb : ∀ i : Fin 4, (ofNat n)[i].toNat = n / UInt64.size ^ i.val % UInt64.size := by
    intro i
    rw [ofNat, Fin.getElem_fin, Vector.getElem_ofFn, UInt64.toNat_ofNat']
  rw [toNat]
  simp only [hlimb]
  exact congrArg Fin.val (finFunctionFinEquiv.apply_symm_apply ⟨n, h⟩)

theorem toNat_injective : Function.Injective toNat := by
  intro v w h
  have hlimbs := finFunctionFinEquiv.injective (Fin.ext h :
    finFunctionFinEquiv (fun i : Fin 4 => v[i].toFin) = finFunctionFinEquiv fun i => w[i].toFin)
  ext i hi
  exact congrArg Fin.val (congrFun hlimbs ⟨i, hi⟩)

/-- Read from its last limb on. -/
theorem toNat_eq_sum_rev (w : Limbs) :
    w.toNat = ∑ i : Fin 4, w[i.rev].toNat * (256 ^ 8) ^ i.rev.val :=
  (Equiv.sum_comp Fin.revPerm fun i : Fin 4 => w[i].toNat * UInt64.size ^ i.val).symm

/-- **The word of 32 bytes** writes what the bytes do. -/
theorem toNat_ofBytes {b : Bytes} (h : b.length = 32) : (ofBytes b).toNat = Bytes.toNat b := by
  have hpiece : ∀ i : Fin 4, ((b.drop (8 * i.val)).take 8).length = 8 := by
    intro i
    rw [List.length_take, List.length_drop]
    omega
  have hlimb : ∀ i : Fin 4,
      (ofBytes b)[i.rev].toNat = Bytes.toNat ((b.drop (8 * i.val)).take 8) := by
    intro i
    have hlt := Bytes.toNat_lt ((b.drop (8 * i.val)).take 8)
    rw [hpiece] at hlt
    rw [ofBytes, Fin.getElem_fin, Vector.getElem_ofFn, Fin.eta, Fin.rev_rev]
    exact UInt64.toNat_ofNat_of_lt' hlt
  have hwhole := Bytes.flatten_ofFn_take_drop b 8 4
  rw [List.take_of_length_le h.le] at hwhole
  rw [toNat_eq_sum_rev]
  simp only [hlimb]
  rw [← Bytes.toNat_flatten_ofFn hpiece, hwhole]

/-- **The bytes of a word** write what its limbs do. -/
theorem toBytes_eq (w : Limbs) : w.toBytes = Bytes.ofNat 32 w.toNat := by
  have hpiece : ∀ i : Fin 4, (Bytes.ofNat 8 w[i.rev].toNat).length = 8 :=
    fun i => Bytes.length_ofNat 8 _
  have hlength : w.toBytes.length = 32 := by
    simp [toBytes]
  have hvalue : ∀ i : Fin 4, Bytes.toNat (Bytes.ofNat 8 w[i.rev].toNat) = w[i.rev].toNat := by
    intro i
    rw [Bytes.toNat_ofNat]
    exact Nat.mod_eq_of_lt w[i.rev].toNat_lt
  have hwhole : Bytes.toNat w.toBytes = w.toNat := by
    rw [toBytes, Bytes.toNat_flatten_ofFn hpiece, toNat_eq_sum_rev]
    simp only [hvalue]
  rw [← hwhole, Bytes.ofNat_toNat hlength]

end Limbs

namespace Scalar

variable {b : Bytes} {w : Limbs} {x : Scalar}

/-! ## The strict readers -/

/-- The scalar that a word writes, which must be below the modulus. -/
def ofLimbs (w : Limbs) : Except ValueError Scalar := ofNat w.toNat

/-- The word of a scalar. -/
def toLimbs (x : Scalar) : Limbs := Limbs.ofNat x.val

theorem exists_ofNat_iff {n : ℕ} : (∃ x, ofNat n = .ok x) ↔ n < scalarModulus := by
  constructor
  · rintro ⟨x, hx⟩
    exact ofNat_eq_ok_iff.mp hx ▸ x.isLt
  · intro h
    exact ⟨⟨n, h⟩, ofNat_eq_ok_iff.mpr rfl⟩

theorem toNat_toBytes (x : Scalar) : x.toBytes.toNat = x.val := by
  have hx : x.val < 256 ^ 32 := x.isLt.trans (by decide)
  rw [toBytes, Bytes.toNat_ofNat, Nat.mod_eq_of_lt hx]

theorem toNat_toLimbs (x : Scalar) : x.toLimbs.toNat = x.val :=
  Limbs.toNat_ofNat (x.isLt.trans (by decide))

/-- **Scalars from bytes.** -/
theorem ofBytes_eq_ok_iff (h : b.length = 32) : ofBytes b = .ok x ↔ x.toBytes = b := by
  rw [ofBytes, ofNat_eq_ok_iff]
  constructor
  · intro hx
    rw [toBytes, ← hx, Bytes.ofNat_toNat h]
  · rintro rfl
    exact toNat_toBytes x

theorem ofBytes_toBytes (x : Scalar) : ofBytes x.toBytes = .ok x :=
  (ofBytes_eq_ok_iff (Bytes.length_ofNat 32 x.val)).mpr rfl

/-- **Scalars from words.** -/
theorem ofLimbs_eq_ok_iff : ofLimbs w = .ok x ↔ x.toLimbs = w := by
  rw [ofLimbs, ofNat_eq_ok_iff, ← toNat_toLimbs, eq_comm, Limbs.toNat_injective.eq_iff]

theorem ofBytes_eq_ofLimbs (h : b.length = 32) : ofBytes b = ofLimbs (Limbs.ofBytes b) := by
  rw [ofBytes, ofLimbs, Limbs.toNat_ofBytes h]

theorem toBytes_toLimbs (x : Scalar) : x.toLimbs.toBytes = x.toBytes := by
  rw [Limbs.toBytes_eq, toNat_toLimbs, toBytes]

/-! ## The reader that reduces -/

/-- **Reducing with every byte** reduces the number of the whole string. -/
theorem reduceBytes_eq (b : Bytes) : reduceBytes b = Residue.ofNat scalarModulus b.toNat := by
  refine List.foldl_hom (Residue.ofNat scalarModulus) (fun n digit => ?_)
  refine Residue.ext ?_
  exact ((Nat.mod_modEq n scalarModulus).mul_right 256).add_right digit.toNat

theorem reduceBytes_of_ofBytes (h : ofBytes b = .ok x) : reduceBytes b = x := by
  rw [reduceBytes_eq, ofNat_eq_ok_iff.mp h, Residue.ofNat_val]

theorem reduceBytes_zeros_append (k : ℕ) (b : Bytes) :
    reduceBytes (List.replicate k 0 ++ b) = reduceBytes b := by
  rw [reduceBytes_eq, Bytes.toNat_zeros_append, reduceBytes_eq]

/-! ## How they are related -/

/-- **The conversions of scalars agree.** A string of 32 bytes is the scalar that its bytes write,
the most significant first, if this is below the modulus. Then it is what the scalar is written as,
and what reducing gives; and every scalar is read back. So it is with words, and bytes are read and
written through them. Reducing takes strings of any length to the remainder of what they write,
which zeros in front do not change. -/
theorem conversions_agree :
    (∀ b : Bytes, b.toNat = ∑ i : Fin b.length, (b.get i).toNat * 256 ^ (b.length - 1 - i.val)) ∧
    (∀ b : Bytes, b.length = 32 →
      ((∃ x, ofBytes b = .ok x) ↔ b.toNat < scalarModulus) ∧
      (scalarModulus ≤ b.toNat → ofBytes b = .error .notInField) ∧
      (∀ x, ofBytes b = .ok x → x.val = b.toNat ∧ x.toBytes = b ∧ reduceBytes b = x) ∧
      ofBytes b = ofLimbs (Limbs.ofBytes b)) ∧
    (∀ x : Scalar, x.toBytes.length = 32 ∧ ofBytes x.toBytes = .ok x ∧
      x.toBytes = x.toLimbs.toBytes) ∧
    (∀ w : Limbs, ((∃ x, ofLimbs w = .ok x) ↔ w.toNat < scalarModulus) ∧
      (scalarModulus ≤ w.toNat → ofLimbs w = .error .notInField) ∧
      ∀ x, ofLimbs w = .ok x ↔ x.toLimbs = w) ∧
    ∀ b : Bytes, (reduceBytes b).val = b.toNat % scalarModulus ∧
      ∀ k, reduceBytes (List.replicate k 0 ++ b) = reduceBytes b := by
  refine ⟨Bytes.toNat_eq_sum, fun b h => ⟨exists_ofNat_iff, ofNat_of_le, fun x hx => ?_,
    ofBytes_eq_ofLimbs h⟩, fun x => ?_, fun w => ?_, fun b => ?_⟩
  · exact ⟨(ofNat_eq_ok_iff.mp hx).symm, (ofBytes_eq_ok_iff h).mp hx, reduceBytes_of_ofBytes hx⟩
  · exact ⟨Bytes.length_ofNat 32 x.val, ofBytes_toBytes x, (toBytes_toLimbs x).symm⟩
  · exact ⟨exists_ofNat_iff, ofNat_of_le, fun x => ofLimbs_eq_ok_iff⟩
  · exact ⟨congrArg Residue.val (reduceBytes_eq b), fun k => reduceBytes_zeros_append k b⟩

/-- The largest scalar, and the modulus, which only the reader that reduces takes. -/
theorem conversions_agree_modulus :
    let largest := Bytes.ofNat 32 (scalarModulus - 1)
    let modulus := Bytes.ofNat 32 scalarModulus
    largest.length = 32 ∧
      (∃ x, ofBytes largest = .ok x ∧ x.toBytes = largest ∧ reduceBytes largest = x) ∧
    modulus.length = 32 ∧ scalarModulus ≤ modulus.toNat ∧ ofBytes modulus = .error .notInField ∧
      (reduceBytes modulus).val = 0 := by
  intro largest modulus
  have hlargest : largest.length = 32 := Bytes.length_ofNat 32 _
  have hmodulus : modulus.length = 32 := Bytes.length_ofNat 32 _
  have hbelow : largest.toNat < scalarModulus := by decide +kernel
  have habove : modulus.toNat = scalarModulus := by decide +kernel
  obtain ⟨-, hbytes, -, -, hreduce⟩ := conversions_agree
  obtain ⟨haccepted, -, hagree, -⟩ := hbytes largest hlargest
  obtain ⟨x, hx⟩ := haccepted.mpr hbelow
  refine ⟨hlargest, ⟨x, hx, (hagree x hx).2⟩, hmodulus, habove.ge,
    (hbytes modulus hmodulus).2.1 habove.ge, ?_⟩
  rw [(hreduce modulus).1, habove, Nat.mod_self]

end Scalar

end GroupSignal
