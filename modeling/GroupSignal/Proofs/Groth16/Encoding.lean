import GroupSignal.Proofs.Bytes
import GroupSignal.Proofs.Fallible
import GroupSignal.Groth16.Compression

/-!
# Words, their bytes, and what they carry

A byte string of the right length is the bytes of exactly one encoded proof. A word carries a
coordinate, which must be reduced; the words of the compressed form carry one or two bits below it,
for which a word has room since the modulus has 254 bits.

## Main results

* `EncodedProof.ofBytes_eq_ok_iff`: the bytes of an encoded proof
* `Coordinate.ofWord_eq_ok_iff`: the words of coordinates
* `Coordinate.ofWord_signed_iff`, `Coordinate.ofWord_hinted_iff`: words with bits below a coordinate
-/

namespace GroupSignal

/-! ## The bytes of an encoded proof -/

namespace Groth16.EncodedProof

variable {e : ProofEncoding} {b : Bytes} {w : EncodedProof e}

theorem length_toBytes (w : EncodedProof e) : w.toBytes.length = e.size := by
  simp only [toBytes, List.length_flatMap, Bytes.length_ofNat, List.map_const',
    List.sum_replicate_nat, Vector.length_toList]
  exact Nat.mul_comm ..

theorem ofBytes_toBytes (w : EncodedProof e) : ofBytes e w.toBytes = .ok w := by
  rw [ofBytes, if_pos w.length_toBytes]
  congr 2
  apply Vector.ext
  intro i hi
  have hbytes : (w.toBytes.drop (32 * i)).take 32 = Bytes.ofNat 32 w.words[i].toNat := by
    rw [toBytes, Bytes.take_drop_flatMap (fun _ => Bytes.length_ofNat ..)
      (hi.trans_eq Vector.length_toList.symm), Vector.getElem_toList]
  rw [Vector.getElem_ofFn, hbytes, Bytes.toNat_ofNat, ← BitVec.toNat_inj, BitVec.toNat_ofNat]
  have hword := w.words[i].isLt
  omega

theorem toBytes_of_ofBytes (h : ofBytes e b = .ok w) : w.toBytes = b := by
  rw [ofBytes] at h
  split at h
  case isFalse => cases h
  case isTrue hlength =>
    obtain rfl := Except.ok.inj h
    have hpiece : ∀ i : Fin e.words, Bytes.ofNat 32
        (BitVec.ofNat 256 (Bytes.toNat ((b.drop (32 * i)).take 32))).toNat =
          (b.drop (32 * i)).take 32 := by
      intro i
      have hsize : ((b.drop (32 * i)).take 32).length = 32 := by
        have hi : 32 * (i + 1) ≤ 32 * e.words := Nat.mul_le_mul_left 32 i.isLt
        rw [List.length_take, List.length_drop, hlength, ProofEncoding.size]
        omega
      have hreduced := Bytes.toNat_ofNat 32 (Bytes.toNat ((b.drop (32 * i)).take 32))
      rw [Bytes.ofNat_toNat hsize] at hreduced
      rw [BitVec.toNat_ofNat]
      exact (congrArg (Bytes.ofNat 32) hreduced.symm).trans (Bytes.ofNat_toNat hsize)
    calc _ = (List.ofFn fun i : Fin e.words => (b.drop (32 * i)).take 32).flatten := by
          rw [toBytes, Vector.toList_ofFn, List.flatMap_def, List.map_ofFn]
          exact congrArg (fun f => (List.ofFn f).flatten) (funext hpiece)
      _ = b.take (32 * e.words) := Bytes.flatten_ofFn_take_drop b 32 e.words
      _ = b := List.take_of_length_le hlength.le

/-- **The bytes of an encoded proof.** -/
theorem ofBytes_eq_ok_iff : ofBytes e b = .ok w ↔ w.toBytes = b :=
  ⟨toBytes_of_ofBytes, fun h => h ▸ ofBytes_toBytes w⟩

theorem exists_ofBytes (h : b.length = e.size) : ∃ w, ofBytes e b = .ok w := ⟨_, if_pos h⟩

end Groth16.EncodedProof

/-! ## The words of coordinates -/

namespace Coordinate

variable {w : Groth16.Word} {x : Coordinate}

theorem toNat_toWord (x : Coordinate) : x.toWord.toNat = x.val := by
  have hx : x.val < baseModulus := x.isLt
  rw [toWord, BitVec.toNat_ofNat, Nat.mod_eq_of_lt (hx.trans (by decide))]

theorem ofNat_eq_ok_iff {n : ℕ} : ofNat n = .ok x ↔ n = x.val := by
  rw [ofNat, ← Residue.ofNat?_eq_some_iff]
  cases Residue.ofNat? baseModulus n <;> simp

/-- **The words of coordinates.** -/
theorem ofWord_eq_ok_iff : ofWord w = .ok x ↔ w = x.toWord := by
  rw [ofWord, ofNat_eq_ok_iff, ← BitVec.toNat_inj, toNat_toWord]

/-- A bit below a word, if the word has room for it. -/
theorem toNat_shiftLeft_or_signBit {v : Groth16.Word} (h : v.toNat < 2 ^ 255) (sign : Bool) :
    (v <<< 1 ||| signBit sign).toNat = 2 * v.toNat + sign.toNat := by
  have hsign : (signBit sign).toNat = sign.toNat := by cases sign <;> rfl
  have hfits : v.toNat <<< 1 < 2 ^ 256 := by
    rw [Nat.shiftLeft_eq]
    omega
  rw [BitVec.toNat_or, BitVec.toNat_shiftLeft, Nat.mod_eq_of_lt hfits, hsign,
    ← Nat.shiftLeft_add_eq_or_of_lt (by cases sign <;> decide), Nat.shiftLeft_eq]
  omega

theorem toNat_signed (x : Coordinate) (sign : Bool) :
    (x.toWord <<< 1 ||| signBit sign).toNat = 2 * x.val + sign.toNat := by
  have hx : x.val < baseModulus := x.isLt
  rw [toNat_shiftLeft_or_signBit, toNat_toWord]
  exact (toNat_toWord x).trans_lt (hx.trans (by decide))

theorem toNat_hinted (x : Coordinate) (hint sign : Bool) :
    (x.toWord <<< 2 ||| signBit hint <<< 1 ||| signBit sign).toNat =
      4 * x.val + 2 * hint.toNat + sign.toNat := by
  have hx : x.val < baseModulus := x.isLt
  have hmodulus : baseModulus < 2 ^ 254 := by decide
  have hhint : hint.toNat ≤ 1 := Bool.toNat_le hint
  have hshift : x.toWord <<< 2 = x.toWord <<< 1 <<< 1 := BitVec.shiftLeft_add x.toWord 1 1
  rw [hshift, ← BitVec.shiftLeft_or_distrib, toNat_shiftLeft_or_signBit, toNat_signed]
  · omega
  · rw [toNat_signed]
    omega

/-- **A word with a sign below a coordinate.** -/
theorem ofWord_signed_iff {sign : Bool} : ofWord (w >>> 1) = .ok x ∧ w.getLsbD 0 = sign ↔
    w = x.toWord <<< 1 ||| signBit sign := by
  rw [ofWord_eq_ok_iff, ← BitVec.toNat_inj, ← BitVec.toNat_inj, toNat_toWord, toNat_signed,
    BitVec.toNat_ushiftRight, Nat.shiftRight_eq_div_pow, BitVec.getLsbD, Nat.testBit_zero]
  cases sign <;> simp <;> omega

/-- **A word with a hint and a sign below a coordinate.** -/
theorem ofWord_hinted_iff {hint sign : Bool} :
    ofWord (w >>> 2) = .ok x ∧ w.getLsbD 1 = hint ∧ w.getLsbD 0 = sign ↔
      w = x.toWord <<< 2 ||| signBit hint <<< 1 ||| signBit sign := by
  rw [ofWord_eq_ok_iff, ← BitVec.toNat_inj, ← BitVec.toNat_inj, toNat_toWord, toNat_hinted,
    BitVec.toNat_ushiftRight, Nat.shiftRight_eq_div_pow, BitVec.getLsbD, BitVec.getLsbD,
    Nat.testBit_zero, Nat.testBit_eq_decide_div_mod_eq]
  cases hint <;> cases sign <;> simp <;> omega

end Coordinate

end GroupSignal
