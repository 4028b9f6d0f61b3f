import Mathlib.Algebra.BigOperators.Fin
import Mathlib.Algebra.Group.Nat.Hom
import Mathlib.Data.List.OfFn
import GroupSignal.Bytes

/-!
# Byte strings as numbers, in pieces, and as texts

Writing a number on a count of bytes and reading the bytes are inverse to each other, up to what
does not fit. A byte string that is put together from pieces of one length is taken apart into them
again. The bytes of a text are those of its characters, and an ASCII character is one byte.

## Main results

* `Bytes.toNat_ofNat`, `Bytes.ofNat_toNat`, `Bytes.toNat_eq_sum`: numbers
* `Bytes.take_drop_flatMap`, `Bytes.flatten_ofFn_take_drop`, `Bytes.toNat_flatten_ofFn`: pieces
* `Bytes.ofText_eq`, `Bytes.toText?_ofText`, `Bytes.ofText_ofList`: texts
* `Bytes.ascii_of_ofText`: texts of bytes below 128
-/

namespace GroupSignal.Bytes

/-! ## Numbers -/

theorem toNat_concat (b : Bytes) (x : UInt8) : toNat (b ++ [x]) = toNat b * 256 + x.toNat := by
  rw [toNat, List.foldl_append, List.foldl_cons, List.foldl_nil, toNat]

/-- The low bytes of a number write its remainder. -/
theorem toNat_ofNat (size n : ℕ) : toNat (ofNat size n) = n % 256 ^ size := by
  induction size generalizing n with
  | zero => exact (Nat.mod_one n).symm
  | succ size ih =>
    have hmod : n % 256 ^ (size + 1) = n % 256 + 256 * (n / 256 % 256 ^ size) := by
      rw [Nat.pow_succ', Nat.mod_mul]
    rw [ofNat, toNat_concat, ih, UInt8.toNat_ofNat', hmod]
    omega

/-- A byte string is the bytes of the number that it writes. -/
theorem ofNat_toNat {size : ℕ} {b : Bytes} (h : b.length = size) : ofNat size (toNat b) = b := by
  induction size generalizing b with
  | zero =>
    rw [List.length_eq_zero_iff.mp h]
    rfl
  | succ size ih =>
    obtain rfl | ⟨rest, x, rfl⟩ := List.eq_nil_or_concat b
    · exact absurd h (Nat.succ_ne_zero size).symm
    · have hx : x.toNat < 256 := x.toNat_lt
      have hdiv : (toNat rest * 256 + x.toNat) / 256 = toNat rest := by omega
      rw [List.concat_eq_append] at h ⊢
      rw [ofNat, toNat_concat, hdiv, ih (by simpa using h)]
      congr 2
      rw [← UInt8.toNat_inj, UInt8.toNat_ofNat']
      omega

theorem toNat_append (a b : Bytes) : toNat (a ++ b) = toNat a * 256 ^ b.length + toNat b := by
  induction b using List.reverseRecOn with
  | nil =>
    rw [List.append_nil, List.length_nil, pow_zero, Nat.mul_one]
    exact (Nat.add_zero _).symm
  | append_singleton b x ih =>
    rw [← List.append_assoc, toNat_concat, toNat_concat, ih, List.length_append,
      List.length_singleton, pow_succ, Nat.add_mul, Nat.mul_assoc, Nat.add_assoc]

theorem toNat_cons (x : UInt8) (b : Bytes) :
    toNat (x :: b) = x.toNat * 256 ^ b.length + toNat b := by
  have hfirst : toNat [x] = x.toNat := Nat.zero_add _
  rw [← List.singleton_append, toNat_append, hfirst]

theorem toNat_lt (b : Bytes) : b.toNat < 256 ^ b.length := by
  have h := toNat_ofNat b.length b.toNat
  rw [ofNat_toNat rfl] at h
  rw [h]
  exact Nat.mod_lt _ (Nat.pow_pos (by decide))

/-- **The number of a byte string**, most significant byte first. -/
theorem toNat_eq_sum (b : Bytes) :
    b.toNat = ∑ i : Fin b.length, (b.get i).toNat * 256 ^ (b.length - 1 - i.val) := by
  induction b with
  | nil => rfl
  | cons x b ih =>
    have hplace : ∀ i : Fin b.length, b.length - 1 - i.val = b.length - (i.val + 1) := by
      intro i
      rw [Nat.sub_sub, Nat.add_comm]
    simp only [hplace] at ih
    calc toNat (x :: b)
        = x.toNat * 256 ^ b.length +
            ∑ i : Fin b.length, (b.get i).toNat * 256 ^ (b.length - (i.val + 1)) := by
          rw [toNat_cons, ← ih]
      _ = ∑ i : Fin (b.length + 1), ((x :: b).get i).toNat * 256 ^ (b.length - i.val) :=
          (Fin.sum_univ_succ fun i => ((x :: b).get i).toNat * 256 ^ (b.length - i.val)).symm

theorem toNat_zeros_append (k : ℕ) (b : Bytes) : toNat (List.replicate k 0 ++ b) = toNat b := by
  induction k with
  | zero => rfl
  | succ k ih => exact ih

/-! ## Pieces -/

/-- Pieces of equal length are found where they were put. -/
theorem take_drop_flatMap {α : Type} {f : α → Bytes} {size : ℕ}
    (hf : ∀ x, (f x).length = size) {l : List α} {i : ℕ} (h : i < l.length) :
    ((l.flatMap f).drop (size * i)).take size = f l[i] := by
  induction l generalizing i with
  | nil => exact absurd h (Nat.not_lt_zero i)
  | cons x l ih =>
    rw [List.flatMap_cons]
    cases i with
    | zero => rw [Nat.mul_zero, List.drop_zero, List.take_left' (hf x), List.getElem_cons_zero]
    | succ i =>
      have hskip : size * (i + 1) = (f x).length + size * i := by
        rw [hf, Nat.mul_succ, Nat.add_comm]
      rw [hskip, List.drop_append, List.drop_eq_nil_of_le (by omega), List.nil_append,
        Nat.add_sub_cancel_left, ih (Nat.lt_of_succ_lt_succ h), List.getElem_cons_succ]

/-- The pieces of a byte string make up the byte string. -/
theorem flatten_ofFn_take_drop (b : Bytes) (size n : ℕ) :
    (List.ofFn fun i : Fin n => (b.drop (size * i)).take size).flatten = b.take (size * n) := by
  induction n with
  | zero => rw [List.ofFn_zero, Nat.mul_zero, List.take_zero, List.flatten_nil]
  | succ n ih =>
    rw [List.ofFn_succ_last, List.flatten_append, List.flatten_singleton, Nat.mul_succ,
      List.take_add]
    exact congrArg (· ++ _) ih

/-- Pieces of one length are the digits of a number, the most significant first. -/
theorem toNat_flatten_ofFn {n size : ℕ} {f : Fin n → Bytes} (h : ∀ i, (f i).length = size) :
    toNat (List.ofFn f).flatten = ∑ i, toNat (f i) * (256 ^ size) ^ i.rev.val := by
  induction n with
  | zero => rfl
  | succ n ih =>
    have hlength : (List.ofFn fun i : Fin n => f i.succ).flatten.length = size * n := by
      simp [List.length_flatten, List.map_ofFn, Function.comp_def, h, Nat.mul_comm]
    rw [List.ofFn_succ, List.flatten_cons, toNat_append, hlength, ih fun i => h i.succ,
      Fin.sum_univ_succ, pow_mul]
    simp only [Fin.rev_succ, Fin.val_castSucc, Fin.rev_zero, Fin.val_last]

/-! ## Texts -/

theorem toList_eq (b : ByteArray) : b.toList = b.data.toList := by
  -- The list is built from the front in reverse, so what stands behind a position is still to come.
  have hloop : ∀ (n i : ℕ) (read : List UInt8), b.size - i = n →
      ByteArray.toList.loop b i read = read.reverse ++ b.data.toList.drop i := by
    intro n
    induction n with
    | zero =>
      intro i read hn
      have hi : b.data.toList.length ≤ i := by simpa using Nat.sub_eq_zero_iff_le.mp hn
      rw [ByteArray.toList.loop, if_neg (by omega), List.drop_eq_nil_of_le hi, List.append_nil]
    | succ n ih =>
      intro i read hn
      have hi : i < b.data.toList.length := by
        have : i < b.size := by omega
        simpa using this
      rw [ByteArray.toList.loop, if_pos (by omega), ih _ _ (by omega), List.reverse_cons,
        List.append_assoc, List.drop_eq_getElem_cons hi]
      have hget : b.get! i = b.data.toList[i] := by
        rw [Array.length_toList] at hi
        rw [ByteArray.get!, getElem!_pos b.data i hi, Array.getElem_toList]
      rw [hget]
      rfl
  exact hloop _ 0 [] rfl

theorem ofText_eq (s : String) : ofText s = s.toList.flatMap String.utf8EncodeChar := by
  obtain ⟨cs, rfl⟩ : ∃ cs, s = String.ofList cs := ⟨s.toList, String.ofList_toList.symm⟩
  rw [ofText, toList_eq, String.toUTF8_eq_toByteArray, String.toByteArray_ofList, List.utf8Encode,
    List.data_toByteArray, String.toList_ofList]

theorem length_ofText (s : String) : (ofText s).length = s.utf8ByteSize := by
  rw [ofText, toList_eq, String.toUTF8_eq_toByteArray]
  rfl

/-- The bytes of a text encode the text. -/
theorem toText?_ofText (s : String) : toText? (ofText s) = some s := by
  have hbytes : (⟨(ofText s).toArray⟩ : ByteArray) = s.toByteArray := by
    rw [ofText, toList_eq, String.toUTF8_eq_toByteArray]
  rw [toText?, hbytes, String.fromUTF8?, dif_pos s.isValidUTF8]
  rfl

/-- ASCII characters are a byte each. -/
theorem ofText_ofList {cs : List Char} (h : ∀ c ∈ cs, c.toNat < 128) :
    ofText (String.ofList cs) = cs.map Char.toUInt8 := by
  rw [ofText_eq, String.toList_ofList]
  induction cs with
  | nil => rfl
  | cons c cs ih =>
    have hc : c.toNat < 128 := h c (List.mem_cons_self ..)
    have hsize : c.utf8Size = 1 := Char.utf8Size_eq_one_iff.mpr (Nat.le_of_lt_succ hc)
    rw [List.flatMap_cons, String.utf8EncodeChar_eq_singleton hsize, List.map_cons,
      ih fun c hc => h c (List.mem_cons_of_mem _ hc)]
    rfl

theorem ofText_injective : Function.Injective ofText := by
  intro s t h
  have htexts := congrArg toText? h
  rw [toText?_ofText, toText?_ofText] at htexts
  exact Option.some.inj htexts

/-- A text whose bytes are below 128 has an ASCII character for each of them. -/
theorem ascii_of_ofText {s : String} (h : ∀ x ∈ ofText s, x.toNat < 128) :
    (∀ c ∈ s.toList, c.toNat < 128) ∧ ofText s = s.toList.map Char.toUInt8 := by
  -- The characters of the bytes make up a text with the same bytes, which is the text itself.
  have hchar : ∀ n < 128, (Char.ofNat n).toNat = n ∧ (Char.ofNat n).toUInt8 = UInt8.ofNat n := by
    decide
  have hascii : ∀ c ∈ (ofText s).map fun x => Char.ofNat x.toNat, c.toNat < 128 := by
    intro c hc
    obtain ⟨x, hx, rfl⟩ := List.mem_map.mp hc
    rw [(hchar _ (h x hx)).1]
    exact h x hx
  have hbytes : ofText (String.ofList ((ofText s).map fun x => Char.ofNat x.toNat)) = ofText s := by
    rw [ofText_ofList hascii, List.map_map]
    refine (List.map_congr_left fun x hx => ?_).trans (List.map_id _)
    rw [Function.comp_apply, (hchar _ (h x hx)).2, UInt8.ofNat_toNat, id]
  have hs := ofText_injective hbytes
  have hchars : s.toList = (ofText s).map fun x => Char.ofNat x.toNat := by
    rw [← String.toList_ofList (l := (ofText s).map _), hs]
  rw [← hchars] at hascii
  refine ⟨hascii, ?_⟩
  conv_lhs => rw [← String.ofList_toList (s := s)]
  exact ofText_ofList hascii

end GroupSignal.Bytes
