import GroupSignal.Field.Scalar
import GroupSignal.Proofs.Fallible
import GroupSignal.Proofs.Numeral.Canonical

/-!
# Scalars as texts

The texts of a scalar are those that spell its number. Any other text is refused: for the first of
its faults, or because the number that it spells is not below the modulus, be it as large as it may.
So a scalar has one text in each radix, up to letter case, and the written one is hexadecimal in
lower case.

## Main results

* `readWord_eq_ok_iff`: the numerals that fit a word
* `Scalar.ofText_eq_ok_iff`: the texts of a scalar
* `Scalar.ofText_outcome`: what becomes of a text
* `Scalar.ofText_grammar`: what is read, what is refused and why, what is written
-/

namespace GroupSignal

open Numeral

variable {s t : String} {n : ℕ}

/-! ## Numerals that fit a word -/

/-- The refusal of a text for a fault of its digits. -/
def faultOf (s : String) : CanonicalError → ValueError
  | .noDigits => .noDigits s
  | .invalidDigits radix => .invalidDigits radix s
  | .leadingZero => .nonCanonical s

theorem faultOf_inj {cause cause' : CanonicalError} :
    faultOf s cause = faultOf s cause' ↔ cause = cause' := by
  cases cause <;> cases cause' <;> simp [faultOf]

theorem readWord_of_spells (h : Spells s n) :
    readWord s = if n < wordCount then .ok n else .error .notInField := by
  rw [readWord, readCanonical_eq_ok_iff.mpr h]

theorem readWord_of_faulty {cause : CanonicalError}
    (h : Faulty (radixOf s) (digitsOf s) cause) : readWord s = .error (faultOf s cause) := by
  rw [readWord, readCanonical_eq_error_iff.mpr h]
  cases cause <;> rfl

/-- **The numerals that fit a word.** -/
theorem readWord_eq_ok_iff : readWord s = .ok n ↔ Spells s n ∧ n < wordCount := by
  obtain ⟨n', -, hs⟩ | ⟨cause, -, hfault⟩ := readCanonical_outcome s
  · rw [readWord_of_spells hs]
    split
    case isTrue hn =>
      rw [Except.ok.injEq]
      exact ⟨fun h => h ▸ ⟨hs, hn⟩, fun h => hs.eq h.1⟩
    case isFalse hn =>
      exact iff_of_false (fun h => by cases h) fun h => hn (hs.eq h.1 ▸ h.2)
  · rw [readWord_of_faulty hfault]
    exact iff_of_false (fun h => by cases h) fun h => hfault.not_spells h.1

/-- A residue is read from the texts that spell its number, if all residues fit a word. -/
theorem readWord_bind_eq_ok_iff {p : ℕ} {ofNat : ℕ → Except ValueError (Residue p)} {x : Residue p}
    (hmodulus : p ≤ wordCount) (hofNat : ∀ {n}, ofNat n = .ok x ↔ n = x.val) :
    (readWord s >>= ofNat) = .ok x ↔ Spells s x.val := by
  simp only [bind_eq_ok_iff, readWord_eq_ok_iff, hofNat]
  constructor
  · rintro ⟨n, ⟨hs, -⟩, rfl⟩
    exact hs
  · intro hs
    exact ⟨x.val, ⟨hs, x.isLt.trans_le hmodulus⟩, rfl⟩

namespace Scalar

theorem ofNat_eq_ok_iff {x : Scalar} : ofNat n = .ok x ↔ n = x.val := by
  rw [ofNat, ← Residue.ofNat?_eq_some_iff]
  cases Residue.ofNat? scalarModulus n <;> simp

theorem ofNat_of_le (h : scalarModulus ≤ n) : ofNat n = .error .notInField := by
  rw [ofNat, Residue.ofNat?_eq_none_iff.mpr h]

/-! ## What is read and what is refused -/

/-- **The texts of a scalar.** -/
theorem ofText_eq_ok_iff {x : Scalar} : ofText s = .ok x ↔ Spells s x.val :=
  readWord_bind_eq_ok_iff (by decide) ofNat_eq_ok_iff

theorem ofText_of_le (h : Spells s n) (hn : scalarModulus ≤ n) :
    ofText s = .error .notInField := by
  show (readWord s >>= ofNat) = _
  rw [readWord_of_spells h]
  -- A number that does not fit a word is refused as one that does.
  split
  · exact ofNat_of_le hn
  · rfl

theorem ofText_of_faulty {cause : CanonicalError}
    (h : Faulty (radixOf s) (digitsOf s) cause) : ofText s = .error (faultOf s cause) := by
  show (readWord s >>= ofNat) = _
  rw [readWord_of_faulty h]
  rfl

/-- A text is read as the scalar that it spells, or spells too large a number, or has a fault. -/
theorem ofText_outcome (s : String) :
    (∃ x, ofText s = .ok x ∧ Spells s x.val) ∨
      (∃ n, ofText s = .error .notInField ∧ Spells s n ∧ scalarModulus ≤ n) ∨
      ∃ cause, ofText s = .error (faultOf s cause) ∧ Faulty (radixOf s) (digitsOf s) cause := by
  obtain ⟨n, -, hs⟩ | ⟨cause, -, hfault⟩ := readCanonical_outcome s
  · obtain hn | hle := Nat.lt_or_ge n scalarModulus
    · exact .inl ⟨⟨n, hn⟩, ofText_eq_ok_iff.mpr hs, hs⟩
    · exact .inr (.inl ⟨n, ofText_of_le hs hle, hs, hle⟩)
  · exact .inr (.inr ⟨cause, ofText_of_faulty hfault, hfault⟩)

/-- A fault of the digits is what a text is refused for, unless the number is too large. -/
theorem ofText_eq_faultOf_iff {cause : CanonicalError} :
    ofText s = .error (faultOf s cause) ↔ Faulty (radixOf s) (digitsOf s) cause := by
  obtain ⟨x, hx, hs⟩ | ⟨n, hn, hs, -⟩ | ⟨cause', hcause, hfault⟩ := ofText_outcome s
  · rw [hx]
    exact iff_of_false (fun h => by cases h) fun h => h.not_spells hs
  · rw [hn]
    exact iff_of_false (fun h => by cases cause <;> cases h) fun h => h.not_spells hs
  · rw [hcause, Except.error.injEq, faultOf_inj]
    exact ⟨fun h => h ▸ hfault, fun h => hfault.eq h⟩

theorem ofText_eq_notInField_iff :
    ofText s = .error .notInField ↔ ∃ n, Spells s n ∧ scalarModulus ≤ n := by
  obtain ⟨x, hx, hs⟩ | ⟨n, hn, hs, hle⟩ | ⟨cause, hcause, hfault⟩ := ofText_outcome s
  · rw [hx]
    refine iff_of_false (fun h => by cases h) ?_
    rintro ⟨m, hm, hle⟩
    exact x.isLt.not_ge (hs.eq hm ▸ hle)
  · rw [hn]
    exact iff_of_true rfl ⟨n, hs, hle⟩
  · rw [hcause]
    refine iff_of_false (fun h => by cases cause <;> cases h) ?_
    rintro ⟨n, hn, -⟩
    exact hfault.not_spells hn

/-! ## The text form -/

theorem ofText_toText (x : Scalar) : ofText x.toText = .ok x :=
  ofText_eq_ok_iff.mpr (spells_hex x.val)

/-- **The text form of scalars.** The texts that spell a number below the modulus are read as this
number. Others are refused: where there are no digits, or something that is no digit of the radix,
or else a zero in front of other digits, or else the number is not below the modulus. What is
written is read back, and is in hexadecimal and lower case without a zero in front. Two texts in one
radix are read as one scalar if and only if they are the same up to letter case. -/
theorem ofText_grammar :
    (∀ s x, ofText s = .ok x ↔ Spells s x.val) ∧
    (∀ s, (ofText s = .error (.noDigits s) ↔ digitsOf s = []) ∧
      (ofText s = .error (.invalidDigits (radixOf s) s) ↔
        digitsOf s ≠ [] ∧ ∃ c ∈ digitsOf s, c ∉ figures (radixOf s)) ∧
      (ofText s = .error (.nonCanonical s) ↔ (∀ c ∈ digitsOf s, c ∈ figures (radixOf s)) ∧
        1 < (digitsOf s).length ∧ (digitsOf s).head? = some '0') ∧
      (ofText s = .error .notInField ↔ ∃ n, Spells s n ∧ scalarModulus ≤ n)) ∧
    (∀ x, ofText x.toText = .ok x ∧ ∃ ds, x.toText = String.ofList ('0' :: 'x' :: ds) ∧
      Canonical 16 ds ∧ value 16 ds = x.val ∧ ∀ c ∈ ds, c ∈ "0123456789abcdef".toList) ∧
    ∀ s t x y, ofText s = .ok x → ofText t = .ok y → radixOf s = radixOf t →
      (x = y ↔ s.toList.map Char.toLower = t.toList.map Char.toLower) := by
  refine ⟨fun s x => ofText_eq_ok_iff, fun s => ⟨?_, ?_, ?_, ofText_eq_notInField_iff⟩,
    fun x => ⟨ofText_toText x, _, rfl, canonical_toDigits (.inr rfl) _,
      value_toDigits (by decide) (by decide) _, fun c hc => ?_⟩, fun s t x y hs ht hradix => ?_⟩
  · rw [← faulty_noDigits_iff, ← ofText_eq_faultOf_iff, faultOf]
  · rw [← faulty_invalidDigits_iff, ← ofText_eq_faultOf_iff, faultOf]
  · rw [← faulty_leadingZero_iff, ← ofText_eq_faultOf_iff, faultOf]
  · obtain ⟨d, hd, rfl⟩ := exists_of_mem_toDigits (by decide) hc
    have hall : ∀ d < 16, Nat.digitChar d ∈ "0123456789abcdef".toList := by decide +kernel
    exact hall d hd
  · rw [← (ofText_eq_ok_iff.mp hs).eq_iff (ofText_eq_ok_iff.mp ht) hradix]
    exact Residue.ext_iff

/-- A hexadecimal text in either case, and one with a zero in front. -/
theorem ofText_grammar_mixed_case :
    ofText "0xaB" = .ok 171 ∧ ofText "0xAb" = .ok 171 ∧ radixOf "0xaB" = radixOf "0xAb" ∧
      "0xaB".toList.map Char.toLower = "0xAb".toList.map Char.toLower ∧
      ofText "0x0aB" = .error (.nonCanonical "0x0aB") := by
  have hupper : ofText "0xaB" = .ok 171 := by decide +kernel
  have hlower : ofText "0xAb" = .ok 171 := by decide +kernel
  have hradix : radixOf "0xaB" = radixOf "0xAb" := by decide +kernel
  have hfigures : (digitsOf "0x0aB").all (· ∈ figures (radixOf "0x0aB")) = true := by decide +kernel
  have hzero : 1 < (digitsOf "0x0aB").length ∧ (digitsOf "0x0aB").head? = some '0' := by
    decide +kernel
  exact ⟨hupper, hlower, hradix, (ofText_grammar.2.2.2 _ _ _ _ hupper hlower hradix).mp rfl,
    (ofText_grammar.2.1 "0x0aB").2.2.1.mpr
      ⟨fun c hc => of_decide_eq_true (List.all_eq_true.mp hfigures c hc), hzero⟩⟩

end Scalar

end GroupSignal
