import Mathlib.Data.Nat.Digits.Defs
import GroupSignal.Proofs.Field.Text
import GroupSignal.Proofs.Numeral.Bounded

/-!
# Two readers of hexadecimal scalars

Constants are read by a lenient reader: any count of hexadecimal digits, with or without `0x`, of
which the number is reduced. Everything else is read by the strict one. The lenient reader leaves
the digits to a reader of whole numbers, of which no more is asked here than that it takes digits
for the number that they denote. Then the two agree on every hexadecimal text that the strict reader
takes, and so on every text that is written.

## Main definitions

* `Numeral.denoted`: the number that hexadecimal digits denote
* `Numeral.ReadsHex`: the readers of whole numbers that take digits
* `Scalar.ofHexDigitsBy`: the lenient reader on top of a reader of whole numbers

## Main results

* `Numeral.readsHex_readGrouped`: grouped numerals are read so
* `Scalar.ofHexDigitsBy_eq`: what the lenient reader makes of digits
* `Scalar.hexReaders_agree`: the two readers of scalars
-/

namespace GroupSignal

/-! ## Digits and what they denote -/

namespace Numeral

variable {ds : List Char} {c : Char}

/-- What a hexadecimal digit stands for: its place among the digits, in either case. -/
def place (c : Char) : ℕ := "0123456789abcdef".toList.idxOf c.toLower

/-- The number that hexadecimal digits denote: the last one counts ones, and every other one counts
sixteen times what the one behind it counts. -/
def denoted (ds : List Char) : ℕ := Nat.ofDigits 16 (ds.reverse.map place)

theorem digit?_eq_place (h : c ∈ figures 16) : digit? c = some (place c) := by
  have hall : (figures 16).all (fun c => digit? c = some (place c)) = true := by decide +kernel
  exact of_decide_eq_true (List.all_eq_true.mp hall c h)

theorem value_eq_denoted (h : ∀ c ∈ ds, c ∈ figures 16) : value 16 ds = denoted ds := by
  -- Both take the last digit on at the end.
  induction ds using List.reverseRecOn with
  | nil => rfl
  | append_singleton front c ih =>
    rw [List.forall_mem_append, List.forall_mem_singleton] at h
    rw [value_concat, digit?_eq_place h.2, Option.getD_some, ih h.1, denoted, denoted,
      List.reverse_append, List.reverse_singleton, List.singleton_append, List.map_cons,
      Nat.ofDigits_cons, Nat.mul_comm, Nat.add_comm]

/-- A reader of whole numbers takes hexadecimal digits, however many there are, for the number that
they denote. What it makes of other texts is left open. -/
def ReadsHex (read : List Char → Except IntegerError ℕ) : Prop :=
  ∀ ds, ds ≠ [] → (∀ c ∈ ds, c ∈ figures 16) → read ds = .ok (denoted ds)

/-- **Grouped numerals** are read so: neither a plus nor an underscore is a digit. -/
theorem readsHex_readGrouped : ReadsHex (readGrouped 16) := by
  intro ds hne hfigures
  have hmarks : '+' ∉ figures 16 ∧ '_' ∉ figures 16 := by decide +kernel
  have hnot : ∀ c ∈ ds, c ≠ '+' ∧ c ≠ '_' := fun c hc =>
    ⟨ne_of_mem_of_not_mem (hfigures c hc) hmarks.1, ne_of_mem_of_not_mem (hfigures c hc) hmarks.2⟩
  have hunderscore : ds.head? ≠ some '_' := fun h => (hnot _ (List.mem_of_head? h)).2 rfl
  have hfilter : ds.filter (· ≠ '_') = ds :=
    List.filter_eq_self.mpr fun c hc => decide_eq_true (hnot c hc).2
  have hdigits : ds.all (isDigit 16) = true :=
    List.all_eq_true.mpr fun c hc => (isDigit_iff_mem_figures (.inr rfl)).mpr (hfigures c hc)
  -- The equation for texts without a leading plus, which is shown not to be there at the end.
  rw [readGrouped]
  · rw [if_neg hne, if_neg hunderscore, hfilter, if_pos hdigits, value_eq_denoted hfigures]
  · rintro rest rfl
    exact (hnot '+' (List.mem_cons_self ..)).1 rfl

end Numeral

/-! ## The lenient reader -/

namespace Scalar

open Numeral

variable {read : List Char → Except IntegerError ℕ} {ds : List Char} {s : String} {x : Scalar}

/-- The lenient reader on top of a reader of whole numbers: what stands behind an optional `0x` is
read and reduced. -/
def ofHexDigitsBy (read : List Char → Except IntegerError ℕ) (s : String) :
    Except IntegerError Scalar :=
  (read (dropPrefix s.toList)).map (Residue.ofNat scalarModulus)

theorem ofHexDigits_eq : ofHexDigits = ofHexDigitsBy (readGrouped 16) := rfl

section Reading

variable (hread : ReadsHex read)
include hread

/-- **What the lenient reader makes of digits**, behind `0x` or not. -/
theorem ofHexDigitsBy_eq {front : List Char} (hs : s.toList = front ++ ds)
    (hfront : front = [] ∨ front = ['0', 'x']) (hne : ds ≠ [])
    (hfigures : ∀ c ∈ ds, c ∈ figures 16) :
    ofHexDigitsBy read s = .ok (Residue.ofNat scalarModulus (denoted ds)) := by
  have hdigits : dropPrefix s.toList = ds := by
    rw [hs, ← List.append_nil front]
    exact dropPrefix_append hfront (.inl rfl) hfigures
  rw [ofHexDigitsBy, hdigits, hread ds hne hfigures]
  rfl

/-- A hexadecimal text that the strict reader takes is read as the same scalar. -/
theorem ofHexDigitsBy_of_ofText (hs : s.toList = ['0', 'x'] ++ ds) (h : ofText s = .ok x) :
    ofHexDigitsBy read s = .ok x := by
  obtain ⟨hcanonical, hvalue⟩ := spells_iff.mp (ofText_eq_ok_iff.mp h)
  have hsplit : splitRadix s.toList = (16, ds) := by
    rw [hs]
    rfl
  rw [radixOf, digitsOf, hsplit] at hcanonical hvalue
  rw [ofHexDigitsBy_eq hread hs (.inr rfl) hcanonical.ne_nil hcanonical.mem_figures,
    ← value_eq_denoted hcanonical.mem_figures, hvalue, Residue.ofNat_val]

theorem ofHexDigitsBy_toText (x : Scalar) : ofHexDigitsBy read x.toText = .ok x :=
  ofHexDigitsBy_of_ofText hread (String.toList_ofList) (ofText_toText x)

end Reading

/-- **The two readers of hexadecimal scalars agree.** The lenient reader is put on a reader of whole
numbers that takes hexadecimal digits for the number that they denote, as the reader of grouped
numerals does. With any such reader below it, it reads every text behind `0x` that the strict reader
takes, as the same scalar, and so reads what is written for a scalar as the scalar. Of hexadecimal
digits, of any number and case, with or without `0x`, it gives the number that they denote, up to
multiples of the modulus. -/
theorem hexReaders_agree :
    (ofHexDigits = ofHexDigitsBy (readGrouped 16) ∧ ReadsHex (readGrouped 16)) ∧
    ∀ read, ReadsHex read →
      (∀ t x, ofText ("0x" ++ t) = .ok x → ofHexDigitsBy read ("0x" ++ t) = .ok x) ∧
      (∀ x : Scalar, ofHexDigitsBy read x.toText = .ok x) ∧
      ∀ ds, ds ≠ [] → (∀ c ∈ ds, c ∈ "0123456789abcdefABCDEF".toList) →
        ∃ x : Scalar, x.val = denoted ds % scalarModulus ∧
          ofHexDigitsBy read (String.ofList ds) = .ok x ∧
          ofHexDigitsBy read ("0x" ++ String.ofList ds) = .ok x := by
  refine ⟨⟨ofHexDigits_eq, readsHex_readGrouped⟩, fun read hread => ⟨fun t x h => ?_,
    ofHexDigitsBy_toText hread, fun ds hne hfigures => ?_⟩⟩
  · exact ofHexDigitsBy_of_ofText hread (String.toList_append ..) h
  · refine ⟨_, rfl, ofHexDigitsBy_eq hread ?_ (.inl rfl) hne hfigures,
      ofHexDigitsBy_eq hread ?_ (.inr rfl) hne hfigures⟩
    · exact String.toList_ofList
    · rw [String.toList_append]
      exact congrArg (['0', 'x'] ++ ·) String.toList_ofList

/-- The digits of the largest scalar, which both readers take behind `0x`, and those of the modulus,
which only the lenient reader takes, as zero. -/
theorem hexReaders_agree_modulus :
    let largest := "30644e72e131a029b85045b68181585d2833e84879b9709143e1f593f0000000"
    let modulus := "30644E72E131A029B85045B68181585D2833E84879B9709143E1F593F0000001"
    ReadsHex (readGrouped 16) ∧
      ofText ("0x" ++ largest) = .ok (-1) ∧ ofHexDigits ("0x" ++ largest) = .ok (-1) ∧
      modulus.toList ≠ [] ∧ (∀ c ∈ modulus.toList, c ∈ "0123456789abcdefABCDEF".toList) ∧
      ofHexDigits modulus = .ok 0 ∧ ofHexDigits ("0x" ++ modulus) = .ok 0 ∧
      ofText ("0x" ++ modulus) = .error .notInField := by
  intro largest modulus
  obtain ⟨⟨hgrouped, hreads⟩, hagree⟩ := hexReaders_agree
  obtain ⟨hstrict, -, hdigits⟩ := hagree (readGrouped 16) hreads
  rw [← hgrouped] at hstrict hdigits
  have hlargest : ofText ("0x" ++ largest) = .ok (-1) := by decide +kernel
  have hrefused : ofText ("0x" ++ modulus) = .error .notInField := by decide +kernel
  have hne : modulus.toList ≠ [] := by decide
  have hall : modulus.toList.all (· ∈ "0123456789abcdefABCDEF".toList) = true := by decide +kernel
  have hfigures : ∀ c ∈ modulus.toList, c ∈ "0123456789abcdefABCDEF".toList := fun c hc =>
    of_decide_eq_true (List.all_eq_true.mp hall c hc)
  have hzero : denoted modulus.toList % scalarModulus = 0 := by decide +kernel
  obtain ⟨x, hx, hplain, hprefixed⟩ := hdigits modulus.toList hne hfigures
  obtain rfl : x = 0 := Residue.ext (hx.trans hzero)
  rw [String.ofList_toList] at hplain hprefixed
  exact ⟨hreads, hlargest, hstrict largest (-1) hlargest, hne, hfigures, hplain, hprefixed,
    hrefused⟩

end Scalar

end GroupSignal
