import GroupSignal.Proofs.Numeral.Digits

/-!
# Canonical numerals

A text spells a number if it is the shortest numeral of the number, in decimal or behind `0x` in
hexadecimal. Just these texts are read, and the number that is read is the one that they spell. What
else is refused has one of three faults, which are looked for in order.

## Main definitions

* `Canonical`: digits that do not begin with a zero in front of others
* `Spells`: the texts that spell a number
* `radixOf`, `digitsOf`: the radix that a text announces, and its digits

## Main results

* `readCanonical_eq_ok_iff`: what is read
* `readCanonical_eq_error_iff`: what is refused, and why
* `spells_hex`: the written form spells its number
* `Spells.eq_iff`: the spellings of one number differ in radix and letter case alone
-/

namespace GroupSignal.Numeral

variable {radix n m : ℕ} {ds ds' : List Char} {s t : String}

/-! ## Texts that spell a number -/

/-- The shortest digits of a number: there are some, and the first is no zero, or they are the one
digit zero. -/
structure Canonical (radix : ℕ) (ds : List Char) : Prop where
  ne_nil : ds ≠ []
  mem_figures : ∀ c ∈ ds, c ∈ figures radix
  zero_or : ds = ['0'] ∨ ds.head? ≠ some '0'

/-- The texts that spell a number: its shortest decimal digits, or its shortest hexadecimal digits
behind `0x`, in either case. -/
inductive Spells : String → ℕ → Prop
  | decimal {ds : List Char} (h : Canonical 10 ds) : Spells (String.ofList ds) (value 10 ds)
  | hexadecimal {ds : List Char} (h : Canonical 16 ds) :
    Spells (String.ofList ('0' :: 'x' :: ds)) (value 16 ds)

/-- A zero is the first digit of no canonical numeral with several. -/
theorem canonical_iff : Canonical radix ds ↔ ds ≠ [] ∧ (∀ c ∈ ds, c ∈ figures radix) ∧
    ¬ (1 < ds.length ∧ ds.head? = some '0') := by
  constructor
  · rintro ⟨hne, hdigits, hzero⟩
    refine ⟨hne, hdigits, ?_⟩
    rintro ⟨hlength, hhead⟩
    obtain rfl | hfirst := hzero
    · exact absurd hlength (by decide)
    · exact hfirst hhead
  · rintro ⟨hne, hdigits, hzero⟩
    refine ⟨hne, hdigits, ?_⟩
    by_cases hhead : ds.head? = some '0'
    · -- The zero has nothing behind it.
      obtain ⟨rest, rfl⟩ := List.head?_eq_some_iff.mp hhead
      have hlength : ('0' :: rest).length ≤ 1 := Nat.le_of_not_lt fun h => hzero ⟨h, hhead⟩
      rw [List.length_cons] at hlength
      have hrest : rest = [] := List.length_eq_zero_iff.mp (by omega)
      exact .inl (congrArg _ hrest)
    · exact .inr hhead

section Digits

variable (hradix : radix = 10 ∨ radix = 16)
include hradix

theorem canonical_toDigits (n : ℕ) : Canonical radix (Nat.toDigits radix n) where
  ne_nil := Nat.toDigits_ne_nil
  mem_figures _ hc :=
    (isDigit_iff_mem_figures hradix).mp (isDigit_of_mem_toDigits (by omega) (by omega) hc)
  zero_or := by
    obtain rfl | hpos := Nat.eq_zero_or_pos n
    · exact .inl (Nat.toDigits_zero radix)
    · exact .inr (head?_toDigits (by omega) (by omega) hpos)

theorem Canonical.toDigits_value (h : Canonical radix ds) :
    Nat.toDigits radix (value radix ds) = ds.map Char.toLower :=
  Numeral.toDigits_value (by omega) (by omega) h.ne_nil
    (fun c hc => (isDigit_iff_mem_figures hradix).mpr (h.mem_figures c hc)) h.zero_or

theorem Canonical.value_eq_iff (h : Canonical radix ds) (h' : Canonical radix ds') :
    value radix ds = value radix ds' ↔ ds.map Char.toLower = ds'.map Char.toLower := by
  have hwritten : ∀ n, value radix (Nat.toDigits radix n) = n :=
    value_toDigits (by omega) (by omega)
  rw [← h.toDigits_value hradix, ← h'.toDigits_value hradix]
  exact ⟨congrArg _, fun heq => by rw [← hwritten (value radix ds), heq, hwritten]⟩

end Digits

theorem spells_hex (n : ℕ) : Spells (hex n) n := by
  have h := Spells.hexadecimal (canonical_toDigits (.inr rfl) n)
  rwa [value_toDigits (by decide) (by decide)] at h

/-! ## What a text announces -/

/-- The radix that a text announces. -/
def radixOf (s : String) : ℕ := (splitRadix s.toList).1

/-- The digits of a text, behind what announces the radix. -/
def digitsOf (s : String) : List Char := (splitRadix s.toList).2

theorem radixOf_eq (s : String) : radixOf s = 10 ∨ radixOf s = 16 := by
  rw [radixOf, splitRadix.eq_def]
  split
  · exact .inr rfl
  · exact .inl rfl

theorem splitRadix_of_canonical (h : Canonical 10 ds) : splitRadix ds = (10, ds) := by
  rw [splitRadix.eq_def]
  split
  case h_1 rest =>
    -- An `x` is no decimal digit.
    exact absurd (h.mem_figures 'x' (by simp)) (by decide +kernel)
  case h_2 => rfl

/-- A text spells a number by the digits behind what it announces. -/
theorem spells_iff : Spells s n ↔
    Canonical (radixOf s) (digitsOf s) ∧ value (radixOf s) (digitsOf s) = n := by
  constructor
  · rintro (h | h)
    · rw [radixOf, digitsOf, String.toList_ofList, splitRadix_of_canonical h]
      exact ⟨h, rfl⟩
    · rw [radixOf, digitsOf, String.toList_ofList]
      exact ⟨h, rfl⟩
  · obtain ⟨cs, rfl⟩ : ∃ cs, s = String.ofList cs := ⟨s.toList, String.ofList_toList.symm⟩
    rw [radixOf, digitsOf, String.toList_ofList, splitRadix.eq_def]
    rintro ⟨h, rfl⟩
    split at h
    · exact .hexadecimal h
    · exact .decimal h

theorem Spells.eq (hs : Spells s n) (ht : Spells s m) : n = m :=
  (spells_iff.mp hs).2.symm.trans (spells_iff.mp ht).2

/-- **The spellings of one number** differ in radix and letter case alone. -/
theorem Spells.eq_iff (hs : Spells s n) (ht : Spells t m) (hradix : radixOf s = radixOf t) :
    n = m ↔ s.toList.map Char.toLower = t.toList.map Char.toLower := by
  have hten : ∀ {ds}, Canonical 10 ds → radixOf (String.ofList ds) = 10 := fun h => by
    rw [radixOf, String.toList_ofList, splitRadix_of_canonical h]
  have hsixteen : ∀ {ds}, radixOf (String.ofList ('0' :: 'x' :: ds)) = 16 := fun {ds} => by
    rw [radixOf, String.toList_ofList]
    rfl
  -- Behind one radix the texts differ as their digits do.
  rcases hs with hs | hs <;> rcases ht with ht | ht
  · rw [hs.value_eq_iff (.inl rfl) ht, String.toList_ofList, String.toList_ofList]
  · rw [hten hs, hsixteen] at hradix
    cases hradix
  · rw [hten ht, hsixteen] at hradix
    cases hradix
  · rw [hs.value_eq_iff (.inr rfl) ht, String.toList_ofList, String.toList_ofList]
    simp only [List.map_cons, List.cons.injEq, true_and]

/-! ## What is read and what is refused -/

/-- The faults of digits: there are none of them, one is no digit of the radix, or the first of
several is a zero. -/
inductive Faulty (radix : ℕ) : List Char → CanonicalError → Prop
  | noDigits : Faulty radix [] .noDigits
  | invalidDigits {ds : List Char} (hne : ds ≠ []) (hdigits : ∃ c ∈ ds, c ∉ figures radix) :
    Faulty radix ds (.invalidDigits radix)
  | leadingZero {ds : List Char} (hdigits : ∀ c ∈ ds, c ∈ figures radix) (hlength : 1 < ds.length)
    (hhead : ds.head? = some '0') : Faulty radix ds .leadingZero

theorem faulty_noDigits_iff : Faulty radix ds .noDigits ↔ ds = [] :=
  ⟨fun h => by cases h; rfl, fun h => h ▸ .noDigits⟩

theorem faulty_invalidDigits_iff :
    Faulty radix ds (.invalidDigits radix) ↔ ds ≠ [] ∧ ∃ c ∈ ds, c ∉ figures radix :=
  ⟨fun | .invalidDigits hne hdigits => ⟨hne, hdigits⟩, fun h => .invalidDigits h.1 h.2⟩

theorem faulty_leadingZero_iff : Faulty radix ds .leadingZero ↔
    (∀ c ∈ ds, c ∈ figures radix) ∧ 1 < ds.length ∧ ds.head? = some '0' :=
  ⟨fun | .leadingZero hdigits hlength hhead => ⟨hdigits, hlength, hhead⟩,
    fun h => .leadingZero h.1 h.2.1 h.2.2⟩

theorem Faulty.not_canonical {cause : CanonicalError} (h : Faulty radix ds cause) :
    ¬ Canonical radix ds := by
  rw [canonical_iff]
  rintro ⟨hne, hdigits, hzero⟩
  cases h with
  | noDigits => exact hne rfl
  | invalidDigits _ hinvalid =>
    obtain ⟨c, hc, hfigure⟩ := hinvalid
    exact hfigure (hdigits c hc)
  | leadingZero _ hlength hhead => exact hzero ⟨hlength, hhead⟩

theorem Faulty.not_spells {cause : CanonicalError} (h : Faulty (radixOf s) (digitsOf s) cause) :
    ¬ Spells s n :=
  fun hs => h.not_canonical (spells_iff.mp hs).1

/-- No digits have two faults, as one is looked for where there are none before it. -/
theorem Faulty.eq {cause cause' : CanonicalError} (h : Faulty radix ds cause)
    (h' : Faulty radix ds cause') : cause = cause' := by
  cases h <;> cases h' <;> grind

/-- A text is read as the number that it spells, or refused for the fault that it has. -/
theorem readCanonical_outcome (s : String) :
    (∃ n, readCanonical s = .ok n ∧ Spells s n) ∨
      ∃ cause, readCanonical s = .error cause ∧ Faulty (radixOf s) (digitsOf s) cause := by
  have hread : readCanonical s =
      if digitsOf s = [] then .error .noDigits
      else if !(digitsOf s).all (isDigit (radixOf s)) then .error (.invalidDigits (radixOf s))
      else if 1 < (digitsOf s).length ∧ (digitsOf s).head? = some '0' then .error .leadingZero
      else .ok (value (radixOf s) (digitsOf s)) := rfl
  have hall : (digitsOf s).all (isDigit (radixOf s)) = true ↔
      ∀ c ∈ digitsOf s, c ∈ figures (radixOf s) := by
    rw [List.all_eq_true]
    exact forall₂_congr fun c _ => isDigit_iff_mem_figures (radixOf_eq s)
  by_cases hne : digitsOf s = []
  · rw [hread, if_pos hne, hne]
    exact .inr ⟨_, rfl, .noDigits⟩
  by_cases hdigits : ∀ c ∈ digitsOf s, c ∈ figures (radixOf s)
  · rw [hread, if_neg hne, if_neg (by simp [hall.mpr hdigits])]
    by_cases hzero : 1 < (digitsOf s).length ∧ (digitsOf s).head? = some '0'
    · rw [if_pos hzero]
      exact .inr ⟨_, rfl, .leadingZero hdigits hzero.1 hzero.2⟩
    · rw [if_neg hzero]
      exact .inl ⟨_, rfl, spells_iff.mpr ⟨canonical_iff.mpr ⟨hne, hdigits, hzero⟩, rfl⟩⟩
  · rw [hread, if_neg hne, if_pos (by simpa [← hall] using hdigits)]
    push Not at hdigits
    exact .inr ⟨_, rfl, .invalidDigits hne hdigits⟩

/-- **What is read**: the texts that spell a number. -/
theorem readCanonical_eq_ok_iff : readCanonical s = .ok n ↔ Spells s n := by
  obtain ⟨n', hread, hs⟩ | ⟨cause, hread, hfault⟩ := readCanonical_outcome s
  · rw [hread, Except.ok.injEq]
    exact ⟨fun h => h ▸ hs, fun h => hs.eq h⟩
  · rw [hread]
    exact iff_of_false (fun h => by cases h) fun h => hfault.not_spells h

/-- **What is refused**: the texts with a fault, for this fault. -/
theorem readCanonical_eq_error_iff {cause : CanonicalError} :
    readCanonical s = .error cause ↔ Faulty (radixOf s) (digitsOf s) cause := by
  obtain ⟨n', hread, hs⟩ | ⟨cause', hread, hfault⟩ := readCanonical_outcome s
  · rw [hread]
    exact iff_of_false (fun h => by cases h) fun h => h.not_spells hs
  · rw [hread, Except.error.injEq]
    exact ⟨fun h => h ▸ hfault, fun h => hfault.eq h⟩

end GroupSignal.Numeral
