import Mathlib.Algebra.Order.Group.Nat
import Mathlib.Data.List.Basic
import Mathlib.Data.List.Induction
import GroupSignal.Numeral

/-!
# Digits, and the numbers that they write

A digit of a numeral is an ASCII character, and letters stand for digits in either case. Writing the
digits of a number and taking their value gives the number back. The other way round, digits come
back in lower case, unless the first of them is a zero in front of others.

## Main definitions

* `figures`: the characters that are digits

## Main results

* `isDigit_iff_mem_figures`: which characters are digits
* `value_append`, `value_lt`: the value of digits with others behind them, and how large it can be
* `value_toDigits`: the value of the digits of a number
* `toDigits_value`: the digits of the value of digits
-/

namespace GroupSignal.Numeral

variable {radix n d : ℕ} {c : Char} {ds : List Char}

/-! ## Single digits -/

/-- The characters that are digits, in radix ten and in radix sixteen. -/
def figures : ℕ → List Char
  | 16 => "0123456789abcdefABCDEF".toList
  | _ => "0123456789".toList

theorem isDigit_eq_true_iff : isDigit radix c = true ↔ ∃ d, digit? c = some d ∧ d < radix := by
  rw [isDigit, Option.any_eq_true]
  simp only [decide_eq_true_eq]

/-- Only ASCII characters have a value as digits. -/
theorem toNat_lt_of_digit? (h : digit? c = some d) : c.toNat < 128 := by
  have hle : ∀ high : Char, high.toNat < 128 → c ≤ high → c.toNat < 128 := fun high hhigh hc =>
    lt_of_le_of_lt (b := high.toNat) hc hhigh
  rw [digit?] at h
  split at h
  case isTrue hrange => exact hle '9' (by decide) hrange.2
  split at h
  case isTrue hrange => exact hle 'z' (by decide) hrange.2
  split at h
  case isTrue hrange => exact hle 'Z' (by decide) hrange.2
  cases h

/-- What is so for the characters below 128 is so for all digits. -/
theorem of_digit? {P : Char → Prop} (hP : ∀ n < 128, P (Char.ofNat n)) (h : digit? c = some d) :
    P c :=
  Char.ofNat_toNat c ▸ hP c.toNat (toNat_lt_of_digit? h)

/-- **Which characters are digits.** -/
theorem isDigit_iff_mem_figures (hradix : radix = 10 ∨ radix = 16) :
    isDigit radix c = true ↔ c ∈ figures radix := by
  have hten : ∀ n < 128, isDigit 10 (Char.ofNat n) = true → Char.ofNat n ∈ figures 10 := by
    decide +kernel
  have hsixteen : ∀ n < 128, isDigit 16 (Char.ofNat n) = true → Char.ofNat n ∈ figures 16 := by
    decide +kernel
  constructor
  · intro h
    obtain ⟨d, hd, -⟩ := isDigit_eq_true_iff.mp h
    rcases hradix with rfl | rfl
    · exact of_digit? (P := fun c => isDigit 10 c = true → c ∈ figures 10) hten hd h
    · exact of_digit? (P := fun c => isDigit 16 c = true → c ∈ figures 16) hsixteen hd h
  · have hall : (figures 10).all (isDigit 10) = true ∧ (figures 16).all (isDigit 16) = true := by
      decide +kernel
    rcases hradix with rfl | rfl
    · exact List.all_eq_true.mp hall.1 c
    · exact List.all_eq_true.mp hall.2 c

theorem digit?_digitChar (h : d < 16) : digit? (Nat.digitChar d) = some d := by
  have hall : ∀ d < 16, digit? (Nat.digitChar d) = some d := by decide
  exact hall d h

/-- A digit is written in lower case. -/
theorem digitChar_of_digit? (h : digit? c = some d) (hd : d < 16) :
    Nat.digitChar d = c.toLower := by
  have hall : ∀ n < 128, ∀ d < 16, digit? (Char.ofNat n) = some d →
      Nat.digitChar d = (Char.ofNat n).toLower := by
    decide +kernel
  exact of_digit? (P := fun c => ∀ d < 16, digit? c = some d → Nat.digitChar d = c.toLower) hall h d
    hd h

theorem isUpper_digitChar (h : d < 16) : (Nat.digitChar d).isUpper = false := by
  have hall : ∀ d < 16, (Nat.digitChar d).isUpper = false := by decide
  exact hall d h

theorem toLower_of_isUpper (h : c.isUpper = false) : c.toLower = c := dif_neg (of_decide_eq_false h)

theorem map_toLower_of_isUpper (h : ∀ c ∈ ds, c.isUpper = false) : ds.map Char.toLower = ds :=
  (List.map_congr_left fun c hc => toLower_of_isUpper (h c hc)).trans (List.map_id ds)

/-- Zero is written in one way. -/
theorem eq_zero_of_digit? (h : digit? c = some 0) : c = '0' := by
  have hall : ∀ n < 128, digit? (Char.ofNat n) = some 0 → Char.ofNat n = '0' := by decide +kernel
  exact of_digit? (P := fun c => digit? c = some 0 → c = '0') hall h h

/-! ## The value of digits -/

theorem value_nil : value radix [] = 0 := rfl

theorem value_concat : value radix (ds ++ [c]) = value radix ds * radix + (digit? c).getD 0 := by
  rw [value, List.foldl_append, List.foldl_cons, List.foldl_nil, value]

theorem value_append (ds ds' : List Char) :
    value radix (ds ++ ds') = value radix ds * radix ^ ds'.length + value radix ds' := by
  induction ds' using List.reverseRecOn with
  | nil => rw [List.append_nil, List.length_nil, pow_zero, Nat.mul_one, value_nil, Nat.add_zero]
  | append_singleton front c ih =>
    rw [← List.append_assoc, value_concat, value_concat, ih, List.length_append,
      List.length_singleton, pow_succ, Nat.add_mul, Nat.mul_assoc, Nat.add_assoc]

/-- Digits write a number for which there is room in as many. -/
theorem value_lt (hdigits : ∀ c ∈ ds, isDigit radix c = true) :
    value radix ds < radix ^ ds.length := by
  induction ds using List.reverseRecOn with
  | nil => exact Nat.one_pos
  | append_singleton front c ih =>
    obtain ⟨d, hc, hd⟩ := isDigit_eq_true_iff.mp (hdigits c (by simp))
    have hfront : value radix front + 1 ≤ radix ^ front.length :=
      ih fun c hc => hdigits c (List.mem_append_left _ hc)
    rw [value_concat, hc, Option.getD_some, List.length_append, List.length_singleton, pow_succ]
    calc value radix front * radix + d
        < value radix front * radix + radix := Nat.add_lt_add_left hd _
      _ = (value radix front + 1) * radix := (Nat.succ_mul _ _).symm
      _ ≤ radix ^ front.length * radix := Nat.mul_le_mul_right radix hfront

section Written

variable (hone : 1 < radix) (hsixteen : radix ≤ 16)
include hone hsixteen

/-- **The value of the digits of a number.** -/
theorem value_toDigits (n : ℕ) : value radix (Nat.toDigits radix n) = n := by
  -- Induction on the number, which loses its last digit.
  induction n using Nat.strong_induction_on with
  | _ n ih =>
    have hdigit : ∀ d < radix, (digit? (Nat.digitChar d)).getD 0 = d := fun d hd => by
      rw [digit?_digitChar (hd.trans_le hsixteen), Option.getD_some]
    rw [Nat.toDigits_eq_if hone]
    split
    case isTrue hn =>
      rw [← List.nil_append [_], value_concat, value_nil, hdigit n hn, Nat.zero_mul, Nat.zero_add]
    case isFalse hn =>
      have hmod : n % radix < radix := Nat.mod_lt n (by omega)
      rw [value_concat, ih _ (Nat.div_lt_self (by omega) hone), hdigit _ hmod]
      exact Nat.div_add_mod' n radix

omit hsixteen in
theorem exists_of_mem_toDigits (h : c ∈ Nat.toDigits radix n) :
    ∃ d < radix, c = Nat.digitChar d := by
  induction n using Nat.strong_induction_on with
  | _ n ih =>
    rw [Nat.toDigits_eq_if hone] at h
    split at h
    case isTrue hn => exact ⟨n, hn, List.mem_singleton.mp h⟩
    case isFalse hn =>
      rcases List.mem_append.mp h with h | h
      · exact ih _ (Nat.div_lt_self (by omega) hone) h
      · exact ⟨_, Nat.mod_lt n (by omega), List.mem_singleton.mp h⟩

theorem isDigit_of_mem_toDigits (h : c ∈ Nat.toDigits radix n) : isDigit radix c = true := by
  obtain ⟨d, hd, rfl⟩ := exists_of_mem_toDigits hone h
  exact isDigit_eq_true_iff.mpr ⟨d, digit?_digitChar (hd.trans_le hsixteen), hd⟩

/-- The digits of a number above zero do not begin with a zero. -/
theorem head?_toDigits (h : 0 < n) : (Nat.toDigits radix n).head? ≠ some '0' := by
  induction n using Nat.strong_induction_on with
  | _ n ih =>
    rw [Nat.toDigits_eq_if hone]
    split
    case isTrue hn =>
      intro hhead
      have hvalue := digit?_digitChar (hn.trans_le hsixteen)
      rw [Option.some.inj hhead] at hvalue
      exact h.ne (Option.some.inj hvalue)
    case isFalse hn =>
      rw [List.head?_append_of_ne_nil _ Nat.toDigits_ne_nil]
      exact ih _ (Nat.div_lt_self h hone) (Nat.div_pos (by omega) (by omega))

omit hsixteen in
/-- The value of digits that do not begin with a zero is above zero. -/
theorem value_pos (hne : ds ≠ []) (hdigits : ∀ c ∈ ds, isDigit radix c = true)
    (hhead : ds.head? ≠ some '0') : 0 < value radix ds := by
  -- The first digit stays the first while digits are taken off the end, until it is the only one.
  induction ds using List.reverseRecOn with
  | nil => exact absurd rfl hne
  | append_singleton front c ih =>
    rw [value_concat]
    by_cases hfront : front = []
    · subst hfront
      obtain ⟨d, hc, -⟩ := isDigit_eq_true_iff.mp (hdigits c (List.mem_singleton_self c))
      rw [value_nil, Nat.zero_mul, Nat.zero_add, hc, Option.getD_some]
      refine Nat.pos_of_ne_zero fun hzero => hhead ?_
      exact congrArg some (eq_zero_of_digit? (hzero ▸ hc))
    · rw [List.head?_append_of_ne_nil front hfront] at hhead
      have hpos := ih hfront (fun c hc => hdigits c (List.mem_append_left _ hc)) hhead
      exact Nat.add_pos_left (Nat.mul_pos hpos (by omega)) _

/-- **The digits of the value of digits** are the digits in lower case, if the first is not a zero
in front of others. -/
theorem toDigits_value (hne : ds ≠ []) (hdigits : ∀ c ∈ ds, isDigit radix c = true)
    (hhead : ds = ['0'] ∨ ds.head? ≠ some '0') :
    Nat.toDigits radix (value radix ds) = ds.map Char.toLower := by
  -- Induction on the digits from the end, as the value takes the last digit on at the end.
  induction ds using List.reverseRecOn with
  | nil => exact absurd rfl hne
  | append_singleton front c ih =>
    obtain ⟨d, hc, hd⟩ := isDigit_eq_true_iff.mp (hdigits c (by simp))
    have hchar : Nat.digitChar d = c.toLower := digitChar_of_digit? hc (hd.trans_le hsixteen)
    rw [value_concat, hc, Option.getD_some, List.map_append, List.map_singleton]
    by_cases hfront : front = []
    · subst hfront
      rw [value_nil, Nat.zero_mul, Nat.zero_add, Nat.toDigits_of_lt_base hd, hchar]
      rfl
    · -- With digits in front the first is no zero, so the digits in front have a value above zero.
      have hfirst : front.head? ≠ some '0' := by
        rw [← List.head?_append_of_ne_nil front hfront]
        refine hhead.resolve_left fun hzero => hfront ?_
        have hlength := congrArg List.length hzero
        rw [List.length_append, List.length_singleton, List.length_singleton] at hlength
        exact List.length_eq_zero_iff.mp (by omega)
      have hdigits' : ∀ c ∈ front, isDigit radix c = true := fun c hc =>
        hdigits c (List.mem_append_left _ hc)
      have hpos : 0 < value radix front := value_pos hone hfront hdigits' hfirst
      rw [Nat.mul_comm, ← Nat.toDigits_append_toDigits hone hpos hd,
        ih hfront hdigits' (.inr hfirst), Nat.toDigits_of_lt_base hd, hchar]

end Written

end GroupSignal.Numeral
