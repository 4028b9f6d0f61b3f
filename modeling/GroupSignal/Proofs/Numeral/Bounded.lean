import GroupSignal.Proofs.Fallible
import GroupSignal.Proofs.Numeral.Digits

/-!
# Bounded numerals

What is read below a limit: any count of digits, with or without a plus, whose number is below the
limit. The digits are looked at from the front, and the number that they write never gets smaller,
so a limit that is kept at the end was kept on the way. Integers are read so behind an optional
`0x`.

## Main definitions

* `Denotes`: the texts of an integer

## Main results

* `readBounded_eq_ok_iff`: what is read
* `readBounded_toDigits`: the written digits of a number are read
* `readBounded_dropPrefix_eq_ok_iff`: what is read behind an optional `0x`
-/

namespace GroupSignal.Numeral

variable {radix limit n m : ℕ} {c : Char} {ds s : List Char}

theorem readDigits_append (ds ds' : List Char) (m : ℕ) : readDigits radix limit (ds ++ ds') m =
    readDigits radix limit ds m >>= readDigits radix limit ds' := by
  induction ds generalizing m with
  | nil => rfl
  | cons c ds ih =>
    rw [List.cons_append, readDigits, readDigits]
    split
    · rfl
    · split
      · rfl
      · split
        · rfl
        · exact ih _

theorem readDigits_singleton_eq_ok_iff : readDigits radix limit [c] m = .ok n ↔
    isDigit radix c = true ∧ m * radix + (digit? c).getD 0 = n ∧ n < limit := by
  rw [readDigits, isDigit]
  cases hc : digit? c with
  | none => simp
  | some d =>
    simp only [Option.any_some, decide_eq_true_eq, Option.getD_some, readDigits]
    grind

/-- Digits are read if their number is below the limit. Where there are none, zero is read without
a look at the limit. -/
theorem readDigits_eq_ok_iff (hradix : 0 < radix) : readDigits radix limit ds 0 = .ok n ↔
    (∀ c ∈ ds, isDigit radix c = true) ∧ value radix ds = n ∧ (ds ≠ [] → n < limit) := by
  -- Induction from the end, as the last digit is the last to be looked at.
  induction ds using List.reverseRecOn generalizing n with
  | nil => simp [readDigits, value]
  | append_singleton front c ih =>
    have hle : value radix front ≤ value radix front * radix := Nat.le_mul_of_pos_right _ hradix
    rw [readDigits_append, bind_eq_ok_iff]
    simp only [ih, readDigits_singleton_eq_ok_iff, value_concat, List.forall_mem_append,
      List.forall_mem_singleton]
    constructor
    · rintro ⟨m, ⟨hfront, rfl, -⟩, hc, rfl, hlt⟩
      exact ⟨⟨hfront, hc⟩, rfl, fun _ => hlt⟩
    · rintro ⟨⟨hfront, hc⟩, rfl, hlt⟩
      have hlt := hlt (List.append_ne_nil_of_right_ne_nil _ (List.cons_ne_nil _ _))
      exact ⟨_, ⟨hfront, rfl, fun _ => by omega⟩, hc, rfl, hlt⟩

/-- **What is read below a limit.** -/
theorem readBounded_eq_ok_iff (hradix : 0 < radix) :
    readBounded radix limit s = .ok n ↔ ∃ ds, (s = ds ∨ s = '+' :: ds) ∧ ds ≠ [] ∧
      (∀ c ∈ ds, isDigit radix c = true) ∧ value radix ds = n ∧ n < limit := by
  -- A plus is no digit, so a text with one in front is read behind it or not at all.
  have hplus : ∀ ds : List Char, ¬ ∀ c ∈ '+' :: ds, isDigit radix c = true := fun ds h =>
    absurd (h '+' (List.mem_cons_self ..)) (by simp [isDigit, digit?])
  rw [readBounded.eq_def]
  split
  case h_1 => simp
  case h_2 =>
    refine iff_of_false (fun h => by cases h) ?_
    rintro ⟨ds, rfl | h, hne, hdigits, -⟩
    · exact hplus [] hdigits
    · exact hne (List.cons.inj h).2.symm
  case h_3 ds hne =>
    rw [readDigits_eq_ok_iff hradix]
    constructor
    · rintro ⟨hdigits, hvalue, hlt⟩
      exact ⟨ds, .inr rfl, hne, hdigits, hvalue, hlt hne⟩
    · rintro ⟨ds', rfl | h, -, hdigits, hvalue, hlt⟩
      · exact absurd hdigits (hplus ds)
      · obtain rfl := (List.cons.inj h).2
        exact ⟨hdigits, hvalue, fun _ => hlt⟩
  case h_4 hnil _ hunsigned =>
    rw [readDigits_eq_ok_iff hradix]
    constructor
    · rintro ⟨hdigits, hvalue, hlt⟩
      exact ⟨_, .inl rfl, hnil, hdigits, hvalue, hlt hnil⟩
    · rintro ⟨ds', rfl | h, hne, hdigits, hvalue, hlt⟩
      · exact ⟨hdigits, hvalue, fun _ => hlt⟩
      · exact absurd h (hunsigned ds')

theorem readBounded_toDigits (hone : 1 < radix) (hsixteen : radix ≤ 16) (hn : n < limit) :
    readBounded radix limit (Nat.toDigits radix n) = .ok n :=
  (readBounded_eq_ok_iff (by omega)).mpr ⟨_, .inl rfl, Nat.toDigits_ne_nil,
    fun _ => isDigit_of_mem_toDigits hone hsixteen, value_toDigits hone hsixteen n, hn⟩

/-! ## Behind a prefix -/

/-- The texts of an integer: hexadecimal digits, in either case, behind at most one `0x` and then at
most one plus. -/
def Denotes (s : String) (n : ℕ) : Prop :=
  ∃ front sign ds, s.toList = front ++ sign ++ ds ∧ (front = [] ∨ front = ['0', 'x']) ∧
    (sign = [] ∨ sign = ['+']) ∧ ds ≠ [] ∧ (∀ c ∈ ds, c ∈ figures 16) ∧ value 16 ds = n

theorem exists_eq_append_dropPrefix (cs : List Char) :
    ∃ front, (front = [] ∨ front = ['0', 'x']) ∧ cs = front ++ dropPrefix cs := by
  rw [dropPrefix.eq_def]
  split
  case h_1 ds => exact ⟨_, .inr rfl, rfl⟩
  case h_2 => exact ⟨_, .inl rfl, rfl⟩

/-- Neither a plus nor digits begin with a prefix. -/
theorem dropPrefix_append {front sign : List Char} (hfront : front = [] ∨ front = ['0', 'x'])
    (hsign : sign = [] ∨ sign = ['+']) (hdigits : ∀ c ∈ ds, c ∈ figures 16) :
    dropPrefix (front ++ sign ++ ds) = sign ++ ds := by
  rcases hfront with rfl | rfl
  · rcases hsign with rfl | rfl
    · rw [List.nil_append, List.nil_append, dropPrefix.eq_def]
      split
      case h_1 rest => exact absurd (hdigits 'x' (by simp)) (by decide +kernel)
      case h_2 => rfl
    · rfl
  · rfl

/-- **What is read behind an optional `0x`.** -/
theorem readBounded_dropPrefix_eq_ok_iff {s : String} :
    readBounded 16 limit (dropPrefix s.toList) = .ok n ↔ Denotes s n ∧ n < limit := by
  rw [readBounded_eq_ok_iff (by decide)]
  constructor
  · rintro ⟨ds, hs, hne, hdigits, hvalue, hlt⟩
    obtain ⟨front, hfront, happend⟩ := exists_eq_append_dropPrefix s.toList
    have hdigits : ∀ c ∈ ds, c ∈ figures 16 := fun c hc =>
      (isDigit_iff_mem_figures (.inr rfl)).mp (hdigits c hc)
    rcases hs with hs | hs
    · rw [hs] at happend
      refine ⟨⟨front, [], ds, ?_, hfront, .inl rfl, hne, hdigits, hvalue⟩, hlt⟩
      rw [happend, List.append_nil]
    · rw [hs] at happend
      refine ⟨⟨front, ['+'], ds, ?_, hfront, .inr rfl, hne, hdigits, hvalue⟩, hlt⟩
      rw [happend, List.append_assoc, List.singleton_append]
  · rintro ⟨⟨front, sign, ds, hs, hfront, hsign, hne, hdigits, hvalue⟩, hlt⟩
    rw [hs, dropPrefix_append hfront hsign hdigits]
    refine ⟨ds, ?_, hne, fun c hc => ?_, hvalue, hlt⟩
    · rcases hsign with rfl | rfl
      · exact .inl rfl
      · exact .inr rfl
    · exact (isDigit_iff_mem_figures (.inr rfl)).mpr (hdigits c hc)

end GroupSignal.Numeral
