import GroupSignal.Proofs.Bytes
import GroupSignal.Proofs.Fallible
import GroupSignal.Proofs.Numeral.Digits
import GroupSignal.Hex

/-!
# The hexadecimal texts of byte strings

A text is read as a byte string if its characters are two digits for every byte, in either case.
The reader looks at the bytes of the text, of which those of other characters than ASCII are no
digits. Of the texts of a byte string the written one is the one without capitals.

## Main definitions

* `Hex.Writes`: two digits for every byte
* `Hex.Spells`: the texts of a byte string behind `0x`

## Main results

* `Hex.writes_iff`: digits write the number that the bytes write
* `Hex.decode_eq_ok_iff`, `Hex.decodePrefixed_eq_ok_iff`: which texts are read as a byte string
* `Hex.decode_encode`, `Hex.decodePrefixed_prefixed`: the round trip, without `0x` and behind it
* `Hex.prefixed_eq_iff`: which of them is the written one
-/

namespace GroupSignal.Hex

variable {d : ℕ} {b : Bytes} {c : Char} {cs : List Char} {s : String}

/-! ## Digits that write bytes -/

/-- There are two digits for every byte, in either case, and they write the byte. -/
inductive Writes : List Char → Bytes → Prop
  | nil : Writes [] []
  | cons {high low : Char} {cs : List Char} {x : UInt8} {b : Bytes}
    (hhigh : high ∈ Numeral.figures 16) (hlow : low ∈ Numeral.figures 16)
    (hvalue : Numeral.value 16 [high, low] = x.toNat) (hrest : Writes cs b) :
    Writes (high :: low :: cs) (x :: b)

theorem isDigit_iff_mem : Numeral.isDigit 16 c = true ↔ c ∈ Numeral.figures 16 :=
  Numeral.isDigit_iff_mem_figures (.inr rfl)

theorem toNat_lt_of_mem_figures (h : c ∈ Numeral.figures 16) : c.toNat < 128 := by
  obtain ⟨d, hd, -⟩ := Numeral.isDigit_eq_true_iff.mp (isDigit_iff_mem.mpr h)
  exact Numeral.toNat_lt_of_digit? hd

theorem value_cons_cons (high low : Char) (h : cs.length = 2 * b.length) :
    Numeral.value 16 (high :: low :: cs) =
      Numeral.value 16 [high, low] * 256 ^ b.length + Numeral.value 16 cs := by
  have hplaces : 16 ^ cs.length = 256 ^ b.length := by
    rw [h, pow_mul]
    rfl
  rw [← hplaces, ← Numeral.value_append]
  rfl

theorem Writes.length_eq (h : Writes cs b) : cs.length = 2 * b.length := by
  induction h with
  | nil => rfl
  | cons _ _ _ _ ih =>
    rw [List.length_cons, List.length_cons, List.length_cons, ih]
    omega

theorem Writes.mem_figures (h : Writes cs b) : ∀ c ∈ cs, c ∈ Numeral.figures 16 := by
  induction h with
  | nil => exact List.forall_mem_nil _
  | cons hhigh hlow _ _ ih => simpa only [List.forall_mem_cons] using ⟨hhigh, hlow, ih⟩

theorem Writes.value_eq (h : Writes cs b) : Numeral.value 16 cs = Bytes.toNat b := by
  induction h with
  | nil => rfl
  | cons _ _ hvalue hrest ih =>
    rw [value_cons_cons _ _ hrest.length_eq, hvalue, ih, Bytes.toNat_cons]

/-- **Digits write bytes** if there are two for each of them, and both write one number. -/
theorem writes_iff : Writes cs b ↔ cs.length = 2 * b.length ∧
    (∀ c ∈ cs, c ∈ Numeral.figures 16) ∧ Numeral.value 16 cs = Bytes.toNat b := by
  refine ⟨fun h => ⟨h.length_eq, h.mem_figures, h.value_eq⟩, ?_⟩
  rintro ⟨hlength, hfigures, hvalue⟩
  induction b generalizing cs with
  | nil =>
    rw [List.length_eq_zero_iff.mp hlength]
    exact .nil
  | cons x b ih =>
    match cs with
    | [] => cases hlength
    | [c] => simp at hlength; omega
    | high :: low :: cs =>
      have hlength : cs.length = 2 * b.length := by
        simp only [List.length_cons] at hlength
        omega
      simp only [List.forall_mem_cons] at hfigures
      obtain ⟨hhigh, hlow, hfigures⟩ := hfigures
      have hcs : Numeral.value 16 cs < 256 ^ b.length := by
        have hlt := Numeral.value_lt fun c hc => isDigit_iff_mem.mpr (hfigures c hc)
        rwa [hlength, pow_mul] at hlt
      have hb : Bytes.toNat b < 256 ^ b.length := Bytes.toNat_lt b
      rw [value_cons_cons high low hlength, Bytes.toNat_cons, Nat.mul_comm, Nat.mul_comm x.toNat]
        at hvalue
      -- What stands behind the first byte is a remainder on both sides, so both parts are equal.
      have hfirst : Numeral.value 16 [high, low] = x.toNat := by
        have hdiv := congrArg (· / 256 ^ b.length) hvalue
        simp only [Nat.mul_add_div (Nat.pow_pos (n := b.length) (by decide : 0 < 256)),
          Nat.div_eq_of_lt hcs, Nat.div_eq_of_lt hb, Nat.add_zero] at hdiv
        exact hdiv
      rw [hfirst] at hvalue
      exact .cons hhigh hlow hfirst (ih hlength hfigures (Nat.add_left_cancel hvalue))

/-! ## What is read -/

theorem toNat_lt_of_nibble? {x y : UInt8} (h : nibble? x = some y) : x.toNat < 128 := by
  have hle : ∀ high : UInt8, high.toNat < 128 → x ≤ high → x.toNat < 128 := fun high hhigh hx =>
    Nat.lt_of_le_of_lt (UInt8.le_iff_toNat_le.mp hx) hhigh
  rw [nibble?] at h
  split at h
  case isTrue hrange => exact hle 57 (by decide) hrange.2
  split at h
  case isTrue hrange => exact hle 102 (by decide) hrange.2
  split at h
  case isTrue hrange => exact hle 70 (by decide) hrange.2
  cases h

theorem mem_figures_of_digit? (h : Numeral.digit? c = some d) (hd : d < 16) :
    c ∈ Numeral.figures 16 :=
  isDigit_iff_mem.mp (Numeral.isDigit_eq_true_iff.mpr ⟨d, h, hd⟩)

/-- What is read for a character is its value as a digit. -/
theorem nibble?_eq_some_iff (hc : c.toNat < 128) {y : UInt8} :
    nibble? c.toUInt8 = some y ↔ Numeral.digit? c = some y.toNat ∧ y.toNat < 16 := by
  have hall : ∀ n < 128, (nibble? (Char.ofNat n).toUInt8).map UInt8.toNat =
      (Numeral.digit? (Char.ofNat n)).filter (· < 16) := by
    decide +kernel
  have hdigit := hall c.toNat hc
  rw [Char.ofNat_toNat] at hdigit
  have hvalue : nibble? c.toUInt8 = some y ↔
      (nibble? c.toUInt8).map UInt8.toNat = some y.toNat := by
    rw [Option.map_eq_some_iff]
    constructor
    · intro h
      exact ⟨y, h, rfl⟩
    · rintro ⟨y', h, heq⟩
      rw [h, UInt8.toNat_inj.mp heq]
  rw [hvalue, hdigit, Option.filter_eq_some_iff, decide_eq_true_eq]

theorem exists_nibble? (hc : c ∈ Numeral.figures 16) :
    ∃ y, nibble? c.toUInt8 = some y ∧ Numeral.digit? c = some y.toNat ∧ y.toNat < 16 := by
  obtain ⟨d, hd, hlt⟩ := Numeral.isDigit_eq_true_iff.mp (isDigit_iff_mem.mpr hc)
  have hnat : (UInt8.ofNat d).toNat = d := UInt8.toNat_ofNat_of_lt' (hlt.trans (by decide))
  have hvalue : Numeral.digit? c = some (UInt8.ofNat d).toNat ∧ (UInt8.ofNat d).toNat < 16 := by
    rw [hnat]
    exact ⟨hd, hlt⟩
  exact ⟨_, (nibble?_eq_some_iff (Numeral.toNat_lt_of_digit? hd)).mpr hvalue, hvalue⟩

theorem value_pair {high low : Char} {h l : ℕ} (hh : Numeral.digit? high = some h)
    (hl : Numeral.digit? low = some l) : Numeral.value 16 [high, low] = h * 16 + l := by
  simp [Numeral.value, hh, hl]

/-- Two digits write the byte that is put together from what is read for them. -/
theorem value_eq_toNat {high low : Char} {h l : UInt8} (hh : Numeral.digit? high = some h.toNat)
    (hl : Numeral.digit? low = some l.toNat) (hhigh : h.toNat < 16) (hlow : l.toNat < 16) :
    Numeral.value 16 [high, low] = (h * 16 + l).toNat := by
  have hbyte : (h * 16 + l).toNat = (h.toNat * 16 % 256 + l.toNat) % 256 := by
    rw [UInt8.toNat_add, UInt8.toNat_mul]
    rfl
  rw [value_pair hh hl, hbyte]
  omega

theorem decodePairs_cons_cons_eq_ok_iff {position : ℕ} {high low : UInt8} {rest : Bytes} :
    decodePairs position (high :: low :: rest) = .ok b ↔
      ∃ h l b', nibble? high = some h ∧ nibble? low = some l ∧
        decodePairs (position + 2) rest = .ok b' ∧ (h * 16 + l) :: b' = b := by
  have helim : ∀ (x : Option UInt8) (e : DecodeError) (y : UInt8),
      x.elim (Except.error e) Except.ok = Except.ok y ↔ x = some y := by
    intro x e y
    cases x <;> simp
  rw [decodePairs]
  simp only [bind_eq_ok_iff, helim]
  constructor
  · rintro ⟨h, hh, l, hl, b', hb', heq⟩
    exact ⟨h, l, b', hh, hl, hb', Except.ok.inj heq⟩
  · rintro ⟨h, l, b', hh, hl, hb', rfl⟩
    exact ⟨h, hh, l, hl, b', hb', rfl⟩

theorem toNat_lt_of_decodePairs {position : ℕ} {bs b : Bytes}
    (h : decodePairs position bs = .ok b) : ∀ x ∈ bs, x.toNat < 128 := by
  match bs with
  | [] => exact List.forall_mem_nil _
  | [_] => cases h
  | high :: low :: rest =>
    obtain ⟨_, _, _, hhigh, hlow, hrest, -⟩ := decodePairs_cons_cons_eq_ok_iff.mp h
    simp only [List.forall_mem_cons]
    exact ⟨toNat_lt_of_nibble? hhigh, toNat_lt_of_nibble? hlow, toNat_lt_of_decodePairs hrest⟩

/-- Reading takes two characters at a time, as writing does. -/
theorem decodePairs_eq_ok_iff {position : ℕ} {cs : List Char} {b : Bytes}
    (hascii : ∀ c ∈ cs, c.toNat < 128) :
    decodePairs position (cs.map Char.toUInt8) = .ok b ↔ Writes cs b := by
  match cs with
  | [] =>
    constructor
    · intro h
      cases h
      exact .nil
    · intro h
      cases h
      rfl
  | [_] => exact iff_of_false nofun nofun
  | high :: low :: cs =>
    simp only [List.forall_mem_cons] at hascii
    obtain ⟨hhigh, hlow, hascii⟩ := hascii
    rw [List.map_cons, List.map_cons, decodePairs_cons_cons_eq_ok_iff]
    constructor
    · rintro ⟨h, l, b', hh, hl, hrest, rfl⟩
      obtain ⟨hh, hhlt⟩ := (nibble?_eq_some_iff hhigh).mp hh
      obtain ⟨hl, hllt⟩ := (nibble?_eq_some_iff hlow).mp hl
      exact .cons (mem_figures_of_digit? hh hhlt) (mem_figures_of_digit? hl hllt)
        (value_eq_toNat hh hl hhlt hllt) ((decodePairs_eq_ok_iff hascii).mp hrest)
    · intro h
      cases h with
      | cons hhigh hlow hvalue hrest =>
        obtain ⟨h, hh, hhv, hhlt⟩ := exists_nibble? hhigh
        obtain ⟨l, hl, hlv, hllt⟩ := exists_nibble? hlow
        rw [value_eq_toNat hhv hlv hhlt hllt, UInt8.toNat_inj] at hvalue
        subst hvalue
        exact ⟨h, l, _, hh, hl, (decodePairs_eq_ok_iff hascii).mpr hrest, rfl⟩

/-- **Which texts are read** without `0x`. -/
theorem decode_eq_ok_iff : decode s = .ok b ↔ Writes s.toList b := by
  have hdecode : decode s =
      if (Bytes.ofText s).length % 2 = 1 then .error .oddLength
      else decodePairs 0 (Bytes.ofText s) := rfl
  constructor
  · intro h
    rw [hdecode] at h
    split at h
    case isTrue => cases h
    case isFalse =>
      -- No byte that is read belongs to a character above 127, so each is a character.
      obtain ⟨hascii, hbytes⟩ := Bytes.ascii_of_ofText (toNat_lt_of_decodePairs h)
      rw [hbytes] at h
      exact (decodePairs_eq_ok_iff hascii).mp h
  · intro h
    have hascii : ∀ c ∈ s.toList, c.toNat < 128 := fun c hc =>
      toNat_lt_of_mem_figures (h.mem_figures c hc)
    have hbytes := Bytes.ofText_ofList hascii
    rw [String.ofList_toList] at hbytes
    have heven : ¬ (Bytes.ofText s).length % 2 = 1 := by
      rw [hbytes, List.length_map, h.length_eq]
      omega
    rw [hdecode, if_neg heven, hbytes]
    exact (decodePairs_eq_ok_iff hascii).mpr h

/-- The texts of a byte string: `0x`, and two digits for every byte, in either case. The digits
write the number that the bytes write. -/
def Spells (s : String) (b : Bytes) : Prop :=
  ∃ ds, s.toList = '0' :: 'x' :: ds ∧ ds.length = 2 * b.length ∧
    (∀ c ∈ ds, c ∈ Numeral.figures 16) ∧ Numeral.value 16 ds = Bytes.toNat b

/-- **Which texts are read** behind `0x`. -/
theorem decodePrefixed_eq_ok_iff : decodePrefixed s = .ok b ↔ Spells s b := by
  have hspells : Spells s b ↔ ∃ ds, s.toList = '0' :: 'x' :: ds ∧ Writes ds b :=
    exists_congr fun ds => and_congr_right fun _ => writes_iff.symm
  rw [hspells, decodePrefixed]
  split
  case h_1 ds hs =>
    rw [mapError_eq_ok_iff, decode_eq_ok_iff, String.toList_ofList, hs]
    simp
  case h_2 hs =>
    refine iff_of_false nofun ?_
    rintro ⟨ds, heq, -⟩
    exact hs ds heq

/-! ## The written text -/

/-- Digits that write bytes are the written ones, up to their case. -/
theorem Writes.map_toLower (h : Writes cs b) : cs.map Char.toLower = b.flatMap digits := by
  induction h with
  | nil => rfl
  | cons hhigh hlow hvalue _ ih =>
    obtain ⟨h, -, hh, hhlt⟩ := exists_nibble? hhigh
    obtain ⟨l, -, hl, hllt⟩ := exists_nibble? hlow
    rw [value_pair hh hl] at hvalue
    have hdiv : (h.toNat * 16 + l.toNat) / 16 = h.toNat := by omega
    have hmod : (h.toNat * 16 + l.toNat) % 16 = l.toNat := by omega
    rw [List.map_cons, List.map_cons, ih, List.flatMap_cons, digits, ← hvalue, hdiv, hmod,
      Numeral.digitChar_of_digit? hh hhlt, Numeral.digitChar_of_digit? hl hllt]
    rfl

theorem writes_digits (b : Bytes) : Writes (b.flatMap digits) b := by
  have hdigit : ∀ d < 16, Numeral.digit? (Nat.digitChar d) = some d := fun d =>
    Numeral.digit?_digitChar
  induction b with
  | nil => exact .nil
  | cons x b ih =>
    have hx : x.toNat < 256 := x.toNat_lt
    have hhigh := hdigit (x.toNat / 16) (by omega)
    have hlow := hdigit (x.toNat % 16) (by omega)
    refine .cons (mem_figures_of_digit? hhigh (by omega)) (mem_figures_of_digit? hlow (by omega))
      ?_ ih
    rw [value_pair hhigh hlow]
    exact Nat.div_add_mod' x.toNat 16

theorem decode_encode (b : Bytes) : decode (encode b) = .ok b := by
  rw [decode_eq_ok_iff, encode, String.toList_ofList]
  exact writes_digits b

theorem encode_injective : Function.Injective encode := by
  intro b b' h
  have hread := congrArg decode h
  rw [decode_encode, decode_encode] at hread
  exact Except.ok.inj hread

theorem length_ofText_encode (b : Bytes) : (Bytes.ofText (encode b)).length = 2 * b.length := by
  have hwritten : Writes (b.flatMap digits) b := writes_digits b
  rw [encode, Bytes.ofText_ofList fun c hc => toNat_lt_of_mem_figures (hwritten.mem_figures c hc),
    List.length_map, hwritten.length_eq]

theorem toList_prefixed (b : Bytes) : (prefixed b).toList = '0' :: 'x' :: b.flatMap digits := by
  rw [prefixed, String.toList_append, encode]
  exact congrArg (['0', 'x'] ++ ·) String.toList_ofList

theorem spells_prefixed (b : Bytes) : Spells (prefixed b) b :=
  ⟨_, toList_prefixed b, writes_iff.mp (writes_digits b)⟩

theorem decodePrefixed_prefixed (b : Bytes) : decodePrefixed (prefixed b) = .ok b :=
  decodePrefixed_eq_ok_iff.mpr (spells_prefixed b)

theorem isUpper_of_mem_digits {x : UInt8} (h : c ∈ digits x) : c.isUpper = false := by
  have hx : x.toNat < 256 := x.toNat_lt
  simp only [digits, List.mem_cons, List.not_mem_nil, or_false] at h
  rcases h with rfl | rfl
  · exact Numeral.isUpper_digitChar (by omega)
  · exact Numeral.isUpper_digitChar (by omega)

/-- **The written text** of a byte string is the one without capitals. -/
theorem prefixed_eq_iff : prefixed b = s ↔ Spells s b ∧ ∀ c ∈ s.toList, c.isUpper = false := by
  constructor
  · rintro rfl
    refine ⟨spells_prefixed b, ?_⟩
    rw [toList_prefixed]
    simp only [List.forall_mem_cons]
    refine ⟨rfl, rfl, fun c hc => ?_⟩
    obtain ⟨x, -, hx⟩ := List.mem_flatMap.mp hc
    exact isUpper_of_mem_digits hx
  · rintro ⟨⟨ds, hs, hds⟩, hlower⟩
    have hwritten : ds.map Char.toLower = b.flatMap digits := (writes_iff.mpr hds).map_toLower
    have hsame : ds.map Char.toLower = ds :=
      Numeral.map_toLower_of_isUpper fun c hc => hlower c (hs ▸ by simp [hc])
    rw [← String.toList_inj, toList_prefixed, hs, ← hwritten, hsame]

end GroupSignal.Hex
