import GroupSignal.Document.Values
import GroupSignal.Merkle.Tree
import GroupSignal.Proofs.Bytes
import GroupSignal.Proofs.Numeral.Digits

/-!
# Texts without the null character

Memory that holds a text ends it at a null byte, so a text that contains the null character cannot
be handed out in memory. The texts of the library contain none: numerals are digits, JSON escapes
every control character, and a message quotes what it was given.

## Main definitions

* `Text.NullFree`: a text does not contain the null character

## Main results

* `Bytes.zero_mem_ofText_iff`: the null character is the only one with a null byte
* `Json.nullFree_compact`: written JSON
* `Text.nullFree_quote`: quoted texts
* `ValueError.nullFree_message`, `TreeError.nullFree_message`: messages
-/

namespace GroupSignal

/-- A text does not contain the null character. -/
def Text.NullFree (s : String) : Prop := '\x00' ∉ s.toList

namespace Text

variable {s t : String}

instance : Decidable (NullFree s) := inferInstanceAs (Decidable ('\x00' ∉ s.toList))

theorem contains_null_eq_false_iff : s.contains '\x00' = false ↔ NullFree s := by
  rw [String.contains_char_eq, decide_eq_false_iff_not]
  rfl

theorem NullFree.append (hs : NullFree s) (ht : NullFree t) : NullFree (s ++ t) := by
  unfold NullFree
  rw [String.toList_append, List.mem_append, not_or]
  exact ⟨hs, ht⟩

theorem nullFree_ofList {cs : List Char} : NullFree (String.ofList cs) ↔ '\x00' ∉ cs := by
  unfold NullFree
  rw [String.toList_ofList]

/-! ## Numerals and quotes -/

/-- No digit is the null character. -/
theorem null_notMem_toDigits {radix : ℕ} (hradix : radix = 10 ∨ radix = 16) (n : ℕ) :
    '\x00' ∉ Nat.toDigits radix n := by
  intro hmem
  have hdigit : Numeral.isDigit radix '\x00' = true := by
    rcases hradix with rfl | rfl <;>
      exact Numeral.isDigit_of_mem_toDigits (by decide) (by decide) hmem
  obtain ⟨d, hd, -⟩ := Numeral.isDigit_eq_true_iff.mp hdigit
  cases hd

theorem nullFree_toString (n : ℕ) : NullFree (toString n) := by
  have hdigits : (toString n).toList = Nat.toDigits 10 n := String.toList_ofList
  rw [NullFree, hdigits]
  exact null_notMem_toDigits (.inl rfl) n

theorem nullFree_hex (n : ℕ) : NullFree (Numeral.hex n) := by
  have hdigits := null_notMem_toDigits (.inr rfl) n
  rw [Numeral.hex, nullFree_ofList]
  simpa using hdigits

/-- What stands for a character between quotes is not the null character. -/
theorem null_notMem_escape {mark c : Char} (hmark : mark ≠ '\x00') : '\x00' ∉ escape mark c := by
  unfold escape
  split
  case h_6 hnull _ _ _ _ =>
    split
    · simpa using hmark.symm
    · split
      · simpa using Ne.symm hnull
      · have hdigits := null_notMem_toDigits (.inr rfl) c.toNat
        simpa using hdigits
  all_goals decide

theorem nullFree_quote (s : String) : NullFree (quote s) := by
  rw [quote, nullFree_ofList]
  simp only [List.mem_append, List.mem_cons, List.mem_flatMap, List.not_mem_nil, or_false, not_or,
    not_exists, not_and]
  exact ⟨⟨by decide, fun c _ => null_notMem_escape (by decide)⟩, by decide⟩

theorem nullFree_quoteChar (c : Char) : NullFree (quoteChar c) := by
  have hescape : '\x00' ∉ escape '\'' c := null_notMem_escape (by decide)
  rw [quoteChar, nullFree_ofList]
  simpa using hescape

end Text

open Text

/-! ## Bytes -/

namespace Bytes

/-- A byte with a mark in it is not null. -/
theorem zero_ne_ofNat_add {n mark : ℕ} (hmark : 0 < mark) (hlt : n + mark < 256) :
    (0 : UInt8) ≠ UInt8.ofNat (n + mark) := by
  intro heq
  have hnat := congrArg UInt8.toNat heq
  rw [UInt8.toNat_ofNat', Nat.mod_eq_of_lt hlt, UInt8.toNat_zero] at hnat
  omega

theorem zero_mem_utf8EncodeChar_iff {c : Char} : 0 ∈ String.utf8EncodeChar c ↔ c = '\x00' := by
  have hnull : c = '\x00' ↔ c.val.toNat = 0 := by
    rw [Char.ext_iff, ← UInt32.toNat_inj]
    rfl
  unfold String.utf8EncodeChar
  dsimp only
  rw [hnull]
  split
  case isTrue hle =>
    rw [List.mem_singleton, ← UInt8.toNat_inj, UInt8.toNat_ofNat', Nat.mod_eq_of_lt (by omega)]
    exact eq_comm
  case isFalse hgt =>
    -- In an encoding of several bytes each of them has a mark.
    refine iff_of_false (fun hmem => ?_) (by omega)
    split at hmem
    · simp only [List.mem_cons, List.not_mem_nil, or_false] at hmem
      rcases hmem with h | h <;> exact zero_ne_ofNat_add (by decide) (by omega) h
    split at hmem
    · simp only [List.mem_cons, List.not_mem_nil, or_false] at hmem
      rcases hmem with h | h | h <;> exact zero_ne_ofNat_add (by decide) (by omega) h
    · simp only [List.mem_cons, List.not_mem_nil, or_false] at hmem
      rcases hmem with h | h | h | h <;> exact zero_ne_ofNat_add (by decide) (by omega) h

/-- **The null byte** stands for the null character, and is part of no other one. -/
theorem zero_mem_ofText_iff {s : String} : 0 ∈ ofText s ↔ ¬NullFree s := by
  rw [ofText_eq, List.mem_flatMap, NullFree, not_not]
  constructor
  · rintro ⟨c, hc, hzero⟩
    rwa [← zero_mem_utf8EncodeChar_iff.mp hzero]
  · intro hmem
    exact ⟨_, hmem, zero_mem_utf8EncodeChar_iff.mpr rfl⟩

theorem ofText_of_toText? {b : Bytes} {s : String} (h : toText? b = some s) : ofText s = b := by
  rw [toText?, String.fromUTF8?] at h
  split at h
  · cases h
    rw [ofText, toList_eq, String.toUTF8_eq_toByteArray]
    rfl
  · cases h

theorem nullFree_of_toText? {b : Bytes} {s : String} (h : toText? b = some s) (hb : 0 ∉ b) :
    NullFree s := by
  rw [← ofText_of_toText? h, zero_mem_ofText_iff, not_not] at hb
  exact hb

end Bytes

/-! ## Written JSON -/

namespace Json

/-- No character is written with the null character: the null character itself is a control
character, and is escaped. -/
theorem null_notMem_escape (c : Char) : '\x00' ∉ escape c := by
  unfold escape
  split
  case h_8 =>
    split
    case isTrue hcontrol =>
      have hdigits : ∀ d < 16, '\x00' ≠ Nat.digitChar d := by decide
      have hbyte := (UInt8.ofNat c.toNat).toNat_lt
      simp only [Hex.digits, List.mem_append, List.mem_cons, List.not_mem_nil, or_false, not_or]
      exact ⟨by decide, hdigits _ (by omega), hdigits _ (by omega)⟩
    case isFalse hvisible =>
      rw [List.mem_singleton]
      rintro rfl
      exact hvisible (by decide)
  all_goals decide

theorem null_notMem_quoted (s : String) : '\x00' ∉ quoted s := by
  unfold quoted
  simp only [List.mem_append, List.mem_cons, List.mem_flatMap, List.not_mem_nil, or_false, not_or,
    not_exists, not_and]
  exact ⟨by decide, fun c _ => null_notMem_escape c, by decide⟩

mutual

theorem null_notMem_compactChars : (d : Document) → '\x00' ∉ compactChars d
  | .text s => null_notMem_quoted s
  | .bytes b => null_notMem_quoted (Hex.prefixed b)
  | .natural n => null_notMem_toDigits (.inl rfl) n.toNat
  | .seq items => by
    have hitems := null_notMem_compactItems items
    rw [compactChars]
    simpa using hitems
  | .record members => by
    have hmembers := null_notMem_compactMembers members
    rw [compactChars]
    simpa using hmembers

theorem null_notMem_compactItems : (items : List Document) → '\x00' ∉ compactItems items
  | [] => List.not_mem_nil
  | [d] => null_notMem_compactChars d
  | d :: e :: rest => by
    have hfirst := null_notMem_compactChars d
    have hrest := null_notMem_compactItems (e :: rest)
    rw [compactItems]
    · simpa using ⟨hfirst, hrest⟩
    · exact nofun

theorem null_notMem_compactMembers :
    (members : List (String × Document)) → '\x00' ∉ compactMembers members
  | [] => List.not_mem_nil
  | [(name, d)] => by
    have hname := null_notMem_quoted name
    have hvalue := null_notMem_compactChars d
    rw [compactMembers]
    simpa using ⟨hname, hvalue⟩
  | (name, d) :: e :: rest => by
    have hname := null_notMem_quoted name
    have hvalue := null_notMem_compactChars d
    have hrest := null_notMem_compactMembers (e :: rest)
    rw [compactMembers]
    · simpa using ⟨hname, hvalue, hrest⟩
    · exact nofun

end

/-- **Written JSON** has no null character, whatever texts the document holds. -/
theorem nullFree_compact (d : Document) : NullFree (compact d) :=
  nullFree_ofList.mpr (null_notMem_compactChars d)

end Json

/-! ## Values -/

theorem Scalar.nullFree_toText (x : Scalar) : NullFree (Scalar.toText x) := nullFree_hex x.val

theorem Groth16.Proof.nullFree_toText (proof : Groth16.Proof) : NullFree proof.toText :=
  Json.nullFree_compact proof.document

/-! ## Messages -/

theorem CurveGroup.nullFree_name (group : CurveGroup) : NullFree group.name := by
  cases group <;> decide

theorem PointError.nullFree_message (e : PointError) : NullFree e.message := by
  cases e with
  | coordinateTooLarge => decide
  | offCurve group => exact group.nullFree_name.append (by decide)
  | outsideSubgroup group => exact group.nullFree_name.append (by decide)
  | offCurveCompressed group => exact .append (.append (by decide) group.nullFree_name) (by decide)
  | incompressible => decide

theorem Hex.DecodeError.nullFree_message (e : Hex.DecodeError) : NullFree e.message := by
  cases e with
  | oddLength => decide
  | invalidCharacter byte position =>
    exact .append (.append (.append (by decide) (nullFree_quoteChar _)) (by decide))
      (nullFree_toString position)

theorem ProofEncoding.nullFree_name (encoding : ProofEncoding) : NullFree encoding.name := by
  cases encoding <;> decide

/-- **What is refused as a value** is quoted in the message, or not shown. -/
theorem ValueError.nullFree_message (e : ValueError) : NullFree e.message := by
  cases e with
  | noDigits text => exact .append (by decide) (nullFree_quote text)
  | invalidDigits radix text =>
    exact .append (.append (.append (by decide) (nullFree_toString radix)) (by decide))
      (nullFree_quote text)
  | nonCanonical text => exact .append (by decide) (nullFree_quote text)
  | notInField => decide
  | divisionByZero => decide
  | point cause => exact .append (by decide) cause.nullFree_message
  | missingHexPrefix => decide
  | invalidHex cause => exact .append (by decide) cause.nullFree_message
  | wrongLength encoding actual =>
    exact .append (.append (.append (.append (.append (by decide) encoding.nullFree_name)
      (by decide)) (nullFree_toString encoding.size)) (by decide)) (nullFree_toString actual)
  | treeDepth depth => exact .append (by decide) (nullFree_toString depth)

theorem TreeError.nullFree_message (e : TreeError) : NullFree e.message := by
  cases e with
  | unsupportedDepth depth =>
    exact .append (.append (.append (.append (.append (by decide) (nullFree_toString depth))
      (by decide)) (nullFree_toString minDepth)) (by decide)) (nullFree_toString maxDepth)
  | full capacity => exact .append (.append (by decide) (nullFree_toString capacity)) (by decide)
  | leafNotInserted index size =>
    exact .append (.append (.append (.append (by decide) (nullFree_toString index)) (by decide))
      (nullFree_toString size)) (by decide)

end GroupSignal
