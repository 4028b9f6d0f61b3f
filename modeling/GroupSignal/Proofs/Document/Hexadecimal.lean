import GroupSignal.Proofs.Cbor.RoundTrip
import GroupSignal.Proofs.Json.RoundTrip
import GroupSignal.Proofs.Numeral.Canonical

/-!
# Which hexadecimal texts are read

A value that travels as one text is read from the texts that denote it, and in JSON from nothing but
such a text, however its characters are escaped. Encoded proofs and byte strings are read from two
digits for every byte behind `0x`, so a text of its own and a JSON text are read alike. Integers are
read from any count of digits whose number has 64 bits, with or without `0x` and a plus.

## Main definitions

* `Reader.ReadsText`: in JSON, a reader takes one text that denotes its value

## Main results

* `Groth16.EncodedProof.texts_spell_bytes`: the texts of encoded proofs and of byte strings
* `Reader.hexInteger_denotes`: the texts of integers
-/

namespace GroupSignal

variable {s t : String}

/-! ## Values that travel as one text -/

namespace Reader

variable {α β : Type} {reader : Reader α} {denotes : String → α → Prop}

/-- In JSON, the reader takes a text that denotes the value, and nothing else. -/
def ReadsText (reader : Reader α) (denotes : String → α → Prop) : Prop :=
  ∀ ⦃es a rest⦄, (∀ e ∈ es, e.InJson) →
    (reader es = .ok (a, rest) ↔ ∃ s, es = .text s :: rest ∧ denotes s a)

theorem readsText_text : ReadsText text fun s s' => s' = s := by
  intro es s rest hjson
  constructor
  · intro h
    exact ⟨s, (takesOnly_text hjson h).1, rfl⟩
  · rintro ⟨s', rfl, rfl⟩
    rfl

/-- A conversion takes no further events. -/
theorem ReadsText.bind (h : ReadsText reader denotes) {f : α → Reader β} {gives : α → β → Prop}
    (hf : ∀ a b es es', f a es = .ok (b, es') ↔ gives a b ∧ es' = es) :
    ReadsText (reader >>= f) fun s b => ∃ a, denotes s a ∧ gives a b := by
  intro es b rest hjson
  rw [run_bind_eq_ok_iff]
  constructor
  · rintro ⟨a, es', ha, hb⟩
    obtain ⟨hgives, rfl⟩ := (hf a b es' rest).mp hb
    obtain ⟨s, hes, hdenotes⟩ := (h hjson).mp ha
    exact ⟨s, hes, a, hdenotes, hgives⟩
  · rintro ⟨s, hes, a, hdenotes, hgives⟩
    exact ⟨a, rest, (h hjson).mpr ⟨s, hes, hdenotes⟩, (hf a b rest rest).mpr ⟨hgives, rfl⟩⟩

/-- **A JSON text** is read if all it holds is one text that denotes the value. -/
theorem ReadsText.runJson_eq_ok_iff (h : ReadsText reader denotes) {a : α} :
    runJson reader (Json.events t) = .ok a ↔ ∃ s, Json.tokens t = [.text s] ∧ denotes s a := by
  have hjson : ∀ e ∈ Json.events t, e.InJson := fun e he => Json.inJson_of_mem_arrange he
  rw [Reader.runJson_eq_ok_iff, h hjson]
  exact exists_congr fun s => and_congr_left' (Document.events_eq_iff (d := .text s))

end Reader

/-! ## Byte strings and encoded proofs -/

theorem Hex.exists_spells {ds : List Char} (hs : s.toList = '0' :: 'x' :: ds) {size : ℕ}
    (hlength : ds.length = 2 * size) (hdigits : ∀ c ∈ ds, c ∈ Numeral.figures 16) :
    ∃ b : Bytes, b.length = size ∧ Spells s b := by
  have hsize : (Bytes.ofNat size (Numeral.value 16 ds)).length = size := Bytes.length_ofNat ..
  have hvalue : Numeral.value 16 ds < 256 ^ size := by
    have hlt := Numeral.value_lt fun c hc => isDigit_iff_mem.mpr (hdigits c hc)
    rwa [hlength, pow_mul] at hlt
  refine ⟨_, hsize, ds, hs, ?_, hdigits, ?_⟩
  · rw [hsize, hlength]
  · rw [Bytes.toNat_ofNat, Nat.mod_eq_of_lt hvalue]

theorem Reader.readsText_hexBytes : ReadsText (hexBytes .json) Hex.Spells := by
  have h : ReadsText (hexBytes .json) fun s b => ∃ s', s' = s ∧ Hex.Spells s' b :=
    readsText_text.bind fun s b es es' => by
      rw [ofExcept_eq_ok_iff, Hex.decodePrefixed_eq_ok_iff]
  simpa using h

namespace Groth16.EncodedProof

variable {e : ProofEncoding} {w : EncodedProof e}

/-- **Which texts are read** as an encoded proof. -/
theorem ofText_eq_ok_iff : ofText e s = .ok w ↔ Hex.Spells s w.toBytes := by
  rw [← Hex.decodePrefixed_eq_ok_iff, ofText]
  split
  case h_1 b hb =>
    rw [hb, ofBytes_eq_ok_iff, Except.ok.injEq]
    exact eq_comm
  case h_2 hmissing => exact iff_of_false nofun fun h => by simp [hmissing] at h
  case h_3 cause hdigits => exact iff_of_false nofun fun h => by simp [hdigits] at h

theorem readsText_read :
    Reader.ReadsText (read e .json) fun s (w : EncodedProof e) => ofText e s = .ok w := by
  have h : Reader.ReadsText (read e .json) fun s w => ∃ b, Hex.Spells s b ∧ w.toBytes = b :=
    Reader.readsText_hexBytes.bind fun b w es es' => by
      rw [Reader.ofExcept_eq_ok_iff, ofBytes_eq_ok_iff]
  simpa only [ofText_eq_ok_iff, exists_eq_right'] using h

end Groth16.EncodedProof

/-- **Encoded proofs and byte strings are spelled by their texts.** A text is read as an encoded
proof just if it is `0x` and two digits for every one of its 256 or 128 bytes, in either case, and
all such texts are read. The written text is the one without capitals. In JSON just these texts are
read, with the same result, and the same text is written. Byte strings of every length are read and
written by these rules. -/
theorem Groth16.EncodedProof.texts_spell_bytes :
    (ProofEncoding.packed.size = 256 ∧ ProofEncoding.compressed.size = 128) ∧
    (∀ e s, ∀ w : EncodedProof e, ofText e s = .ok w ↔
      w.toBytes.length = e.size ∧ Hex.Spells s w.toBytes) ∧
    (∀ e s, (∃ w, ofText e s = .ok w) ↔ ∃ ds, s.toList = '0' :: 'x' :: ds ∧
      ds.length = 2 * e.size ∧ ∀ c ∈ ds, c ∈ Numeral.figures 16) ∧
    (∀ e, ∀ w : EncodedProof e, ofText e w.toText = .ok w ∧
      ∀ s, w.toText = s ↔ Hex.Spells s w.toBytes ∧ ∀ c ∈ s.toList, c.isUpper = false) ∧
    (∀ e t, ∀ w : EncodedProof e, Reader.runJson (read e .json) (Json.events t) = .ok w ↔
      ∃ s, Json.tokens t = [.text s] ∧ ofText e s = .ok w) ∧
    (∀ t b, Reader.runJson (Reader.hexBytes .json) (Json.events t) = .ok b ↔
      ∃ s, Json.tokens t = [.text s] ∧ Hex.Spells s b) ∧
    (∀ s, Json.tokens (Json.compact (.text s)) = [.text s]) ∧
    (∀ e, ∀ w : EncodedProof e, Json.compact w.document = Json.compact (.text w.toText)) ∧
    ∀ b, Json.compact (.bytes b) = Json.compact (.text (Hex.prefixed b)) ∧
      ∀ s, Hex.prefixed b = s ↔ Hex.Spells s b ∧ ∀ c ∈ s.toList, c.isUpper = false := by
  refine ⟨⟨rfl, rfl⟩, ?_, ?_, ?_, ?_, ?_, fun s => Document.tokens_compact _, fun e w => rfl,
    fun b => ⟨rfl, fun s => Hex.prefixed_eq_iff⟩⟩
  · intro e s w
    rw [ofText_eq_ok_iff, and_iff_right w.length_toBytes]
  · intro e s
    constructor
    · rintro ⟨w, hw⟩
      obtain ⟨ds, hs, hlength, hdigits, -⟩ := ofText_eq_ok_iff.mp hw
      exact ⟨ds, hs, w.length_toBytes ▸ hlength, hdigits⟩
    · rintro ⟨ds, hs, hlength, hdigits⟩
      obtain ⟨b, hb, hspells⟩ := Hex.exists_spells hs hlength hdigits
      obtain ⟨w, hw⟩ := exists_ofBytes hb
      obtain rfl := ofBytes_eq_ok_iff.mp hw
      exact ⟨w, ofText_eq_ok_iff.mpr hspells⟩
  · intro e w
    exact ⟨ofText_eq_ok_iff.mpr (Hex.spells_prefixed _), fun s => Hex.prefixed_eq_iff⟩
  · exact fun e t w => readsText_read.runJson_eq_ok_iff
  · exact fun t b => Reader.readsText_hexBytes.runJson_eq_ok_iff

/-! ## Integers -/

/-- **The written numeral** of a number is the shortest, without capitals. -/
theorem Numeral.hex_eq_iff {k : ℕ} : hex k = s ↔ ∃ ds, s.toList = '0' :: 'x' :: ds ∧
    Canonical 16 ds ∧ (∀ c ∈ ds, c.isUpper = false) ∧ value 16 ds = k := by
  constructor
  · rintro rfl
    refine ⟨Nat.toDigits 16 k, String.toList_ofList, canonical_toDigits (.inr rfl) k, ?_,
      value_toDigits (by decide) (by decide) k⟩
    intro c hc
    obtain ⟨d, hd, rfl⟩ := exists_of_mem_toDigits (by decide) hc
    exact isUpper_digitChar hd
  · rintro ⟨ds, hs, hcanonical, hlower, rfl⟩
    rw [hex, hcanonical.toDigits_value (.inr rfl), map_toLower_of_isUpper hlower, ← hs,
      String.ofList_toList]

namespace Reader

variable {n : UInt64} {es rest : List Event}

/-- What is read from a text, whatever stands behind it. -/
theorem hexInteger_text_eq_ok_iff :
    hexInteger (.text s :: es) = .ok (n, rest) ↔ Numeral.Denotes s n.toNat ∧ rest = es := by
  show (ofExcept ReadError.invalidHexInteger
    (Numeral.readBounded 16 UInt64.size (Numeral.dropPrefix s.toList)) >>= fun k =>
      pure (UInt64.ofNat k)) es = _ ↔ _
  simp only [run_bind_eq_ok_iff, ofExcept_eq_ok_iff, Numeral.readBounded_dropPrefix_eq_ok_iff]
  constructor
  · rintro ⟨k, es', ⟨⟨hdenotes, hlt⟩, rfl⟩, hk⟩
    cases hk
    -- The number fits, so the word keeps all of it.
    rw [UInt64.toNat_ofNat_of_lt' hlt]
    exact ⟨hdenotes, rfl⟩
  · rintro ⟨hdenotes, rfl⟩
    refine ⟨n.toNat, _, ⟨⟨hdenotes, n.toNat_lt⟩, rfl⟩, ?_⟩
    rw [UInt64.ofNat_toNat]
    rfl

theorem readsText_hexInteger : ReadsText hexInteger fun s n => Numeral.Denotes s n.toNat := by
  intro es n rest hjson
  constructor
  · intro h
    -- In JSON nothing stands in front of a text, so this is the case of a text in front.
    obtain ⟨s, es', rfl, -⟩ := takesOnly_text.exists_of_bind hjson h
    obtain ⟨hdenotes, rfl⟩ := hexInteger_text_eq_ok_iff.mp h
    exact ⟨s, rfl, hdenotes⟩
  · rintro ⟨s, rfl, hdenotes⟩
    exact hexInteger_text_eq_ok_iff.mpr ⟨hdenotes, rfl⟩

/-- **Integers are denoted by their texts.** An integer of 64 bits is written as its shortest
hexadecimal numeral behind `0x`, without capitals, and is read back in either form. A text is read
just if it denotes a number below `2 ^ 64`, however many zeros stand in front, and the number is the
one that is read. In JSON just such texts are read. -/
theorem hexInteger_denotes :
    (∀ n : UInt64, ∀ s, Document.hexInteger n = .text s ↔ ∃ ds, s.toList = '0' :: 'x' :: ds ∧
      Numeral.Canonical 16 ds ∧ (∀ c ∈ ds, c.isUpper = false) ∧ Numeral.value 16 ds = n.toNat) ∧
    (∀ n, runJson hexInteger (Json.events (Json.compact (.hexInteger n))) = .ok n ∧
      runCbor hexInteger (Cbor.events (Cbor.encode (.hexInteger n))) = .ok n) ∧
    (∀ s es, (∃ r, hexInteger (.text s :: es) = .ok r) ↔ ∃ k < 2 ^ 64, Numeral.Denotes s k) ∧
    (∀ s es n rest, hexInteger (.text s :: es) = .ok (n, rest) ↔
      Numeral.Denotes s n.toNat ∧ rest = es) ∧
    ∀ t n, runJson hexInteger (Json.events t) = .ok n ↔
      ∃ s, Json.tokens t = [.text s] ∧ Numeral.Denotes s n.toNat := by
  refine ⟨?_, ?_, ?_, ?_, ?_⟩
  · intro n s
    rw [Document.hexInteger, Document.text.injEq, Numeral.hex_eq_iff]
  · intro n
    have hshort : (Document.hexInteger n).Short := Document.short_hex (n.toNat_lt.trans (by decide))
    have hcbor : Cbor.ReadBack (fun _ => Document.hexInteger) (fun _ => hexInteger) n :=
      Cbor.readBack_of_takes hshort (takes_hexInteger n)
    exact ⟨(takes_hexInteger n).readBack, hcbor.1⟩
  · intro s es
    constructor
    · rintro ⟨⟨n, rest⟩, h⟩
      exact ⟨n.toNat, n.toNat_lt, (hexInteger_text_eq_ok_iff.mp h).1⟩
    · rintro ⟨k, hlt, hdenotes⟩
      refine ⟨(UInt64.ofNat k, es), hexInteger_text_eq_ok_iff.mpr ⟨?_, rfl⟩⟩
      rwa [UInt64.toNat_ofNat_of_lt' hlt]
  · exact fun s es n rest => hexInteger_text_eq_ok_iff
  · exact fun t n => readsText_hexInteger.runJson_eq_ok_iff

end Reader

end GroupSignal
