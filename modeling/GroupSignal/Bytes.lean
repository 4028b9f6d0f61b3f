/-!
# Byte strings

Byte strings as lists, their value as numbers written most significant byte first, and their reading
as UTF-8 text.

## Main definitions

* `Bytes.toNat`, `Bytes.ofNat`: a byte string as a number, and a number on a fixed count of bytes
* `Bytes.ofText`, `Bytes.toText?`: UTF-8
-/

namespace GroupSignal

/-- A byte string. -/
abbrev Bytes := List UInt8

namespace Bytes

/-- The number that a byte string writes, most significant byte first. -/
def toNat (b : Bytes) : Nat := b.foldl (fun n x => n * 256 + x.toNat) 0

/-- The low `size` bytes of a number, most significant byte first. -/
def ofNat : (size : Nat) → Nat → Bytes
  | 0, _ => []
  | size + 1, n => ofNat size (n / 256) ++ [UInt8.ofNat n]

/-- The UTF-8 encoding of a text. -/
def ofText (s : String) : Bytes := s.toUTF8.toList

/-- The text that a byte string encodes in UTF-8, if it encodes one. -/
def toText? (b : Bytes) : Option String := String.fromUTF8? ⟨b.toArray⟩

@[simp] theorem length_ofNat (size n : Nat) : (ofNat size n).length = size := by
  induction size generalizing n with
  | zero => rfl
  | succ size ih => simp [ofNat, ih]

end Bytes

end GroupSignal
