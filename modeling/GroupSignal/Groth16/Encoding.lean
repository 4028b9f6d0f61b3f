import GroupSignal.Groth16.Proof
import GroupSignal.ValueError

/-!
# Proofs as words

The two encodings of a proof are 8 and 4 words of 256 bits. Their bytes are those of the words, most
significant first, and their text is the hexadecimal form of the bytes behind `0x`. Any words are an
encoded proof; whether they stand for points is seen when they are decoded. The packed form of a
proof is its eight coordinates, one to a word.

## Main definitions

* `EncodedProof e`: the words of an encoding
* `EncodedProof.toBytes`, `EncodedProof.ofBytes`: the bytes
* `EncodedProof.toText`, `EncodedProof.ofText`: the text
* `Proof.pack`, `EncodedProof.unpack`: the packed form
-/

namespace GroupSignal

namespace Groth16

/-- A word of 256 bits. -/
abbrev Word := BitVec 256

/-- A proof in an encoding. -/
structure EncodedProof (e : ProofEncoding) where
  words : Vector Word e.words
  deriving DecidableEq

namespace EncodedProof

variable {e : ProofEncoding}

/-- The bytes of the words. -/
def toBytes (proof : EncodedProof e) : Bytes :=
  proof.words.toList.flatMap fun w => Bytes.ofNat 32 w.toNat

/-- The encoded proof of a byte string of the right length. -/
def ofBytes (e : ProofEncoding) (b : Bytes) : Except ValueError (EncodedProof e) :=
  if b.length = e.size then
    .ok ⟨Vector.ofFn fun i => BitVec.ofNat 256 (Bytes.toNat ((b.drop (32 * i)).take 32))⟩
  else .error (.wrongLength e b.length)

/-- The text of an encoded proof. -/
def toText (proof : EncodedProof e) : String := Hex.prefixed proof.toBytes

/-- Reads an encoded proof from its text. -/
def ofText (e : ProofEncoding) (s : String) : Except ValueError (EncodedProof e) :=
  match Hex.decodePrefixed s with
  | .ok b => ofBytes e b
  | .error .missingPrefix => .error .missingHexPrefix
  | .error (.digits cause) => .error (.invalidHex cause)

end EncodedProof

end Groth16

/-! ## Packed proofs -/

/-- The word of a coordinate. -/
def Coordinate.toWord (x : Coordinate) : Groth16.Word := BitVec.ofNat 256 x.val

/-- The coordinate of a word, which must be below the modulus. -/
def Coordinate.ofWord (w : Groth16.Word) : Except ValueError Coordinate := Coordinate.ofNat w.toNat

namespace Groth16

/-- The packed form of a proof. -/
def Proof.pack (proof : Proof) : EncodedProof .packed :=
  ⟨proof.coordinates.map Coordinate.toWord⟩

/-- The proof of a packed form. -/
def EncodedProof.unpack (packed : EncodedProof .packed) : Except ValueError Proof :=
  Proof.ofCoordinates Coordinate.ofWord packed.words

end Groth16

end GroupSignal
