import GroupSignal.Document.Record
import GroupSignal.Groth16.Encoding
import GroupSignal.InputError
import GroupSignal.Json.Event
import GroupSignal.Json.Writer
import GroupSignal.Merkle.Proof
import GroupSignal.Signal.Proof

/-!
# Values in documents

A scalar is its text in JSON and its 32 bytes in CBOR. A step of a Merkle proof is a record of one
member, which names its side, and a Merkle proof is a record of its leaf index, as a hexadecimal
text, and its path. A proof is the texts of its coordinates, grouped by point and, in the second
group, by coordinate; this is so in both forms. An encoded proof is a byte string, and a signal a
record of its public values and its proof.

## Main definitions

* `Scalar.document`, `Scalar.read`: scalars
* `Branch.document`, `Branch.read`, `MerkleProof.document`, `MerkleProof.read`: Merkle proofs
* `Groth16.Proof.document`, `Groth16.Proof.read`: proofs
* `Groth16.Proof.toText`, `Groth16.Proof.ofText`: a proof as a text of its own
* `Groth16.EncodedProof.document`, `Groth16.EncodedProof.read`: encoded proofs
* `SignalProof.document`, `SignalProof.read`: signals
-/

namespace GroupSignal

namespace Scalar

/-- The document of a scalar. -/
def document : Format → Scalar → Document
  | .json, x => .text (toText x)
  | .cbor, x => .bytes (toBytes x)

/-- Reads a scalar. -/
def read : Format → Reader Scalar
  | .json => do Reader.ofExcept ReadError.value (ofText (← Reader.text))
  | .cbor => do
    let b ← Reader.byteString
    if b.length ≠ 32 then Reader.fail .wrongByteCount
    Reader.ofExcept ReadError.value (ofBytes b)

end Scalar

/-! ## Merkle proofs -/

namespace Branch

/-- The document of a step. -/
def document (fmt : Format) : Branch → Document
  | left s => .record [("Left", Scalar.document fmt s)]
  | right s => .record [("Right", Scalar.document fmt s)]

/-- The reader of the sibling behind the name of a side. -/
def side? (fmt : Format) (name : String) : Option (Reader Branch) :=
  if name = "Left" then some (left <$> Scalar.read fmt)
  else if name = "Right" then some (right <$> Scalar.read fmt)
  else none

/-- Reads a step. -/
def read (fmt : Format) : Reader Branch := Reader.variant fmt (side? fmt)

end Branch

namespace MerkleProof

/-- The document of a proof. -/
def document (fmt : Format) (proof : MerkleProof) : Document :=
  .record [
    ("leaf_index", .hexInteger proof.leafIndex),
    ("path", .seq (proof.path.map (Branch.document fmt)))]

/-- The members of a proof. -/
def members (fmt : Format) : Members [UInt64, List Branch] :=
  .required "leaf_index" Reader.hexInteger
    (.required "path" (Reader.list (Branch.read fmt)) .nil)

/-- Reads a proof. -/
def read (fmt : Format) : Reader MerkleProof := do
  let (leafIndex, path, ()) ← (members fmt).read fmt
  return { leafIndex, path }

end MerkleProof

/-! ## Proofs -/

namespace Groth16

namespace Proof

/-- The document of two texts. -/
def pairDocument (p : String × String) : Document := .seq [.text p.1, .text p.2]

/-- The document of the texts of coordinates. -/
def textsDocument (v : Vector String 8) : Document :=
  let (a, (bx, by'), c) := byPoint v
  .seq [pairDocument a, .seq [pairDocument bx, pairDocument by'], pairDocument c]

/-- Reads two texts. -/
def readPair (fmt : Format) : Reader (String × String) :=
  Reader.tuple fmt 2 do return (← Reader.text, ← Reader.text)

/-- Reads the texts of coordinates. -/
def readTexts (fmt : Format) : Reader (Vector String 8) :=
  Reader.tuple fmt 3 do
    let (ax, ay) ← readPair fmt
    let ((bx1, bx0), (by1, by0)) ← Reader.tuple fmt 2 do return (← readPair fmt, ← readPair fmt)
    let (cx, cy) ← readPair fmt
    return #v[ax, ay, bx1, bx0, by1, by0, cx, cy]

/-- The document of a proof. -/
def document (proof : Proof) : Document := textsDocument proof.texts

/-- Reads a proof. -/
def read (fmt : Format) : Reader Proof := do
  Reader.ofExcept ReadError.value (ofTexts (← readTexts fmt))

/-- The text of a proof. -/
def toText (proof : Proof) : String := Json.compact proof.document

/-- Reads a proof from its text. The text is taken apart to its end before a coordinate is looked
at. -/
def ofText (s : String) : Except InputError Proof :=
  match Reader.runJson (readTexts .json) (Json.events s) with
  | .error _ => .error .malformedProof
  | .ok v => (ofTexts v).mapError .value

end Proof

namespace EncodedProof

variable {e : ProofEncoding}

/-- The document of an encoded proof. -/
def document (proof : EncodedProof e) : Document := .bytes proof.toBytes

/-- Reads an encoded proof. -/
def read (e : ProofEncoding) (fmt : Format) : Reader (EncodedProof e) := do
  Reader.ofExcept ReadError.value (ofBytes e (← Reader.hexBytes fmt))

end EncodedProof

end Groth16

/-! ## Signals -/

namespace SignalProof

/-- The document of a signal. -/
def document (fmt : Format) (signal : SignalProof) : Document :=
  .record [
    ("root", Scalar.document fmt signal.values.root),
    ("nullifier_hash", Scalar.document fmt signal.values.nullifierHash),
    ("signal_hash", Scalar.document fmt signal.values.signalHash),
    ("external_nullifier", Scalar.document fmt signal.values.externalNullifier),
    ("proof", signal.proof.document)]

/-- The members of a signal. -/
def members (fmt : Format) : Members [Scalar, Scalar, Scalar, Scalar, Groth16.Proof] :=
  .required "root" (Scalar.read fmt)
    (.required "nullifier_hash" (Scalar.read fmt)
      (.required "signal_hash" (Scalar.read fmt)
        (.required "external_nullifier" (Scalar.read fmt)
          (.required "proof" (Groth16.Proof.read fmt) .nil))))

/-- Reads a signal. -/
def read (fmt : Format) : Reader SignalProof := do
  let (root, nullifierHash, signalHash, externalNullifier, proof, ()) ← (members fmt).read fmt
  return { values := { root, nullifierHash, signalHash, externalNullifier }, proof }

end SignalProof

end GroupSignal
