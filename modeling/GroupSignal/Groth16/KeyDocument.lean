import GroupSignal.Groth16.VerifyingKey
import GroupSignal.Document.Record
import GroupSignal.Json.Event
import GroupSignal.Json.Writer

/-!
# Verifying keys in documents

A key is a JSON record of its points. A point is three coordinates, the last of which divides the
others and is zero at infinity; written points have one there. Coordinates are plain decimal
numerals. Beside the points stand the name of the proof system, the number of public values and the
pairing of the first two points, which must be there but say nothing new. Members are written in the
order of their names and read in any order.

The written form has no point at infinity: what is written for it is read as a point that is not on
the curve.

## Main definitions

* `VerifyingKey.document`, `VerifyingKey.read`: keys
* `CircuitKey.ofText`, `CircuitKey.load`: the key of the circuit from a text and from a file
-/

namespace GroupSignal.Groth16

/-! ## Coordinates and points -/

/-- The decimal text of a coordinate. -/
def decimalText (x : Coordinate) : Document := .text (String.ofList (Nat.toDigits 10 x.val))

/-- Reads a coordinate from a plain decimal numeral. -/
def readDecimal : Reader Coordinate := do
  let s ← Reader.text
  match Numeral.readDecimal? s >>= Residue.ofNat? baseModulus with
  | some x => return x
  | none => Reader.fail .malformed

/-- The document of an element of the quadratic extension. -/
def quadraticDocument (x : Quadratic) : Document := .seq [decimalText x.re, decimalText x.im]

/-- Reads an element of the quadratic extension. -/
def readQuadratic : Reader Quadratic := Reader.tuple .json 2 do
  return ⟨← readDecimal, ← readDecimal⟩

/-- The document of a point of the first group. -/
def pointDocument1 (p : G1.Point) : Document :=
  let (x, y) := p.coordinates
  .seq [decimalText x, decimalText y, decimalText 1]

/-- The document of a point of the second group. -/
def pointDocument2 (p : G2.Point) : Document :=
  let (x, y) := p.coordinates
  .seq [quadraticDocument x, quadraticDocument y, quadraticDocument 1]

/-- Reads a point of a curve, whose coordinates are read by `coordinate`. -/
def readPoint {F : Type} [CoordinateField F] [DecidableEq F] (C : Curve F)
    (coordinate : Reader F) : Reader (Point F) := do
  let p ← Reader.tuple .json 3 do
    return (⟨← coordinate, ← coordinate, ← coordinate⟩ : Jacobian F).toPoint
  if C.contains p && C.hasOrder p then return p else Reader.fail .malformed

/-- Reads a point of the first group. -/
def readPoint1 : Reader G1.Point := readPoint G1.curve readDecimal

/-- Reads a point of the second group. -/
def readPoint2 : Reader G2.Point := readPoint G2.curve readQuadratic

/-! ## Values of the pairing -/

/-- The document of a pairing value. -/
def pairingDocument (f : Dodecic) : Document :=
  let sextic (s : Sextic) : Document :=
    .seq [quadraticDocument s.c0, quadraticDocument s.c1, quadraticDocument s.c2]
  .seq [sextic f.c0, sextic f.c1]

/-- Reads an element of the extension of degree six. -/
def readSextic : Reader Sextic := Reader.tuple .json 3 do
  return ⟨← readQuadratic, ← readQuadratic, ← readQuadratic⟩

/-- Reads a pairing value. -/
def readPairing : Reader Dodecic := Reader.tuple .json 2 do
  return ⟨← readSextic, ← readSextic⟩

/-! ## Keys -/

namespace VerifyingKey

/-- The document of a key. It is written as a map, whose members stand in the order of their
names. -/
def document (key : VerifyingKey) : Document :=
  .record [
    ("IC", .seq (key.bases.map pointDocument1)),
    ("curve", .text "bn128"),
    ("nPublic", .natural (UInt64.ofNat key.publicValues)),
    ("protocol", .text "groth16"),
    ("vk_alpha_1", pointDocument1 key.alpha),
    ("vk_alphabeta_12", pairingDocument (pairing key.alpha key.beta)),
    ("vk_beta_2", pointDocument2 key.beta),
    ("vk_delta_2", pointDocument2 key.delta),
    ("vk_gamma_2", pointDocument2 key.gamma)]

/-- The members of a key. -/
def members : Members
    [String, UInt64, G1.Point, G2.Point, G2.Point, G2.Point, Dodecic, List G1.Point] :=
  .required "protocol" Reader.text
    (.required "nPublic" Reader.natural
      (.required "vk_alpha_1" readPoint1
        (.required "vk_beta_2" readPoint2
          (.required "vk_gamma_2" readPoint2
            (.required "vk_delta_2" readPoint2
              (.required "vk_alphabeta_12" readPairing
                (.required "IC" (Reader.list readPoint1) .nil)))))))

/-- Reads a key. -/
def read : Reader VerifyingKey := do
  let (_, _, alpha, beta, gamma, delta, _, bases, ()) ← members.read .json
  return { alpha, beta, gamma, delta, bases }

/-- The text of a key. -/
def toText (key : VerifyingKey) : String := Json.compact key.document

/-- The key of a JSON text. -/
def ofText (s : String) : Except ProofSystemError VerifyingKey :=
  (Reader.runJson read (Json.events s)).mapError fun cause => .invalidKey (.document cause)

end VerifyingKey

namespace CircuitKey

/-- The key of the circuit from a JSON text. -/
def ofText (s : String) : Except ProofSystemError CircuitKey := do
  ofKey (← VerifyingKey.ofText s)

/-- The key of the circuit from a file. -/
def load {m : Type → Type} [Monad m] (files : FileSystem m) (path : String) :
    m (Except ProofSystemError CircuitKey) := do
  match ← files.readText path with
  | .error cause => return .error (.unreadable path cause)
  | .ok s => return ofText s

end CircuitKey

end GroupSignal.Groth16
