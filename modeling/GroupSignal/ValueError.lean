import GroupSignal.Hex

/-!
# Refused values

Why a text or a byte string does not denote a value of the library: a scalar, a curve point, an
encoded proof or a configuration. Each cause has its wording.

## Main definitions

* `PointError`: why coordinates or a compressed word give no curve point
* `ValueError`, `ValueError.message`: the causes and their wording
-/

namespace GroupSignal

/-- The two groups that the points of a proof come from. -/
inductive CurveGroup where
  | g1
  | g2
  deriving DecidableEq, Repr

/-- The name of a group in messages. -/
def CurveGroup.name : CurveGroup → String
  | .g1 => "G1"
  | .g2 => "G2"

/-- Why there is no curve point. -/
inductive PointError where
  /-- A coordinate is not below the modulus of the base field. -/
  | coordinateTooLarge
  /-- The coordinates do not satisfy the equation of the curve. -/
  | offCurve (group : CurveGroup)
  /-- The point lies on the curve but outside the subgroup of prime order. -/
  | outsideSubgroup (group : CurveGroup)
  /-- No point on the curve has the compressed abscissa. -/
  | offCurveCompressed (group : CurveGroup)
  /-- The point has no compressed form. -/
  | incompressible
  deriving DecidableEq, Repr

/-- The wording of a missing point. -/
def PointError.message : PointError → String
  | .coordinateTooLarge => "coordinate is not in the base field"
  | .offCurve group => group.name ++ " point is not on the curve"
  | .outsideSubgroup group => group.name ++ " point is not in the prime order subgroup"
  | .offCurveCompressed group => "compressed " ++ group.name ++ " point is not on the curve"
  | .incompressible => "point cannot be compressed"

/-- The two encodings of a proof as words of 32 bytes. -/
inductive ProofEncoding where
  | packed
  | compressed
  deriving DecidableEq, Repr

namespace ProofEncoding

/-- The name of an encoding in messages. -/
def name : ProofEncoding → String
  | .packed => "packed_proof"
  | .compressed => "compressed_proof"

/-- The count of words in an encoding. -/
def words : ProofEncoding → Nat
  | .packed => 8
  | .compressed => 4

/-- The count of bytes in an encoding. -/
def size (e : ProofEncoding) : Nat := 32 * e.words

end ProofEncoding

/-- Why a text or a byte string denotes no value. -/
inductive ValueError where
  | noDigits (text : String)
  /-- A numeral has a character that is not a digit of its radix. -/
  | invalidDigits (radix : Nat) (text : String)
  /-- A numeral is not the shortest spelling of its number. -/
  | nonCanonical (text : String)
  | notInField
  | divisionByZero
  /-- There is no such curve point. -/
  | point (cause : PointError)
  | missingHexPrefix
  /-- An encoded proof is not in hexadecimal behind `0x`. -/
  | invalidHex (cause : Hex.DecodeError)
  /-- An encoded proof has another length than its encoding. -/
  | wrongLength (encoding : ProofEncoding) (actual : Nat)
  /-- A configured tree depth is out of range. -/
  | treeDepth (depth : Nat)
  deriving DecidableEq, Repr

/-- The wording of a refusal. -/
def ValueError.message : ValueError → String
  | .noDigits text => "Invalid field element: no digits in " ++ Text.quote text
  | .invalidDigits radix text =>
    "Invalid field element: invalid base-" ++ toString radix ++ " digits in " ++ Text.quote text
  | .nonCanonical text => "Non-canonical field element encoding: " ++ Text.quote text
  | .notInField => "Provided value is not in the field"
  | .divisionByZero => "Division by zero"
  | .point cause => "Invalid curve point: " ++ cause.message
  | .missingHexPrefix => "Deserialization error: expected 0x prefix"
  | .invalidHex cause => "Deserialization error: Invalid hex encoding: " ++ cause.message
  | .wrongLength encoding actual =>
    "Invalid input at " ++ encoding.name ++ ": expected " ++ toString encoding.size ++
      " bytes, got " ++ toString actual
  | .treeDepth depth =>
    "Invalid input at tree_depth: must be between 1 and 32, got " ++ toString depth

end GroupSignal
