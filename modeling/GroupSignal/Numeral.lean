/-!
# Numerals

Three ways to read a number from text.

A *canonical* numeral is the shortest spelling of a number, decimal or hexadecimal behind `0x`: no
sign, no blank, no leading zero. A *bounded* numeral is any count of digits behind an optional plus,
as long as the number stays below a limit. A *grouped* numeral is any count of digits behind an
optional plus, with underscores allowed after the first digit.

## Main definitions

* `Numeral.readCanonical`, `Numeral.readBounded`, `Numeral.readGrouped`: the three readers
* `Numeral.hex`: the canonical hexadecimal spelling
-/

namespace GroupSignal.Numeral

/-- The value of an ASCII digit: the ten digits, then the letters of either case. -/
def digit? (c : Char) : Option Nat :=
  if '0' ≤ c ∧ c ≤ '9' then some (c.toNat - 48)
  else if 'a' ≤ c ∧ c ≤ 'z' then some (c.toNat - 87)
  else if 'A' ≤ c ∧ c ≤ 'Z' then some (c.toNat - 55)
  else none

/-- Whether a character is a digit in the given radix. -/
def isDigit (radix : Nat) (c : Char) : Bool := (digit? c).any (· < radix)

/-- The number that a list of digits writes, most significant digit first. -/
def value (radix : Nat) (ds : List Char) : Nat :=
  ds.foldl (fun n c => n * radix + (digit? c).getD 0) 0

/-- The canonical hexadecimal spelling: `0x` and lowercase digits without leading zeros. -/
def hex (n : Nat) : String := String.ofList ('0' :: 'x' :: Nat.toDigits 16 n)

/-! ## Canonical numerals -/

/-- Why a text is not a canonical numeral. -/
inductive CanonicalError where
  /-- Nothing stands behind the optional `0x`. -/
  | noDigits
  /-- Some character is not a digit of the radix. -/
  | invalidDigits (radix : Nat)
  /-- There are several digits and the first is zero. -/
  | leadingZero
  deriving DecidableEq, Repr

/-- The radix that a text announces, and its digits: sixteen behind `0x`, and ten otherwise. -/
def splitRadix : List Char → Nat × List Char
  | '0' :: 'x' :: ds => (16, ds)
  | ds => (10, ds)

/-- Reads a canonical numeral of any size. -/
def readCanonical (s : String) : Except CanonicalError Nat :=
  let (radix, ds) := splitRadix s.toList
  if ds = [] then .error .noDigits
  else if !ds.all (isDigit radix) then .error (.invalidDigits radix)
  else if 1 < ds.length ∧ ds.head? = some '0' then .error .leadingZero
  else .ok (value radix ds)

/-- Reads a canonical decimal numeral of any size. -/
def readDecimal? (s : String) : Option Nat :=
  if s.toList.all (isDigit 10) then (readCanonical s).toOption else none

/-! ## Bounded and grouped numerals -/

/-- What stands behind an optional `0x`. -/
def dropPrefix : List Char → List Char
  | '0' :: 'x' :: ds => ds
  | ds => ds

/-- Why a text is not a bounded or grouped numeral. -/
inductive IntegerError where
  | empty
  /-- A character is not a digit, or there are no digits. -/
  | invalidDigit
  /-- The number reaches the limit. -/
  | overflow
  deriving DecidableEq, Repr

/-- The wording of a refusal. -/
def IntegerError.message : IntegerError → String
  | .empty => "cannot parse integer from empty string"
  | .invalidDigit => "invalid digit found in string"
  | .overflow => "number too large to fit in target type"

/-- Reads digits behind the number `n`, stopping at the first that is not one or that takes the
number to the limit. -/
def readDigits (radix limit : Nat) : List Char → Nat → Except IntegerError Nat
  | [], n => .ok n
  | c :: cs, n =>
    match digit? c with
    | none => .error .invalidDigit
    | some d =>
      if radix ≤ d then .error .invalidDigit
      else if limit ≤ n * radix + d then .error .overflow
      else readDigits radix limit cs (n * radix + d)

/-- Reads a number below `limit` from digits behind an optional plus. -/
def readBounded (radix limit : Nat) (s : List Char) : Except IntegerError Nat :=
  match s with
  | [] => .error .empty
  | ['+'] => .error .invalidDigit
  | '+' :: ds => readDigits radix limit ds 0
  | ds => readDigits radix limit ds 0

/-- Reads a number of any size from digits behind an optional plus. Underscores after the first
digit are skipped. -/
def readGrouped (radix : Nat) (s : List Char) : Except IntegerError Nat :=
  let unsigned := match s with
    | '+' :: rest => if rest.head? = some '+' then s else rest
    | _ => s
  if unsigned = [] then .error .empty
  else if unsigned.head? = some '_' then .error .invalidDigit
  else
    let ds := unsigned.filter (· ≠ '_')
    if ds.all (isDigit radix) then .ok (value radix ds) else .error .invalidDigit

end GroupSignal.Numeral
