/-!
# The tokens of a JSON text

A JSON text is cut into brackets, separators and leaves. Cutting stops at the first place where no
token begins or where a token is not finished, and leaves a mark there.

Texts are written with escapes. The escape of a code unit above the first plane needs its pair right
behind it; a text with a single half is still a token, but it has no value.

## Main definitions

* `Token`: the tokens
* `tokens`: the tokens of a text
-/

namespace GroupSignal.Json

/-- A token of a JSON text. -/
inductive Token where
  | openSeq
  | closeSeq
  | openRecord
  | closeRecord
  | comma
  | colon
  /-- A text and its value. -/
  | text (s : String)
  /-- A text without a value. -/
  | halfText
  /-- A whole number without sign, fraction or exponent that fits 64 bits. -/
  | natural (n : UInt64)
  /-- Any other number, a truth value or the null. -/
  | atom
  /-- Nothing is cut from here on. -/
  | broken
  deriving DecidableEq, Repr

/-! ## Texts -/

/-- What stands between the quotes of a text. -/
inductive Piece where
  | char (c : Char)
  /-- An escaped code unit of 16 bits. -/
  | unit (n : Nat)

/-- The value of a hexadecimal digit. -/
def hexDigit? (c : Char) : Option Nat :=
  if '0' ≤ c ∧ c ≤ '9' then some (c.toNat - 48)
  else if 'a' ≤ c ∧ c ≤ 'f' then some (c.toNat - 87)
  else if 'A' ≤ c ∧ c ≤ 'F' then some (c.toNat - 55)
  else none

/-- The code unit that four hexadecimal digits write. -/
def codeUnit? (a b c d : Char) : Option Nat := do
  return (((← hexDigit? a) * 16 + (← hexDigit? b)) * 16 + (← hexDigit? c)) * 16 + (← hexDigit? d)

/-- The character that a short escape stands for. -/
def shortEscape? : Char → Option Char
  | '"' => some '"'
  | '\\' => some '\\'
  | '/' => some '/'
  | 'b' => some '\x08'
  | 'f' => some '\x0c'
  | 'n' => some '\n'
  | 'r' => some '\r'
  | 't' => some '\t'
  | _ => none

/-- Reads the pieces of a text behind its opening quote, up to and with the closing one. A control
character ends the reading without result. -/
def pieces? : List Char → Option (List Piece × List Char)
  | '"' :: rest => some ([], rest)
  | '\\' :: 'u' :: a :: b :: c :: d :: rest => do
    let n ← codeUnit? a b c d
    let (ps, rest) ← pieces? rest
    return (.unit n :: ps, rest)
  | '\\' :: e :: rest => do
    let c ← shortEscape? e
    let (ps, rest) ← pieces? rest
    return (.char c :: ps, rest)
  | c :: rest =>
    if c < ' ' then none
    else do
      let (ps, rest) ← pieces? rest
      return (.char c :: ps, rest)
  | [] => none

/-- Whether a code unit is the first half of a pair. -/
def isHighHalf (n : Nat) : Bool := 0xD800 ≤ n && n < 0xDC00

/-- Whether a code unit is the second half of a pair. -/
def isLowHalf (n : Nat) : Bool := 0xDC00 ≤ n && n < 0xE000

/-- The characters of the pieces, if every half of a pair has its other half. -/
def characters? : List Piece → Option (List Char)
  | [] => some []
  | .char c :: rest => (characters? rest).map (c :: ·)
  | .unit n :: .unit m :: rest =>
    if isHighHalf n then
      if isLowHalf m then
        (characters? rest).map (Char.ofNat (0x10000 + (n - 0xD800) * 0x400 + (m - 0xDC00)) :: ·)
      else none
    else if isLowHalf n then none
    else (characters? (.unit m :: rest)).map (Char.ofNat n :: ·)
  | .unit n :: rest =>
    if isHighHalf n || isLowHalf n then none else (characters? rest).map (Char.ofNat n :: ·)

/-- The token of the pieces of a text. -/
def textToken (ps : List Piece) : Token :=
  match characters? ps with
  | some cs => .text (String.ofList cs)
  | none => .halfText

/-! ## Numbers -/

/-- Splits digits off the front. -/
def splitDigits (cs : List Char) : List Char × List Char :=
  (cs.takeWhile Char.isDigit, cs.dropWhile Char.isDigit)

/-- The number that decimal digits write. -/
def decimal (ds : List Char) : Nat := ds.foldl (fun n c => n * 10 + (c.toNat - 48)) 0

/-- Reads the whole part of a number: a single zero, or digits that do not begin with one. -/
def wholePart? (cs : List Char) : Option (List Char × List Char) :=
  match splitDigits cs with
  | ([], _) => none
  | ('0' :: _ :: _, _) => none
  | (ds, rest) => some (ds, rest)

/-- Reads an optional fraction. Says whether there is one. -/
def fraction? : List Char → Option (Bool × List Char)
  | '.' :: cs =>
    match splitDigits cs with
    | ([], _) => none
    | (_, rest) => some (true, rest)
  | cs => some (false, cs)

/-- The list without a leading sign. -/
def dropSign : List Char → List Char
  | '+' :: cs => cs
  | '-' :: cs => cs
  | cs => cs

/-- Reads an optional exponent. Says whether there is one. -/
def exponent? : List Char → Option (Bool × List Char)
  | [] => some (false, [])
  | c :: cs =>
    if c = 'e' ∨ c = 'E' then
      match splitDigits (dropSign cs) with
      | ([], _) => none
      | (_, rest) => some (true, rest)
    else some (false, c :: cs)

/-- Reads a number without sign. Only a whole number that fits 64 bits has a value. -/
def unsigned? (cs : List Char) : Option (Token × List Char) := do
  let (ds, rest) ← wholePart? cs
  let (hasFraction, rest) ← fraction? rest
  let (hasExponent, rest) ← exponent? rest
  if hasFraction || hasExponent || UInt64.size ≤ decimal ds then return (.atom, rest)
  else return (.natural (UInt64.ofNat (decimal ds)), rest)

/-! ## Cutting -/

/-- Whether a character may stand between tokens. -/
def isBlank (c : Char) : Bool := c = ' ' || c = '\t' || c = '\n' || c = '\r'

/-- Reads the token that begins with a character that is not blank. -/
def token? : List Char → Option (Token × List Char)
  | '[' :: rest => some (.openSeq, rest)
  | ']' :: rest => some (.closeSeq, rest)
  | '{' :: rest => some (.openRecord, rest)
  | '}' :: rest => some (.closeRecord, rest)
  | ',' :: rest => some (.comma, rest)
  | ':' :: rest => some (.colon, rest)
  | '"' :: rest => (pieces? rest).map fun (ps, rest) => (textToken ps, rest)
  | '-' :: rest => (unsigned? rest).map fun (_, rest) => (.atom, rest)
  | 't' :: 'r' :: 'u' :: 'e' :: rest => some (.atom, rest)
  | 'f' :: 'a' :: 'l' :: 's' :: 'e' :: rest => some (.atom, rest)
  | 'n' :: 'u' :: 'l' :: 'l' :: rest => some (.atom, rest)
  | cs => unsigned? cs

/-- Reads tokens, at most as many as there are characters. -/
def tokensFrom : (room : Nat) → List Char → List Token
  | 0, cs => if cs = [] then [] else [.broken]
  | room + 1, cs =>
    match cs.dropWhile isBlank with
    | [] => []
    | cs =>
      match token? cs with
      | none => [.broken]
      | some (t, rest) => t :: tokensFrom room rest

/-- The tokens of a text. -/
def tokens (s : String) : List Token := tokensFrom s.length s.toList

end GroupSignal.Json
