import GroupSignal.Document.Basic

/-!
# Writing JSON

A document is written without blanks, or with one thing on a line and two blanks for every bracket
around it. Escaped are the quote, the backslash and the control characters, the usual ones in short
and the others by their code. Byte strings have no place in JSON and are written as hexadecimal
texts.

## Main definitions

* `compact`: without blanks
* `indented`: one thing on a line
-/

namespace GroupSignal.Json

/-- A character as it is written between quotes. -/
def escape (c : Char) : List Char :=
  match c with
  | '"' => ['\\', '"']
  | '\\' => ['\\', '\\']
  | '\x08' => ['\\', 'b']
  | '\x0c' => ['\\', 'f']
  | '\n' => ['\\', 'n']
  | '\r' => ['\\', 'r']
  | '\t' => ['\\', 't']
  | c => if c < ' ' then ['\\', 'u', '0', '0'] ++ Hex.digits (UInt8.ofNat c.toNat) else [c]

/-- A text between quotes. -/
def quoted (s : String) : List Char := '"' :: (s.toList.flatMap escape ++ ['"'])

/-- The decimal digits of a number. -/
def numeral (n : UInt64) : List Char := Nat.toDigits 10 n.toNat

mutual

/-- The characters of a document without blanks. -/
def compactChars : Document → List Char
  | .text s => quoted s
  | .bytes b => quoted (Hex.prefixed b)
  | .natural n => numeral n
  | .seq items => '[' :: (compactItems items ++ [']'])
  | .record members => '\x7b' :: (compactMembers members ++ ['\x7d'])

/-- Items with commas between them. -/
def compactItems : List Document → List Char
  | [] => []
  | [d] => compactChars d
  | d :: rest => compactChars d ++ ',' :: compactItems rest

/-- Members with commas between them. -/
def compactMembers : List (String × Document) → List Char
  | [] => []
  | [(name, d)] => quoted name ++ ':' :: compactChars d
  | (name, d) :: rest => quoted name ++ ':' :: (compactChars d ++ ',' :: compactMembers rest)

end

/-- A document without blanks. -/
def compact (d : Document) : String := String.ofList (compactChars d)

/-- A line end and two blanks for every bracket around. -/
def newline (depth : Nat) : List Char := '\n' :: List.replicate (2 * depth) ' '

mutual

/-- The characters of a document inside `depth` brackets, with one thing on a line. -/
def indentedChars (depth : Nat) : Document → List Char
  | .text s => quoted s
  | .bytes b => quoted (Hex.prefixed b)
  | .natural n => numeral n
  | .seq [] => ['[', ']']
  | .seq items => '[' :: (indentedItems (depth + 1) items ++ newline depth ++ [']'])
  | .record [] => ['\x7b', '\x7d']
  | .record members =>
    '\x7b' :: (indentedMembers (depth + 1) members ++ newline depth ++ ['\x7d'])

/-- Items on their lines, with commas between them. -/
def indentedItems (depth : Nat) : List Document → List Char
  | [] => []
  | [d] => newline depth ++ indentedChars depth d
  | d :: rest => newline depth ++ indentedChars depth d ++ ',' :: indentedItems depth rest

/-- Members on their lines, with commas between them. -/
def indentedMembers (depth : Nat) : List (String × Document) → List Char
  | [] => []
  | [(name, d)] => newline depth ++ quoted name ++ ':' :: ' ' :: indentedChars depth d
  | (name, d) :: rest =>
    newline depth ++ quoted name ++ ':' :: ' ' :: (indentedChars depth d ++
      ',' :: indentedMembers depth rest)

end

/-- A document with one thing on a line. -/
def indented (d : Document) : String := String.ofList (indentedChars 0 d)

end GroupSignal.Json
