import Legible.Value.Basic

/-!
# Writing documents

A value as a document without blanks.  Fields keep their order, characters stand for themselves,
and in text only the quote, the backslash and the controls below the space are escaped.
`inAscii` writes a document that way without characters beyond ASCII, which stand in text alone and
can be escaped there.
-/

namespace Legible.Value

/-- One character of a text in a document. -/
def printChar (c : Char) : Text :=
  if c = '"' then ['\\', '"']
  else if c = '\\' then ['\\', '\\']
  else if c = '\x08' then ['\\', 'b']
  else if c = '\x0c' then ['\\', 'f']
  else if c = '\n' then ['\\', 'n']
  else if c = '\r' then ['\\', 'r']
  else if c = '\t' then ['\\', 't']
  else if c.toNat < 0x20 then ['\\', 'u'] ++ Text.hexDigits 4 c.toNat
  else [c]

/-- A text in a document. -/
def printText (t : Text) : Text := '"' :: t.flatMap printChar ++ ['"']

mutual

/-- A value as a document. -/
def print : Value → Text
  | null => "null".toList
  | bool true => "true".toList
  | bool false => "false".toList
  | int n => Text.ofInt n
  | double x => x.render Binary64.longNames
  | str t => printText t
  | arr items => '[' :: printItems items ++ [']']
  | obj fields => '\x7b' :: printFields fields ++ ['\x7d']

/-- The items of a list with commas between them. -/
def printItems : List Value → Text
  | [] => []
  | [v] => print v
  | v :: rest => print v ++ ',' :: printItems rest

/-- The fields of an object with commas between them. -/
def printFields : List (Text × Value) → Text
  | [] => []
  | [(k, v)] => printText k ++ ':' :: print v
  | (k, v) :: rest => printText k ++ ':' :: print v ++ ',' :: printFields rest

end

/-! ## ASCII -/

/-- A character of a document, escaped by its UTF-16 units if it lies beyond ASCII. -/
def asciiChar (c : Char) : Text :=
  let unit (n : Nat) : Text := ['\\', 'u'] ++ Text.hexDigits 4 n
  if c.toNat < 0x80 then [c]
  else if c.toNat < 0x10000 then unit c.toNat
  else
    let n := c.toNat - 0x10000
    unit (0xD800 + n / 0x400) ++ unit (0xDC00 + n % 0x400)

/-- A document in ASCII alone. -/
def inAscii (document : Text) : Text := document.flatMap asciiChar

end Legible.Value
