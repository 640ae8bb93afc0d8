import Legible.Text.Printable

/-!
# Quoted text

A text between quotes, as it stands in messages and inside lists.  The quote is an apostrophe,
or a double quote where the text holds an apostrophe and no double quote.  The quote itself and
the backslash take a backslash; line feeds, carriage returns and tabs have short escapes, and
other unprintable characters are written by their code points.
-/

namespace Legible.Text

/-- The last `width` hexadecimal digits of a number, in lower case. -/
def hexDigits : Nat → Nat → Text
  | 0, _ => []
  | width + 1, n => hexDigits width (n / 16) ++ [Nat.digitChar (n % 16)]

/-- A character by its code point. -/
def escapeCode (c : Char) : Text :=
  if c.toNat < 0x100 then ['\\', 'x'] ++ hexDigits 2 c.toNat
  else if c.toNat < 0x10000 then ['\\', 'u'] ++ hexDigits 4 c.toNat
  else ['\\', 'U'] ++ hexDigits 8 c.toNat

/-- One character of a quoted text. -/
def escapeIn (quote c : Char) : Text :=
  if c = quote || c = '\\' then ['\\', c]
  else if c = '\n' then ['\\', 'n']
  else if c = '\r' then ['\\', 'r']
  else if c = '\t' then ['\\', 't']
  else if isPrintable c then [c]
  else escapeCode c

/-- The quote that a text is put between. -/
def quoteFor (t : Text) : Char := if t.contains '\'' && !t.contains '"' then '"' else '\''

/-- A text between quotes. -/
def quoted (t : Text) : Text :=
  let quote := quoteFor t
  quote :: t.flatMap (escapeIn quote) ++ [quote]

/-- A quoted text in ASCII alone. -/
def inAscii (quoted : Text) : Text :=
  quoted.flatMap fun c => if c.toNat < 0x80 then [c] else escapeCode c

end Legible.Text
