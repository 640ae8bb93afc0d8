import Legible.Text.Blank
import Legible.Text.Digit

/-!
# Reading integers

An integer is written as an optional sign and digits of any script, with single underscores
between digits allowed and blanks around.  The separators U+001C to U+001F are no blanks here.
Numerals of more than 4300 digits are not read.
-/

namespace Legible

/-- Why something is no integer. -/
inductive NotInteger
  /-- The value is of a kind that has no integer. -/
  | wrongKind
  /-- The text is no numeral. -/
  | notNumeral
  /-- The numeral has too many digits. -/
  | tooLong
  /-- The number is not a number. -/
  | notANumber
  /-- The number is infinite. -/
  | infinite
  deriving DecidableEq, Repr

namespace Number

/-- The greatest number of digits of a numeral that is read. -/
def digitLimit : Nat := 4300

/-- Whether a character may stand around a numeral. -/
def isMargin (c : Char) : Bool := Text.isBlank c && !(0x1C ≤ c.toNat && c.toNat ≤ 0x1F)

/-- The digit values of a numeral; an underscore must stand between two digits. -/
def numeralDigits? : Text → Option (List Nat)
  | [] => none
  | [c] => (Text.digitValue? c).map ([·])
  | c :: '_' :: rest => do
    let d ← Text.digitValue? c
    let ds ← numeralDigits? rest
    pure (d :: ds)
  | c :: rest => do
    let d ← Text.digitValue? c
    let ds ← numeralDigits? rest
    pure (d :: ds)

/-- The number that digit values spell, where there are not too many. -/
def ofNumeral (ds : List Nat) : Except NotInteger Nat :=
  if digitLimit < ds.length then .error .tooLong else .ok (Text.ofDigits 10 ds)

/-- A text without the margins at its ends. -/
def trim (t : Text) : Text :=
  ((t.dropWhile isMargin).reverse.dropWhile isMargin).reverse

/-- The sign of a numeral and the text after it. -/
def splitSign : Text → Bool × Text
  | '-' :: rest => (true, rest)
  | '+' :: rest => (false, rest)
  | t => (false, t)

/-- The integer that a text spells. -/
def ofText (t : Text) : Except NotInteger Int :=
  let (negative, body) := splitSign (trim t)
  match numeralDigits? body with
  | none => .error .notNumeral
  | some ds => (ofNumeral ds).map fun n => if negative then -(n : Int) else n

end Number

end Legible
