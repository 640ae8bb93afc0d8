import Legible.Log.Record
import Legible.Text.Word

/-!
# Formats of log lines

A format is a text with fields for the items of a record.  A field names its item in parentheses;
then come flags, the least width, the precision, and a letter for the form in which the item is
written.  Two percent signs stand for one.

A line can be written only if every field can: a text is no number, and only one character can be
written as a character.  A text in which there is no field at all is no format (`hasField`).
-/

namespace Legible.Log

/-- What a format can say of a record. -/
inductive Item
  | time
  | level
  | levelNumber
  | logger
  | text
  deriving DecidableEq, Repr

namespace Item

/-- The names of the items in a format. -/
def names : List (Text × Item) := [
  ("asctime".toList, time), ("levelname".toList, level), ("levelno".toList, levelNumber),
  ("name".toList, logger), ("message".toList, text), ("msg".toList, text)]

/-- The number that an item is, if it is one. -/
def number? (r : Record) : Item → Option Int
  | levelNumber => some r.level
  | _ => none

/-- The text of an item. -/
def textOf (r : Record) : Item → Text
  | time => r.time
  | level => r.label
  | levelNumber => Text.ofInt r.level
  | logger => r.logger
  | text => r.text

end Item

/-- The form in which an item is written. -/
inductive Form
  | text
  | quoted
  | quotedAscii
  | character
  | number (base : Nat) (upper : Bool)
  deriving DecidableEq, Repr

/-- The form of a letter. -/
def Form.ofLetter? : Char → Option Form
  | 's' => some text
  | 'r' => some quoted
  | 'a' => some quotedAscii
  | 'c' => some character
  | 'd' => some (number 10 false)
  | 'i' => some (number 10 false)
  | 'u' => some (number 10 false)
  | 'o' => some (number 8 false)
  | 'x' => some (number 16 false)
  | 'X' => some (number 16 true)
  | _ => none

/-- A field of a format. -/
structure Field where
  item : Item
  form : Form
  /-- The characters between the name and the width. -/
  flags : List Char := []
  width : Nat := 0
  precision : Option Nat := none
  deriving DecidableEq, Repr

namespace Field

/-- Whether the field has a flag. -/
def has (f : Field) (flag : Char) : Bool := f.flags.contains flag

/-- The sign of a number. -/
def signOf (f : Field) (n : Int) : Text :=
  if n < 0 then ['-'] else if f.has '+' then ['+'] else if f.has ' ' then [' '] else []

/-- What tells the base of a number. -/
def baseMark (f : Field) (base : Nat) (upper : Bool) : Text :=
  if !f.has '#' then []
  else if base = 16 then ['0', if upper then 'X' else 'x']
  else if base = 8 then ['0', 'o']
  else []

/-- Puts a text into the room of the field: `filler` stands between what leads and the rest, and
blanks after it where the field asks for that. -/
def place (f : Field) (lead : Text) (filler : Char) (t : Text) : Text :=
  let missing := f.width - (lead ++ t).length
  if f.has '-' then lead ++ t ++ List.replicate missing ' '
  else if filler = ' ' then List.replicate missing ' ' ++ lead ++ t
  else lead ++ List.replicate missing filler ++ t

/-- Writes a number; the precision is the least number of its digits. -/
def writeNumber (f : Field) (base : Nat) (upper : Bool) (n : Int) : Text :=
  let digits := Nat.toDigits base n.natAbs
  let digits := if upper then digits.map Char.toUpper else digits
  let digits := List.replicate (f.precision.getD 0 - digits.length) '0' ++ digits
  f.place (f.signOf n ++ f.baseMark base upper) (if f.has '0' then '0' else ' ') digits

/-- Writes a text; the precision is the greatest number of its characters. -/
def writeText (f : Field) (t : Text) : Text := f.place [] ' ' (f.precision.elim t t.take)

/-- The one character that an item stands for. -/
def characterOf? (f : Field) (r : Record) : Option Text :=
  match f.item.number? r, f.item.textOf r with
  | some n, _ => if 0 ≤ n ∧ n.toNat.isValidChar then some [Char.ofNat n.toNat] else none
  | none, [c] => some [c]
  | none, _ => none

/-- What is written for a record, if it can be written. -/
def render? (f : Field) (r : Record) : Option Text :=
  let quoted := if (f.item.number? r).isSome then f.item.textOf r else Text.quoted (f.item.textOf r)
  match f.form with
  | .text => some (f.writeText (f.item.textOf r))
  | .quoted => some (f.writeText quoted)
  | .quotedAscii => some (f.writeText (Text.inAscii quoted))
  | .character => (f.characterOf? r).map (f.place [] ' ')
  | .number base upper => (f.item.number? r).map (f.writeNumber base upper)

end Field

/-- A part of a format. -/
inductive Part
  | literal (c : Char)
  | field (f : Field)
  deriving DecidableEq, Repr

/-- What a part of a format gives for a record. -/
def Part.render? (r : Record) : Part → Option Text
  | literal c => some [c]
  | field f => f.render? r

/-- How the line of a record is put together. -/
abbrev Format := List Part

namespace Format

/-- The format of the text of a record alone. -/
def plain : Format := [.field { item := .text, form := .text }]

/-- The line of a record, if it can be written. -/
def line? (f : Format) (r : Record) : Option Text := (f.mapM (Part.render? r)).map List.flatten

/-! ## Reading formats -/

/-- Whether a character may stand between the name and the width of a field. -/
def isFlag (c : Char) : Bool := "#0+ -".toList.contains c

/-- A text after its digits, and the number that they spell. -/
def cutNumber (t : Text) : Nat × Text :=
  (Text.ofDigits 10 ((t.takeWhile Text.isAsciiDigit).map fun c => c.toNat - 48),
    t.dropWhile Text.isAsciiDigit)

/-- The precision of a field, and the text after it. -/
def cutPrecision : Text → Option Nat × Text
  | '.' :: rest => Prod.map some id (cutNumber rest)
  | rest => (none, rest)

/-- A text after a letter that says nothing. -/
def skipSize : Text → Text
  | c :: rest => if "hlL".toList.contains c then rest else c :: rest
  | [] => []

/-- A field after its percent sign, and the text after it. -/
def cutField? (t : Text) : Option (Field × Text) := do
  let (name, rest) ← match t with
    | '(' :: rest => Text.cutAt? ')' rest
    | _ => none
  let item ← Item.names.lookup name
  let (width, afterWidth) := cutNumber (rest.dropWhile isFlag)
  let (precision, afterPrecision) := cutPrecision afterWidth
  match skipSize afterPrecision with
  | letter :: after =>
    let form ← Form.ofLetter? letter
    pure ({ item, form, flags := rest.takeWhile isFlag, width, precision }, after)
  | [] => none

/-- The parts of a format; two percent signs stand for one, and any other must begin a field.  The
bound is that of the length of the text. -/
def readParts : Nat → Text → Option Format
  | 0, _ => some []
  | _ + 1, [] => some []
  | fuel + 1, '%' :: '%' :: rest => (readParts fuel rest).map (.literal '%' :: ·)
  | fuel + 1, '%' :: rest => do
    let (f, rest) ← cutField? rest
    let parts ← readParts fuel rest
    pure (.field f :: parts)
  | fuel + 1, c :: rest => (readParts fuel rest).map (.literal c :: ·)

/-- The format that a text spells.  Nothing can be written in a format that has a fault. -/
def ofText? (t : Text) : Option Format := readParts t.length t

/-! ## Texts that are formats -/

/-- A text after an amount, which is a star or a number. -/
def skipAmount? : Text → Option Text
  | '*' :: rest => some rest
  | t =>
    match t.takeWhile Text.isAsciiDigit with
    | [] => none
    | _ => some (t.dropWhile Text.isAsciiDigit)

/-- A text after a point and an amount, where it begins with them. -/
def skipPrecision : Text → Text
  | '.' :: rest => (skipAmount? rest).getD ('.' :: rest)
  | t => t

/-- Whether a text begins with a field, of whatever name and form. -/
def beginsField (t : Text) : Bool :=
  match t with
  | '%' :: '(' :: t =>
    match Text.cutAt? ')' t with
    | some (name, rest) =>
      let rest := rest.dropWhile isFlag
      let letter := ((skipPrecision ((skipAmount? rest).getD rest)).head?).getD ' '
      !name.isEmpty && name.all (fun c => c = '_' || Text.isAlphanumeric c)
        && "diouxefgcrsaDIOUXEFGCRSA%".toList.contains letter
    | none => false
  | _ => false

/-- Whether there is a field in a text; one without is no format. -/
def hasField : Text → Bool
  | [] => false
  | c :: rest => beginsField (c :: rest) || hasField rest

end Format

end Legible.Log
