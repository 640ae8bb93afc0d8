import Legible.Text.Units

/-!
# Positions in a document

A document is a text; its lines are the parts between line feeds.  A position in it counts the
UTF-16 units before it, a line feed being one, and a place is a line with a column of characters.
`ofPlace?` sends a place to its position, with the column kept within its line, and `toPlace` sends
a position back.
-/

namespace Legible.Editor.Position

/-- How many units stand before a line: those of the lines before it, and a line feed after each of
them. -/
def lineStart : List Text → Nat → Nat
  | [], _ => 0
  | _ :: _, 0 => 0
  | line :: rest, n + 1 => Text.units line + 1 + lineStart rest n

/-- The text of a line; lines before the first count as the first. -/
def lineAt? (t : Text) (line : Int) : Option Text := (Text.lines t)[line.toNat]?

/-- The position in a line that is known to have the given text; the column is kept within it. -/
def inLine (t : Text) (line : Int) (content : Text) (column : Int) : Nat :=
  lineStart (Text.lines t) line.toNat +
    Text.unitsAt content (min column.toNat content.length)

/-- The position of a place, if there is such a line. -/
def ofPlace? (t : Text) (line column : Int) : Option Nat :=
  (lineAt? t line).map fun content => inLine t line content column

/-- The place of a position among some lines. -/
def toPlaceIn : List Text → Nat → Nat × Nat
  | [], n => (0, n)
  | [line], n => (0, Text.indexAt line n)
  | line :: rest, n =>
    if n ≤ Text.units line then (0, Text.indexAt line n)
    else
      let place := toPlaceIn rest (n - Text.units line - 1)
      (place.1 + 1, place.2)

/-- The place of a position. -/
def toPlace (t : Text) (n : Nat) : Nat × Nat := toPlaceIn (Text.lines t) n

end Legible.Editor.Position
