import Legible.Message
import Legible.Text.Units

/-!
# Highlights

The parts of the popup's lines that stand out: names of properties, names of basic types, the
headings of sections, and the raw message.  Columns of a span count characters; on the way
to a text document they are cut to the line and turned into UTF-16 units.
-/

namespace Legible.Popup

/-- How a part of a line stands out. -/
inductive Style
  | special
  | type
  | title
  | comment
  /-- A style of another name, which has no format. -/
  | other (name : Text)
  deriving DecidableEq, Repr

namespace Style

/-- The name of a style. -/
def name : Style → Text
  | special => "Special".toList
  | type => "Type".toList
  | title => "Title".toList
  | comment => "Comment".toList
  | other n => n

/-- The style of a name. -/
def ofName (n : Text) : Style :=
  if n = special.name then special
  else if n = type.name then type
  else if n = title.name then title
  else if n = comment.name then comment
  else other n

end Style

/-- A part of a line that stands out. -/
structure Mark where
  start : Int
  /-- The column after the last one; a negative one means the end of the line. -/
  stop : Int
  style : Style
  deriving DecidableEq, Repr

/-- A part of one of some lines that stands out. -/
structure Span where
  line : Int
  mark : Mark
  deriving DecidableEq, Repr

/-! ## Finding highlights -/

/-- The names of basic types. -/
def typeKeywords : List Text := [
  "string".toList, "number".toList, "boolean".toList, "object".toList, "array".toList,
  "null".toList, "undefined".toList]

/-- The columns at which a word is found in a text whose first column is given.  The search goes on
behind each hit: the second number says how many characters of the last one are still to be
passed. -/
def columnsOf (word : Text) : Nat → Nat → Text → List Nat
  | _, _, [] => []
  | column, skip + 1, _ :: rest => columnsOf word (column + 1) skip rest
  | column, 0, c :: rest =>
    if word.isPrefixOf (c :: rest) then
      column :: columnsOf word (column + 1) (word.length - 1) rest
    else columnsOf word (column + 1) 0 rest

/-- The length of the name of a property at the beginning of a text, with the word and the blanks
before it. -/
def propertyNameLength? (t : Text) : Option Nat :=
  let word := "Property".toList
  if word.isPrefixOf t then
    let rest := t.drop word.length
    let blanks := rest.takeWhile Text.isBlank
    let name := (rest.drop blanks.length).takeWhile Text.isWordChar
    if blanks.isEmpty || name.isEmpty then none
    else some (word.length + blanks.length + name.length)
  else none

/-- The columns of the first name of a property. -/
def propertyName? : Nat → Text → Option (Nat × Nat)
  | _, [] => none
  | column, c :: rest =>
    match propertyNameLength? (c :: rest) with
    | some n => some (column, column + n)
    | none => propertyName? (column + 1) rest

/-- Whether a line is the heading of a section. -/
def isHeading (line : Text) : Bool :=
  "Expected:".toList.isPrefixOf line || "Provided:".toList.isPrefixOf line ||
    "Required:".toList.isPrefixOf (Text.stripLeft line)

/-- The marks of a line, given the line before it. -/
def marksOf (before line : Text) : List Mark :=
  ((propertyName? 0 line).toList.map fun (first, last) => ⟨first, last, .special⟩) ++
  (typeKeywords.flatMap fun word =>
    (columnsOf word 0 0 line).map fun column => ⟨column, column + word.length, .type⟩) ++
  (if isHeading line then [⟨0, -1, .title⟩] else []) ++
  (if Text.holds line Message.rawHeader || Text.holds before Message.rawHeader then
    [⟨0, -1, .comment⟩] else [])

/-- The spans of lines from a line number on, given the line before them. -/
def spansFrom : Nat → Text → List Text → List Span
  | _, _, [] => []
  | number, before, line :: rest =>
    (marksOf before line).map (fun m => ⟨number, m⟩) ++ spansFrom (number + 1) line rest

/-- The parts of some lines that stand out. -/
def highlights (lines : List Text) : List Span := spansFrom 0 [] lines

/-! ## Highlights of a text document -/

/-- The format of a style: color, bold, italic. -/
structure Format where
  color : Text
  bold : Bool
  italic : Bool
  deriving DecidableEq, Repr

/-- The format of a style, if it has one. -/
def Style.format? : Style → Option Format
  | .special => some ⟨"#C586C0".toList, true, false⟩
  | .type => some ⟨"#4EC9B0".toList, false, false⟩
  | .title => some ⟨"#DCDCAA".toList, true, false⟩
  | .comment => some ⟨"#6A9955".toList, false, true⟩
  | .other _ => none

/-- A format that is set for some UTF-16 units of a line. -/
structure Run where
  start : Nat
  count : Nat
  style : Style
  format : Format
  deriving DecidableEq, Repr

/-- What a mark sets on a line: nothing where it has no format or is empty on the line. -/
def runOf? (line : Text) (m : Mark) : Option Run :=
  match m.style.format? with
  | none => none
  | some format =>
    let length : Int := line.length
    let stop := if m.stop < 0 then length else min m.stop length
    if m.start < stop then
      let first := Text.unitsAt line m.start.toNat
      some ⟨first, Text.unitsAt line stop.toNat - first, m.style, format⟩
    else none

/-- What the marks of a line set, in order. -/
def runsOf (line : Text) (ms : List Mark) : List Run := ms.filterMap (runOf? line)

end Legible.Popup
