import Legible.Text.Blank
import Legible.Text.Case
import Legible.Text.Digit
import Legible.Value.Basic

/-!
# Chords

A chord is a key with modifiers, written with plus signs between them.  `canonical` gives every
chord one spelling: the modifiers in a fixed order under their own names, then the key.  Keys with
a name get it in its usual spelling, and letters and function keys stand in upper case.  A text
that names no key stays as it is.

A sequence of chords is written with commas between them.
-/

namespace Legible.Keymap

/-- A key that changes the meaning of another. -/
inductive Modifier
  | ctrl
  | alt
  | shift
  | super
  deriving DecidableEq, Repr

namespace Modifier

/-- The modifiers in the order in which they stand in a chord. -/
def all : List Modifier := [.ctrl, .alt, .shift, .super]

/-- The name of a modifier. -/
def name : Modifier → Text
  | ctrl => "Ctrl".toList
  | alt => "Alt".toList
  | shift => "Shift".toList
  | super => "Meta".toList

/-- The names by which modifiers are known, in lower case. -/
def aliases : List (Text × Modifier) := [
  ("ctrl".toList, ctrl), ("control".toList, ctrl), ("alt".toList, alt), ("option".toList, alt),
  ("shift".toList, shift), ("meta".toList, super), ("cmd".toList, super),
  ("command".toList, super), ("super".toList, super), ("win".toList, super)]

/-- The modifier that a word names, in any letter case. -/
def ofText? (t : Text) : Option Modifier := aliases.lookup (Text.lower t)

end Modifier

/-- The keys that have a name, by the names in lower case under which they are known. -/
def keyNames : List (Text × Text) := [
  ("esc".toList, "Esc".toList), ("escape".toList, "Esc".toList), ("del".toList, "Del".toList),
  ("delete".toList, "Del".toList), ("ins".toList, "Ins".toList), ("insert".toList, "Ins".toList),
  ("pgup".toList, "PgUp".toList), ("pageup".toList, "PgUp".toList),
  ("pgdown".toList, "PgDown".toList), ("pagedown".toList, "PgDown".toList),
  ("return".toList, "Return".toList), ("enter".toList, "Enter".toList),
  ("space".toList, "Space".toList), ("tab".toList, "Tab".toList),
  ("backspace".toList, "Backspace".toList), ("home".toList, "Home".toList),
  ("end".toList, "End".toList), ("up".toList, "Up".toList), ("down".toList, "Down".toList),
  ("left".toList, "Left".toList), ("right".toList, "Right".toList)]

/-- Whether a word in lower case names a function key: an `f` with one or two digits. -/
def isFunctionKey : Text → Bool
  | ['f', a] => Text.isDecimal a
  | ['f', a, b] => Text.isDecimal a && Text.isDecimal b
  | _ => false

/-- The usual spelling of a key. -/
def keyName (part : Text) : Text :=
  let low := Text.lower part
  match keyNames.lookup low with
  | some name => name
  | none => if part.length = 1 || isFunctionKey low then Text.upper part else part

/-- The words of a text between the occurrences of a character, without blanks around them and
without empty ones. -/
def wordsBetween (sep : Char) (t : Text) : List Text :=
  ((Text.splitOn sep t).map Text.strip).filter (!·.isEmpty)

/-- The chords in a text. -/
def chordsIn (t : Text) : List Text := wordsBetween ',' t

/-- The modifiers among the words of a chord. -/
def modifiersOf (parts : List Text) : List Modifier := parts.filterMap Modifier.ofText?

/-- The words of a chord that name no modifier. -/
def keysOf (parts : List Text) : List Text := parts.filter fun p => (Modifier.ofText? p).isNone

/-- The modifiers and the last key of a chord, in the usual spelling and order; none where the
text names no key. -/
def ordered? (t : Text) : Option Text :=
  let parts := wordsBetween '+' t
  let found := modifiersOf parts
  match (keysOf parts).getLast? with
  | none => none
  | some key =>
    let modifiers := Modifier.all.filter (found.contains ·)
    some (Text.join ['+'] (modifiers.map Modifier.name ++ [keyName key]))

/-- The one spelling of the first chord in a text. -/
def canonical (t : Text) : Text :=
  let raw := Text.strip t
  if raw.isEmpty then []
  else
    let first := (chordsIn raw).headD raw
    (ordered? first).getD first

/-! ## Sequences -/

/-- The chords of some texts, each in its one spelling. -/
def sequenceOf (ts : List Text) : List Text :=
  ((ts.flatMap chordsIn).map canonical).filter (!·.isEmpty)

/-- The texts among some values. -/
def textsIn (vs : List Value) : List Text :=
  vs.filterMap fun
    | .str t => some t
    | _ => none

/-- The chords of a value: of a text, or of the texts in a list. -/
def sequenceOfValue : Value → List Text
  | .str t => sequenceOf [t]
  | .arr vs => sequenceOf (textsIn vs)
  | _ => []

/-- A sequence as text. -/
def sequenceText (chords : List Text) : Text := Text.join ", ".toList (sequenceOf chords)

end Legible.Keymap
