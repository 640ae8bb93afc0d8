import Legible.Diagnostic.Basic
import Legible.Editor.Position
import Legible.Language
import Legible.Text.Printable
import Legible.Value.Basic

/-!
# The editor

The editor holds one document with a cursor, and the diagnostics of the document.  It underlines
the diagnostics and tells what happens to it, in order: `Editor.Event` lists all of it.

A typed key counts as editing, and the cursor that it moves is not told as moved.  When the cursor
has rested for a while the editor says so, unless it has lost the focus before.
-/

namespace Legible

namespace Editor

/-- What happens to the editor. -/
inductive Event
  | cursorMoved
  | cursorIdle
  | focusLost
  | editingStarted
  | textChanged
  /-- The timer for the resting cursor was started. -/
  | idleStarted
  | idleStopped
  | tooltip (text : Text)
  | tooltipHidden
  /-- There was nothing to show a tooltip for. -/
  | hoverIgnored
  /-- An event that is no hover was passed on. -/
  | eventPassedOn
  | focusPassedOn
  deriving DecidableEq, Repr

/-- An underlined part, between two positions. -/
structure Underline where
  start : Nat
  stop : Nat
  color : Text
  deriving DecidableEq, Repr

/-- The keys that do more than to type their text. -/
inductive Key
  | left
  | right
  | backspace
  | delete
  | other
  deriving DecidableEq, Repr

/-- The color of errors, and of severities without a color. -/
def errorColor : Text := "#E35D6A".toList

/-- The colors of underlines by severity, unless other colors are given. -/
def usualColors : List (Text × Text) := [
  ("error".toList, errorColor), ("warning".toList, "#D6A54A".toList),
  ("info".toList, "#6AA1FF".toList), ("hint".toList, "#8F9AA5".toList)]

/-- The names of colors. -/
def colorNames : List Text := [
  "red".toList, "green".toList, "blue".toList, "white".toList, "black".toList, "orange".toList]

/-- Whether a text is a color: a name, or a number sign and three, six or eight hexadecimal
digits. -/
def isColor (t : Text) : Bool :=
  match t with
  | '#' :: digits =>
    [3, 6, 8].contains digits.length && digits.all fun c => (Text.hexValue? c).isSome
  | _ => colorNames.contains t

end Editor

/-- An editor with its document. -/
structure Editor where
  text : Text := []
  /-- The position of the cursor, in UTF-16 units. -/
  cursor : Nat := 0
  file : Option Text := none
  diagnostics : List Diagnostic := []
  colors : List (Text × Text) := Editor.usualColors
  underlines : List Editor.Underline := []
  /-- Whether the timer for the resting cursor runs. -/
  idleTimer : Bool := false
  deriving Repr

namespace Editor

/-- The language of the document. -/
def kind (e : Editor) : Text := Language.ofPath (e.file.getD []) Language.plain

/-- The line and the column of the cursor. -/
def place (e : Editor) : Nat × Nat := Position.toPlace e.text e.cursor

/-- The position of a place, if there is such a line. -/
def position? (e : Editor) (line column : Int) : Option Nat :=
  Position.ofPlace? e.text line column

/-! ## Underlines -/

/-- The color of a severity. -/
def colorOf (e : Editor) (severity : Text) : Text :=
  (e.colors.lookup severity).getD ((e.colors.lookup "error".toList).getD errorColor)

/-- The underline of a diagnostic, if its first line exists.  It has at least one unit, and none
where the document ends. -/
def underlineOf? (e : Editor) (d : Diagnostic) : Option Underline :=
  (e.position? d.line d.column).map fun start =>
    let stop := match e.position? d.endLine d.endColumn with
      | some stop => if stop ≤ start then start + 1 else stop
      | none => start + 1
    ⟨start, min stop (Text.units e.text), e.colorOf d.severity⟩

/-- Underlines the diagnostics. -/
def underline (e : Editor) : Editor :=
  { e with underlines := e.diagnostics.filterMap e.underlineOf? }

/-- Gives the document other diagnostics. -/
def setDiagnostics (ds : List Diagnostic) (e : Editor) : Editor :=
  { e with diagnostics := ds }.underline

/-- Gives a severity a color. -/
def setColor (severity color : Text) : List (Text × Text) → List (Text × Text)
  | [] => [(severity, color)]
  | (s, c) :: rest =>
    if s = severity then (s, color) :: rest else (s, c) :: setColor severity color rest

/-- Gives severities colors; what is no color is left out. -/
def setColors (colors : List (Text × Text)) (e : Editor) : Editor :=
  { e with
    colors := colors.foldl (fun cs (severity, color) =>
      if isColor color then setColor severity color cs else cs) e.colors }.underline

/-! ## The cursor -/

/-- The cursor has moved: the time for which it rests begins anew. -/
def cursorChanged (editing : Bool) (e : Editor) : Editor × List Event :=
  ({ e with idleTimer := true }, if editing then [.idleStarted] else [.cursorMoved, .idleStarted])

/-- Puts the cursor at a position. -/
def moveTo (position : Nat) (editing : Bool) (e : Editor) : Editor × List Event :=
  if position = e.cursor then (e, []) else cursorChanged editing { e with cursor := position }

/-- Puts the cursor at a place, if there is such a line. -/
def goTo (line column : Int) (e : Editor) : Editor × List Event :=
  match e.position? line column with
  | some position => e.moveTo position false
  | none => (e, [])

/-- The timer for the resting cursor fires, if it runs. -/
def idleFired (e : Editor) : Editor × List Event :=
  if e.idleTimer then ({ e with idleTimer := false }, [.cursorIdle]) else (e, [])

/-- The editor loses the focus. -/
def focusOut (e : Editor) : Editor × List Event :=
  ({ e with idleTimer := false }, [.idleStopped, .focusLost, .focusPassedOn])

/-! ## Texts -/

/-- Gives the editor another text, without a word. -/
def load (text : Text) (e : Editor) : Editor := { e with text, cursor := 0 }

/-- Gives the editor another text. -/
def setText (text : Text) (e : Editor) : Editor × List Event :=
  let (e, events) := (e.load text).cursorChanged false
  (e, .textChanged :: events)

/-- The text and the cursor after a key. -/
def edit (key : Key) (typed : Text) (text : Text) (cursor : Nat) : Text × Nat :=
  let index := Text.indexAt text cursor
  let before := text.take index
  let after := text.drop index
  match key with
  | .left => (text, Text.unitsAt text (index - 1))
  | .right => (text, Text.unitsAt text (min (index + 1) text.length))
  | .backspace =>
    let kept := before.dropLast
    (kept ++ after, Text.units kept)
  | .delete => (before ++ after.drop 1, cursor)
  | .other =>
    let typed := typed.map fun c => if c = '\r' then '\n' else c
    (before ++ typed ++ after, cursor + Text.units typed)

/-- Whether a key counts as editing: those that remove text, and those that type what can be
seen. -/
def isEditing (key : Key) (typed : Text) : Bool :=
  key = .backspace || key = .delete || (!typed.isEmpty && typed.all Text.isPrintable)

/-- A key is pressed. -/
def press (key : Key) (typed : Text) (e : Editor) : Editor × List Event :=
  let editing := isEditing key typed
  let (text, cursor) := edit key typed e.text e.cursor
  let (moved, events) := moveTo cursor editing { e with text }
  (moved, (if editing then [.editingStarted] else []) ++
    (if text = e.text then [] else [.textChanged]) ++ events)

/-! ## Hovering -/

/-- The published messages under a place. -/
def hoverText (e : Editor) (line column : Int) : Text :=
  Diagnostic.hoverText e.diagnostics line column

/-- The pointer rests over a position; one outside of the document counts as its beginning. -/
def hover (position : Int) (e : Editor) : List Event :=
  let position := if position ≤ Text.units e.text then position.toNat else 0
  let (line, column) := Position.toPlace e.text position
  let text := e.hoverText line column
  if text.isEmpty then [.tooltipHidden, .hoverIgnored] else [.tooltip text]

/-! ## Places given as values -/

/-- The text of a line that is given as a value. -/
def lineOfValue (line : Value) (e : Editor) : Except NotInteger (Option Text) := do
  let n ← line.toInteger
  pure (Position.lineAt? e.text n)

/-- The position of a place that is given as values.  The column is read only where there is such
a line. -/
def positionOfValues (line column : Value) (e : Editor) : Except NotInteger (Option Nat) := do
  let n ← line.toInteger
  match Position.lineAt? e.text n with
  | none => pure none
  | some content =>
    let c ← column.toInteger
    pure (some (Position.inLine e.text n content c))

/-- Puts the cursor at a place that is given as values. -/
def goToValues (line column : Value) (e : Editor) : Except NotInteger (Editor × List Event) := do
  match ← e.positionOfValues line column with
  | some position => pure (e.moveTo position false)
  | none => pure (e, [])

end Editor

end Legible
