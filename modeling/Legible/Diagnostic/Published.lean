import Legible.Diagnostic.Basic
import Legible.Text.Units
import Legible.Value.Basic

/-!
# Published diagnostics

The diagnostics in the messages of a language server.  Their columns count UTF-16 units and are
turned into columns of characters where the text of the lines is known.  A message that was
reworded on its way carries the raw message under `rawKey`, and that message is what the
diagnostic holds.

Items without a range are left out, and every other field has a default.
-/

namespace Legible.Diagnostic

/-- The field of the data of a reworded diagnostic that holds the raw message. -/
def rawKey : Text := "prettyTsErrorsOriginalMessage".toList

/-- The name of a severity, by its number. -/
def severityName (v : Value) : Except NotInteger Text :=
  match v.toInteger with
  | .error .infinite => .error .infinite
  | .error _ => .ok "error".toList
  | .ok n =>
    .ok (if n = 1 then "error" else if n = 2 then "warning" else if n = 3 then "info"
      else "hint").toList

/-- The line and the character of a position; one that cannot be read is the first place. -/
def position (v : Value) : Except NotInteger (Nat × Nat) :=
  let number (key : String) : Except NotInteger Int :=
    ((v.field? key.toList).getD (.int 0)).toInteger
  let read : Except NotInteger (Nat × Nat) := do
    let line ← number "line"
    let character ← number "character"
    pure (line.toNat, character.toNat)
  match read with
  | .error .infinite => .error .infinite
  | .error _ => .ok (0, 0)
  | .ok p => .ok p

/-- The code of a diagnostic, which may stand in an object of its own. -/
def codeText (v : Value) : Text :=
  if v.isObject then (v.field "value".toList).displayOrEmpty else v.displayOrEmpty

/-- The raw message that a diagnostic carries. -/
def carried? (item : Value) : Option Text :=
  match (item.field "data".toList).field rawKey with
  | .null => none
  | v => some v.display

/-- The source of a diagnostic, or the default where it is blank.  A missing source is read from
the default too, which is shown as null where it is none. -/
def sourceOf (v : Value) (default : Option Text) : Option Text :=
  let t := Text.strip (if v.isVoid then (Value.ofText? default).display else v.display)
  if t.isEmpty then default else some t

/-- One published diagnostic; none where the item has no range.  `lineText` gives the text of a
line, where it is known. -/
def ofItem (lineText : Option (Nat → Text)) (defaultSource : Option Text) (item : Value) :
    Except NotInteger (Option Diagnostic) :=
  let range := item.field "range".toList
  if range.isObject then do
    let (line, character) ← position (range.field "start".toList)
    let (endLine, endCharacter) ← position (range.field "end".toList)
    let endLine := max line endLine
    let column (line units : Nat) : Nat :=
      match lineText with
      | some text => Text.indexAt (text line) units
      | none => units
    let published := (item.field "message".toList).displayOrEmpty
    let raw := carried? item
    let severity ← severityName ((item.field? "severity".toList).getD (.int 1))
    pure (some {
      message := raw.getD published
      line := line
      column := column line character
      endLine := endLine
      endColumn := column endLine endCharacter
      severity := severity
      source := sourceOf (item.field "source".toList) defaultSource
      code := codeText (item.field "code".toList)
      publishedMessage := if raw.isSome then published else [] })
  else pure none

/-- The diagnostics of some items. -/
def ofItems (lineText : Option (Nat → Text)) (defaultSource : Option Text) :
    List Value → Except NotInteger (List Diagnostic)
  | [] => pure []
  | item :: rest => do
    let first ← ofItem lineText defaultSource item
    let others ← ofItems lineText defaultSource rest
    pure (first.toList ++ others)

/-- The diagnostics of a published list; any other value publishes none. -/
def ofPublished (lineText : Option (Nat → Text)) (defaultSource : Option Text) (v : Value) :
    Except NotInteger (List Diagnostic) :=
  match v with
  | .arr items => ofItems lineText defaultSource items
  | _ => pure []

/-- The source of diagnostics that name none. -/
def usualSource : Text := "typescript".toList

end Legible.Diagnostic
