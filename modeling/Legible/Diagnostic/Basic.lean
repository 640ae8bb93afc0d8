import Legible.Text.Basic

/-!
# Diagnostics

A diagnostic is a problem that is reported for a range of a document.  Lines and columns count
from zero, and columns count characters.  `covers` says whether a place lies in the range, both
ends included; a range that goes on over several lines covers the rest of its first line, all of
its middle lines, and its last line up to its end.
-/

namespace Legible

/-- A reported problem. -/
structure Diagnostic where
  message : Text
  line : Int
  column : Int
  endLine : Int
  endColumn : Int
  severity : Text := "error".toList
  /-- Who reported the problem; none where not even a default is known. -/
  source : Option Text := some []
  code : Text := []
  /-- The message as it was delivered after rewording; empty when it was not reworded. -/
  publishedMessage : Text := []
  deriving DecidableEq, Repr

namespace Diagnostic

/-- Whether a line is one of those of a diagnostic. -/
def hasLine (d : Diagnostic) (line : Int) : Bool := d.line ≤ line && line ≤ d.endLine

/-- Whether a place lies in the range of a diagnostic. -/
def covers (d : Diagnostic) (line column : Int) : Bool :=
  if line < d.line || d.endLine < line then false
  else
    let start := if line = d.line then d.column else 0
    if line < d.endLine then start ≤ column else start ≤ column && column ≤ d.endColumn

/-- The diagnostics whose range begins on a line. -/
def onLine (ds : List Diagnostic) (line : Int) : List Diagnostic := ds.filter (·.line = line)

/-- The diagnostics whose range covers a place. -/
def select (ds : List Diagnostic) (line column : Int) : List Diagnostic :=
  ds.filter (·.covers line column)

/-! ## Order -/

/-- Whether a place comes before another or is the same. -/
def placeLe (p q : Int × Int) : Bool := p.1 < q.1 || p.1 = q.1 && p.2 ≤ q.2

/-- Whether a place comes before another. -/
def placeLt (p q : Int × Int) : Bool := p.1 < q.1 || p.1 = q.1 && p.2 < q.2

/-- Where a diagnostic begins. -/
def start (d : Diagnostic) : Int × Int := (d.line, d.column)

/-- The diagnostics in the order of their beginnings; equal ones keep their order. -/
def sorted (ds : List Diagnostic) : List Diagnostic :=
  ds.mergeSort fun d e => placeLe d.start e.start

/-- The first diagnostic that begins after a place, or else the first of all. -/
def next? (ds : List Diagnostic) (line column : Int) : Option Diagnostic :=
  let ordered := sorted ds
  (ordered.find? fun d => placeLt (line, column) d.start).or ordered.head?

/-- The last diagnostic that begins before a place, or else the last of all. -/
def previous? (ds : List Diagnostic) (line column : Int) : Option Diagnostic :=
  let ordered := sorted ds
  (ordered.reverse.find? fun d => placeLt d.start (line, column)).or ordered.getLast?

/-! ## Severity -/

/-- The rank of a severity of a known name. -/
def rank? (severity : Text) : Option Nat :=
  if severity = "error".toList then some 3
  else if severity = "warning".toList then some 2
  else if severity = "info".toList then some 1
  else if severity = "hint".toList then some 0
  else none

/-- The rank of a severity; unknown names rank with errors. -/
def rankOf (severity : Text) : Nat := (rank? severity).getD 3

/-! ## Texts -/

/-- What is shown for the diagnostics under a place. -/
def hoverText (ds : List Diagnostic) (line column : Int) : Text :=
  Text.join "\n\n".toList ((select ds line column).map fun d =>
    if d.publishedMessage.isEmpty then d.message else d.publishedMessage)

end Diagnostic

end Legible
