import Legible.Controller.Session
import Legible.Debounce
import Legible.Popup.Overlay
import Legible.Transcript.Basic

/-!
# Transcripts of the popup

What is asked of a host, what is drawn on the overlay, and what becomes of the controller.
-/

namespace Legible

open Transcript (entry)

/-- The look that some fields describe; what is missing is as usual. -/
def SurfaceLook.ofFields (fs : Fields) : SurfaceLook :=
  let text (key : String) (usual : Text) : Text := (fs.get? key.toList).elim usual Value.display
  let usual : SurfaceLook := {}
  { severity := some (text "severity" "error".toList)
    borderColor := text "border_color" usual.borderColor
    border := text "border" usual.border }

namespace Popup

/-- The parts of the record of a span. -/
def Span.parts (s : Span) : List Value :=
  [.int s.line, .int s.mark.start, .int s.mark.stop, .str s.mark.style.name]

/-- The span of a line and of the bounds and the style of a mark, which are read as numbers and as
a text. -/
def Span.ofValues (line start stop style : Value) : Except NotInteger Span := do
  let line ← line.toInteger
  let start ← start.toInteger
  let stop ← stop.toInteger
  pure ⟨line, start, stop, .ofName style.display⟩

/-- The entry of a call. -/
def Call.toEntry : Call → Value
  | createBuffer b => entry "create_buffer" [.ofNat b]
  | setLines b lines => entry "set_buffer_lines" [.ofNat b, .ofTexts lines]
  | clearHighlights b => entry "clear_highlights" [.ofNat b]
  | applyHighlight b span => entry "apply_highlight" (.ofNat b :: span.parts)
  | createSurface s b place look =>
    entry "create_surface" [.ofNat s, .ofNat b, .arr [.int place.row, .int place.col],
      .int place.width, .int place.height,
      .arr [.ofText? look.severity, .str look.borderColor, .str look.border]]
  | close s => entry "close" [.ofNat s]
  | discardBuffer b => entry "discard_buffer" [.ofNat b]

/-- What a host was asked for, and the handles of its popup. -/
def callsRecord (p : Popup Recorder) : List (String × Value) :=
  [("calls", .arr (p.host.takeCalls.1.map Call.toEntry)), ("surface", .ofNat? p.surface),
    ("buffer", .ofNat? p.buffer)]

/-- The record of something that is drawn. -/
def Run.toRecord (r : Run) : Value :=
  .arr [.ofNat r.start, .ofNat r.count, .str r.format.color, .bool r.format.bold,
    .bool r.format.italic]

/-- The text of a buffer and what is drawn on its lines. -/
def Scratch.record (s : Scratch) : List (String × Value) :=
  [("text", .str s.text), ("formats", .arr (s.runs.map fun rs => .arr (rs.map Run.toRecord)))]

/-- A panel, with the text of its buffer. -/
def Overlay.panelRecord (o : Overlay) (p : Panel) : List (String × Value) :=
  [("size", .arr [.int p.width, .int p.height]), ("at", .arr [.int p.left, .int p.top]),
    ("visible", .bool p.visible), ("deleted", .bool !p.alive), ("style", .str p.styleSheet)] ++
    ((o.buffers[p.buffer]?).getD {}).record

/-- All buffers and all panels. -/
def Overlay.record (o : Overlay) : List (String × Value) :=
  [("buffers", .arr (o.buffers.map fun s => .record (("valid", .bool s.alive) :: s.record))),
    ("surfaces",
      .arr (o.panels.map fun p => .record (("valid", .bool p.isShown) :: o.panelRecord p))),
    ("highlighters", .ofNat o.listed)]

end Popup

namespace Controller

/-- The event of a name; other fields tell more about it. -/
def Event.ofRecord? (name : String) (v : Value) : Option Event :=
  match name with
  | "on_cursor_moved" => some .cursorMoved
  | "on_cursor_idle" => some .cursorIdle
  | "on_buffer_left" => some .bufferLeft
  | "on_insert_entered" => some .insertEntered
  | "on_diagnostics_changed" => some .diagnosticsChanged
  | "process_diagnostics" => some .process
  | "toggle" => some .toggle
  | "show_at_cursor" => some .showAtCursor
  | "next_error" => some .nextError
  | "prev_error" => some .prevError
  | "cursor" =>
    let (line, column) := Transcript.place (v.field "to".toList)
    some (.setCursor line column)
  | "diagnostics" =>
    (Diagnostic.ofRecords? (v.field "diagnostics".toList)).map .setDiagnostics
  | "kind" => some (.setKind (v.field "kind".toList).displayOrEmpty)
  | "flush" => some .flush
  | "lose_surface" => some .loseSurface
  | "lose_buffer" => some .loseBuffer
  | _ => none

/-- What a session has come to. -/
def Session.record (s : Session) : List (String × Value) :=
  Popup.callsRecord s.popup ++ [
    ("enabled", .bool s.popup.enabled),
    ("cursor", .arr [.int s.view.cursor.1, .int s.view.cursor.2]),
    ("deferred", .arr (s.delays.reverse.map .int)),
    ("pending", .ofNat (if s.pending then 1 else 0)),
    ("status", .ofTexts s.status.reverse)]

end Controller

/-- The entry of what a debouncer does; its callbacks are known by values. -/
def DebounceEvent.toEntry : DebounceEvent Value → Value
  | timerStart ms => entry "timer_start" [.ofNat ms]
  | timerStop => entry "timer_stop" []
  | ran callback => entry "ran" [callback]

end Legible
