import Legible.Application
import Legible.Transcript.Editor
import Legible.Transcript.Popup
import Legible.Transcript.Workspace

/-!
# Transcripts of the window

What happens in the window and when the application starts, and what they have come to.
-/

namespace Legible

open Transcript (entry)

/-- How a text about a file that was not opened begins. -/
def Transcript.couldNotOpen : Text := "Could not open ".toList

/-- An entry without the reason for which a file was not opened, which depends on the system. -/
def Transcript.withoutReason (v : Value) : Value :=
  match v with
  | .arr [.str name, .str t] =>
    if name = "status".toList && couldNotOpen.isPrefixOf t then
      .arr [.str name, .str (((Text.cutAtPart? ": ".toList t).map (·.1)).getD t)]
    else v
  | _ => v

namespace Window

/-- The entry of an event of the window. -/
def Event.toEntry? : Event → Option Value
  | resized width height => some (entry "resize" [.ofNat width, .ofNat height])
  | editor e => e.shownEntry?
  | workspace (.diagnostics ..) => none
  | workspace e => e.toEntry?
  | debouncer (.timerStart ms) => some (entry "timer_start" [.ofNat ms])
  | debouncer .timerStop => some (entry "timer_stop" [])
  | debouncer (.ran _) => none
  | status t => some (entry "status" [.str t])
  | opened _ => none
  | dialog title folder filters => some (entry "dialog" [.str title, .str folder, .str filters])
  | closed => some (entry "closed" [])

/-- The menus with the texts of their items. -/
def menusRecord : Value :=
  .arr (menus.map fun (title, choices) =>
    .arr [.str title, .arr (choices.map fun i => .ofText? i.text?)])

/-- What the window has come to. -/
def record (w : Window) : List (String × Value) :=
  w.editor.record ++ [
    ("title", .str w.title), ("file", .ofText? w.editor.file), ("enabled", .bool w.popup.enabled),
    ("checked", .bool w.isChecked), ("timers", .arr (w.timersRunning.map .bool)),
    ("popup", match w.panel? with
      | some p => .record (w.popup.host.panelRecord p)
      | none => .null)]

end Window

namespace Application

/-- The entry of an event of the start. -/
def Event.toEntry? : Event → Option Value
  | created arguments => some (entry "application" [.ofTexts arguments])
  | styled name => some (entry "style" [.str name])
  | named name => some (entry "application_name" [.str name])
  | window e => e.toEntry?
  | shown => some (entry "show" [])

/-- What the application has come to. -/
def record (a : Application) : List (String × Value) :=
  [("level", .str (Log.levelName a.log.level)), ("warnings", .ofNat a.warnings),
    ("events", .arr (a.events.filterMap Event.toEntry?)), ("title", .str a.window.title),
    ("root", .str a.window.workspace.root), ("file", .ofText? a.window.editor.file),
    ("text", .str a.window.editor.text), ("enabled", .bool a.window.popup.enabled),
    ("max_height", .int a.window.config.maxHeight), ("prefix", .str a.window.config.lead)]

end Application

end Legible
