import Legible.Editor.Basic
import Legible.Transcript.Basic

/-!
# Transcripts of the editor

What happens to an editor, and what it has come to.
-/

namespace Legible.Editor

open Transcript (entry signal)

/-- The entry of what is seen of an event from outside. -/
def Event.shownEntry? : Event → Option Value
  | idleStarted => some (entry "timer_start" [.null])
  | idleStopped => some (entry "timer_stop" [])
  | tooltip t => some (entry "tooltip" [.str t])
  | tooltipHidden => some (entry "hide_tooltip" [])
  | hoverIgnored => some (entry "ignored" [])
  | eventPassedOn => some (entry "base_viewport_event" [])
  | focusPassedOn => some (entry "base_focus_out" [])
  | _ => none

/-- The entry of an event. -/
def Event.toEntry? : Event → Option Value
  | cursorMoved => some (signal "cursorMoved" [])
  | cursorIdle => some (signal "cursorIdle" [])
  | focusLost => some (signal "focusLost" [])
  | editingStarted => some (signal "editingStarted" [])
  | textChanged => some (signal "textChanged" [])
  | e => e.shownEntry?

/-- The key of a name. -/
def Key.ofName (name : Text) : Key :=
  match String.ofList name with
  | "Left" => left
  | "Right" => right
  | "Backspace" => backspace
  | "Delete" => delete
  | _ => other

/-- The text, the cursor and the underlines of an editor. -/
def record (e : Editor) : List (String × Value) :=
  [("text", .str e.text), ("cursor", .arr [.ofNat e.place.1, .ofNat e.place.2]),
    ("lint", .arr (e.underlines.map fun u =>
      .arr [.ofNat u.start, .ofNat u.stop, .literal "wave", .str u.color]))]

end Legible.Editor
