import Legible.Controller
import Legible.Popup.Recorder

/-!
# Sessions of the controller

A session is the controller with its popup, over a host that keeps a record, and an editor of
which only what the controller sees is modelled.  `step` says what every event does to it.  Work
that is put off waits until the session is told to do it, and only the last request for it counts.
-/

namespace Legible.Controller

/-- What can happen. -/
inductive Event
  | cursorMoved
  | cursorIdle
  | bufferLeft
  | insertEntered
  | diagnosticsChanged
  | process
  | toggle
  | showAtCursor
  | nextError
  | prevError
  /-- The cursor of the editor is put somewhere else. -/
  | setCursor (line column : Int)
  | setKind (kind : Text)
  | setDiagnostics (ds : List Diagnostic)
  /-- The work that was put off is done. -/
  | flush
  | loseSurface
  | loseBuffer

/-- The controller with its popup and its editor. -/
structure Session where
  config : Config
  reworder : Message.Reworder
  /-- Whether work can be put off; it is done at once otherwise. -/
  defers : Bool := true
  view : View
  popup : Popup Popup.Recorder
  /-- Whether work has been put off. -/
  pending : Bool := false
  /-- The delays asked for, the last first. -/
  delays : List Int := []
  /-- The texts for the status line, the last first. -/
  status : List Text := []

namespace Session

/-- Changes the popup. -/
def mapPopup (s : Session) (f : Popup Popup.Recorder → Popup Popup.Recorder) : Session :=
  { s with popup := f s.popup }

/-- Shows the diagnostics at the cursor if the popup is switched on. -/
def process (s : Session) : Session :=
  s.mapPopup (Controller.process s.config s.reworder s.view)

/-- Shows the diagnostics at the cursor. -/
def evaluate (s : Session) : Bool × Session :=
  let (shown, popup) := Controller.evaluate s.config s.reworder s.view s.popup
  (shown, { s with popup })

/-- Puts off showing the diagnostics at the cursor. -/
def putOff (s : Session) : Session :=
  if s.defers then { s with pending := true, delays := s.config.debounceMs :: s.delays }
  else s.process

/-- Goes to another diagnostic and shows it. -/
def jump (s : Session) (forward : Bool) : Bool × Session :=
  match target? s.view forward with
  | none => (false, s)
  | some d => (true, { s with view := { s.view with cursor := d.start } }.evaluate.2)

/-- Switches the popup on or off and says so. -/
def toggle (s : Session) : Session :=
  let s := s.mapPopup (Controller.toggle s.config s.reworder s.view)
  { s with status := statusText s.popup.enabled :: s.status }

/-- What an event does, and whether it has succeeded where it can fail. -/
def step (s : Session) : Event → Option Bool × Session
  | .cursorMoved => (none, s.process)
  | .cursorIdle => (none, s.process)
  | .bufferLeft => (none, s.mapPopup Popup.close)
  | .insertEntered => (none, s.mapPopup Popup.close)
  | .diagnosticsChanged => (none, if s.popup.enabled then s.putOff else s)
  | .process => (none, s.process)
  | .toggle =>
    let s := s.toggle
    (some s.popup.enabled, s)
  | .showAtCursor =>
    let (shown, s) := s.evaluate
    (some shown, s)
  | .nextError =>
    let (found, s) := s.jump true
    (some found, s)
  | .prevError =>
    let (found, s) := s.jump false
    (some found, s)
  | .setCursor line column => (none, { s with view := { s.view with cursor := (line, column) } })
  | .setKind kind => (none, { s with view := { s.view with kind } })
  | .setDiagnostics diagnostics => (none, { s with view := { s.view with diagnostics } })
  | .flush => (none, if s.pending then { s with pending := false }.process else s)
  | .loseSurface => (none, s.mapPopup Popup.loseSurface)
  | .loseBuffer => (none, s.mapPopup Popup.loseBuffer)

end Session

end Legible.Controller
