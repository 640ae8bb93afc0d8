import Legible.Controller
import Legible.Debounce
import Legible.Editor.Basic
import Legible.Files
import Legible.Popup.Overlay
import Legible.Workspace.Basic

/-!
# The window

The window puts everything together: an editor for one document, the popup over it, and the
workspace whose server checks the document.  What happens to the editor and in the workspace is
answered in the order in which it happens: `onEditor` and `onWorkspace` say how.

The window owns the diagnostics of its document and no others: opening a document drops those of
the document before it.  A file that cannot be opened changes nothing.
-/

namespace Legible

namespace Window

/-- What happens in the window. -/
inductive Event
  | resized (width height : Nat)
  | editor (e : Editor.Event)
  | workspace (e : Workspace.Event)
  | debouncer (e : DebounceEvent Unit)
  | status (text : Text)
  /-- The editor holds the text of a file that was opened. -/
  | opened (path : Text)
  | dialog (title folder filters : Text)
  | closed

end Window

/-- The window. -/
structure Window where
  config : Config
  reworder : Message.Reworder
  files : Files
  editor : Editor := {}
  popup : Popup Popup.Overlay
  debouncer : Debouncer Unit := {}
  workspace : Workspace
  title : Text
  log : List Window.Event := []

namespace Window

/-- The name of the program. -/
def programName : Text := "Pretty TS Errors".toList

/-- Records an event. -/
def emit (e : Event) (w : Window) : Window := { w with log := w.log ++ [e] }

/-- Shows a text in the status line. -/
def showStatus (text : Text) (w : Window) : Window := w.emit (.status text)

/-- Whether the action that switches the popup on and off shows a check mark. -/
def isChecked (w : Window) : Bool := w.popup.enabled

/-! ## The popup -/

/-- What the controller sees of the editor. -/
def view (w : Window) : View :=
  let (line, column) := w.editor.place
  ⟨w.editor.kind, (line, column), w.editor.diagnostics⟩

/-- Closes the popup. -/
def closePopup (w : Window) : Window := { w with popup := w.popup.close }

/-- Shows the diagnostics at the cursor if the popup is switched on. -/
def process (w : Window) : Window :=
  { w with popup := Controller.process w.config w.reworder w.view w.popup }

/-- Shows the diagnostics at the cursor. -/
def showAtCursor (w : Window) : Window :=
  { w with popup := (Controller.evaluate w.config w.reworder w.view w.popup).2 }

/-- Does something with the debouncer; what it runs is the processing of the diagnostics. -/
def withDebouncer (f : Debouncer Unit → Debouncer Unit × List (DebounceEvent Unit)) (w : Window) :
    Window :=
  let (debouncer, events) := f w.debouncer
  events.foldl (fun w e =>
    match e with
    | .ran _ => w.process
    | e => w.emit (.debouncer e)) { w with debouncer }

/-- The diagnostics have changed: they are processed when no more changes come. -/
def diagnosticsChanged (w : Window) : Window :=
  if w.popup.enabled then w.withDebouncer (·.call w.config.debounceMs ()) else w

/-! ## The workspace -/

/-- New diagnostics of a file, which count if it is the one in the editor. -/
def diagnosticsUpdated (path : Text) (ds : List Diagnostic) (w : Window) : Window :=
  match w.editor.file with
  | none => w
  | some file =>
    if !file.isEmpty && w.workspace.resolve file = w.workspace.resolve path then
      { w with editor := w.editor.setDiagnostics ds }.diagnosticsChanged
    else w

/-- How the window answers what happens in the workspace. -/
def onWorkspace (w : Window) : Workspace.Event → Window
  | .diagnostics path ds => (w.emit (.workspace (.diagnostics path ds))).diagnosticsUpdated path ds
  | .status text => w.showStatus text
  | e => w.emit (.workspace e)

/-- Does something with the workspace, with its answer. -/
def askWorkspace {α : Type} (f : Workspace → α × Workspace) (w : Window) : α × Window :=
  let (answer, ws) := f { w.workspace with log := [] }
  (answer, ws.log.foldl onWorkspace { w with workspace := { ws with log := [] } })

/-- Does something with the workspace. -/
def withWorkspace (f : Workspace → Workspace) (w : Window) : Window :=
  (w.askWorkspace fun ws => ((), f ws)).2

/-! ## The editor -/

/-- The text of the editor has changed. -/
def textChanged (w : Window) : Window :=
  match w.editor.file with
  | none => w
  | some file =>
    if file.isEmpty then w else w.withWorkspace (Workspace.changeDocument file w.editor.text)

/-- How the window answers what happens to the editor. -/
def onEditor (w : Window) (e : Editor.Event) : Window :=
  match e with
  | .cursorMoved => w.process
  | .cursorIdle => w.process
  | .focusLost => w.closePopup
  | .editingStarted => w.closePopup
  | .textChanged => w.textChanged
  | e => w.emit (.editor e)

/-- Does something with the editor. -/
def withEditor (f : Editor → Editor × List Editor.Event) (w : Window) : Window :=
  let (editor, events) := f w.editor
  events.foldl onEditor { w with editor }

/-! ## Commands -/

/-- Switches the popup on or off and says so. -/
def toggle (w : Window) : Window :=
  let popup := Controller.toggle w.config w.reworder w.view w.popup
  { w with popup }.showStatus (Controller.statusText popup.enabled)

/-- Goes to another diagnostic and shows it. -/
def jump (forward : Bool) (w : Window) : Window :=
  match Controller.target? w.view forward with
  | none => w
  | some d => (w.withEditor (Editor.goTo d.line d.column)).showAtCursor

/-- Carries a command out. -/
def run (w : Window) : Command → Window
  | .toggle => w.toggle
  | .showAtCursor => w.showAtCursor
  | .nextError => w.jump true
  | .prevError => w.jump false

/-! ## Documents -/

/-- The title while a file is open. -/
def titleFor (path : Text) : Text := programName ++ " [".toList ++ Path.baseName path ++ [']']

/-- Puts a text that has been read into the editor. -/
def showFile (path text : Text) (w : Window) : Window :=
  let w := match w.editor.file with
    | some file => if file.isEmpty then w else w.withWorkspace (Workspace.closeDocument file)
    | none => w
  let w := w.closePopup
  let editor := ({ w.editor.setDiagnostics [] with file := some path }).load text
  let w := { w with editor, title := titleFor path }.emit (.opened path)
  w.withWorkspace (Workspace.openDocument path text)

/-- Opens a file, if it has a text. -/
def openFile (file : Text) (w : Window) : Bool × Window :=
  let path := w.workspace.resolve file
  match w.files.readText path with
  | .error e =>
    (false, w.showStatus
      ("Could not open ".toList ++ Path.baseName path ++ ": ".toList ++ e.message))
  | .ok text => (true, w.showFile path text)

/-- The files that the dialog offers. -/
def fileFilters : Text :=
  ("TypeScript / JavaScript (*.ts *.tsx *.mts *.cts *.js *.jsx *.mjs *.cjs);;" ++
    "All Files (*)").toList

/-- Asks for a file and opens it; the answer is empty where none was chosen. -/
def askForFile (answer : Text) (w : Window) : Window :=
  let w := w.emit (.dialog "Open File".toList w.workspace.root fileFilters)
  if answer.isEmpty then w else (w.openFile answer).2

/-! ## The window itself -/

/-- A window over a workspace. -/
def create (config : Config) (reworder : Message.Reworder) (files : Files)
    (workspace : Workspace) : Window :=
  let w : Window := {
    config, reworder, files, workspace
    editor := ({} : Editor).setColors config.colors.toList
    popup := { enabled := config.enabled, host := {} }
    title := programName }
  (w.emit (.resized 1000 720)).showStatus "Ready".toList

/-- Closes the window. -/
def close (w : Window) : Window :=
  (((w.withDebouncer Debouncer.cancel).closePopup).withWorkspace Workspace.shutdown).emit .closed

/-- All timers that run fire: those of the editor, of the debouncer and of the workspace. -/
def fireTimers (w : Window) : Window :=
  ((w.withEditor Editor.idleFired).withDebouncer Debouncer.fire).withWorkspace
    Workspace.fireTimers

/-- Whether the timers run. -/
def timersRunning (w : Window) : List Bool :=
  [w.editor.idleTimer, w.debouncer.active, w.workspace.client.killTimer] ++
    w.workspace.timers.map (·.2)

/-- What a menu offers. -/
inductive MenuItem
  | openFile
  | separator
  | quit
  | command (c : Command)
  deriving DecidableEq, Repr

/-- The text of an item, which separators lack. -/
def MenuItem.text? : MenuItem → Option Text
  | openFile => some "Open File...".toList
  | separator => none
  | quit => some "Quit".toList
  | command c => some c.title

/-- The menus. -/
def menus : List (Text × List MenuItem) := [
  ("&File".toList, [.openFile, .separator, .quit]),
  ("&TypeScript".toList, Command.all.map .command)]

/-- Chooses an item of a menu; the answer is for the dialog that it may open. -/
def choose (answer : Text) (w : Window) : MenuItem → Window
  | .openFile => w.askForFile answer
  | .separator => w
  | .quit => w.close
  | .command c => w.run c

/-- The panel of the popup, if there is one. -/
def panel? (w : Window) : Option Popup.Panel :=
  w.popup.surface.bind fun s => w.popup.host.panels[s]?

end Window

end Legible
