import Legible.Client.Incoming
import Legible.Diagnostic.Interception
import Legible.Language

/-!
# The workspace

A workspace holds the open documents of a project and the client of the language server that
checks them.  The server is started when the first document needs it.  Changes are sent when a
document has been left alone for a while: every document has a timer of its own, and the text that
waits is sent when the timer fires.

Diagnostics that the server publishes are reworded, if that is asked for, and read with the texts
of the open documents.
-/

namespace Legible

namespace Workspace

/-- An open document: its path, its language, its latest text, and the text that waits to be
sent. -/
structure Tracked where
  path : Text
  language : Text
  text : Text
  waiting : Option Text := none
  deriving DecidableEq, Repr

/-- What a workspace does, and what it tells others. -/
inductive Event
  /-- Something that its client does. -/
  | client (e : Client.Event)
  | timerStarted (ms : Nat)
  | timerStopped
  | diagnostics (path : Text) (ds : List Diagnostic)
  | status (text : Text)

end Workspace

/-- An open project. -/
structure Workspace where
  /-- The folder from which relative paths are taken. -/
  base : Text
  root : Text
  /-- Whether the root can be the working folder of the server. -/
  rootExists : Bool := false
  command : Text
  arguments : List Text
  rewordPublished : Bool
  interceptor : Diagnostic.Interceptor
  client : Client
  documents : List Workspace.Tracked := []
  /-- The timers of changed documents in the order of their creation, and whether they run. -/
  timers : List (Text × Bool) := []
  log : List Workspace.Event := []

namespace Workspace

/-- How long a document must be left alone before a change is sent, in milliseconds. -/
def changeDelay : Nat := 320

/-- Records an event. -/
def emit (e : Event) (w : Workspace) : Workspace := { w with log := w.log ++ [e] }

/-- A workspace of a folder. -/
def create (c : Config) (r : Message.Reworder) (base root : Text) (processId : Nat) : Workspace :=
  { base
    root := Path.absolute base (if root.isEmpty then base else root)
    command := c.command
    arguments := c.args
    rewordPublished := c.rewordPublished
    interceptor := .create r c.serverNames
    client := { processId } }

/-- The absolute path of a file. -/
def resolve (w : Workspace) (file : Text) : Text := Path.absolute w.base file

/-! ## Open documents -/

/-- The open document of a path. -/
def find? (w : Workspace) (path : Text) : Option Tracked := w.documents.find? (·.path = path)

/-- Changes the open document of a path. -/
def modify (path : Text) (f : Tracked → Tracked) (w : Workspace) : Workspace :=
  { w with documents := w.documents.map fun d => if d.path = path then f d else d }

/-- Holds a document with its latest text; what waits to be sent stays. -/
def track (path language text : Text) (w : Workspace) : Workspace :=
  match w.find? path with
  | some _ => w.modify path fun d => { d with language, text }
  | none => { w with documents := w.documents ++ [⟨path, language, text, none⟩] }

/-- Drops a document. -/
def untrack (path : Text) (w : Workspace) : Workspace :=
  { w with documents := w.documents.filter (·.path ≠ path) }

/-- An open document as the server is to have it. -/
def Tracked.document (d : Tracked) : Document := ⟨Path.toUri d.path, d.language, d.text⟩

/-- The text of a line of an open document; other documents have no text. -/
def lineText (w : Workspace) (path : Text) (line : Nat) : Text :=
  match w.find? path with
  | some d => ((Text.lines d.text)[line]?).getD []
  | none => []

/-! ## Diagnostics -/

/-- The file that published parameters are about, if they name one. -/
def subject? (w : Workspace) (params : Value) : Option Text :=
  let uri := Text.strip (params.field "uri".toList).displayOrEmpty
  if uri.isEmpty then none else some (w.resolve (Path.ofUri uri))

/-- The diagnostics that a notification publishes for a file; none if it is another notification
or names no file. -/
def published (w : Workspace) (server method : Text) (params : Value) :
    Except NotInteger (Option (Text × List Diagnostic)) :=
  if method = Diagnostic.publishMethod && params.isObject then
    let params :=
      if w.rewordPublished then w.interceptor.handle server method params else params
    match w.subject? params with
    | none => pure none
    | some path => do
      let ds ← Diagnostic.ofPublished (some (w.lineText path)) Diagnostic.usualSource
        (params.field "diagnostics".toList)
      pure (some (path, ds))
  else pure none

/-- What the workspace makes of an event of its client. -/
def reactions (w : Workspace) : Client.Event → List Event
  | .notified server method params =>
    match w.published server method params with
    | .ok (some (path, ds)) => [.diagnostics path ds]
    | _ => []
  | .status text => [.status text]
  | e => [.client e]

/-- How the workspace listens to its client: it has its documents opened on a server that has been
initialized, and a notification is refused where its diagnostics cannot be read. -/
def listener (w : Workspace) : Client.Listener where
  documents := w.documents.map Tracked.document
  check server method params := (w.published server method params).map fun _ => ()

/-! ## The client -/

/-- Lets the client do something, with what it answers. -/
def askClient {α : Type} (f : Client → α × Client) (w : Workspace) : α × Workspace :=
  let (answer, c) := f { w.client with log := [] }
  (answer, { w with
    client := { c with log := [] }
    log := w.log ++ c.log.flatMap w.reactions })

/-- Lets the client do something. -/
def withClient (f : Client → Client) (w : Workspace) : Workspace :=
  (w.askClient fun c => ((), f c)).2

/-- Starts the server if it does not run. -/
def ensureServer (w : Workspace) : Workspace :=
  if w.client.isRunning then w
  else
    let folder := if w.rootExists then some w.root else none
    (w.withClient (Client.start w.command w.arguments folder (Path.toUri w.root))).emit
      (.status ("Starting ".toList ++ Path.baseName w.command))

/-! ## Timers -/

/-- The timers with that of a document running. -/
def runTimer (path : Text) : List (Text × Bool) → List (Text × Bool)
  | [] => [(path, true)]
  | (p, active) :: rest =>
    if p = path then (p, true) :: rest else (p, active) :: runTimer path rest

/-- Starts the timer of a document anew. -/
def startTimer (path : Text) (w : Workspace) : Workspace :=
  { w with timers := runTimer path w.timers }.emit (.timerStarted changeDelay)

/-- Drops the timer of a document, if it has one. -/
def dropTimer (path : Text) (w : Workspace) : Workspace :=
  if w.timers.any (·.1 = path) then
    { w with timers := w.timers.filter (·.1 ≠ path) }.emit .timerStopped
  else w

/-! ## Operations -/

/-- Opens a document of the family, or changes it if it is open; other files are left alone. -/
def openDocument (file text : Text) (w : Workspace) : Workspace :=
  let path := w.resolve file
  if Language.isFamily path then
    let language := Language.ofPath path Client.usualLanguage
    (w.track path language text).ensureServer.withClient fun c =>
      (c.send ⟨Path.toUri path, language, text⟩).2
  else w

/-- Takes a new text of an open document, which is sent when the timer fires. -/
def changeDocument (file text : Text) (w : Workspace) : Workspace :=
  let path := w.resolve file
  match w.find? path with
  | none => w
  | some _ => (w.modify path fun d => { d with text, waiting := some text }).startTimer path

/-- Sends the text that waits, if any. -/
def flush (path : Text) (w : Workspace) : Workspace :=
  match w.find? path with
  | some d =>
    match d.waiting with
    | some text =>
      (w.modify path fun d => { d with waiting := none }).withClient fun c =>
        (c.send ⟨Path.toUri path, d.language, text⟩).2
    | none => w
  | none => w

/-- Closes a document; its diagnostics are gone. -/
def closeDocument (file : Text) (w : Workspace) : Workspace :=
  let path := w.resolve file
  match w.find? path with
  | none => w
  | some _ =>
    (((w.untrack path).dropTimer path).withClient (Client.closeDocument (Path.toUri path))).emit
      (.diagnostics path [])

/-- Forgets all documents and stops the server. -/
def shutdown (w : Workspace) : Workspace :=
  let w := w.timers.foldl (fun w _ => w.emit .timerStopped) w
  { w with timers := [], documents := [] }.withClient Client.stop

/-- The timer of a document fires, if it runs. -/
def timerFired (path : Text) (w : Workspace) : Workspace :=
  flush path { w with timers := w.timers.map fun t => if t.1 = path then (path, false) else t }

/-- All timers that run fire: that of the client, then those of the documents in the order of
their creation. -/
def fireTimers (w : Workspace) : Workspace :=
  let due := (w.timers.filter (·.2)).map (·.1)
  due.foldl (fun w path => w.timerFired path) (w.withClient Client.killTimerFired)

/-- Takes octets that the server has written. -/
def receive (bs : Bytes) (w : Workspace) : Except NotInteger Unit × Workspace :=
  w.askClient (Client.receive w.listener bs)

/-- Takes a notification of the server. -/
def notification (method : Text) (params : Value) (w : Workspace) :
    Except NotInteger Unit × Workspace :=
  match w.published w.client.serverName method params with
  | .ok (some (path, ds)) => (.ok (), w.emit (.diagnostics path ds))
  | .ok none => (.ok (), w)
  | .error e => (.error e, w)

end Workspace

end Legible
