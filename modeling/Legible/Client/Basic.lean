import Legible.Client.Outgoing
import Legible.Frame

/-!
# The client of a language server

The client runs one language server at a time and talks to it in frames.  What belongs to one run
of the server is its `Session`: the requests that wait for an answer, the versions of the documents
that are open, and the messages that are held back until the server has been initialized.

The client records what it does, in order, in its log.
-/

namespace Legible

/-- How far the process of a server has come. -/
inductive ProcessState
  | notRunning
  | starting
  | running
  deriving DecidableEq, Repr

namespace Client

/-- What the answer to a request is for. -/
inductive Purpose
  /-- The answer completes the initialization. -/
  | initialization
  /-- The answer lets the server exit. -/
  | shutdown
  /-- The answer goes to the caller, who may care for errors or not. -/
  | caller (wantsError : Bool)
  deriving DecidableEq, Repr

/-- A request that waits for an answer. -/
structure Request where
  method : Text
  purpose : Purpose
  deriving DecidableEq, Repr

/-- What belongs to one run of the server. -/
structure Session where
  initialized : Bool := false
  nextId : Nat := 1
  requests : List (Nat × Request) := []
  /-- The messages that are held back, in order. -/
  backlog : List Outgoing := []
  /-- The versions of the open documents, by address. -/
  versions : List (Text × Nat) := []
  capabilities : Fields := []

/-- What the client does, and what it tells others. -/
inductive Event
  | workingFolder (path : Text)
  | launched (program : Text) (arguments : List Text)
  /-- The server was asked to start although it runs. -/
  | launchIgnored (program : Text) (arguments : List Text)
  | wrote (m : Outgoing)
  | writeFailed
  | terminated
  | killed
  | timerStarted (ms : Nat)
  | timerStopped
  | started
  /-- The process has ended.  The program logs it, as a warning unless its end was wanted. -/
  | ended (wanted : Bool)
  | stopped
  | ready
  | notified (server method : Text) (params : Value)
  | status (text : Text)
  | result (id : Nat) (value : Value)
  | failure (id : Nat) (value : Value)

end Client

/-- The client, with the process that it runs. -/
structure Client where
  /-- The number of the process of the client itself. -/
  processId : Nat
  process : ProcessState := .notRunning
  /-- Whether writing to the process fails. -/
  writesFail : Bool := false
  /-- How deeply the messages of the server may be nested; none where there is no bound. -/
  bodyDepth : Option Nat := none
  /-- How deeply the refusal of a request may be nested; none where there is no bound. -/
  refusalDepth : Option Nat := none
  /-- What the process says about its last error. -/
  errorText : Text := []
  /-- Whether the process ends as soon as it is asked to. -/
  exitsAtOnce : Bool := false
  reader : Frame.Reader := {}
  session : Client.Session := {}
  /-- Whether the end of the process is wanted. -/
  stopping : Bool := false
  /-- Whether the timer runs after which the process is ended by force. -/
  killTimer : Bool := false
  program : Text := []
  root : Text := []
  serverName : Text := []
  log : List Client.Event := []

namespace Client

/-- How long the server may take to shut down, in milliseconds. -/
def graceTime : Nat := 1200

/-- Records an event. -/
def emit (e : Event) (c : Client) : Client := { c with log := c.log ++ [e] }

/-- Changes the session. -/
def mapSession (f : Session → Session) (c : Client) : Client := { c with session := f c.session }

/-- Whether there is a process. -/
def isRunning (c : Client) : Bool := c.process ≠ .notRunning

/-- Whether the server has been initialized. -/
def isReady (c : Client) : Bool := c.isRunning && c.session.initialized

/-- Begins a session, in which nothing has been said. -/
def beginSession (c : Client) : Client := { c with session := {}, reader := {} }

/-! ## Writing -/

/-- What is said about a failure to write, unless the end of the process is wanted anyway. -/
def reportWriteFailure (c : Client) : Client :=
  if c.stopping then c else c.emit (.status ("LSP write failed: ".toList ++ c.errorText))

/-- Writes a message, if there is a process.  A refusal that cannot be written does not come this
far: `Client.hear` sees to it. -/
def write (m : Outgoing) (c : Client) : Client :=
  if c.isRunning then
    if c.writesFail then (c.emit .writeFailed).reportWriteFailure else c.emit (.wrote m)
  else c

/-- Holds a message back. -/
def hold (m : Outgoing) (c : Client) : Client :=
  c.mapSession fun s => { s with backlog := s.backlog ++ [m] }

/-- Writes a message, or holds it back until the server has been initialized.  Where there is no
process the message is lost. -/
def post (m : Outgoing) (c : Client) : Client :=
  if c.isRunning then
    if c.session.initialized then c.write m else c.hold m
  else c

/-! ## Requests -/

/-- Takes the next number for a request, which waits for its answer from now on. -/
def register (r : Request) (c : Client) : Nat × Client :=
  let id := c.session.nextId
  (id, c.mapSession fun s => { s with nextId := id + 1, requests := s.requests ++ [(id, r)] })

/-- The requests that are not held back: those that begin and end a session. -/
def isUrgent (method : Text) : Bool :=
  method = "initialize".toList || method = "shutdown".toList

/-- Asks the server on behalf of a caller; void parameters become an empty object. -/
def request (method : Text) (params : Value) (wantsError : Bool) (c : Client) : Nat × Client :=
  let (id, c) := c.register ⟨method, .caller wantsError⟩
  let m : Outgoing := .request id method (params.orElse (.obj []))
  (id, if isUrgent method then c.write m else c.post m)

/-- Tells the server something; void parameters become an empty object. -/
def notify (method : Text) (params : Value) (c : Client) : Client :=
  c.post (.notify method (params.orElse (.obj [])))

/-- Asks the server to initialize itself. -/
def askInitialize (c : Client) : Client :=
  let (id, c) := c.register ⟨"initialize".toList, .initialization⟩
  c.write (.initializeRequest id c.processId c.root)

/-- Asks the server to shut down. -/
def askShutdown (c : Client) : Client :=
  let (id, c) := c.register ⟨"shutdown".toList, .shutdown⟩
  c.write (.request id "shutdown".toList (.obj []))

end Client

end Legible
