import Legible.Client.Lifecycle
import Legible.Text.Blank

/-!
# Messages from the server

A message with a number and no method answers a request, a message with both is a request of the
server, which is refused, and a message with a method alone is a notification.  The answer to a
request is handled once; other answers, late ones among them, are ignored.  A message that cannot be
handled costs those behind it.

When the server has been initialized it is told so, then the documents of the listener are sent,
and then the messages that were held back.
-/

namespace Legible

/-- Who listens to a client: the documents that are to be open on the server, and whether a
notification can be handled. -/
structure Client.Listener where
  documents : List Document := []
  check : (server method : Text) → Value → Except NotInteger Unit := fun _ _ _ => .ok ()

namespace Client

/-- The name that the answer to the first request gives the server. -/
def nameIn (result : Fields) : Text :=
  Text.strip ((Fields.getD "serverInfo".toList result).field "name".toList).displayOrEmpty

/-- Writes the messages that were held back. -/
def releaseBacklog (c : Client) : Client :=
  (c.session.backlog).foldl (fun c m => c.write m) (c.mapSession fun s => { s with backlog := [] })

/-- The server has been initialized. -/
def serverInitialized (l : Listener) (result : Value) (c : Client) : Client :=
  let name := nameIn result.fields
  let c := if name.isEmpty then c else { c with serverName := name }
  let c := c.mapSession fun s =>
    { s with
      initialized := true
      capabilities := (Fields.getD "capabilities".toList result.fields).fields }
  (((c.write .initialized).emit .ready).sendAll l.documents).releaseBacklog

/-- Lets the server exit. -/
def sendExit (c : Client) : Client := c.write .exit

/-- Handles the result of a request. -/
def handleResult (l : Listener) (id : Nat) (value : Value) (c : Client) : Purpose → Client
  | .initialization => c.serverInitialized l value
  | .shutdown => c.sendExit
  | .caller _ => c.emit (.result id value)

/-- Handles the failure of a request. -/
def handleFailure (id : Nat) (value : Value) (c : Client) : Purpose → Client
  | .initialization => c.emit (.status ("LSP initialize failed: ".toList ++ value.display))
  | .shutdown => c.sendExit
  | .caller true => c.emit (.failure id value)
  | .caller false => c

/-- Takes a request from those that wait. -/
def takeRequest (id : Nat) (c : Client) : Client :=
  c.mapSession fun s => { s with requests := s.requests.filter (·.1 ≠ id) }

/-- Handles an answer to the request of a number. -/
def answered (l : Listener) (n : Int) (message : Fields) (c : Client) : Client :=
  match n with
  | .ofNat id =>
    match c.session.requests.lookup id with
    | none => c
    | some r =>
      let c := c.takeRequest id
      match Fields.get? "error".toList message with
      | some error => c.handleFailure id error r.purpose
      | none => c.handleResult l id (Fields.getD "result".toList message) r.purpose
  | .negSucc _ => c

/-- Handles a message whose refusal, where it is a request, can be written.  An infinite number for
a request is refused, and so is what the listener refuses. -/
def dispatch (l : Listener) (message : Fields) (c : Client) : Except NotInteger Unit × Client :=
  let method := Text.strip (Fields.getD "method".toList message).displayOrEmpty
  match Fields.get? "id".toList message with
  | some id =>
    if method.isEmpty then
      match id.toInteger with
      | .ok n => (.ok (), c.answered l n message)
      | .error .infinite => (.error .infinite, c)
      | .error _ => (.ok (), c)
    else (.ok (), c.write (.refusal id method))
  | none =>
    if method.isEmpty then (.ok (), c)
    else
      let params := Fields.getD "params".toList message
      (l.check c.serverName method params, c.emit (.notified c.serverName method params))

/-! ## What cannot be handled -/

/-- Why a message cannot be handled. -/
inductive Fault
  /-- It came with a body that is nested too deeply. -/
  | bodyTooDeep
  | number (cause : NotInteger)
  /-- Its refusal is nested too deeply to be written. -/
  | refusalTooDeep
  /-- Its refusal holds a unit of a pair that stands alone, so it cannot be written. -/
  | torn
  deriving DecidableEq, Repr

/-- The method that a message names, without blanks around it. -/
def methodOf (message : Fields) : Text :=
  Text.strip (Fields.getD "method".toList message).displayOrEmpty

/-- Whether a message is a request of the server. -/
def isRequest (message : Fields) : Bool :=
  Fields.has "id".toList message && !(methodOf message).isEmpty

/-- What a request is told. -/
def refusalOf (message : Fields) : Outgoing :=
  .refusal (Fields.getD "id".toList message) (methodOf message)

/-- Whether a unit of a pair stands alone in the refusal of a request, which repeats the id and the
method.  A method that is no text is displayed with its units escaped, so it has none. -/
def isTornRefusal (m : Frame.Incoming) : Bool :=
  m.isTorn "id".toList ||
    (Fields.getD "method".toList m.fields).isText && m.isTorn "method".toList

/-- Why a message is lost: there is a process, and the message is a request whose refusal cannot be
written. -/
def lossOf? (c : Client) (m : Frame.Incoming) : Option Fault :=
  if c.isRunning && isRequest m.fields then
    if c.refusalDepth.any (· < (refusalOf m.fields).toValue.depth) then some .refusalTooDeep
    else if isTornRefusal m then some .torn
    else none
  else none

/-- Hears a message: it is handled unless it is lost. -/
def hear (l : Listener) (m : Frame.Incoming) (c : Client) : Except Fault Unit × Client :=
  match c.lossOf? m with
  | some fault => (.error fault, c)
  | none =>
    let (result, c) := c.dispatch l m.fields
    (result.mapError .number, c)

/-- Hears messages until one cannot be handled. -/
def hearAll (l : Listener) : List Frame.Incoming → Client → Except Fault Unit × Client
  | [], c => (.ok (), c)
  | m :: rest, c =>
    match c.hear l m with
    | (.ok (), c) => hearAll l rest c
    | refused => refused

/-- Takes octets that the server has written: the messages that they complete are handled in order,
up to the first that cannot be.  With a body that is nested too deeply none is handled. -/
def read (l : Listener) (bs : Bytes) (c : Client) : Except Fault Unit × Client :=
  match c.reader.read c.bodyDepth bs with
  | (none, reader) => (.error .bodyTooDeep, { c with reader })
  | (some messages, reader) => hearAll l messages { c with reader }

/-- Takes octets that the server has written, and tells of a number that was refused alone. -/
def receive (l : Listener) (bs : Bytes) (c : Client) : Except NotInteger Unit × Client :=
  match c.read l bs with
  | (.error (.number e), c) => (.error e, c)
  | (_, c) => (.ok (), c)

end Client

end Legible
