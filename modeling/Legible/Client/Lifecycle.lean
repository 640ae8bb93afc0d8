import Legible.Client.Documents

/-!
# The life of a server

Starting and stopping a server, and what its process reports.  A running server is asked to shut
down, and only when it does not answer in time, or cannot be asked yet, it is ended by force.
A session ends with its process.
-/

namespace Legible.Client

/-- The process has ended: its session is over, and nobody waits for its end any more. -/
def finished (c : Client) : Client :=
  ((({ c with process := .notRunning, killTimer := false, stopping := false }.emit
    .timerStopped).beginSession).emit (.ended c.stopping)).emit .stopped

/-- Asks the process to end. -/
def terminate (c : Client) : Client :=
  let c := c.emit .terminated
  if c.exitsAtOnce then c.finished else c

/-- Ends the process by force. -/
def kill (c : Client) : Client :=
  if c.isRunning then
    let c := c.terminate
    if c.isRunning then c.emit .killed else c
  else c

/-- Starts the timer after which the process is ended by force. -/
def startKillTimer (c : Client) : Client :=
  { c with killTimer := true }.emit (.timerStarted graceTime)

/-- Stops the server. -/
def stop (c : Client) : Client :=
  match c.process with
  | .notRunning => c.beginSession
  | .starting => { c with stopping := true }.kill
  | .running =>
    let c := { c with stopping := true }
    if c.session.initialized then c.askShutdown.startKillTimer else c.kill

/-- What the process does when it is asked to start. -/
def launch (arguments : List Text) (c : Client) : Client :=
  if c.isRunning then c.emit (.launchIgnored c.program arguments)
  else { c with process := .starting }.emit (.launched c.program arguments)

/-- Stops the server that runs, if any, and starts one.  Until the server tells its name, it has
that of its program. -/
def start (program : Text) (arguments : List Text) (folder : Option Text) (root : Text)
    (c : Client) : Client :=
  let c := c.stop
  let program := Text.strip program
  let c := { c with
    program
    root := Text.strip root
    serverName := Path.baseName program }.beginSession
  let c := match folder with
    | some path => c.emit (.workingFolder path)
    | none => c
  c.launch arguments

/-- The process has started: it is told who asks. -/
def processStarted (c : Client) : Client :=
  ({ c with process := .running }.emit .started).askInitialize

/-- The process has failed.  Where its end is wanted only a failure to start is told. -/
def processFailed (failedToStart : Bool) (text : Text) (c : Client) : Client :=
  let c := { c with errorText := text }
  let c := if failedToStart then { c with process := .notRunning } else c
  if c.stopping && !failedToStart then c
  else c.emit (.status ("LSP process error: ".toList ++ text))

/-- The time for shutting down is over. -/
def killTimerFired (c : Client) : Client :=
  if c.killTimer then { c with killTimer := false }.kill else c

end Legible.Client
