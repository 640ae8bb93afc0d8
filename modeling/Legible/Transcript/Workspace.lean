import Legible.Transcript.Basic
import Legible.Workspace.Basic

/-!
# Transcripts of the workspace

What the client and the workspace do and tell, and what they have come to.  Messages are written
as the text of their frames.
-/

namespace Legible

open Transcript (entry signal)

namespace Client

/-- The text of the frame of a message. -/
def Outgoing.frameText (m : Outgoing) : Text := (Text.decode? (Frame.encode m.toValue)).getD []

/-- The entry of what is done to the process and to the timer. -/
def Event.processEntry? : Event → Option Value
  | workingFolder path => some (entry "cwd" [.str path])
  | launched program arguments => some (entry "start" [.str program, .ofTexts arguments])
  | launchIgnored program arguments =>
    some (entry "start_ignored" [.str program, .ofTexts arguments])
  | wrote m => some (entry "write" [.str m.frameText])
  | writeFailed => some (entry "write_failed" [])
  | terminated => some (entry "terminate" [])
  | killed => some (entry "kill" [])
  | timerStarted ms => some (entry "timer_start" [.ofNat ms])
  | timerStopped => some (entry "timer_stop" [])
  | _ => none

/-- The entry of an event of the client. -/
def Event.toEntry? : Event → Option Value
  | started => some (signal "started" [])
  | stopped => some (signal "stopped" [])
  | ready => some (signal "ready" [])
  | notified _ method params => some (signal "notificationReceived" [.str method, params])
  | status t => some (signal "statusMessage" [.str t])
  | result _ v => some (entry "on_result" [v])
  | failure _ v => some (entry "on_error" [v])
  | e => e.processEntry?

/-- What a client has come to. -/
def record (c : Client) : List (String × Value) :=
  [("running", .bool c.isRunning), ("ready", .bool c.isReady), ("server_name", .str c.serverName),
    ("next_id", .ofNat c.session.nextId),
    ("requests", .obj (c.session.requests.map fun (id, r) => (Text.ofNat id, .str r.method))),
    ("backlog", .ofNat c.session.backlog.length),
    ("versions", .obj (c.session.versions.map fun (uri, v) => (uri, .ofNat v))),
    ("capabilities", .obj c.session.capabilities)]

end Client

namespace Workspace

/-- The entry of an event of the workspace. -/
def Event.toEntry? : Event → Option Value
  | client e => e.processEntry?
  | timerStarted ms => some (entry "timer_start" [.ofNat ms])
  | timerStopped => some (entry "timer_stop" [])
  | diagnostics path ds =>
    some (signal "diagnosticsUpdated" [.str path, .arr (ds.map Diagnostic.toRecord)])
  | status t => some (signal "statusMessage" [.str t])

/-- Whether the timers run: that of the client, and those of the documents. -/
def timersRunning (w : Workspace) : List Bool := w.client.killTimer :: w.timers.map (·.2)

/-- What a workspace has come to. -/
def record (w : Workspace) : List (String × Value) :=
  let byPath (f : Tracked → Option Text) : Value :=
    .obj (w.documents.filterMap fun d => (f d).map fun t => (d.path, .str t))
  w.client.record ++ [
    ("open", byPath fun d => some d.language), ("last", byPath fun d => some d.text),
    ("pending", byPath (·.waiting)), ("timers", .arr (w.timersRunning.map .bool))]

end Workspace

end Legible
