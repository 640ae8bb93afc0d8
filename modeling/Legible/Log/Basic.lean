import Legible.Log.Rotation
import Legible.Path

/-!
# The log

The program logs under one name and the names below it.  Until the log is configured nothing of
it is written.  The first configuration opens the stream, and a file where a folder is given; later
ones only change the level.  Records below the level are dropped, and so are those without weight.

Records of other names are not the program's own.  From warnings on, their texts are written to the
stream as they are, whether the log is configured or not.
-/

namespace Legible

/-- The log of the program. -/
structure Log where
  level : Int := Log.debugLevel
  /-- Whether the program's own records go to the stream. -/
  isOpen : Bool := false
  /-- The lines written to the stream. -/
  stream : List Text := []
  file : Option Log.Rotation := none
  deriving Repr

namespace Log

/-- The name under which the program logs. -/
def rootName : Text := "PrettyTsErrors".toList

/-- The name of the log file. -/
def fileName : Text := "pretty-ts-errors.log".toList

/-- Opens the stream, and a file in the folder if there is one. -/
def openTargets (folder : Option Text) (l : Log) : Log :=
  if l.isOpen then l
  else
    { l with
      isOpen := true
      file := folder.map fun f =>
        { name := Text.join ['/'] (Path.settleNames [] (Path.names f ++ [fileName])) } }

/-- Configures the log. -/
def configure (level : Int) (folder : Option Text) (l : Log) : Log :=
  openTargets folder { l with level }

/-- Whether a logger belongs to the program. -/
def isOwn (logger : Text) : Bool :=
  logger = rootName || (rootName ++ ['.']).isPrefixOf logger

/-- The level from which on records are written; without a level that of warnings. -/
def effectiveLevel (l : Log) : Int := if l.level = 0 then warningLevel else l.level

/-- Whether a record of the program is written. -/
def accepts (l : Log) (r : Record) : Bool :=
  l.isOpen && 0 < r.level && l.effectiveLevel ≤ r.level

/-- Writes a record of the program, to the file only from the level of detailed records on. -/
def writeOwn (r : Record) (l : Log) : Log :=
  if l.accepts r then
    let line := r.line
    { l with
      stream := l.stream ++ [line]
      file := if debugLevel ≤ r.level then l.file.map (Rotation.write line) else l.file }
  else l

/-- Writes a record. -/
def write (r : Record) (l : Log) : Log :=
  if isOwn r.logger then l.writeOwn r
  else if warningLevel ≤ r.level then { l with stream := l.stream ++ [r.text] }
  else l

/-- What a log is written to. -/
inductive Target
  | stream
  | file
  deriving DecidableEq, Repr

/-- What the log is written to. -/
def targets (l : Log) : List Target :=
  (if l.isOpen then [.stream] else []) ++ (if l.file.isSome then [.file] else [])

end Log

end Legible
