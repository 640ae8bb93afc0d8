import Legible.Transcript.Window
import Legible.Value.Printer

/-!
# The command line

The command line starts the application in the working folder, with the files that it finds there,
and writes what happens as one entry a line.
-/

namespace Legible

/-- What stands under a path of the system. -/
def readEntry (path : Text) : IO (Option FileEntry) := do
  try
    let content ← IO.FS.readBinFile (String.ofList path)
    pure (some (.file content.toList))
  catch
    | .inappropriateType .. => pure (some .folder)
    | _ => pure none

/-- The files that matter for some arguments.  What has been found first counts, so that nothing
stands below a file. -/
def readFiles (base home : Text) (arguments : List Text) : IO Files := do
  let mut entries := [(base, FileEntry.folder)]
  for path in Application.candidates base home arguments do
    if let some entry ← readEntry path then
      let folders := (Path.above path ++ Path.above (Path.real path)).map fun p =>
        (Path.normal p, FileEntry.folder)
      entries := entries ++ (Path.normal path, entry) :: folders
  pure (Files.ofEntries entries)

/-- Starts the application in the working folder and writes what happens. -/
def runCommandLine (arguments : List String) : IO UInt32 := do
  let base := (toString (← IO.currentDir)).toList
  let home := ((← IO.getEnv "HOME").getD "/").toList
  let arguments := arguments.map String.toList
  let files ← readFiles base home arguments
  match Application.start { files, base, home } arguments with
  | .ok a =>
    for entry in a.events.filterMap Application.Event.toEntry? do
      IO.println (String.ofList entry.print)
    pure 0
  | .error e =>
    IO.eprintln (String.ofList e.message)
    pure 1

end Legible

/-- The program. -/
def main (arguments : List String) : IO UInt32 := Legible.runCommandLine arguments
