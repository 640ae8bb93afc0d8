import Legible.Log.Record
import Legible.Path
import Legible.Text.Utf8

/-!
# Rotating log files

A log file that would grow to its bound is put aside under a number before the next line is
written: the newest of the older files has number one, and only so many of them are kept.  The
size of the file counts octets, and that of the line characters.  A file without a bound, or of
which no older ones are kept, just grows.
-/

namespace Legible.Log

/-- A log file and the older ones, the newest first. -/
structure Rotation where
  name : Text
  maxBytes : Int := 512 * 1024
  /-- How many older files are kept. -/
  backups : Nat := 2
  current : Text := []
  older : List Text := []
  deriving DecidableEq, Repr

namespace Rotation

/-- A log of which some files are kept, at least one of them. -/
def create (name : Text) (retention : Int) (maxBytes : Int) : Rotation :=
  { name, maxBytes, backups := (max 1 retention - 1).toNat }

/-- Why a log file cannot be opened. -/
inductive PlaceError
  | missingFolder
  | isFolder
  deriving DecidableEq, Repr

/-- The path of a log file in a folder, which is made with all folders on the way to it.  Other
folders on the way to the file must be there. -/
def place (folder name : Text) : Except PlaceError Text :=
  let way := Path.names folder
  let made := (List.range (way.length + 1)).map fun n => Path.settleNames [] (way.take n)
  let isThere (ns : List Text) : Bool := made.contains ns || ns.all (· = ['.', '.'])
  let path := Path.settleNames [] (way ++ Path.names name)
  if isThere path then .error .isFolder
  else if isThere path.dropLast then .ok (Text.join ['/'] path)
  else .error .missingFolder

/-- Whether the file is put aside before a line is written. -/
def isFull (r : Rotation) (line : Text) : Bool :=
  0 < r.maxBytes && 0 < r.backups &&
    r.maxBytes ≤ (Text.encode r.current).length + (line.length + 1)

/-- Puts the file aside. -/
def rotate (r : Rotation) : Rotation :=
  { r with current := [], older := (r.current :: r.older).take r.backups }

/-- Writes a line. -/
def write (line : Text) (r : Rotation) : Rotation :=
  let r := if r.isFull line then r.rotate else r
  { r with current := r.current ++ line ++ ['\n'] }

/-- The older files from a number on, with their names. -/
def numbered (name : Text) : Nat → List Text → List (Text × Text)
  | _, [] => []
  | n, t :: rest => (name ++ '.' :: Text.ofNat n, t) :: numbered name (n + 1) rest

/-- The files with their names. -/
def files (r : Rotation) : List (Text × Text) := (r.name, r.current) :: numbered r.name 1 r.older

theorem length_older_write (line : Text) (r : Rotation) (h : r.older.length ≤ r.backups) :
    (r.write line).older.length ≤ r.backups := by
  simp only [write]
  split
  · simp only [rotate, List.length_take]
    exact Nat.min_le_left _ _
  · exact h

end Rotation

end Legible.Log
