import Legible.Path
import Legible.Settings.Store

/-!
# Files

A tree of folders and files, told by the absolute paths of its entries.  The folders above an
entry are there as well.  Paths that begin with two slashes have a root of their own.  `find?`
follows a path name by name, so that a detour through a folder that is missing leads nowhere;
`readText` gives the text of a file with line feeds alone at the ends of its lines.
-/

namespace Legible

/-- What stands under a path. -/
inductive FileEntry
  | folder
  | file (content : Bytes)
  deriving DecidableEq, Repr

/-- Why there is no text under a path. -/
inductive OpenError
  | missing
  | folder
  | notText
  deriving DecidableEq, Repr

/-- What is said about a path without a text. -/
def OpenError.message : OpenError → Text
  | missing => "No such file or directory".toList
  | folder => "Is a directory".toList
  | notText => "The content is not UTF-8".toList

/-- The entries of a tree, by the names on the way from the root to them. -/
structure Files where
  entries : List (List Text × FileEntry) := []
  deriving Repr

namespace Files

/-- The way to the root of an absolute path: an empty name leads to the root of two slashes. -/
def root (path : Text) : List Text := if Path.rootOf path = ['/'] then [] else [[]]

/-- A tree of some entries, whose paths are absolute. -/
def ofEntries (entries : List (Text × FileEntry)) : Files :=
  ⟨entries.map fun e => (root e.1 ++ Path.names e.1, e.2)⟩

/-- What stands behind some names. -/
def at? (fs : Files) (names : List Text) : Option FileEntry :=
  match fs.entries.lookup names with
  | some e => some e
  | none =>
    if names.isEmpty || fs.entries.any (fun e => names.isPrefixOf e.1) then some .folder else none

/-- Whether a folder stands behind some names. -/
def isFolderAt (fs : Files) (names : List Text) : Bool := fs.at? names = some .folder

/-- Follows names from a folder that is told backwards.  Every name but the last must be that of a
folder; empty names and single dots stay where they are. -/
def follow (fs : Files) : List Text → List Text → Option (List Text)
  | place, [] => some place
  | place, name :: rest =>
    if fs.isFolderAt place.reverse then
      if name.isEmpty || name = ['.'] then follow fs place rest
      else if name = ['.', '.'] then follow fs (if place = [[]] then place else place.drop 1) rest
      else follow fs (name :: place) rest
    else none

/-- The greatest number of octets in a name. -/
def nameLimit : Nat := 255

/-- The number of octets that a path stays below. -/
def pathLimit : Nat := 4096

/-- Whether following names comes to one that is too long. -/
def meetsLongName (fs : Files) : List Text → List Text → Bool
  | _, [] => false
  | place, name :: rest =>
    fs.isFolderAt place.reverse &&
      (nameLimit < (Text.encode name).length ||
        ((fs.follow place [name]).any fun place => meetsLongName fs place rest))

/-- Whether an absolute path is too long to be followed. -/
def isTooLong (fs : Files) (path : Text) : Bool :=
  pathLimit ≤ (Text.encode path).length || fs.meetsLongName (root path) (Text.splitOn '/' path)

/-- What stands under an absolute path. -/
def find? (fs : Files) (path : Text) : Option FileEntry :=
  (fs.follow (root path) (Text.splitOn '/' path)).bind fun place => fs.at? place.reverse

/-- Whether a folder stands under an absolute path. -/
def isFolder (fs : Files) (path : Text) : Bool := fs.find? path = some .folder

/-- Whether a file stands under an absolute path. -/
def isFile (fs : Files) (path : Text) : Bool :=
  match fs.find? path with
  | some (.file _) => true
  | _ => false

/-- A text with a line feed alone at the end of every line. -/
def unifyLines : Text → Text
  | [] => []
  | '\r' :: '\n' :: rest => '\n' :: unifyLines rest
  | '\r' :: rest => '\n' :: unifyLines rest
  | c :: rest => c :: unifyLines rest

/-- The lines of a text whose last line is ended as well, by line breaks of any kind. -/
def endedLines (t : Text) : List Text :=
  (Text.lines ((unifyLines t).map fun c => if Text.isLineBreak c then '\n' else c)).dropLast

/-- The text of the file under an absolute path. -/
def readText (fs : Files) (path : Text) : Except OpenError Text :=
  match fs.find? path with
  | none => .error .missing
  | some .folder => .error .folder
  | some (.file content) =>
    match Text.decode? content with
    | some t => .ok (unifyLines t)
    | none => .error .notText

/-- What settings are found under an absolute path. -/
def settingsSource (fs : Files) (path : Text) : Settings.Source :=
  match fs.find? path with
  | none => .absent
  | some .folder => .folder
  | some (.file content) => .file content

end Files

end Legible
