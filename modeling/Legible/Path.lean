import Legible.Text.Basic

/-!
# Paths

Paths of files with slashes between their names.  `absolute` drops empty names and single dots,
and lets two dots take the name before them away; exactly two slashes at the beginning stay.
-/

namespace Legible.Path

/-- The names in a path, without empty ones and single dots. -/
def names (p : Text) : List Text :=
  (Text.splitOn '/' p).filter fun n => !n.isEmpty && n ≠ ['.']

/-- The last name of a path, empty if it has none. -/
def lastName (p : Text) : Text := ((names p).getLast?).getD []

/-- What stands after the last slash. -/
def baseName (p : Text) : Text := Text.afterLast '/' p

/-- The end of a name from its last dot on.  The dot must be neither the first nor the last
character. -/
def suffixOfName (name : Text) : Text :=
  let ending := Text.afterLast '.' name
  if ending.isEmpty || name.length ≤ ending.length + 1 then [] else '.' :: ending

/-- The suffix of the last name of a path. -/
def suffix (p : Text) : Text := suffixOfName (lastName p)

/-- The names in order after two dots have taken away the names before them, read backwards. -/
def resolveNames : List Text → List Text → List Text
  | kept, [] => kept
  | kept, n :: rest => resolveNames (if n = ['.', '.'] then kept.drop 1 else n :: kept) rest

/-- Whether a path begins at the root. -/
def isAbsolute : Text → Bool
  | '/' :: _ => true
  | _ => false

/-- Whether a path is that of the root. -/
def isRoot (p : Text) : Bool := isAbsolute p && (names p).isEmpty

/-- The slashes at the beginning of an absolute path. -/
def rootOf (p : Text) : Text :=
  match p with
  | '/' :: '/' :: '/' :: _ => ['/']
  | '/' :: '/' :: _ => ['/', '/']
  | _ => ['/']

/-- An absolute path without detours. -/
def normal (p : Text) : Text :=
  rootOf p ++ Text.join ['/'] (resolveNames [] (names p)).reverse

/-- An absolute path without detours and with one slash at its beginning. -/
def real (p : Text) : Text := '/' :: Text.join ['/'] (resolveNames [] (names p)).reverse

/-- The names of a relative path without detours, after those read backwards; two dots that lead
out stay at its beginning. -/
def settleNames : List Text → List Text → List Text
  | kept, [] => kept.reverse
  | kept, n :: rest =>
    if n = ['.', '.'] then
      match kept with
      | last :: before =>
        if last = ['.', '.'] then settleNames (n :: kept) rest else settleNames before rest
      | [] => settleNames [n] rest
    else settleNames (n :: kept) rest

/-- Whether names without detours lead out of where they begin. -/
def leadsOut (ns : List Text) : Bool := ns.head? = some ['.', '.']

/-- A name or path inside a folder. -/
def inside (folder p : Text) : Text :=
  if isAbsolute p then p
  else if folder.getLast? = some '/' then folder ++ p
  else folder ++ '/' :: p

/-- A path with the home folder in the place of a tilde that is its first name.  Homes of others,
with a name after the tilde, are not known. -/
def fromHome? (home p : Text) : Option Text :=
  match isAbsolute p, names p with
  | false, ('~' :: user) :: rest =>
    if user.isEmpty then some (Text.join ['/'] (home :: rest)) else none
  | _, _ => some p

/-- The absolute path of a path that is taken from a folder. -/
def absolute (folder p : Text) : Text := normal (inside folder p)

/-- A path without empty names and single dots. -/
def tidy (p : Text) : Text := (if isAbsolute p then rootOf p else []) ++ Text.join ['/'] (names p)

/-- The paths on the way to an absolute path, that path left out. -/
def above (p : Text) : List Text :=
  let ns := names p
  (List.range ns.length).map fun n => rootOf p ++ Text.join ['/'] (ns.take n)

/-- The folder that holds an absolute path without detours. -/
def parent (p : Text) : Text := rootOf p ++ Text.join ['/'] (names p).dropLast

/-- The address of a file. -/
def toUri (p : Text) : Text := "file://".toList ++ p

/-- The path of an address, or the address itself where it is not that of a file. -/
def ofUri (uri : Text) : Text :=
  let scheme := "file://".toList
  if scheme.isPrefixOf uri then uri.drop scheme.length else uri

end Legible.Path
