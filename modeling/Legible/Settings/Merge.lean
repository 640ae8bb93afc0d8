import Legible.Value.Basic

/-!
# Layers of settings

`merge` lays fields over others: objects are merged field by field, and any other value, a list
included, takes the place of the one below it.  New names come last.  `lookUp` follows names with
dots between them into nested objects.
-/

namespace Legible.Settings

mutual

/-- A value laid over another. -/
def laidOver : Value → Value → Value
  | .obj upper, below =>
    match below with
    | .obj lower => .obj (mergeFields upper lower)
    | _ => .obj upper
  | upper, _ => upper

/-- Fields laid over others. -/
def mergeFields : List (Text × Value) → List (Text × Value) → List (Text × Value)
  | [], lower => lower
  | (key, v) :: rest, lower =>
    mergeFields rest (Fields.set key (laidOver v (Fields.getD key lower)) lower)

end

/-- Fields laid over others. -/
def merge (lower upper : Fields) : Fields := mergeFields upper lower

/-- The value at a path of names. -/
def at? : List Text → Value → Option Value
  | [], v => some v
  | name :: rest, v => (v.field? name).bind (at? rest)

/-- The value under a key, whose dots lead into nested objects; the empty key stands for all. -/
def lookUp (v : Value) (key : Text) : Option Value :=
  if key.isEmpty then some v else at? (Text.splitOn '.' key) v

/-- Fields with older names replaced by the current ones; a current name that is there as well
keeps its value. -/
def resolveAliases (aliases : List (Text × Text)) (fs : Fields) : Fields :=
  aliases.foldl (fun fs (old, current) =>
    match Fields.get? old fs with
    | none => fs
    | some v =>
      let others := Fields.erase old fs
      if Fields.has current others then others else Fields.set current v others) fs

end Legible.Settings
