import Legible.Value.Parser

/-!
# The sources of values

An escape in a document may be one unit of a pair that stands alone.  It is no character, so a text
that holds it cannot be written again.  The value that is read does not show it; its source does,
the part of the document from which it was read.  `isTorn` tells whether a unit stands alone in the
value of a source, and `sources` gives the sources of the fields of an object.
-/

namespace Legible.Value

/-- Whether a unit of a pair stands alone in a piece of a document; `fuel` bounds its length. -/
def hasLoneUnit : Nat → Text → Bool
  | fuel + 1, '\\' :: 'u' :: rest =>
    match readHex4 rest with
    | some (n, rest) =>
      match readUnit n rest with
      | (some _, rest) => hasLoneUnit fuel rest
      | (none, _) => true
    | none => hasLoneUnit fuel rest
  | fuel + 1, '\\' :: _ :: rest => hasLoneUnit fuel rest
  | fuel + 1, _ :: rest => hasLoneUnit fuel rest
  | _, _ => false

/-- The beginning of a document up to what is left of it. -/
def upTo (rest t : Text) : Text := t.take (t.length - rest.length)

/-- What the value at the beginning of a document is read from, and the rest behind it. -/
def cutValue? (fuel : Nat) (t : Text) : Option (Text × Text) :=
  (readValue (some Number.digitLimit) fuel none t).toOption.map fun (_, rest) => (upTo rest t, rest)

/-- The sources of the items of a list up to its bracket. -/
def itemSources : Nat → Text → List Text
  | 0, _ => []
  | fuel + 1, t =>
    match cutValue? fuel (skipSpace t) with
    | none => []
    | some (source, rest) =>
      source :: match skipSpace rest with
        | ',' :: rest => itemSources fuel rest
        | _ => []

/-- A field as it stands in an object: its name, whether a unit of a pair stands alone there, and
the source of its value. -/
structure FieldSource where
  name : Text
  isNameTorn : Bool
  source : Text

/-- The fields of an object as they stand up to its brace. -/
def fieldSources : Nat → Text → List FieldSource
  | 0, _ => []
  | fuel + 1, t =>
    match skipSpace t with
    | '"' :: quoted =>
      match readText (quoted.length + 1) quoted with
      | none => []
      | some (name, rest) =>
        match skipSpace rest with
        | ':' :: told =>
          match cutValue? fuel (skipSpace told) with
          | none => []
          | some (source, behind) =>
            ⟨name, hasLoneUnit quoted.length (upTo rest quoted), source⟩ ::
              match skipSpace behind with
              | ',' :: more => fieldSources fuel more
              | _ => []
        | _ => []
    | _ => []

/-- Whether something is torn in the fields of an object, where of two fields of one name the last
one counts. -/
def isTornField (torn : Text → Bool) : List FieldSource → Bool
  | [] => false
  | f :: rest =>
    f.isNameTorn || (torn f.source && rest.all (·.name ≠ f.name)) || isTornField torn rest

/-- Whether a unit of a pair stands alone in the value of a source; `fuel` bounds its nesting. -/
def isTornWithin : Nat → Text → Bool
  | 0, _ => false
  | fuel + 1, source =>
    match source with
    | '[' :: rest => (itemSources (2 * source.length) rest).any (isTornWithin fuel)
    | '\x7b' :: rest => isTornField (isTornWithin fuel) (fieldSources (2 * source.length) rest)
    | _ => hasLoneUnit source.length source

/-- Whether a unit of a pair stands alone in the value of a source. -/
def isTorn (source : Text) : Bool := isTornWithin source.length source

/-- The fields of the object in a document as they stand there. -/
def sources (t : Text) : List FieldSource :=
  match skipSpace t with
  | '\x7b' :: rest => fieldSources (2 * t.length) rest
  | _ => []

end Legible.Value
