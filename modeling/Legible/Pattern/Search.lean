import Legible.Pattern.Matcher

/-!
# Searching and replacing

The matches of a pattern in a text, from left to right and without overlap, and the text with
each match replaced.  The search after a match begins where the match ends; after an empty match
the next one must not be empty at the same place.
-/

namespace Legible.Pattern

/-- A match: where it begins, and how it ended. -/
structure Found where
  start : Nat
  stop : Spot
  deriving Repr

/-- Whether a match can begin at a place, by what its first character must pass. -/
def Compiled.mayStart (pattern : Compiled) (text : Array Char) (pos : Nat) : Bool :=
  pattern.start.all fun test => text[pos]?.any test.holds

/-- Matches a pattern at a place; `moving` asks for a match that is not empty. -/
def matchAt (pattern : Compiled) (text : Array Char) (pos : Nat) (moving : Bool) : Option Spot :=
  if pattern.mayStart text pos then
    (pattern.node.run text {} (.start pos) fun s =>
      if moving && s.pos = pos then s.fail else .matched s).stop?
  else none

/-- The first match at a place or after it, up to `room` places further. -/
def searchFrom (pattern : Compiled) (text : Array Char) (moving : Bool) : Nat → Nat → Option Found
  | room, pos =>
    match matchAt pattern text pos moving with
    | some s => some ⟨pos, s⟩
    | none =>
      match room with
      | 0 => none
      | room + 1 => searchFrom pattern text false room (pos + 1)

/-- The matches from a place on; `fuel` bounds their number. -/
def matchesFrom (pattern : Compiled) (text : Array Char) : Nat → Nat → Bool → List Found
  | 0, _, _ => []
  | fuel + 1, pos, moving =>
    match searchFrom pattern text moving (text.size - pos) pos with
    | none => []
    | some found =>
      found :: matchesFrom pattern text fuel found.stop.pos (found.start = found.stop.pos)

/-- All matches of a pattern in a text. -/
def findAll (pattern : Compiled) (text : Array Char) : List Found :=
  matchesFrom pattern text (2 * text.size + 2) 0 false

/-- The text from a place on with the given matches replaced. -/
def replaceFound (text : Array Char) (image : Found → Text) : Nat → List Found → Text
  | pos, [] => (text.extract pos text.size).toList
  | pos, found :: rest =>
    (text.extract pos found.start).toList ++ image found ++
      replaceFound text image found.stop.pos rest

/-- Whether a group of some match in a text ends before it begins. -/
def hasCrossedGroup (pattern : Compiled) (t : Text) : Bool :=
  (findAll pattern t.toArray).any fun found =>
    (List.range pattern.groups).any found.stop.isCrossed

/-- A text with every match of a pattern replaced. -/
def replaceAll (pattern : Compiled) (image : Array Char → Found → Text) (t : Text) : Text :=
  let text := t.toArray
  replaceFound text (image text) 0 (findAll pattern text)

end Legible.Pattern
