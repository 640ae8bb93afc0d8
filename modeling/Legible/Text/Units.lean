import Legible.Text.Basic

/-!
# UTF-16 units

Positions of an editor count UTF-16 units, and columns count characters.  A character beyond
U+FFFF takes two units.  `unitsAt` sends an index of a character to its unit position, and
`indexAt` sends a unit position back to the character that it lies in; both count on past the end
of the text, one unit a character.
-/

namespace Legible.Text

/-- How many UTF-16 units a character takes. -/
def unitsOf (c : Char) : Nat := if c.toNat ≤ 0xFFFF then 1 else 2

/-- How many UTF-16 units a text takes. -/
def units : Text → Nat
  | [] => 0
  | c :: rest => unitsOf c + units rest

/-- The character index of a unit position, with the overflow past the end kept. -/
def indexAt : Text → Nat → Nat
  | [], n => n
  | c :: rest, n => if n < unitsOf c then n else indexAt rest (n - unitsOf c) + 1

/-- The unit position of a character index, with the overflow past the end kept. -/
def unitsAt : Text → Nat → Nat
  | [], n => n
  | _ :: _, 0 => 0
  | c :: rest, n + 1 => unitsOf c + unitsAt rest n

theorem unitsOf_pos (c : Char) : 0 < unitsOf c := by
  unfold unitsOf; split <;> omega

theorem unitsOf_le (c : Char) : unitsOf c ≤ 2 := by
  unfold unitsOf; split <;> omega

theorem units_append (s t : Text) : units (s ++ t) = units s + units t := by
  induction s with
  | nil => simp [units]
  | cons c s ih => simp [units, ih, Nat.add_assoc]

theorem unitsAt_zero (t : Text) : unitsAt t 0 = 0 := by
  cases t <;> rfl

end Legible.Text
