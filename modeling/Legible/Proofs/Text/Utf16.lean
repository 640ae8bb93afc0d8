import Legible.Proofs.Text.Units

/-!
# The UTF-16 form of a text

A character up to U+FFFF is one unit, and any other is the two halves of a pair.  So the form has as
many units as `units` counts, and a text that is cut between characters has its form cut at the
position of the cut (`slice_utf16`).
-/

namespace Legible.Text

variable {t : Text} {i j : Nat}

/-- The units of a character: itself, or the high and the low half of a pair. -/
def utf16Of (c : Char) : List Nat :=
  if c.toNat ≤ 0xFFFF then [c.toNat]
  else [0xD800 + (c.toNat - 0x10000) / 0x400, 0xDC00 + (c.toNat - 0x10000) % 0x400]

/-- The UTF-16 form of a text. -/
def utf16 (t : Text) : List Nat := t.flatMap utf16Of

theorem length_utf16Of (c : Char) : (utf16Of c).length = unitsOf c := by
  unfold utf16Of unitsOf
  split <;> rfl

theorem utf16_append (s t : Text) : utf16 (s ++ t) = utf16 s ++ utf16 t := List.flatMap_append

theorem length_utf16 (t : Text) : (utf16 t).length = units t := by
  induction t with
  | nil => rfl
  | cons c t ih =>
    rw [utf16, List.flatMap_cons, List.length_append, length_utf16Of, ← utf16, ih, units]

theorem length_utf16_take (h : i ≤ t.length) : (utf16 (t.take i)).length = unitsAt t i := by
  rw [length_utf16, unitsAt_eq_units_take h]

theorem utf16_eq_append (t : Text) (i : Nat) :
    utf16 t = utf16 (t.take i) ++ utf16 (t.drop i) := by
  rw [← utf16_append, List.take_append_drop]

theorem take_utf16 (h : i ≤ t.length) : (utf16 t).take (unitsAt t i) = utf16 (t.take i) := by
  rw [utf16_eq_append t i, List.take_left' (length_utf16_take h)]

theorem drop_utf16 (h : i ≤ t.length) : (utf16 t).drop (unitsAt t i) = utf16 (t.drop i) := by
  rw [utf16_eq_append t i, List.drop_left' (length_utf16_take h)]

/-- The units between the positions of two characters are the form of what stands between them. -/
theorem slice_utf16 (hij : i ≤ j) (hj : j ≤ t.length) :
    ((utf16 t).drop (unitsAt t i)).take (unitsAt t j - unitsAt t i) =
      utf16 ((t.take j).drop i) := by
  have hlength : i ≤ (t.take j).length := by
    rw [List.length_take, Nat.min_eq_left hj]
    exact hij
  have hfirst : unitsAt t i = unitsAt (t.take j) i := by
    rw [unitsAt_eq_units_take hlength, unitsAt_eq_units_take (hij.trans hj), List.take_take,
      Nat.min_eq_left hij]
  rw [← List.drop_take, take_utf16 hj, hfirst, drop_utf16 hlength]

/-- A character on either side of the border between one unit and two. -/
example : utf16 ['\uFFFF', '😀'] = [0xFFFF, 0xD83D, 0xDE00] := by decide

end Legible.Text
