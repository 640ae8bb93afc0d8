import Legible.Text.Range

/-!
# Blanks

The white space characters: the controls from tab to carriage return, the separators U+001C to
U+001F, the space and the other separators of Unicode, but neither the zero-width space nor the
byte order mark.  `strip` takes them off both ends of a text.
-/

namespace Legible.Text

/-- The white space characters, as closed ranges in increasing order. -/
def blankRanges : List (Nat × Nat) := [
  (0x9, 0xD), (0x1C, 0x20), (0x85, 0x85), (0xA0, 0xA0), (0x1680, 0x1680), (0x2000, 0x200A),
  (0x2028, 0x2029), (0x202F, 0x202F), (0x205F, 0x205F), (0x3000, 0x3000)]

/-- Whether a character is white space. -/
def isBlank (c : Char) : Bool := inRanges c.toNat blankRanges

/-- The characters that end a line where any line break does, as closed ranges. -/
def lineBreakRanges : List (Nat × Nat) :=
  [(0xA, 0xD), (0x1C, 0x1E), (0x85, 0x85), (0x2028, 0x2029)]

/-- Whether a character ends a line where any line break does. -/
def isLineBreak (c : Char) : Bool := inRanges c.toNat lineBreakRanges

/-- A text without the blanks at its end. -/
def stripRight : Text → Text
  | [] => []
  | c :: rest =>
    match stripRight rest with
    | [] => if isBlank c then [] else [c]
    | kept => c :: kept

/-- A text without the blanks at its beginning. -/
def stripLeft (t : Text) : Text := t.dropWhile isBlank

/-- A text without the blanks at its ends. -/
def strip (t : Text) : Text := stripRight (stripLeft t)

/-- Whether a text is made of blanks only. -/
def allBlank (t : Text) : Bool := t.all isBlank

theorem isBlank_space : isBlank ' ' = true := by decide

theorem stripRight_eq_nil_iff {t : Text} : stripRight t = [] ↔ allBlank t = true := by
  induction t with
  | nil => simp [stripRight, allBlank]
  | cons c rest ih =>
    simp only [stripRight]
    simp only [allBlank, List.all_cons, Bool.and_eq_true] at ih ⊢
    split
    · rename_i h
      rw [h] at ih
      simp only [true_iff] at ih
      by_cases hc : isBlank c = true <;> simp [hc, ih]
    · rename_i h
      simp only [reduceCtorEq, false_iff]
      intro hall
      exact h (ih.2 hall.2)

end Legible.Text
