import Legible.Editor.Basic
import Legible.Proofs.Text.Units
import Mathlib.Algebra.GroupWithZero.Nat

/-!
# Places and positions

The position of a place within a line leads back to this place (`toPlaceIn_lineStart`).  So an
editor that is sent to a place of a line that exists ends up on this line, in this column or at the
end of the line where that comes first (`place_goTo`).  Lines before the first count as the first,
columns before the first as the first, and no line past the last is gone to (`place_goTo_clamped`).
-/

namespace Legible

namespace Editor

variable {e : Editor} {line column : Int} {content : Text}

namespace Position

theorem toPlaceIn_lineStart {ls : List Text} {n i : Nat} (hline : ls[n]? = some content)
    (hi : i ≤ content.length) :
    toPlaceIn ls (lineStart ls n + Text.unitsAt content i) = (n, i) := by
  have hunits := Text.unitsAt_le_units hi
  induction ls generalizing n with
  | nil => exact absurd hline (by simp)
  | cons first rest ih =>
    cases n with
    | zero =>
      obtain rfl : first = content := Option.some.inj hline
      rw [lineStart, Nat.zero_add]
      cases rest with
      | nil => rw [toPlaceIn, Text.indexAt_unitsAt]
      | cons next rest =>
        rw [toPlaceIn, if_pos hunits, Text.indexAt_unitsAt]
        exact List.cons_ne_nil next rest
    | succ n =>
      rw [List.getElem?_cons_succ] at hline
      cases rest with
      | nil => exact absurd hline (by simp)
      | cons next rest =>
        -- the line feed stands before the position, which so lies behind the first line
        have hbehind : Text.units first + 1 + lineStart (next :: rest) n + Text.unitsAt content i -
            Text.units first - 1 = lineStart (next :: rest) n + Text.unitsAt content i := by omega
        rw [lineStart, toPlaceIn, if_neg (by omega), hbehind, ih hline]
        exact List.cons_ne_nil next rest

/-- Before a line stand the units of the lines before it, and a line feed after each of them. -/
theorem lineStart_eq_sum (ls : List Text) (n : Nat) :
    lineStart ls n = ((ls.take n).map fun l => Text.units l + 1).sum := by
  induction ls generalizing n with
  | nil => rw [lineStart, List.take_nil]; rfl
  | cons first rest ih =>
    cases n with
    | zero => rfl
    | succ n => rw [lineStart, ih, List.take_succ_cons, List.map_cons, List.sum_cons]

theorem inLine_eq_sum (t : Text) (line : Int) (content : Text) (column : Int) :
    inLine t line content column =
      (((Text.lines t).take line.toNat).map fun l => Text.units l + 1).sum +
        Text.units (content.take column.toNat) := by
  rw [inLine, lineStart_eq_sum, Text.unitsAt_eq_units_take (Nat.min_le_right _ _),
    ← List.take_eq_take_min]

theorem toPlace_inLine {t : Text} (hline : lineAt? t line = some content) (column : Int) :
    toPlace t (inLine t line content column) = (line.toNat, min column.toNat content.length) :=
  toPlaceIn_lineStart hline (Nat.min_le_right _ _)

end Position

theorem moveTo_frame (position : Nat) (editing : Bool) (e : Editor) :
    (e.moveTo position editing).1.cursor = position ∧
      (e.moveTo position editing).1.text = e.text := by
  unfold moveTo
  split
  · rename_i hsame
    exact ⟨hsame.symm, rfl⟩
  · exact ⟨rfl, rfl⟩

theorem goTo_of_some (hline : Position.lineAt? e.text line = some content) (column : Int) :
    e.goTo line column = e.moveTo (Position.inLine e.text line content column) false := by
  rw [goTo, position?, Position.ofPlace?, hline]
  rfl

theorem goTo_of_none (hline : Position.lineAt? e.text line = none) (column : Int) :
    e.goTo line column = (e, []) := by
  rw [goTo, position?, Position.ofPlace?, hline]
  rfl

/-- The cursor goes to a place, with the column kept within the line. -/
theorem place_goTo (hline : Position.lineAt? e.text line = some content) (column : Int) :
    (e.goTo line column).1.place = (line.toNat, min column.toNat content.length) := by
  obtain ⟨hcursor, htext⟩ := moveTo_frame (Position.inLine e.text line content column) false e
  rw [goTo_of_some hline, place, hcursor, htext, Position.toPlace_inLine hline]

/-- The cursor that is sent to a line that exists, whatever the text and wherever it stood before,
comes behind the lines before this line, each with its line feed, and behind as many characters of
the line as the column says.  It is read back as this line and column, with each kept within what
there is.  Where there is no such line nothing changes. -/
theorem place_goTo_clamped (e : Editor) (line column : Int) :
    (∀ content, (Text.lines e.text)[line.toNat]? = some content →
      (e.goTo line column).1.text = e.text ∧
      (e.goTo line column).1.cursor =
        (((Text.lines e.text).take line.toNat).map fun l => Text.units l + 1).sum +
          Text.units (content.take column.toNat) ∧
      ((e.goTo line column).1.place.1 : Int) = max 0 line ∧
      ((e.goTo line column).1.place.2 : Int) = max 0 (min column content.length)) ∧
    ((Text.lines e.text).length ≤ line.toNat → e.goTo line column = (e, [])) := by
  refine ⟨fun content hline => ?_, fun hpast => ?_⟩
  · obtain ⟨hcursor, htext⟩ := moveTo_frame (Position.inLine e.text line content column) false e
    rw [place_goTo hline, goTo_of_some hline]
    refine ⟨htext, hcursor.trans (Position.inLine_eq_sum ..), ?_, ?_⟩ <;> dsimp only <;> omega
  · exact goTo_of_none (List.getElem?_eq_none hpast) column

/-- Columns past the end and before the beginning of a line, behind pairs, and a line that does not
exist. -/
theorem place_goTo_clamped_pairs :
    let e : Editor := { text := ['a', '😀', '\n', '😀', 'b'], cursor := 1 }
    (Text.lines e.text)[(1 : Int).toNat]? = some ['😀', 'b'] ∧
    (e.goTo 1 1).1.cursor = 6 ∧ (e.goTo 1 9).1.place = (1, 2) ∧
    (e.goTo (-3) (-1)).1.place = (0, 0) ∧
    (Text.lines e.text).length ≤ (2 : Int).toNat ∧ e.goTo 2 0 = (e, []) := by
  intro e
  have hlines : Text.lines e.text = [['a', '😀'], ['😀', 'b']] := by decide
  have hsecond : (Text.lines e.text)[(1 : Int).toNat]? = some ['😀', 'b'] := by rw [hlines]; rfl
  have hfirst : (Text.lines e.text)[(-3 : Int).toNat]? = some ['a', '😀'] := by rw [hlines]; rfl
  have hpast : (Text.lines e.text).length ≤ (2 : Int).toNat := by rw [hlines]; decide
  obtain ⟨-, hcursor, -, -⟩ := (place_goTo_clamped e 1 1).1 _ hsecond
  obtain ⟨-, -, hline, hcolumn⟩ := (place_goTo_clamped e 1 9).1 _ hsecond
  obtain ⟨-, -, hline', hcolumn'⟩ := (place_goTo_clamped e (-3) (-1)).1 _ hfirst
  rw [hlines] at hcursor
  have hsame := (place_goTo_clamped e 2 0).2 hpast
  refine ⟨hsecond, hcursor, Prod.ext ?_ ?_, Prod.ext ?_ ?_, hpast, hsame⟩
  · exact Int.ofNat_inj.1 hline
  · exact Int.ofNat_inj.1 hcolumn
  · exact Int.ofNat_inj.1 hline'
  · exact Int.ofNat_inj.1 hcolumn'

end Editor

end Legible
