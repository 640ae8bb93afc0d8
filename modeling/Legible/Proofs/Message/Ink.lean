import Legible.Message
import Legible.Proofs.Message.Inline
import Legible.Proofs.Text.Lines
import Mathlib.Data.List.TakeWhile
import Mathlib.Tactic.SplitIfs

/-!
# The ink of a reworded message

The popup and the published message show a reworded message in two layouts: the popup moves object
types onto lines of their own, and the published message does not.  Laying text out changes blanks
only, so the characters that are not blank, the `ink` of a text, are the same in both
(`ink_unlines_rewordLines`).
-/

namespace Legible

namespace Text

/-- The characters of a text that are not blank. -/
def ink (t : Text) : Text := t.filter (!isBlank ·)

variable {t : Text}

@[simp] theorem ink_nil : ink [] = [] := rfl

@[simp] theorem ink_append (s t : Text) : ink (s ++ t) = ink s ++ ink t := List.filter_append ..

theorem ink_cons (c : Char) (t : Text) : ink (c :: t) = ink [c] ++ ink t := ink_append [c] t

theorem ink_eq_nil (h : ∀ c ∈ t, isBlank c) : ink t = [] := by
  rw [ink, List.filter_eq_nil_iff]
  intro c hc
  simp [h c hc]

theorem ink_stripLeft (t : Text) : ink (stripLeft t) = ink t := by
  have hblank : ink (t.takeWhile isBlank) = [] := ink_eq_nil fun c hc => List.mem_takeWhile_imp hc
  calc ink (stripLeft t) = ink (t.takeWhile isBlank) ++ ink (t.dropWhile isBlank) := by
        rw [hblank, List.nil_append, stripLeft]
    _ = ink t := by rw [← ink_append, List.takeWhile_append_dropWhile]

theorem ink_stripRight (t : Text) : ink (stripRight t) = ink t := by
  induction t with
  | nil => rfl
  | cons c rest ih =>
    rw [stripRight, ink_cons c rest, ← ih]
    split
    · rename_i hrest
      rw [hrest, ink_nil, List.append_nil]
      split
      · rename_i hc
        simp [ink, hc]
      · rfl
    · exact ink_cons c _

/-! ## Lines -/

theorem ink_unlines (ls : List Text) : ink (unlines ls) = ls.flatMap ink := by
  induction ls with
  | nil => rfl
  | cons l rest ih =>
    by_cases hrest : rest = []
    · subst hrest
      exact (List.append_nil _).symm
    · have hbreak : ink ['\n'] = [] := rfl
      rw [unlines_cons l hrest, ink_append, ink_cons, hbreak, ih, List.flatMap_cons]
      rfl

theorem flatMap_ink_lines (t : Text) : (lines t).flatMap ink = ink t := by
  rw [← ink_unlines, unlines_lines]

end Text

open Text (ink)

/-! ## Layouts -/

namespace TypeLayout

theorem flatMap_ink_emit (line : Text) : (emit line).flatMap ink = ink line := by
  rw [emit, ← Text.ink_stripRight line]
  split
  · rename_i hblank
    rw [hblank]
    rfl
  · exact List.flatMap_singleton ..

theorem ink_indent (depth : Int) : ink (indent depth) = [] :=
  Text.ink_eq_nil fun c hc => by
    rw [List.eq_of_mem_replicate hc]
    exact Text.isBlank_space

/-- The lines hold what the current line holds so far and the rest of the text. -/
theorem flatMap_ink_linesFrom (depth : Int) (current : Text) (fresh : Bool) (t : Text) :
    (linesFrom depth current fresh t).flatMap ink = ink current ++ ink t := by
  induction t generalizing depth current fresh with
  | nil =>
    rw [linesFrom, flatMap_ink_emit, Text.ink_nil, List.append_nil]
  | cons c rest ih =>
    have hblank (hc : Text.isBlank c) : ink [c] = [] := by simp [ink, hc]
    rw [linesFrom, Text.ink_cons c rest]
    simp only [Bool.and_eq_true, Bool.or_eq_true, decide_eq_true_eq]
    split_ifs with hopen hclose hseparator hbreak hfresh hskip
    · rw [List.flatMap_append, flatMap_ink_emit, ih, ink_indent, Text.ink_append]
      simp
    · rw [List.flatMap_append, flatMap_ink_emit, ih, Text.ink_append, ink_indent]
      simp
    · rw [List.flatMap_append, flatMap_ink_emit, ih, ink_indent, Text.ink_append]
      simp
    · rw [ih, hblank (by rcases hbreak with rfl | rfl <;> decide), List.nil_append]
    · rw [List.flatMap_append, flatMap_ink_emit, ih, ink_indent,
        hblank (by rcases hbreak with rfl | rfl <;> decide), List.nil_append]
    · rw [ih, hblank (by rcases hskip.2 with rfl | rfl <;> decide), List.nil_append]
    · rw [ih, Text.ink_append, List.append_assoc]

theorem ink_layout (t : Text) : ink (layout t) = ink t := by
  rw [layout]
  split
  · rw [Text.ink_unlines, flatMap_ink_linesFrom]
    rfl
  · rfl

theorem ink_of_blockAfterColon? {t b rest : Text} (h : blockAfterColon? t = some (b, rest)) :
    ink t = ink b ++ ink rest := by
  obtain ⟨blanks, inside, hinline, rfl, rfl⟩ := blockAfterColon?_eq_some_iff.1 h
  rw [Text.ink_append, Text.ink_append, Text.ink_eq_nil hinline.blank, List.nil_append]

theorem ink_expandInline (t : Text) : ink (expandInline t) = ink t := by
  fun_induction expandInline t with
  | case1 => rfl
  | case2 rest block after hblock ih =>
    have hbreak : ink ['\n'] = [] := rfl
    rw [Text.ink_cons ':' rest, ink_of_blockAfterColon? hblock, ← ih, ← ink_layout block]
    rw [List.cons_append, List.cons_append, Text.ink_cons ':', Text.ink_cons '\n', hbreak,
      List.nil_append, Text.ink_append]
  | case3 rest hblock ih => rw [Text.ink_cons, ih, ← Text.ink_cons]
  | case4 c rest hc ih => rw [Text.ink_cons, ih, ← Text.ink_cons]

/-- Neither a layout nor the expansion of a line loses, adds or moves a character that is not
blank. -/
theorem ink_kept (t : Text) : ink (layout t) = ink t ∧ ink (expandInline t) = ink t :=
  ⟨ink_layout t, ink_expandInline t⟩

end TypeLayout

/-! ## Messages -/

namespace Message.Reworder

variable {r : Reworder} {message : Text}

/-- The lines of the popup without the raw message. -/
def bodyLines (r : Reworder) (message : Text) : List Text :=
  (Text.lines (r.prettify message).text).flatMap fun line =>
    Text.lines (TypeLayout.expandInline line)

theorem bodyLines_ne_nil (r : Reworder) (message : Text) : r.bodyLines message ≠ [] := by
  obtain ⟨line, rest, hlines⟩ :=
    List.exists_cons_of_ne_nil (Text.lines_ne_nil (r.prettify message).text)
  rw [bodyLines, hlines, List.flatMap_cons]
  exact List.append_ne_nil_of_left_ne_nil (Text.lines_ne_nil _) _

theorem flatMap_ink_bodyLines (r : Reworder) (message : Text) :
    (r.bodyLines message).flatMap ink = ink (r.prettify message).text := by
  have hline (line : Text) :
      (Text.lines (TypeLayout.expandInline line)).flatMap ink = ink line := by
    rw [Text.flatMap_ink_lines, TypeLayout.ink_expandInline]
  rw [bodyLines, List.flatMap_assoc]
  simp only [hline]
  exact Text.flatMap_ink_lines _

theorem not_mem_of_mem_bodyLines {line : Text} (h : line ∈ r.bodyLines message) :
    '\n' ∉ line := by
  obtain ⟨long, -, hline⟩ := List.mem_flatMap.1 h
  exact Text.not_mem_of_mem_splitOn hline

theorem rewordLines_eq (r : Reworder) (message : Text) :
    r.rewordLines message = r.bodyLines message ++
      if r.showRaw then [[], separator, rawHeader] ++ Text.lines message else [] := by
  rw [rewordLines, bodyLines]
  split
  · exact List.append_assoc ..
  · exact (List.append_nil _).symm

theorem rewordLines_ne_nil (r : Reworder) (message : Text) : r.rewordLines message ≠ [] := by
  rw [rewordLines_eq]
  exact List.append_ne_nil_of_left_ne_nil (bodyLines_ne_nil r message) _

theorem not_mem_of_mem_rewordLines {line : Text} (h : line ∈ r.rewordLines message) :
    '\n' ∉ line := by
  rw [rewordLines_eq, List.mem_append] at h
  rcases h with h | h
  · exact not_mem_of_mem_bodyLines h
  · split at h
    · rcases List.mem_append.1 h with h | h
      · have hfixed : ∀ l ∈ [[], separator, rawHeader], '\n' ∉ l := by decide
        exact hfixed line h
      · exact Text.not_mem_of_mem_splitOn h
    · exact absurd h List.not_mem_nil

/-- What stands between a reworded message and the raw one. -/
def heading : Text := "\n---\nOriginal TS Error:\n".toList

theorem heading_eq : heading = '\n' :: (separator ++ '\n' :: (rawHeader ++ ['\n'])) := by
  decide +kernel

theorem unlines_rewordLines (h : r.showRaw) :
    Text.unlines (r.rewordLines message) =
      Text.unlines (r.bodyLines message) ++ '\n' :: (heading ++ message) := by
  have hraw : Text.unlines ([[], separator, rawHeader] ++ Text.lines message) =
      heading ++ message := by
    rw [Text.unlines_append (by simp) (Text.lines_ne_nil message), Text.unlines_lines, heading_eq]
    simp [Text.unlines, Text.join]
  rw [rewordLines_eq, if_pos h, Text.unlines_append (bodyLines_ne_nil r message) (by simp), hraw]

theorem reword_eq (h : r.showRaw) :
    r.reword message = (r.prettify message).text ++ '\n' :: (heading ++ message) := by
  have hbreaks : "\n\n".toList = ['\n', '\n'] := rfl
  have hbreak : "\n".toList = ['\n'] := rfl
  simp only [reword, h, if_true, hbreaks, hbreak, heading_eq]
  simp

theorem ink_rewordLines (r : Reworder) (message : Text) :
    ink (Text.unlines (r.rewordLines message)) = ink (r.reword message) := by
  have hbody := flatMap_ink_bodyLines r message
  by_cases h : r.showRaw
  · rw [unlines_rewordLines h, reword_eq h, Text.ink_append, Text.ink_unlines, hbody,
      Text.ink_append (r.prettify message).text]
  · rw [rewordLines_eq, if_neg h, List.append_nil, Text.ink_unlines, hbody, reword, if_neg h]

/-- The lines of the popup and the published text of a message hold the same characters in the same
order, blanks apart.  There is a line at least, no line is broken, and where the raw message is asked
for both end with it, unchanged and under its heading.  Every rule is taken to be applicable: a group
of a match that ends before it begins counts as empty on both sides, where `canApply` would fail. -/
theorem ink_unlines_rewordLines (r : Reworder) (message : Text) :
    let raw := heading ++ message
    ink (Text.unlines (r.rewordLines message)) = ink (r.reword message) ∧
    (∀ line ∈ r.rewordLines message, '\n' ∉ line) ∧
    r.rewordLines message ≠ [] ∧
    (r.showRaw → raw <:+ Text.unlines (r.rewordLines message) ∧ raw <:+ r.reword message) := by
  intro raw
  refine ⟨ink_rewordLines r message, fun _ => not_mem_of_mem_rewordLines,
    rewordLines_ne_nil r message, fun h => ?_⟩
  rw [unlines_rewordLines h, reword_eq h]
  exact ⟨⟨_, (List.append_cons ..).symm⟩, ⟨_, (List.append_cons ..).symm⟩⟩

/-- A block after a colon is laid out in the popup only. -/
theorem ink_unlines_rewordLines_block :
    let r : Reworder := ⟨['>'], false, true, []⟩
    let message : Text := "a: \x7b b: c; \x7d".toList
    r.showRaw ∧
      r.rewordLines message = [">a:".toList, "\x7b".toList, "  b: c;".toList, "\x7d".toList,
        [], "---".toList, "Original TS Error:".toList, message] ∧
      heading ++ message <:+ Text.unlines (r.rewordLines message) := by
  intro r message
  have hraw : r.showRaw := rfl
  obtain ⟨-, -, -, hends⟩ := ink_unlines_rewordLines r message
  exact ⟨hraw, by decide +kernel, (hends hraw).1⟩

end Message.Reworder

end Legible
