import Legible.Editor.Basic
import Legible.Proofs.Diagnostic.Location
import Mathlib.Data.Prod.Lex

/-!
# What the tooltip and the popup select

A diagnostic covers a place just if the place lies between its beginning and its end, both included,
in the order of lines and then of columns (`covers_iff_between`).  The tooltip shows every
diagnostic that covers the place.  The popup shows, in the same order, those of them that begin on
the line of the place, so it leaves out just the diagnostics that go on from an earlier line
(`current_eq_select_iff`).
-/

namespace Legible.Diagnostic

variable {d : Diagnostic} {line column : Int}

theorem covers_iff (d : Diagnostic) (line column : Int) :
    d.covers line column ↔ (d.line ≤ line ∧ line ≤ d.endLine) ∧
      (if line = d.line then d.column else 0) ≤ column ∧
      (line < d.endLine ∨ column ≤ d.endColumn) := by
  rw [covers]
  by_cases hout : line < d.line ∨ d.endLine < line
  · rw [if_pos (by simpa using hout)]
    refine iff_of_false Bool.false_ne_true ?_
    omega
  · rw [if_neg (by simpa using hout)]
    rw [not_or, not_lt, not_lt] at hout
    by_cases hlater : line < d.endLine
    · rw [if_pos hlater, decide_eq_true_iff]
      exact ⟨fun h => ⟨hout, h, .inl hlater⟩, fun h => h.2.1⟩
    · rw [if_neg hlater, Bool.and_eq_true, decide_eq_true_iff, decide_eq_true_iff]
      exact ⟨fun h => ⟨hout, h.1, .inr h.2⟩, fun h => ⟨h.2.1, h.2.2.resolve_left hlater⟩⟩

/-- On the first line the column decides whether the place comes after the beginning, and so it does
on the last line for the end.  On the lines behind the first every column that exists will do. -/
theorem covers_iff_between (d : Diagnostic) (line : Int) (hcolumn : 0 ≤ column) :
    d.covers line column ↔
      toLex d.start ≤ toLex (line, column) ∧ toLex (line, column) ≤ toLex d.stop := by
  rw [covers_iff, Prod.Lex.toLex_le_toLex, Prod.Lex.toLex_le_toLex, start, stop]
  dsimp only
  by_cases hfirst : line = d.line
  · rw [if_pos hfirst]
    omega
  · rw [if_neg hfirst]
    omega

/-- What the popup shows are those of the selected diagnostics that begin on the line. -/
theorem current_eq_filter_select (ds : List Diagnostic) (kind : Text) (line column : Int) :
    Controller.current ⟨kind, (line, column), ds⟩ =
      (select ds line column).filter (·.line = line) := by
  rw [Controller.current, select, onLine, select, List.filter_filter, List.filter_filter]
  exact List.filter_congr fun d _ => Bool.and_comm ..

theorem filter_select_eq_self_iff (ds : List Diagnostic) (line column : Int) :
    (select ds line column).filter (·.line = line) = select ds line column ↔
      ∀ d ∈ ds, d.line < line → ¬ d.covers line column := by
  rw [List.filter_eq_self]
  constructor
  · intro h d hd hearlier hcovers
    have hsame := of_decide_eq_true (h d (List.mem_filter.2 ⟨hd, hcovers⟩))
    omega
  · intro h d hd
    obtain ⟨hd, hcovers⟩ := List.mem_filter.1 hd
    have hle := ((covers_iff d line column).1 hcovers).1.1
    refine decide_eq_true (Int.le_antisymm hle ?_)
    by_contra hlt
    exact h d hd (Int.not_le.1 hlt) hcovers

/-- At every place a diagnostic is selected just if the place lies within its range.  The popup
shows the selected diagnostics that begin on the line of the place, and the tooltip tells the
messages of all of them.  So the two agree just if none that begins on an earlier line covers the
place. -/
theorem current_eq_select_iff (e : Editor) (line : Int) (column : Nat) :
    let shown := Controller.current ⟨e.kind, (line, column), e.diagnostics⟩
    let told := select e.diagnostics line column
    (∀ d : Diagnostic, d.covers line column ↔
      toLex d.start ≤ toLex (line, (column : Int)) ∧ toLex (line, (column : Int)) ≤ toLex d.stop) ∧
    e.hoverText line column = Text.join "\n\n".toList (told.map fun d =>
      if d.publishedMessage.isEmpty then d.message else d.publishedMessage) ∧
    shown.Sublist told ∧ shown = told.filter (·.line = line) ∧
    (shown = told ↔ ∀ d ∈ e.diagnostics, d.line < line → ¬ d.covers line column) := by
  intro shown told
  have hshown : shown = told.filter (·.line = line) := current_eq_filter_select ..
  refine ⟨fun d => covers_iff_between d line (Int.natCast_nonneg column), rfl, ?_, hshown, ?_⟩
  · rw [hshown]
    exact List.filter_sublist
  · rw [hshown]
    exact filter_select_eq_self_iff ..

/-- A diagnostic that goes on from the line before is told by the tooltip and not shown. -/
example :
    let d : Diagnostic := { message := ['m'], line := 0, column := 3, endLine := 1, endColumn := 2 }
    let e : Editor := { text := "abcd\nef".toList, diagnostics := [d] }
    e.hoverText 1 2 = ['m'] ∧ Controller.current ⟨e.kind, (1, 2), e.diagnostics⟩ = [] := by
  decide

end Legible.Diagnostic
