import Legible.Proofs.Editor.Position
import Legible.Proofs.Lists
import Legible.Proofs.Text.Lines

/-!
# Where underlines lie

Every diagnostic whose first line exists is underlined, in order, from its beginning, with the
column kept within the line, to a position that does not come before it and is not past the end of
the document (`Underlines`).

A position of a place cuts the text between two characters (`exists_split`).  So an underline that
ends at a place ends between two characters.  Where the end of the diagnostic does not come after
its beginning the underline goes on for one unit instead, and that is half of a character beyond
U+FFFF.  It is cut just in this case (`whole_underlines_iff`).
-/

namespace Legible.Editor

open Text (SplitsPair units)

variable {t content : Text} {e : Editor} {d : Diagnostic} {start stop : Nat}

/-! ## Positions of places -/

namespace Position

/-- The position of a place cuts the text within the line of this place, before the character of
this column or at the end of the line. -/
theorem exists_split {ls : List Text} {n i : Nat} (hline : ls[n]? = some content)
    (hi : i ≤ content.length) :
    ∃ before after, Text.unlines ls = before ++ (content.drop i ++ after) ∧
      lineStart ls n + Text.unitsAt content i = units before ∧ ∀ c ∈ after.head?, c = '\n' := by
  induction ls generalizing n with
  | nil => exact absurd hline (by simp)
  | cons first rest ih =>
    cases n with
    | zero =>
      obtain rfl : first = content := Option.some.inj hline
      rw [lineStart, Nat.zero_add, Text.unitsAt_eq_units_take hi]
      by_cases hrest : rest = []
      · subst hrest
        refine ⟨first.take i, [], ?_, rfl, by simp⟩
        rw [List.append_nil, List.take_append_drop]
        rfl
      · refine ⟨first.take i, '\n' :: Text.unlines rest, ?_, rfl, by simp⟩
        rw [Text.unlines_cons first hrest, ← List.append_assoc, List.take_append_drop]
    | succ n =>
      rw [List.getElem?_cons_succ] at hline
      have hrest : rest ≠ [] := by
        rintro rfl
        exact absurd hline (by simp)
      obtain ⟨before, after, hsplit, hunits, hafter⟩ := ih hline
      refine ⟨first ++ '\n' :: before, after, ?_, ?_, hafter⟩
      · rw [Text.unlines_cons first hrest, hsplit, List.append_assoc, List.cons_append]
      · have hfeed : Text.unitsOf '\n' = 1 := by decide
        rw [lineStart, Text.units_append, units, hfeed, ← hunits]
        omega

/-- A place has a position just if its line exists. -/
theorem ofPlace?_eq_some_iff {line column : Int} :
    ofPlace? t line column = some start ↔
      ∃ content, lineAt? t line = some content ∧ inLine t line content column = start :=
  Option.map_eq_some_iff

/-- The text is cut at the position of a place: before the character of this column, or before a
line feed or the end of the text. -/
theorem exists_split_of_place {line : Int} (hline : lineAt? t line = some content) (column : Int) :
    ∃ before after, t = before ++ (content.drop column.toNat ++ after) ∧
      inLine t line content column = units before ∧ ∀ c ∈ after.head?, c = '\n' := by
  obtain ⟨before, after, hsplit, hunits, hafter⟩ :=
    exists_split hline (Nat.min_le_right column.toNat content.length)
  rw [Text.unlines_lines] at hsplit
  refine ⟨before, after, hsplit.trans ?_, hunits, hafter⟩
  rcases Nat.le_total column.toNat content.length with hle | hge
  · rw [Nat.min_eq_left hle]
  · rw [Nat.min_eq_right hge, List.drop_length, List.drop_eq_nil_of_le hge]

theorem le_units_of_ofPlace? {line column : Int} (h : ofPlace? t line column = some start) :
    start ≤ units t := by
  obtain ⟨content, hline, rfl⟩ := ofPlace?_eq_some_iff.1 h
  obtain ⟨before, after, hsplit, hunits, -⟩ := exists_split_of_place hline column
  rw [hunits, hsplit, Text.units_append]
  exact Nat.le_add_right _ _

theorem not_splitsPair_of_ofPlace? {line column : Int} (h : ofPlace? t line column = some start) :
    ¬ SplitsPair t start := by
  obtain ⟨content, hline, rfl⟩ := ofPlace?_eq_some_iff.1 h
  obtain ⟨before, after, hsplit, hunits, -⟩ := exists_split_of_place hline column
  rw [hunits, hsplit, ← Nat.add_zero (units before), Text.splitsPair_append]
  exact Text.not_splitsPair_zero _

/-- One unit behind the position of a place the text is cut within a pair just if the place is that
of a character beyond U+FFFF. -/
theorem splitsPair_succ_iff {line column : Int} (h : ofPlace? t line column = some start) :
    SplitsPair t (start + 1) ↔
      ∃ content ∈ lineAt? t line, ∃ c ∈ content[column.toNat]?, 0xFFFF < c.toNat := by
  obtain ⟨content, hline, rfl⟩ := ofPlace?_eq_some_iff.1 h
  obtain ⟨before, after, hsplit, hunits, hafter⟩ := exists_split_of_place hline column
  have hhead : (content.drop column.toNat ++ after).head? =
      content[column.toNat]?.or after.head? := by
    rw [List.head?_append, List.head?_drop]
  rw [hunits, hline, hsplit, Text.splitsPair_append, Text.splitsPair_one, hhead]
  simp only [Option.mem_some_iff, exists_eq_left']
  cases content[column.toNat]? with
  | some c => rfl
  | none =>
    -- what stands behind the end of a line is no pair
    refine ⟨fun ⟨c, hc, hastral⟩ => ?_, fun ⟨c, hc, _⟩ => absurd hc (by simp)⟩
    rw [hafter c hc] at hastral
    exact absurd hastral (by decide)

end Position

open Position (ofPlace? lineAt?)

/-! ## Underlines -/

/-- Whether no end of a diagnostic comes after its beginning, where a character beyond U+FFFF
stands. -/
def IsCut (t : Text) (d : Diagnostic) : Prop :=
  (∀ start ∈ ofPlace? t d.line d.column, ∀ stop ∈ ofPlace? t d.endLine d.endColumn,
    stop ≤ start) ∧
  ∃ content ∈ lineAt? t d.line, ∃ c ∈ content[d.column.toNat]?, 0xFFFF < c.toNat

/-- How an underline lies in a document. -/
structure Underlines (t : Text) (d : Diagnostic) (u : Underline) : Prop where
  /-- It begins where the diagnostic does, with the column kept within the line. -/
  start : ∃ content, (Text.lines t)[d.line.toNat]? = some content ∧
    u.start = (((Text.lines t).take d.line.toNat).map fun l => units l + 1).sum +
      units (content.take d.column.toNat)
  ordered : u.start ≤ u.stop
  within : u.stop ≤ units t
  /-- It ends where the diagnostic does if that comes after its beginning. -/
  stop : ∀ stop ∈ ofPlace? t d.endLine d.endColumn, u.start < stop → u.stop = stop
  /-- Else it is one unit long, as far as there is one. -/
  short : (∀ stop ∈ ofPlace? t d.endLine d.endColumn, stop ≤ u.start) →
    u.stop = min (u.start + 1) (units t)
  whole : ¬ SplitsPair t u.start
  cut : SplitsPair t u.stop ↔ IsCut t d

/-- An underline begins where its diagnostic does.  It ends where the diagnostic does, or one unit
behind its beginning, as far as there is one. -/
theorem underlineOf?_cases {u : Underline} (h : e.underlineOf? d = some u) :
    ofPlace? e.text d.line d.column = some u.start ∧
      ((ofPlace? e.text d.endLine d.endColumn = some u.stop ∧ u.start < u.stop) ∨
        ((∀ stop ∈ ofPlace? e.text d.endLine d.endColumn, stop ≤ u.start) ∧
          u.stop = min (u.start + 1) (units e.text))) := by
  obtain ⟨start, hstart, rfl⟩ := Option.map_eq_some_iff.1 h
  refine ⟨hstart, ?_⟩
  dsimp only [position?]
  cases hstop : ofPlace? e.text d.endLine d.endColumn with
  | none => exact .inr ⟨by simp, rfl⟩
  | some stop =>
    dsimp only
    split
    · rename_i hle
      exact .inr ⟨by simpa using hle, rfl⟩
    · rename_i hgt
      have hmin : min stop (units e.text) = stop :=
        Nat.min_eq_left (Position.le_units_of_ofPlace? hstop)
      exact .inl ⟨by rw [hmin], by omega⟩

theorem splitsPair_min_iff (hstart : start ≤ units t) (hwhole : ¬ SplitsPair t start) :
    SplitsPair t (min (start + 1) (units t)) ↔ SplitsPair t (start + 1) := by
  rcases Nat.lt_or_ge start (units t) with hlt | hge
  · rw [Nat.min_eq_left hlt]
  · obtain rfl : start = units t := Nat.le_antisymm hstart hge
    rw [Nat.min_eq_right (Nat.le_succ _)]
    refine iff_of_false hwhole fun hsplits => ?_
    have := Text.lt_units_of_splitsPair hsplits
    omega

theorem isCut_iff (h : ofPlace? t d.line d.column = some start) :
    IsCut t d ↔ (∀ stop ∈ ofPlace? t d.endLine d.endColumn, stop ≤ start) ∧
      SplitsPair t (start + 1) := by
  rw [IsCut, Position.splitsPair_succ_iff h, h]
  simp only [Option.mem_some_iff, forall_eq']

theorem underlines_of_underlineOf? {u : Underline} (h : e.underlineOf? d = some u) :
    Underlines e.text d u := by
  obtain ⟨hstart, hstop⟩ := underlineOf?_cases h
  obtain ⟨content, hline, hinLine⟩ := Position.ofPlace?_eq_some_iff.1 hstart
  have hle := Position.le_units_of_ofPlace? hstart
  have hwhole := Position.not_splitsPair_of_ofPlace? hstart
  refine
    { start := ⟨content, hline, hinLine.symm.trans (Position.inLine_eq_sum ..)⟩, ordered := ?_,
      within := ?_, stop := fun stop hend hlt => ?_, short := fun hnone => ?_, whole := hwhole,
      cut := ?_ }
  · omega
  · rcases hstop with ⟨hend, -⟩ | ⟨-, hend⟩
    · exact Position.le_units_of_ofPlace? hend
    · omega
  · rcases hstop with ⟨hsame, -⟩ | ⟨hnone, -⟩
    · exact Option.some.inj (hsame.symm.trans hend)
    · exact absurd hlt (Nat.not_lt.2 (hnone stop hend))
  · rcases hstop with ⟨hend, hlt⟩ | ⟨-, hend⟩
    · exact absurd hlt (Nat.not_lt.2 (hnone _ hend))
    · exact hend
  · rw [isCut_iff hstart]
    rcases hstop with ⟨hend, hlt⟩ | ⟨hnone, hend⟩
    · refine iff_of_false (Position.not_splitsPair_of_ofPlace? hend) fun hcut => ?_
      exact absurd hlt (Nat.not_lt.2 (hcut.1 _ hend))
    · rw [hend, splitsPair_min_iff hle hwhole]
      exact (and_iff_right hnone).symm

theorem isSome_underlineOf? (e : Editor) (d : Diagnostic) :
    (e.underlineOf? d).isSome = decide (d.line.toNat < (Text.lines e.text).length) := by
  rw [Bool.eq_iff_iff]
  simp [underlineOf?, position?, ofPlace?, lineAt?]

theorem exists_underlineOf?_of_isCut (h : IsCut e.text d) : ∃ u, e.underlineOf? d = some u := by
  obtain ⟨-, content, hline, -⟩ := h
  rw [← Option.isSome_iff_exists, isSome_underlineOf?, decide_eq_true_iff]
  exact (List.getElem?_eq_some_iff.1 hline).1

/-- The underlines of a document, side by side with the diagnostics whose first line exists.  Each
lies in the document, from the beginning of its diagnostic on, and its beginning cuts no character.
None of their ends cuts a character just if there is no diagnostic without a later end at a
character beyond U+FFFF. -/
theorem whole_underlines_iff (e : Editor) (ds : List Diagnostic) :
    List.Forall₂ (Underlines e.text)
      (ds.filter fun d => d.line.toNat < (Text.lines e.text).length)
      (e.setDiagnostics ds).underlines ∧
    ((∀ u ∈ (e.setDiagnostics ds).underlines, ¬ SplitsPair e.text u.stop) ↔
      ∀ d ∈ ds, ¬ IsCut e.text d) := by
  have hunderlines : (e.setDiagnostics ds).underlines = ds.filterMap e.underlineOf? := rfl
  rw [hunderlines]
  refine ⟨forall₂_filterMap (fun d _ hline => ?_) fun d _ hnoLine => ?_, ?_, ?_⟩
  · rw [← isSome_underlineOf?] at hline
    obtain ⟨u, hu⟩ := Option.isSome_iff_exists.1 hline
    exact ⟨u, hu, underlines_of_underlineOf? hu⟩
  · rwa [← isSome_underlineOf?, Option.not_isSome_iff_eq_none] at hnoLine
  · intro hends d hd hcut
    obtain ⟨u, hu⟩ := exists_underlineOf?_of_isCut hcut
    exact hends u (List.mem_filterMap.2 ⟨d, hd, hu⟩) ((underlines_of_underlineOf? hu).cut.2 hcut)
  · intro hnone u hu hsplits
    obtain ⟨d, hd, hdu⟩ := List.mem_filterMap.1 hu
    exact hnone d hd ((underlines_of_underlineOf? hdu).cut.1 hsplits)

/-- A diagnostic of no width before a character beyond U+FFFF is underlined up to the middle of this
character. -/
theorem cut_underline_pair :
    let e : Editor := { text := ['😀'] }
    let d : Diagnostic := { message := ['m'], line := 0, column := 0, endLine := 0, endColumn := 0 }
    (e.setDiagnostics [d]).underlines = [⟨0, 1, errorColor⟩] ∧ SplitsPair e.text 1 := by
  decide

end Legible.Editor
