import Legible.Controller
import Legible.Proofs.Diagnostic.Order
import Legible.Proofs.Diagnostic.Rewording
import Legible.Proofs.Text.Units
import Legible.Proofs.Value.Integer
import Mathlib.Data.List.Forall2

/-!
# Where published diagnostics lie

Every item with a range gives one diagnostic, in order, and its range is that of the item: the lines
are kept, with the last one no earlier than the first, and the columns are those of the characters
at which the range begins and ends in the texts of these lines (`Spans`).  Items are refused for one
reason only, which is an infinite number where a number is read (`ofPublished_ok_iff`).

The columns are taken as they come.  So the end of a range stays before its beginning where an item
has them on one line in this order, or has the end on an earlier line; the popup cannot show such a
diagnostic at its beginning (`ofPublished_ordered_iff`).
-/

namespace Legible.Diagnostic

variable {item v : Value} {lineText : Option (Nat → Text)} {defaultSource : Option Text}
  {d : Diagnostic} {ds : List Diagnostic}

/-! ## Positions -/

/-- The value that is read as a coordinate of a position. -/
def coordinate (place : Value) (key : String) : Value := (place.field? key.toList).getD (.int 0)

/-- Whether reading a position meets an infinite number.  The character is looked at only where the
line can be read. -/
def isEndless (place : Value) : Bool :=
  (coordinate place "line").isInfinite ||
    ((coordinate place "line").toInteger.isOk && (coordinate place "character").isInfinite)

/-- The line and the character of a position, neither below zero; both are zero where one of them
cannot be read. -/
def placeOf (place : Value) : Nat × Nat :=
  match (coordinate place "line").toInteger, (coordinate place "character").toInteger with
  | .ok line, .ok character => (line.toNat, character.toNat)
  | _, _ => (0, 0)

theorem position_eq (place : Value) :
    position place = if isEndless place then .error .infinite else .ok (placeOf place) := by
  have hinfinite (w : Value) : w.isInfinite = decide (w.toInteger = .error .infinite) := by
    rw [Bool.eq_iff_iff, ← w.toInteger_eq_infinite_iff, decide_eq_true_iff]
  unfold position isEndless placeOf coordinate
  rw [hinfinite, hinfinite]
  dsimp only
  generalize ((place.field? "line".toList).getD (.int 0)).toInteger = line
  generalize ((place.field? "character".toList).getD (.int 0)).toInteger = character
  cases line with
  | error e => cases e <;> rfl
  | ok line =>
    cases character with
    | error e => cases e <;> rfl
    | ok character => rfl

/-! ## One item -/

/-- Where the range of an item begins. -/
def startOf (item : Value) : Nat × Nat := placeOf ((item.field "range".toList).field "start".toList)

/-- Where the range of an item ends. -/
def endOf (item : Value) : Nat × Nat := placeOf ((item.field "range".toList).field "end".toList)

/-- Whether reading an item with a range meets an infinite number. -/
def hasEndless (item : Value) : Bool :=
  isEndless ((item.field "range".toList).field "start".toList) ||
    isEndless ((item.field "range".toList).field "end".toList) ||
    (item.field "severity".toList).isInfinite

/-- The column of a position of units in a line, which is the position itself where the texts of the
lines are not known. -/
def columnIn (lineText : Option (Nat → Text)) (line units : Nat) : Nat :=
  match lineText with
  | some text => Text.indexAt (text line) units
  | none => units

/-- Whether the range of a diagnostic is that of an item. -/
structure Spans (lineText : Option (Nat → Text)) (item : Value) (d : Diagnostic) : Prop where
  line : d.line = (startOf item).1
  endLine : d.endLine = max (startOf item).1 (endOf item).1
  column : d.column = columnIn lineText (startOf item).1 (startOf item).2
  endColumn : d.endColumn =
    columnIn lineText (max (startOf item).1 (endOf item).1) (endOf item).2

theorem isInfinite_field_getD (item : Value) (key : Text) (n : Int) :
    ((item.field? key).getD (.int n)).isInfinite = (item.field key).isInfinite := by
  rw [Value.field]
  cases item.field? key <;> rfl

theorem severityName_of_isInfinite (h : v.isInfinite) : severityName v = .error .infinite := by
  rw [severityName, v.toInteger_eq_infinite_iff.2 h]

theorem exists_severityName (h : v.isInfinite = false) : ∃ name, severityName v = .ok name := by
  have hfinite : v.toInteger ≠ .error .infinite := fun hread => by
    rw [v.toInteger_eq_infinite_iff, h] at hread
    exact Bool.false_ne_true hread
  rw [severityName]
  cases hread : v.toInteger with
  | ok n => exact ⟨_, rfl⟩
  | error e =>
    cases e with
    | infinite => exact absurd hread hfinite
    | _ => exact ⟨_, rfl⟩

/-- An item without a range gives nothing, and one with a range gives a diagnostic with this range,
unless it has an infinite number. -/
theorem ofItem_cases (lineText : Option (Nat → Text)) (defaultSource : Option Text)
    (item : Value) :
    ((item.field "range".toList).isObject = false ∧
      ofItem lineText defaultSource item = .ok none) ∨
    ((item.field "range".toList).isObject ∧ hasEndless item ∧
      ofItem lineText defaultSource item = .error .infinite) ∨
    ((item.field "range".toList).isObject ∧ hasEndless item = false ∧
      ∃ d, ofItem lineText defaultSource item = .ok (some d) ∧ Spans lineText item d) := by
  unfold ofItem
  dsimp only
  cases hrange : (item.field "range".toList).isObject with
  | false => exact .inl ⟨rfl, rfl⟩
  | true =>
    refine .inr ?_
    rw [if_pos rfl, position_eq, position_eq, hasEndless]
    -- whichever number is infinite, the item is refused for the same reason
    cases isEndless ((item.field "range".toList).field "start".toList) with
    | true => exact .inl ⟨rfl, rfl, rfl⟩
    | false =>
      cases isEndless ((item.field "range".toList).field "end".toList) with
      | true => exact .inl ⟨rfl, rfl, rfl⟩
      | false =>
        have hseverity := isInfinite_field_getD item "severity".toList 1
        cases hinfinite : (item.field "severity".toList).isInfinite with
        | true =>
          rw [severityName_of_isInfinite (hseverity.trans hinfinite)]
          exact .inl ⟨rfl, rfl, rfl⟩
        | false =>
          obtain ⟨name, hname⟩ := exists_severityName (hseverity.trans hinfinite)
          rw [hname]
          exact .inr ⟨rfl, rfl, _, rfl, rfl, rfl, rfl, rfl⟩

/-! ## Lists of items -/

/-- The items of a list; other values have none. -/
def itemsOf : Value → List Value
  | .arr items => items
  | _ => []

theorem ofPublished_eq_ofItems (lineText : Option (Nat → Text)) (defaultSource : Option Text)
    (v : Value) :
    ofPublished lineText defaultSource v = ofItems lineText defaultSource (itemsOf v) := by
  cases v <;> rfl

theorem located_cons (item : Value) (rest : List Value) : located (item :: rest) =
    if (item.field "range".toList).isObject then item :: located rest else located rest :=
  List.filter_cons

/-- The diagnostics of items lie where their items with a range do, unless one of these has an
infinite number. -/
theorem ofItems_cases_spans (lineText : Option (Nat → Text)) (defaultSource : Option Text)
    (items : List Value) :
    ((∃ item ∈ located items, hasEndless item) ∧
      ofItems lineText defaultSource items = .error .infinite) ∨
    ((∀ item ∈ located items, hasEndless item = false) ∧
      ∃ ds, ofItems lineText defaultSource items = .ok ds ∧
        List.Forall₂ (Spans lineText) (located items) ds) := by
  induction items with
  | nil => exact .inr ⟨fun _ h => absurd h List.not_mem_nil, [], rfl, .nil⟩
  | cons item rest ih =>
    rw [located_cons, ofItems]
    rcases ofItem_cases lineText defaultSource item with
      ⟨hrange, hitem⟩ | ⟨hrange, hendless, hitem⟩ | ⟨hrange, hfinite, d, hitem, hspans⟩
    · rw [hrange, hitem]
      rcases ih with ⟨hinfinite, hrest⟩ | ⟨hfinite, ds, hrest, hds⟩
      · rw [hrest]
        exact .inl ⟨hinfinite, rfl⟩
      · rw [hrest]
        exact .inr ⟨hfinite, ds, rfl, hds⟩
    · rw [if_pos hrange, hitem]
      exact .inl ⟨⟨item, List.mem_cons_self, hendless⟩, rfl⟩
    · rw [if_pos hrange, hitem]
      rcases ih with ⟨⟨other, hother, hinfinite⟩, hrest⟩ | ⟨hothers, ds, hrest, hds⟩
      · rw [hrest]
        exact .inl ⟨⟨other, List.mem_cons_of_mem item hother, hinfinite⟩, rfl⟩
      · rw [hrest]
        exact .inr ⟨List.forall_mem_cons.2 ⟨hfinite, hothers⟩, d :: ds, rfl, .cons hspans hds⟩

theorem spans_of_ofPublished (h : ofPublished lineText defaultSource v = .ok ds) :
    List.Forall₂ (Spans lineText) (located (itemsOf v)) ds := by
  rw [ofPublished_eq_ofItems] at h
  rcases ofItems_cases_spans lineText defaultSource (itemsOf v) with
    ⟨-, hrefused⟩ | ⟨-, ds', hread, hds⟩
  · exact nomatch hrefused.symm.trans h
  · obtain rfl := Except.ok.inj (hread.symm.trans h)
    exact hds

theorem exists_spans_of_mem (h : ofPublished lineText defaultSource v = .ok ds) (hd : d ∈ ds) :
    ∃ item ∈ located (itemsOf v), Spans lineText item d := by
  obtain ⟨hlength, hspans⟩ := List.forall₂_iff_get.1 (spans_of_ofPublished h)
  obtain ⟨i, hi, rfl⟩ := List.getElem_of_mem hd
  exact ⟨_, List.getElem_mem (hlength ▸ hi), hspans i (hlength ▸ hi) hi⟩

theorem Spans.bounds (h : Spans lineText item d) :
    0 ≤ d.line ∧ d.line ≤ d.endLine ∧ 0 ≤ d.column ∧ 0 ≤ d.endColumn := by
  rw [h.line, h.endLine, h.column, h.endColumn]
  omega

/-- The diagnostics of a list can be read if and only if no item with a range has an infinite number
where a number is read; then there is one for each of these items, in order, with lines that do not
run backward, and columns that are those of the characters at the positions of units in the texts of
its first and last line. -/
theorem ofPublished_ok_iff (lineText : Option (Nat → Text)) (defaultSource : Option Text)
    (v : Value) :
    ((∃ ds, ofPublished lineText defaultSource v = .ok ds) ↔
      ∀ item ∈ located (itemsOf v), hasEndless item = false) ∧
    ∀ ds, ofPublished lineText defaultSource v = .ok ds →
      List.Forall₂ (fun item d => Spans lineText item d ∧
        0 ≤ d.line ∧ d.line ≤ d.endLine ∧ 0 ≤ d.column ∧ 0 ≤ d.endColumn)
        (located (itemsOf v)) ds := by
  refine ⟨?_, fun ds h => ?_⟩
  · rw [ofPublished_eq_ofItems]
    rcases ofItems_cases_spans lineText defaultSource (itemsOf v) with
      ⟨⟨item, hitem, hinfinite⟩, hrefused⟩ | ⟨hfinite, ds, hread, -⟩
    · rw [hrefused]
      refine ⟨fun ⟨ds, h⟩ => (nomatch h), fun h => ?_⟩
      exact absurd ((h item hitem).symm.trans hinfinite) Bool.false_ne_true
    · exact ⟨fun _ => hfinite, fun _ => ⟨ds, hread⟩⟩
  · exact (spans_of_ofPublished h).imp fun _ _ hspans => ⟨hspans, hspans.bounds⟩

/-- An item with a fraction for a line and a text for a character, one without a range, and one
whose infinite character does not count because its line is no number. -/
def oddItems : List Value :=
  let place (line character : Value) : Value :=
    .obj [("line".toList, line), ("character".toList, character)]
  [.obj [("range".toList, .obj [
      ("start".toList, place (.double (.finite false 5 (-1))) (.str ['3'])),
      ("end".toList, place (.int 1) (.int 4))])],
    .obj [("message".toList, .str ['m'])],
    .obj [("range".toList, .obj [("start".toList, place .null (.double (.infinite false)))])]]

/-- Items are read whatever they hold, as long as no number that counts is infinite. -/
theorem ofPublished_ok_iff_oddItems :
    let text (line : Nat) : Text := if line = 2 then ['a', '😀', 'b'] else []
    let place (d : Diagnostic) := (d.line, d.column, d.endLine, d.endColumn)
    (∀ item ∈ located oddItems, hasEndless item = false) ∧
      ∃ ds, ofPublished (some text) usualSource (.arr oddItems) = .ok ds ∧
        ds.map place = [(2, 2, 2, 3), (0, 0, 0, 0)] := by
  intro text place
  have hfinite : ∀ item ∈ located oddItems, hasEndless item = false := by decide +kernel
  obtain ⟨ds, hds⟩ :=
    (ofPublished_ok_iff (some text) (some usualSource) (.arr oddItems)).1.2 hfinite
  have hplaces : (ofPublished (some text) (some usualSource) (.arr oddItems)).map (List.map place) =
      .ok [(2, 2, 2, 3), (0, 0, 0, 0)] := rfl
  rw [hds] at hplaces
  exact ⟨hfinite, ds, hds, Except.ok.inj hplaces⟩

/-- A severity that is infinite has the whole list refused. -/
theorem ofPublished_infiniteSeverity :
    let range : Text × Value := ("range".toList, .obj [])
    let plain : Value := .obj [range]
    let severe : Value := .obj [range, ("severity".toList, .double (.infinite false))]
    (∃ d, ofPublished none usualSource (.arr [plain]) = .ok [d]) ∧
      ofPublished none usualSource (.arr [plain, severe]) = .error .infinite := ⟨⟨_, rfl⟩, rfl⟩

/-! ## Ranges in order -/

/-- Where a diagnostic ends. -/
def stop (d : Diagnostic) : Int × Int := (d.endLine, d.endColumn)

/-- Whether the range of an item ends where it begins or later.  Only the column counts unless the
end is on a later line.  A column within a pair of units counts as the one behind it, so the end may
also be one unit before the beginning. -/
def EndsInOrder (lineText : Option (Nat → Text)) (item : Value) : Prop :=
  (startOf item).1 < (endOf item).1 ∨ (startOf item).2 ≤ (endOf item).2 ∨
    (startOf item).2 = (endOf item).2 + 1 ∧
      ∃ text ∈ lineText, Text.SplitsPair (text (startOf item).1) (endOf item).2

theorem columnIn_le_iff (lineText : Option (Nat → Text)) (line u u' : Nat) :
    columnIn lineText line u ≤ columnIn lineText line u' ↔
      u ≤ u' ∨ u = u' + 1 ∧ ∃ text ∈ lineText, Text.SplitsPair (text line) u' := by
  cases lineText with
  | none => simp [columnIn]
  | some text =>
    rw [columnIn, columnIn, Text.indexAt_le_iff, Text.unitsAt_indexAt]
    by_cases hsplits : Text.SplitsPair (text line) u'
    · simp only [hsplits, if_true, Option.mem_some_iff, exists_eq_left', and_true]
      omega
    · simp only [hsplits, if_false, Option.mem_some_iff, exists_eq_left', and_false, or_false]

/-- A diagnostic covers its beginning just if it does not end before it. -/
theorem covers_start_iff (d : Diagnostic) : d.covers d.line d.column ↔ placeLe d.start d.stop := by
  rw [placeLe_iff, start, stop, covers]
  rcases Int.lt_trichotomy d.line d.endLine with hlater | hsame | hearlier
  · simp [hlater, Int.not_lt.2 (Int.le_of_lt hlater)]
  · simp [hsame]
  · simp [hearlier, Int.not_lt.2 (Int.le_of_lt hearlier), Int.ne_of_gt hearlier]

theorem Spans.inOrder_iff (h : Spans lineText item d) :
    placeLe d.start d.stop ↔ EndsInOrder lineText item := by
  rw [placeLe_iff, start, stop, h.line, h.endLine, h.column, h.endColumn, EndsInOrder]
  rcases Nat.lt_or_ge (startOf item).1 (endOf item).1 with hlater | hnot
  · omega
  · rw [max_eq_left hnot, ← columnIn_le_iff]
    omega

theorem mem_current_start_iff (hd : d ∈ ds) (kind : Text) :
    d ∈ Controller.current ⟨kind, d.start, ds⟩ ↔ d.covers d.line d.column := by
  rw [Controller.current, select, onLine, List.mem_filter, List.mem_filter]
  simp [hd, start]

/-- A diagnostic that was read ends where it begins or later if and only if its item does, with the
columns of the end taken as they are where its line comes first.  Just then it covers its beginning,
and is shown when the cursor is put there. -/
theorem ofPublished_ordered_iff (h : ofPublished lineText defaultSource v = .ok ds) :
    List.Forall₂ (fun item d => placeLe d.start d.stop ↔ EndsInOrder lineText item)
      (located (itemsOf v)) ds ∧
    ∀ d ∈ ds, (d.covers d.line d.column ↔ placeLe d.start d.stop) ∧
      ∀ kind, (d ∈ Controller.current ⟨kind, d.start, ds⟩ ↔ placeLe d.start d.stop) := by
  refine ⟨?_, fun d hd => ⟨covers_start_iff d, fun kind => ?_⟩⟩
  · exact (spans_of_ofPublished h).imp fun _ _ hspans => hspans.inOrder_iff
  · rw [mem_current_start_iff hd, covers_start_iff]

/-- A range that ends one unit before it begins, within a character, and one that ends on an earlier
line. -/
def turnedItems : List Value :=
  let place (line character : Int) : Value :=
    .obj [("line".toList, .int line), ("character".toList, .int character)]
  [.obj [("range".toList, .obj [("start".toList, place 0 3), ("end".toList, place 0 2)])],
    .obj [("range".toList, .obj [("start".toList, place 2 9), ("end".toList, place 1 4)])]]

/-- The first range is in order, since a character is not cut, and the second is not. -/
theorem ofPublished_ordered_iff_turnedItems :
    let text (line : Nat) : Text := if line = 0 then ['a', '😀'] else []
    EndsInOrder (some text) turnedItems[0] ∧ ¬ EndsInOrder (some text) turnedItems[1] ∧
      ∃ d e, ofPublished (some text) usualSource (.arr turnedItems) = .ok [d, e] ∧
        placeLe d.start d.stop ∧ ¬ placeLe e.start e.stop ∧ d.covers d.line d.column ∧
        e ∉ Controller.current ⟨"typescript".toList, e.start, [d, e]⟩ := by
  intro text
  have hsplits : Text.SplitsPair (text 0) 2 := by decide
  have hordered : EndsInOrder (some text) turnedItems[0] := .inr (.inr ⟨rfl, text, rfl, hsplits⟩)
  have hturned : ¬ EndsInOrder (some text) turnedItems[1] := by
    rintro (hline | hcolumn | ⟨hcolumn, -⟩)
    · exact absurd hline (by decide)
    · exact absurd hcolumn (by decide)
    · exact absurd hcolumn (by decide)
  obtain ⟨d, e, hread⟩ :
      ∃ d e, ofPublished (some text) usualSource (.arr turnedItems) = .ok [d, e] := ⟨_, _, rfl⟩
  obtain ⟨hitems, hcovered⟩ := ofPublished_ordered_iff hread
  obtain ⟨hd, hitems⟩ := List.forall₂_cons.1 hitems
  obtain ⟨he, -⟩ := List.forall₂_cons.1 hitems
  have hnot : ¬ placeLe e.start e.stop := mt he.1 hturned
  refine ⟨hordered, hturned, d, e, hread, hd.2 hordered, hnot, ?_, ?_⟩
  · exact (hcovered d List.mem_cons_self).1.2 (hd.2 hordered)
  · exact mt ((hcovered e (List.mem_cons_of_mem d List.mem_cons_self)).2 _).1 hnot

/-- A range whose end comes before its beginning, on an earlier line, gives a diagnostic that ends
on its first line and still before its beginning. -/
theorem ofPublished_turnedRange :
    let place (line character : Int) : Value :=
      .obj [("line".toList, .int line), ("character".toList, .int character)]
    let item : Value :=
      .obj [("range".toList, .obj [("start".toList, place 2 9), ("end".toList, place 1 4)])]
    ∃ d, ofPublished none usualSource (.arr [item]) = .ok [d] ∧ d.start = (2, 9) ∧
      d.stop = (2, 4) ∧ ¬ placeLe d.start d.stop ∧ d.covers d.line d.column = false :=
  ⟨_, rfl, rfl, rfl, by decide, by decide⟩

end Legible.Diagnostic
