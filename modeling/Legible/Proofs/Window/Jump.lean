import Legible.Proofs.Controller.Cursor
import Legible.Proofs.Diagnostic.Location
import Legible.Proofs.Editor.Position
import Legible.Proofs.Popup.Overlay
import Legible.Proofs.Window.Run

/-!
# Going to a diagnostic and seeing it

A command that goes to a diagnostic puts the cursor at its beginning, or at the end of the line
where that comes first, and then shows what stands at the cursor.  Where the diagnostics were read
with the texts of the document, and their ranges lie in it, this is the diagnostic itself just if its
range begins no later than its line ends (`shown_jump_iff`).  A range may begin later, and then the
popup shows what else there is at the end of the line, or nothing.
-/

namespace Legible

/-- The text of a line of the editor; there is none beyond the document. -/
def Editor.lineText (e : Editor) (line : Nat) : Text := ((Text.lines e.text)[line]?).getD []

/-- Whether the range of an item does not end before it begins, and its lines are those of a
document.  Its characters may lie beyond the ends of these lines. -/
structure Diagnostic.FitsInto (document : Text) (item : Value) : Prop where
  ordered : (startOf item).1 < (endOf item).1 ∨
    (startOf item).1 = (endOf item).1 ∧ (startOf item).2 ≤ (endOf item).2
  within : (endOf item).1 < (Text.lines document).length

namespace Controller

variable {c : Config} {r : Message.Reworder} {v : View}

/-- The overlay shows the diagnostics at the cursor, and is closed where there are none. -/
theorem read_evaluate (hkind : Language.isSupported v.kind) {p popup : Popup Popup.Overlay}
    (hpopup : popup = (evaluate c r v p).2) : (popup.isOpen ↔ current v ≠ []) ∧
      (popup.isOpen → popup.lines? = some (contentFor r (current v))) := by
  rcases evaluate_cases hkind p with ⟨hnone, heq⟩ | ⟨hsome, hne, heq⟩
  · rw [hpopup, heq, Popup.isOpen_close, hnone]
    exact ⟨⟨fun h => absurd h Bool.false_ne_true, fun h => absurd rfl h⟩,
      fun h => absurd h Bool.false_ne_true⟩
  · rw [hpopup, heq, Popup.lines?_display hne, prepareLines_contentFor]
    exact ⟨⟨fun _ => hsome, fun _ => Popup.isOpen_display hne _ p⟩, fun _ => rfl⟩

theorem target?_cases {forward : Bool} {d : Diagnostic} (h : target? v forward = some d) :
    Language.isSupported v.kind ∧ d ∈ v.diagnostics := by
  rw [target?] at h
  split at h
  · rename_i hkind
    refine ⟨hkind, ?_⟩
    split at h
    · exact Diagnostic.mem_of_next? h
    · exact Diagnostic.mem_of_previous? h
  · exact nomatch h

/-- With the cursor on the first line of a diagnostic, in its column or at a limit where that comes
first, the diagnostic is shown just if the limit does not come first. -/
theorem mem_current_min_iff {d : Diagnostic} (hd : d ∈ v.diagnostics)
    (hordered : Diagnostic.placeLe d.start d.stop) (limit : Int)
    (hcursor : v.cursor = (d.line, min d.column limit)) : d ∈ current v ↔ d.column ≤ limit := by
  have hcurrent : d ∈ current v ↔ d.covers d.line (min d.column limit) := by
    rw [current_eq, List.mem_filter, hcursor]
    simp [hd]
  rw [hcurrent]
  rcases le_or_gt d.column limit with hle | hlt
  · rw [min_eq_left hle, Diagnostic.covers_start_iff]
    exact ⟨fun _ => hle, fun _ => hordered⟩
  · have hnot : d.covers d.line limit = false := by
      simp [Diagnostic.covers, Int.not_le.2 hlt]
    rw [min_eq_right (Int.le_of_lt hlt), hnot]
    exact ⟨fun h => absurd h Bool.false_ne_true, fun h => absurd h (Int.not_le.2 hlt)⟩

theorem rewordLines_infix_contentFor {d : Diagnostic} {ds : List Diagnostic} (h : d ∈ ds) :
    r.rewordLines d.message <:+: contentFor r ds := by
  obtain ⟨before, after, rfl⟩ := List.append_of_mem h
  rw [contentFor, List.flatMap_append, List.flatMap_cons]
  exact ⟨_, _, List.append_assoc ..⟩

end Controller

open Diagnostic (FitsInto Spans endOf itemsOf located startOf)

namespace Window

variable {w : Window} {d : Diagnostic} {forward : Bool}

theorem view_eq (w : Window) :
    w.view = ⟨w.editor.kind, (w.editor.place.1, w.editor.place.2), w.editor.diagnostics⟩ := rfl

theorem events_goTo (line column : Int) (e : Editor) :
    (e.goTo line column).2 = [] ∨ (e.goTo line column).2 = [.cursorMoved, .idleStarted] := by
  unfold Editor.goTo
  split
  · unfold Editor.moveTo
    split
    · exact .inl rfl
    · exact .inr rfl
  · exact .inl rfl

/-- What the window does when the cursor of its editor moves leaves the editor as it is. -/
theorem withEditor_goTo (line column : Int) (w : Window) :
    (w.withEditor (Editor.goTo line column)).editor = (w.editor.goTo line column).1 ∧
      (w.withEditor (Editor.goTo line column)).reworder = w.reworder := by
  have hanswered : w.withEditor (Editor.goTo line column) =
      (w.editor.goTo line column).2.foldl onEditor
        { w with editor := (w.editor.goTo line column).1 } := rfl
  rw [hanswered]
  rcases events_goTo line column w.editor with hevents | hevents
  · rw [hevents]
    exact ⟨rfl, rfl⟩
  · rw [hevents]
    exact ⟨rfl, rfl⟩

/-- The editor that was sent to a place of a line that exists has its cursor on this line, in this
column or at the end of the line where that comes first. -/
theorem view_withEditor_goTo {line column : Int} {content : Text} (hline : 0 ≤ line)
    (hcolumn : 0 ≤ column) (hcontent : Editor.Position.lineAt? w.editor.text line = some content) :
    (w.withEditor (Editor.goTo line column)).view =
      { w.view with cursor := (line, min column content.length) } := by
  obtain ⟨hfile, hds⟩ := keepsFile_goTo line column w.editor
  have hplace := Editor.place_goTo hcontent column
  have hline' : (line.toNat : Int) = line := Int.toNat_of_nonneg hline
  have hcolumn' : ((min column.toNat content.length : Nat) : Int) = min column content.length := by
    omega
  rw [view_eq, view_eq w, (withEditor_goTo line column w).1, hplace, hds, Editor.kind, hfile,
    ← Editor.kind, hline', hcolumn']

theorem jump_eq (htarget : Controller.target? w.view forward = some d) :
    w.jump forward = (w.withEditor (Editor.goTo d.line d.column)).showAtCursor := by
  simp only [jump, htarget]

theorem view_showAtCursor (w : Window) : w.showAtCursor.view = w.view := by
  rw [showAtCursor, view_eq, view_eq w]

theorem popup_showAtCursor (w : Window) : w.showAtCursor.popup =
    (Controller.evaluate w.config w.reworder w.view w.popup).2 := by
  rw [showAtCursor]

/-- The line on which the range of an item begins exists in the document that it fits into. -/
theorem lineAt?_of_fitsInto {item : Value} (hfits : FitsInto w.editor.text item)
    (hspans : Spans (some w.editor.lineText) item d) :
    Editor.Position.lineAt? w.editor.text d.line = some (w.editor.lineText d.line.toNat) := by
  have hwithin : d.line.toNat < (Text.lines w.editor.text).length := by
    have := hfits.ordered
    have := hfits.within
    rw [hspans.line]
    omega
  rw [Editor.Position.lineAt?, Editor.lineText, List.getElem?_eq_getElem hwithin]
  rfl

theorem ordered_of_fitsInto {item : Value} (hfits : FitsInto w.editor.text item)
    (hspans : Spans (some w.editor.lineText) item d) : Diagnostic.placeLe d.start d.stop := by
  refine hspans.inOrder_iff.2 ?_
  rcases hfits.ordered with hlater | ⟨-, hle⟩
  · exact .inl hlater
  · exact .inr (.inl hle)

theorem column_le_iff {item : Value} (hspans : Spans (some w.editor.lineText) item d) :
    d.column ≤ (w.editor.lineText d.line.toNat).length ↔
      (startOf item).2 ≤ Text.units (w.editor.lineText d.line.toNat) := by
  rw [hspans.column, hspans.line, Int.ofNat_le]
  exact Text.indexAt_le_length_iff _ _

/-- Let the diagnostics of the editor be read, with the texts of its document, from ranges that fit
into this document.  A command that goes to one of them puts the cursor on its line, in its column
or at the end of the line where that comes first, and shows what stands there and nothing else.  The
diagnostic is there just if its range begins no later than its line ends.  Then the popup is open
with the lines of its message. -/
theorem shown_jump_iff {v : Value} {source : Option Text}
    (hread : Diagnostic.ofPublished (some w.editor.lineText) source v = .ok w.editor.diagnostics)
    (hfits : ∀ item ∈ located (itemsOf v), FitsInto w.editor.text item)
    (htarget : Controller.target? w.view forward = some d) :
    let now := w.jump forward
    let line := w.editor.lineText d.line.toNat
    let here := Controller.current now.view
    now.view = { w.view with cursor := (d.line, min d.column line.length) } ∧
    (now.popup.isOpen ↔ here ≠ []) ∧
    (now.popup.isOpen → now.popup.lines? = some (Controller.contentFor w.reworder here)) ∧
    ∃ item ∈ located (itemsOf v), Spans (some w.editor.lineText) item d ∧
      (d ∈ here ↔ (startOf item).2 ≤ Text.units line) ∧
      ((startOf item).2 ≤ Text.units line → now.popup.isOpen ∧
        ∃ lines, now.popup.lines? = some lines ∧ w.reworder.rewordLines d.message <:+: lines) := by
  intro now line here
  obtain ⟨hkind, hd⟩ := Controller.target?_cases htarget
  obtain ⟨item, hitem, hspans⟩ := Diagnostic.exists_spans_of_mem hread hd
  have hjump : now = (w.withEditor (Editor.goTo d.line d.column)).showAtCursor := jump_eq htarget
  obtain ⟨hfirst, -, hcolumn, -⟩ := hspans.bounds
  have hview := view_withEditor_goTo hfirst hcolumn (lineAt?_of_fitsInto (hfits item hitem) hspans)
  have hreworder := (withEditor_goTo d.line d.column w).2
  -- what the window goes through on its way does not matter
  generalize w.withEditor (Editor.goTo d.line d.column) = u at hjump hview hreworder
  have hhere : here = Controller.current u.view := by
    show Controller.current now.view = _
    rw [hjump, view_showAtCursor]
  clear_value now here
  subst hjump hhere
  have hkind' : Language.isSupported u.view.kind := hview ▸ hkind
  obtain ⟨hopen, hlines⟩ := Controller.read_evaluate hkind' (popup_showAtCursor u)
  rw [hreworder] at hlines
  have hmem : d ∈ Controller.current u.view ↔ (startOf item).2 ≤ Text.units line := by
    rw [← column_le_iff hspans]
    have hordered := ordered_of_fitsInto (hfits item hitem) hspans
    exact Controller.mem_current_min_iff (hview ▸ hd) hordered line.length (hview ▸ rfl)
  have hview' := (view_showAtCursor u).trans hview
  refine ⟨hview', hopen, hlines, item, hitem, hspans, hmem, fun hle => ?_⟩
  have hshown := hopen.2 (List.ne_nil_of_mem (hmem.2 hle))
  exact ⟨hshown, _, hlines hshown, Controller.rewordLines_infix_contentFor (hmem.2 hle)⟩

/-- Two items for a line of three units.  The range of the second begins past its end. -/
def itemsPastEnd : List Value :=
  let place (character : Int) : Value :=
    .obj [("line".toList, .int 0), ("character".toList, .int character)]
  let item (message : Char) (first last : Int) : Value :=
    .obj [("range".toList, .obj [("start".toList, place first), ("end".toList, place last)]),
      ("message".toList, .str [message])]
  [item 'm' 0 1, item 'n' 5 7]

/-- The diagnostics of these items. -/
def diagnosticsPastEnd : List Diagnostic :=
  let at? (message : Char) (column endColumn : Int) : Diagnostic :=
    { message := [message], line := 0, column, endLine := 0, endColumn,
      source := Diagnostic.usualSource }
  [at? 'm' 0 1, at? 'n' 4 6]

/-- A window with these diagnostics, whose cursor stands within the line. -/
def windowPastEnd : Window :=
  let reworder : Message.Reworder := ⟨[], false, false, []⟩
  { create {} reworder (Files.ofEntries []) (.create {} reworder ['/'] ['/'] 1) with
    editor := { text := ['a', '😀'], cursor := 1, file := some "/a.ts".toList,
                diagnostics := diagnosticsPastEnd } }

theorem read_itemsPastEnd :
    Diagnostic.ofPublished (some windowPastEnd.editor.lineText) Diagnostic.usualSource
      (.arr itemsPastEnd) = .ok windowPastEnd.editor.diagnostics := by
  decide +kernel

theorem fitsInto_itemsPastEnd :
    ∀ item ∈ located itemsPastEnd, FitsInto windowPastEnd.editor.text item := by
  have hall : ∀ item ∈ located itemsPastEnd,
      (startOf item).1 = (endOf item).1 ∧ (startOf item).2 ≤ (endOf item).2 ∧
        (endOf item).1 < 1 := by
    decide +kernel
  exact fun item hitem =>
    have ⟨hline, hcharacter, hwithin⟩ := hall item hitem
    ⟨.inr ⟨hline, hcharacter⟩, hwithin⟩

theorem target?_windowPastEnd :
    Controller.target? windowPastEnd.view false = some diagnosticsPastEnd[0] ∧
      Controller.target? windowPastEnd.view true = some diagnosticsPastEnd[1] := by
  have hkind : Language.isSupported windowPastEnd.view.kind := by decide +kernel
  have hsorted : Diagnostic.sorted windowPastEnd.view.diagnostics = diagnosticsPastEnd :=
    List.mergeSort_of_pairwise (by decide +kernel)
  rw [Controller.target?, Controller.target?, if_pos hkind, if_pos hkind, if_pos rfl,
    if_neg Bool.false_ne_true, Diagnostic.next?, Diagnostic.previous?, hsorted]
  decide +kernel

/-- Going back, the first is shown where it begins. -/
theorem shown_jump_iff_withinLine :
    let w := windowPastEnd
    Diagnostic.ofPublished (some w.editor.lineText) Diagnostic.usualSource (.arr itemsPastEnd) =
      .ok w.editor.diagnostics ∧
    (∀ item ∈ located (itemsOf (.arr itemsPastEnd)), FitsInto w.editor.text item) ∧
    Controller.target? w.view false = some diagnosticsPastEnd[0] ∧ (w.jump false).popup.isOpen ∧
    ∃ lines, (w.jump false).popup.lines? = some lines ∧
      w.reworder.rewordLines ['m'] <:+: lines := by
  obtain ⟨-, -, -, item, -, hspans, -, hshown⟩ :=
    shown_jump_iff read_itemsPastEnd fitsInto_itemsPastEnd target?_windowPastEnd.1
  have hle : diagnosticsPastEnd[0].column ≤ (windowPastEnd.editor.lineText 0).length := by
    decide +kernel
  exact ⟨read_itemsPastEnd, fitsInto_itemsPastEnd, target?_windowPastEnd.1,
    hshown ((column_le_iff hspans).1 hle)⟩

/-- Going on, the second is gone to but not shown: the cursor stands at the end of the line. -/
theorem shown_jump_pastEnd :
    let w := windowPastEnd
    Diagnostic.ofPublished (some w.editor.lineText) Diagnostic.usualSource (.arr itemsPastEnd) =
      .ok w.editor.diagnostics ∧
    (∀ item ∈ located itemsPastEnd, FitsInto w.editor.text item) ∧
    Controller.target? w.view true = some diagnosticsPastEnd[1] ∧
    (w.jump true).editor.place = (0, 2) ∧ (w.jump true).popup.isOpen = false := by
  refine ⟨read_itemsPastEnd, fitsInto_itemsPastEnd, target?_windowPastEnd.2, ?_⟩
  rw [jump_eq target?_windowPastEnd.2]
  decide +kernel

end Window

end Legible
