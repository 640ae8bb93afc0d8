import Legible.Popup.Overlay
import Legible.Proofs.Lists
import Legible.Proofs.Popup.Highlight
import Legible.Proofs.Text.Lines
import Legible.Proofs.Text.Utf16

/-!
# What the highlights set in a text document

A mark counts characters, and a document counts UTF-16 units.  What a mark sets on a line are just
the units of the characters that it is for, and it sets nothing where there are none
(`sets_runsOf`).  A document that was given some lines and then spans of them shows on each line the
marks of this line, in the order of the spans (`runs_addSpans`).
-/

namespace Legible.Popup

open Text (unitsAt utf16)

variable {line : Text} {m : Mark} {f : Format} {lines : List Text} {n : Nat}

/-! ## One mark -/

/-- The characters of a line that a mark is for. -/
def Mark.part (m : Mark) (line : Text) : Text :=
  (if m.stop < 0 then line else line.take m.stop.toNat).drop m.start.toNat

/-- The column behind the last character of a line that a mark may be for. -/
def Mark.last (m : Mark) (line : Text) : Nat :=
  if m.stop < 0 then line.length else min m.stop.toNat line.length

theorem Mark.last_le (m : Mark) (line : Text) : m.last line ≤ line.length := by
  unfold last
  split
  · exact Nat.le_refl _
  · exact Nat.min_le_right _ _

theorem Mark.part_eq (m : Mark) (line : Text) :
    m.part line = (line.take (m.last line)).drop m.start.toNat := by
  unfold part last
  split
  · rw [List.take_length]
  · rw [← List.take_eq_take_min]

theorem Mark.part_ne_nil_iff : m.part line ≠ [] ↔ m.start.toNat < m.last line := by
  rw [← List.length_pos_iff, part_eq, List.length_drop, List.length_take,
    Nat.min_eq_left (m.last_le line)]
  omega

theorem runOf?_eq (hstart : 0 ≤ m.start) (hformat : m.style.format? = some f) :
    runOf? line m = if m.start.toNat < m.last line then
      some ⟨unitsAt line m.start.toNat,
        unitsAt line (m.last line) - unitsAt line m.start.toNat, m.style, f⟩
    else none := by
  have hstop : (if m.stop < 0 then (line.length : Int) else min m.stop line.length) =
      (m.last line : Int) := by
    unfold Mark.last
    split <;> omega
  rw [runOf?, hformat]
  dsimp only
  rw [hstop, Int.toNat_natCast]
  exact if_congr (by omega) rfl rfl

/-- What a mark sets on a line: the units of its characters, behind those of the characters before
them. -/
structure Sets (line : Text) (m : Mark) (r : Run) : Prop where
  style : r.style = m.style
  format : m.style.format? = some r.format
  before : (utf16 line).take r.start = utf16 (line.take m.start.toNat)
  exact : ((utf16 line).drop r.start).take r.count = utf16 (m.part line)
  pos : 0 < r.count
  within : r.start + r.count ≤ (utf16 line).length

theorem exists_sets (hstart : 0 ≤ m.start) (hformat : m.style.format?.isSome)
    (hpart : m.part line ≠ []) : ∃ r, runOf? line m = some r ∧ Sets line m r := by
  obtain ⟨f, hf⟩ := Option.isSome_iff_exists.1 hformat
  have hlt := Mark.part_ne_nil_iff.1 hpart
  have hlast := m.last_le line
  have hfirst := Nat.le_of_lt (Nat.lt_of_lt_of_le hlt hlast)
  have hunits := Text.strictMono_unitsAt line hlt
  refine ⟨_, (runOf?_eq hstart hf).trans (if_pos hlt), rfl, hf, Text.take_utf16 hfirst, ?_, ?_, ?_⟩
  · rw [Mark.part_eq]
    exact Text.slice_utf16 (Nat.le_of_lt hlt) hlast
  · exact Nat.sub_pos_of_lt hunits
  · rw [Text.length_utf16, Nat.add_sub_cancel' (Nat.le_of_lt hunits)]
    exact Text.unitsAt_le_units hlast

theorem runOf?_eq_none (hstart : 0 ≤ m.start) (hformat : m.style.format?.isSome)
    (hpart : m.part line = []) : runOf? line m = none := by
  obtain ⟨f, hf⟩ := Option.isSome_iff_exists.1 hformat
  rw [runOf?_eq hstart hf, if_neg (mt Mark.part_ne_nil_iff.2 (not_not_intro hpart))]

/-- The marks that are for some character of a line stand beside what is set on the line. -/
theorem sets_runsOf {ms : List Mark} (hms : ∀ m ∈ ms, 0 ≤ m.start ∧ m.style.format?.isSome) :
    List.Forall₂ (Sets line) (ms.filter fun m => m.part line ≠ []) (runsOf line ms) := by
  refine forall₂_filterMap (fun m hm hpart => ?_) fun m hm hpart => ?_
  · exact exists_sets (hms m hm).1 (hms m hm).2 (of_decide_eq_true hpart)
  · exact runOf?_eq_none (hms m hm).1 (hms m hm).2 (by simpa using hpart)

/-! ## A document -/

namespace Scratch

variable {s : Scratch}

theorem foldl_addSpan (s : Scratch) (hlisted : s.listed) (hdrawn : s.drawn) (spans : List Span) :
    spans.foldl (fun s span => s.addSpan span) s = { s with spans := s.spans ++ spans } := by
  induction spans generalizing s with
  | nil => rw [List.foldl_nil, List.append_nil]
  | cons span spans ih =>
    have hone : s.addSpan span = { s with spans := s.spans ++ [span] } := by
      rw [addSpan, if_pos hlisted, hdrawn, Bool.true_or]
    rw [List.foldl_cons, hone, ih { s with spans := s.spans ++ [span] } hlisted hdrawn]
    dsimp only
    rw [List.append_assoc, List.singleton_append]

theorem getElem?_runsFrom (s : Scratch) (k : Nat) (lines : List Text) :
    (s.runsFrom k lines)[n]? =
      (lines[n]?).map fun line => runsOf line (s.marksOn ((k + n : Nat) : Int)) := by
  induction lines generalizing k n with
  | nil => simp [runsFrom]
  | cons line rest ih =>
    cases n with
    | zero => rfl
    | succ n =>
      rw [runsFrom, List.getElem?_cons_succ, ih, List.getElem?_cons_succ, Nat.add_right_comm,
        Nat.add_assoc]

/-- On each line of a document that is given some lines and then spans of them, the marks of this
line are drawn. -/
theorem runs_addSpans (hlisted : s.listed) (hlines : ∀ l ∈ lines, '\n' ∉ l) (spans : List Span)
    (hline : lines[n]? = some line) :
    (spans.foldl (fun s span => s.addSpan span) (s.setLines lines)).runs[n]? =
      some (runsOf line ((spans.filter fun span => span.line = (n : Int)).map (·.mark))) := by
  have hne : lines ≠ [] := by
    rintro rfl
    exact absurd hline (by simp)
  have hset : s.setLines lines =
      { s with spans := [], drawn := true, text := Text.unlines lines } := by
    rw [setLines, clear, if_pos hlisted]
  have hfold := foldl_addSpan (s.setLines lines) (hset ▸ hlisted) (hset ▸ rfl) spans
  rw [hfold, hset, runs, if_pos rfl, Scratch.lines, Text.lines_unlines hne hlines,
    getElem?_runsFrom, hline, Nat.zero_add]
  rfl

end Scratch

/-- What stands out in some lines, and how it is drawn.  In the lines just the names of basic types
are marked as such, each once, and the heading of the raw message with the line behind it.  On any
line such marks set, in order, just the units of the characters that they are for, and one that is
for no character sets nothing.  So it is drawn in a document that is given the lines and spans. -/
theorem highlights_exact (lines : List Text) :
    StandsOut lines (highlights lines) ∧
    (∀ (line : Text) (ms : List Mark), (∀ m ∈ ms, 0 ≤ m.start ∧ m.style.format?.isSome) →
      List.Forall₂ (Sets line) (ms.filter fun m => m.part line ≠ []) (runsOf line ms)) ∧
    ∀ s : Scratch, s.listed → (∀ l ∈ lines, '\n' ∉ l) →
      ∀ (n : Nat) (line : Text), lines[n]? = some line →
      ((highlights lines).foldl (fun s span => s.addSpan span) (s.setLines lines)).runs[n]? =
        some (runsOf line (((highlights lines).filter fun span => span.line = (n : Int)).map
          (·.mark))) := by
  refine ⟨standsOut_highlights lines, fun _ _ hms => sets_runsOf hms, ?_⟩
  intro s hlisted hlines n line hline
  exact Scratch.runs_addSpans hlisted hlines (highlights lines) hline

/-- The name of a type behind a pair, and a heading with an empty line behind it. -/
theorem highlights_exact_pair :
    let line : Text := '😀' :: "null".toList
    let lines : List Text := [line, Message.rawHeader, []]
    let ms : List Mark := [⟨1, 5, .type⟩, ⟨5, -1, .comment⟩]
    let s : Scratch := {}
    IsKeyword line 1 5 ∧ ⟨0, ⟨1, 5, .type⟩⟩ ∈ highlights lines ∧
    (∀ m ∈ ms, 0 ≤ m.start ∧ m.style.format?.isSome) ∧
    (∃ r, runsOf line ms = [r] ∧ ((utf16 line).drop r.start).take r.count = utf16 "null".toList) ∧
    s.listed ∧ (∀ l ∈ lines, '\n' ∉ l) ∧
    ((highlights lines).foldl (fun s span => s.addSpan span) (s.setLines lines)).runs[2]? =
      some [] := by
  intro line lines ms s
  obtain ⟨hout, hsets, hdrawn⟩ := highlights_exact lines
  have hword : IsKeyword line 1 5 := ⟨by decide, by decide⟩
  have hms : ∀ m ∈ ms, 0 ≤ m.start ∧ m.style.format?.isSome := by decide
  have hlines : ∀ l ∈ lines, '\n' ∉ l := by decide +kernel
  have hkept : (ms.filter fun m => m.part line ≠ []) = [⟨1, 5, .type⟩] := by decide
  obtain ⟨r, rest, hr, hrest, hruns⟩ := List.forall₂_cons_left_iff.1 (hkept ▸ hsets line ms hms)
  obtain rfl := List.forall₂_nil_left_iff.1 hrest
  have hmember : ⟨0, ⟨1, 5, .type⟩⟩ ∈ highlights lines :=
    (hout.keyword 0 1 5).2 ⟨0, 1, 5, line, rfl, rfl, rfl, rfl, hword⟩
  refine ⟨hword, hmember, hms, ⟨r, hruns, hr.exact⟩, rfl, hlines, ?_⟩
  refine (hdrawn s rfl hlines 2 [] rfl).trans ?_
  decide +kernel

end Legible.Popup
