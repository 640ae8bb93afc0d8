import Legible.Proofs.Message.Ink
import Legible.Proofs.Text.Blank

/-!
# Laying out a layout

A type that is laid out already stays as it is, whatever its braces and blanks are
(`layout_layout`).

The text of a layout is read line by line.  While the first reading collects a line, the second
one stands at the beginning of that line, and `Resumes` says how the two belong together: what the
line holds so far takes the second reading to where the first one is.  The depth where the line
begins need not be the depth where the first reading is, for a closing brace comes first on its line.
A line is dropped if it is blank, and then the next one begins at the same place
(`Resumes.linesFrom_emit`).
-/

namespace Legible

namespace TypeLayout

variable {start depth next : Int} {current : Text} {fresh : Bool}

/-! ## One character -/

theorem emit_eq_nil (h : Text.stripRight current = []) : emit current = [] := by
  rw [emit, h]

theorem emit_eq_singleton (h : Text.stripRight current ≠ []) :
    emit current = [Text.stripRight current] := by
  rw [emit]
  split
  · rename_i hnil
    exact absurd hnil h
  · rfl

theorem stripRight_indent (depth : Int) : Text.stripRight (indent depth) = [] :=
  Text.stripRight_eq_nil fun c hc => by
    rw [List.eq_of_mem_replicate hc]
    exact Text.isBlank_space

theorem emit_indent (depth : Int) : emit (indent depth) = [] := emit_eq_nil (stripRight_indent depth)

theorem emit_concat (current : Text) {c : Char} (h : Text.isBlank c = false) :
    emit (current ++ [c]) = [current ++ [c]] := by
  have hkept : Text.stripRight (current ++ [c]) = current ++ [c] := by
    rw [Text.stripRight_concat, if_neg (by simp [h])]
  rw [emit_eq_singleton (by simp [hkept]), hkept]

theorem linesFrom_open (rest : Text) : linesFrom depth current fresh ('\x7b' :: rest) =
    emit (current ++ ['\x7b']) ++ linesFrom (depth + 1) (indent (depth + 1)) true rest := by
  rw [linesFrom, if_pos rfl]

theorem linesFrom_close (rest : Text) : linesFrom depth current fresh ('\x7d' :: rest) =
    emit current ++ linesFrom (depth - 1) (indent (depth - 1) ++ ['\x7d']) false rest := by
  rw [linesFrom, if_neg (by decide), if_pos rfl]

theorem linesFrom_newline (rest : Text) : linesFrom depth current false ('\n' :: rest) =
    emit current ++ linesFrom depth (indent depth) true rest := rfl

/-- Blanks at the beginning of a line are passed over. -/
theorem linesFrom_indent (start depth : Int) (rest : Text) :
    linesFrom depth current true (indent start ++ rest) = linesFrom depth current true rest := by
  rw [indent]
  generalize 2 * start.toNat = n
  induction n with
  | zero => rfl
  | succ n ih => exact ih

/-- What stands behind a line in a text of lines is read as those lines, where a new line begins. -/
theorem exists_unlines_cons (line : Text) {lines : List Text}
    (hlines : linesFrom depth (indent depth) true (Text.unlines lines) = lines) :
    ∃ rest, Text.unlines (line :: lines) = line ++ rest ∧
      linesFrom depth (indent depth) true rest = lines := by
  cases lines with
  | nil => exact ⟨[], (List.append_nil line).symm, emit_indent depth⟩
  | cons l ls =>
    exact ⟨'\n' :: Text.unlines (l :: ls), Text.unlines_cons line (List.cons_ne_nil l ls), hlines⟩

/-! ## Two readings -/

/-- A reading that begins a line at the depth `start` belongs to one that is at `depth` with
`current` in its line: what that line holds, and what will be kept of it, takes the one to the
other.  As long as the line is blank, no brace has changed the depth. -/
structure Resumes (start depth : Int) (current : Text) (fresh : Bool) : Prop where
  whole (rest : Text) : linesFrom start (indent start) true (current ++ rest) =
    linesFrom depth current fresh rest
  kept (h : Text.stripRight current ≠ []) (rest : Text) :
    linesFrom start (indent start) true (Text.stripRight current ++ rest) =
      linesFrom depth (Text.stripRight current) false rest
  blank : Text.stripRight current = [] → start = depth

theorem resumes_fresh (depth : Int) : Resumes depth depth (indent depth) true where
  whole := linesFrom_indent depth depth
  kept h := absurd (stripRight_indent depth) h
  blank _ := rfl

/-- A closing brace is the first of its line, which the other reading begins one level deeper. -/
theorem resumes_close (depth : Int) :
    Resumes depth (depth - 1) (indent (depth - 1) ++ ['\x7d']) false := by
  have hkept : Text.stripRight (indent (depth - 1) ++ ['\x7d']) = indent (depth - 1) ++ ['\x7d'] := by
    rw [Text.stripRight_concat, if_neg (by decide)]
  have hwhole (rest : Text) :
      linesFrom depth (indent depth) true (indent (depth - 1) ++ ['\x7d'] ++ rest) =
        linesFrom (depth - 1) (indent (depth - 1) ++ ['\x7d']) false rest := by
    rw [List.append_assoc, linesFrom_indent, List.singleton_append, linesFrom_close, emit_indent,
      List.nil_append]
  refine ⟨hwhole, fun _ rest => ?_, fun h => ?_⟩
  · rw [hkept, hwhole]
  · rw [hkept] at h
    simp at h

/-- Both readings take a character that ends no line. -/
theorem Resumes.concat (h : Resumes start depth current fresh) {c : Char}
    (hstep : ∀ rest, linesFrom depth current fresh (c :: rest) =
      linesFrom depth (current ++ [c]) false rest) :
    Resumes start depth (current ++ [c]) false := by
  have hwhole (rest : Text) : linesFrom start (indent start) true (current ++ [c] ++ rest) =
      linesFrom depth (current ++ [c]) false rest := by
    rw [List.append_assoc, h.whole, List.singleton_append, hstep]
  refine ⟨hwhole, fun hne rest => ?_, fun hnil => ?_⟩
  · rw [Text.stripRight_concat] at hne ⊢
    split at hne
    · rename_i hc
      rw [if_pos hc]
      exact h.kept hne rest
    · rename_i hc
      rw [if_neg hc]
      exact hwhole rest
  · rw [Text.stripRight_concat] at hnil
    split at hnil
    · exact h.blank hnil
    · simp at hnil

/-- A line that ends without a character of its own is read again, or it is blank and leaves no
trace. -/
theorem Resumes.linesFrom_emit (h : Resumes start depth current fresh) {lines : List Text}
    (hlines : linesFrom depth (indent depth) true (Text.unlines lines) = lines) :
    linesFrom start (indent start) true (Text.unlines (emit current ++ lines)) =
      emit current ++ lines := by
  by_cases hnil : Text.stripRight current = []
  · rw [emit_eq_nil hnil, h.blank hnil]
    exact hlines
  · have hkept : emit (Text.stripRight current) = [Text.stripRight current] := by
      rw [emit_eq_singleton (by rwa [Text.stripRight_stripRight]), Text.stripRight_stripRight]
    rw [emit_eq_singleton hnil, List.singleton_append]
    cases lines with
    | nil =>
      have hread := h.kept hnil []
      rw [List.append_nil, linesFrom, hkept] at hread
      exact hread
    | cons l ls =>
      rw [Text.unlines_cons _ (List.cons_ne_nil l ls), h.kept hnil, linesFrom_newline, hkept, hlines]
      rfl

/-- A line that ends with a character of its own is read again. -/
theorem Resumes.linesFrom_emit_concat (h : Resumes start depth current fresh) {c : Char}
    (hc : Text.isBlank c = false)
    (hstep : ∀ rest, linesFrom depth current fresh (c :: rest) =
      emit (current ++ [c]) ++ linesFrom next (indent next) true rest) {lines : List Text}
    (hlines : linesFrom next (indent next) true (Text.unlines lines) = lines) :
    linesFrom start (indent start) true (Text.unlines (emit (current ++ [c]) ++ lines)) =
      emit (current ++ [c]) ++ lines := by
  obtain ⟨rest, htext, hrest⟩ := exists_unlines_cons (current ++ [c]) hlines
  have hemit := emit_concat current hc
  rw [hemit, List.singleton_append, htext, List.append_assoc, h.whole, List.singleton_append,
    hstep, hemit, hrest]
  rfl

/-- The lines of a text are read as they are. -/
theorem linesFrom_unlines (t : Text) (h : Resumes start depth current fresh) :
    linesFrom start (indent start) true (Text.unlines (linesFrom depth current fresh t)) =
      linesFrom depth current fresh t := by
  induction t generalizing start depth current fresh with
  | nil =>
    have hlines : linesFrom depth (indent depth) true (Text.unlines []) = [] := emit_indent depth
    have hnil := h.linesFrom_emit hlines
    rw [List.append_nil] at hnil
    exact hnil
  | cons c rest ih =>
    rw [linesFrom]
    simp only [Bool.and_eq_true, Bool.or_eq_true, decide_eq_true_eq]
    split_ifs with hopen hclose hseparator hbreak hfresh hskip
    · subst hopen
      exact h.linesFrom_emit_concat (by decide) linesFrom_open (ih (resumes_fresh _))
    · subst hclose
      exact h.linesFrom_emit (ih (resumes_close depth))
    · refine h.linesFrom_emit_concat ?_ (fun more => ?_) (ih (resumes_fresh _))
      · rcases hseparator with rfl | rfl <;> decide
      · rw [linesFrom, if_neg hopen, if_neg hclose, if_pos (by simpa using hseparator)]
    · subst hfresh
      exact ih h
    · exact h.linesFrom_emit (ih (resumes_fresh depth))
    · obtain ⟨rfl, -⟩ := hskip
      exact ih h
    · refine ih (h.concat fun more => ?_)
      rw [linesFrom, if_neg hopen, if_neg hclose, if_neg (by simpa using hseparator),
        if_neg (by simpa using hbreak), if_neg (by simpa using hskip)]

/-! ## The first line -/

/-- Whether a text is blank and has no line breaks. -/
def IsMargin (t : Text) : Prop := ∀ c ∈ t, Text.isBlank c ∧ c ≠ '\n' ∧ c ≠ '\r'

theorem IsMargin.emit_eq_nil (h : IsMargin current) : emit current = [] :=
  TypeLayout.emit_eq_nil (Text.stripRight_eq_nil fun c hc => (h c hc).1)

theorem ne_of_isBlank {c : Char} (h : Text.isBlank c) :
    c ≠ '\x7b' ∧ c ≠ '\x7d' ∧ ¬ (c = ';' ∨ c = ',') := by
  refine ⟨?_, ?_, ?_⟩
  · rintro rfl
    exact absurd h (by decide)
  · rintro rfl
    exact absurd h (by decide)
  · rintro (rfl | rfl) <;> exact absurd h (by decide)

/-- The blanks before the first brace leave a margin in front of it. -/
theorem exists_margin {blanks : Text} (h : ∀ c ∈ blanks, Text.isBlank c) (hcurrent : IsMargin current)
    (fresh : Bool) (rest : Text) : ∃ margin, IsMargin margin ∧
      linesFrom 0 current fresh (blanks ++ '\x7b' :: rest) =
        (margin ++ ['\x7b']) :: linesFrom 1 (indent 1) true rest := by
  induction blanks generalizing current fresh with
  | nil =>
    refine ⟨current, hcurrent, ?_⟩
    rw [List.nil_append, linesFrom_open, emit_concat current (by decide)]
    rfl
  | cons c blanks ih =>
    have hc : Text.isBlank c := h c List.mem_cons_self
    have hblanks : ∀ d ∈ blanks, Text.isBlank d := fun d hd => h d (List.mem_cons_of_mem c hd)
    obtain ⟨hopen, hclose, hseparator⟩ := ne_of_isBlank hc
    rw [List.cons_append, linesFrom, if_neg hopen, if_neg hclose, if_neg (by simpa using hseparator)]
    simp only [Bool.and_eq_true, Bool.or_eq_true, decide_eq_true_eq]
    split_ifs with hbreak hfresh hskip
    · exact ih hblanks hcurrent true
    · rw [hcurrent.emit_eq_nil]
      exact ih hblanks (fun d hd => absurd hd List.not_mem_nil) true
    · exact ih hblanks hcurrent true
    · refine ih hblanks (fun d hd => ?_) false
      rcases List.mem_append.1 hd with hd | hd
      · exact hcurrent d hd
      · rw [List.mem_singleton.1 hd]
        exact ⟨hc, fun e => hbreak (.inr e), fun e => hbreak (.inl e)⟩

/-- A margin is read as it is. -/
theorem linesFrom_margin {margin : Text} (h : IsMargin margin) (rest : Text) :
    linesFrom depth current false (margin ++ rest) =
      linesFrom depth (current ++ margin) false rest := by
  induction margin generalizing current with
  | nil => rw [List.nil_append, List.append_nil]
  | cons c margin ih =>
    obtain ⟨hblank, hnewline, hreturn⟩ := h c List.mem_cons_self
    obtain ⟨hopen, hclose, hseparator⟩ := ne_of_isBlank hblank
    have hmargin : IsMargin margin := fun d hd => h d (List.mem_cons_of_mem c hd)
    rw [List.cons_append, linesFrom, if_neg hopen, if_neg hclose, if_neg (by simpa using hseparator),
      if_neg (by simp [hnewline, hreturn]), if_neg (by simp), ih hmargin, List.append_assoc]
    rfl

/-- A first line of a margin and a brace is read as it is, and so are the lines after it. -/
theorem linesFrom_first {margin : Text} (h : IsMargin margin) {lines : List Text}
    (hlines : linesFrom 1 (indent 1) true (Text.unlines lines) = lines) :
    linesFrom 0 [] false (Text.unlines ((margin ++ ['\x7b']) :: lines)) =
      (margin ++ ['\x7b']) :: lines := by
  obtain ⟨rest, htext, hrest⟩ := exists_unlines_cons (margin ++ ['\x7b']) hlines
  rw [htext, List.append_assoc, linesFrom_margin h, List.singleton_append, linesFrom_open,
    List.nil_append, emit_concat margin (by decide)]
  exact congrArg _ hrest

/-- An object type begins with blanks and a brace. -/
theorem isObjectType_iff {t : Text} : isObjectType t ↔ ∃ blanks rest,
    (∀ c ∈ blanks, Text.isBlank c) ∧ t = blanks ++ '\x7b' :: rest := by
  constructor
  · intro h
    unfold isObjectType at h
    split at h
    · rename_i rest hstrip
      refine ⟨t.takeWhile Text.isBlank, rest, fun c hc => List.mem_takeWhile_imp hc, ?_⟩
      rw [← hstrip, Text.stripLeft, List.takeWhile_append_dropWhile]
    · exact absurd h Bool.false_ne_true
  · rintro ⟨blanks, rest, hblank, rfl⟩
    rw [isObjectType, Text.stripLeft_append_cons hblank (by decide)]
    rfl

/-- Laying out changes nothing in a text that is laid out. -/
theorem layout_layout (t : Text) : layout (layout t) = layout t := by
  by_cases h : isObjectType t
  · obtain ⟨blanks, rest, hblank, rfl⟩ := isObjectType_iff.1 h
    have hrest := linesFrom_unlines rest (resumes_fresh 1)
    generalize hlines : linesFrom 1 (indent 1) true rest = lines at hrest
    obtain ⟨margin, hmargin, hfirst⟩ :=
      exists_margin hblank (fun c hc => absurd hc List.not_mem_nil) false rest
    have hlayout : layout (blanks ++ '\x7b' :: rest) =
        Text.unlines ((margin ++ ['\x7b']) :: lines) := by
      rw [layout, if_pos h, hfirst, hlines]
    obtain ⟨more, hmore, -⟩ := exists_unlines_cons (margin ++ ['\x7b']) hrest
    have hobject : isObjectType (Text.unlines ((margin ++ ['\x7b']) :: lines)) :=
      isObjectType_iff.2 ⟨margin, more, fun c hc => (hmargin c hc).1, by rw [hmore]; simp⟩
    rw [hlayout, layout, if_pos hobject, linesFrom_first hmargin hrest]
  · have hsame : layout t = t := if_neg h
    rw [hsame, hsame]

end TypeLayout

end Legible
