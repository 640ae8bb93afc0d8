import Legible.Proofs.Message.Part

/-!
# The shape of a layout

`IsLaidOut` describes the lines of an object type that is laid out: where braces and separators
stand in a line, and how far each line is indented by the braces that the lines before it leave open.
The lines of a layout are of this shape, for every text, and the texts of this shape are exactly
those that a layout leaves as they are (`isLaidOut_lines_layout`).

`Follow` goes through the lines with the number of braces that are open.  What is read behind a part
follows the lines before it (`follow_linesOn`), and lines that follow each other are read as they are
(`Follow.linesOn_unlines`).
-/

namespace Legible.TypeLayout

/-- The shape of a line of a layout. -/
structure IsShaped (line : Text) : Prop where
  /-- It is neither empty nor blank. -/
  inked : ¬ Text.allBlank line
  /-- It ends with no blank. -/
  trim : Text.stripRight line = line
  /-- It holds no carriage return. -/
  unbroken : '\r' ∉ line
  /-- Opening braces and separators stand at its end only. -/
  opening : ∀ c ∈ line.dropLast, c ≠ '\x7b' ∧ c ≠ ';' ∧ c ≠ ','
  /-- A closing brace stands first only, behind the indentation. -/
  closing : '\x7d' ∉ (line.dropWhile (· = ' ')).tail

/-- The shape of an object type that is laid out. -/
structure IsLaidOut (ls : List Text) : Prop where
  shaped : ∀ line ∈ ls, IsShaped line
  /-- The first line is an opening brace behind a margin. -/
  first : ∃ margin, Text.allBlank margin ∧ ls.head? = some (margin ++ ['\x7b'])
  /-- A line after the first is indented by the braces that are open before it. -/
  indented : ∀ earlier line later, ls = earlier ++ line :: later → earlier ≠ [] →
    ∃ content, line = indent (lineDepth (surplus earlier.flatten) content) ++ content ∧
      content ≠ [] ∧ content.head? ≠ some ' ' ∧ content.head? ≠ some '\t'

variable {start depth : Int} {t part content : Text} {c : Char} {ls : List Text}

/-! ## Lines that follow each other -/

/-- What a line may hold behind its indentation. -/
structure IsContent (content : Text) : Prop where
  ne_nil : content ≠ []
  trim : Text.stripRight content = content
  begins : Begins content
  opening : ∀ c ∈ content.dropLast, ¬ IsEnder c
  unbroken : ∀ c ∈ content, c ≠ '\r' ∧ c ≠ '\n'

theorem IsPart.isContent (h : IsPart part) (hne : part ≠ []) (htrim : Text.stripRight part = part) :
    IsContent part where
  ne_nil := hne
  trim := htrim
  begins := h.begins
  opening c hc := h.unended c (List.dropLast_subset part hc)
  unbroken := h.unbroken

theorem IsPart.isContent_concat (h : IsPart part) (hc : IsEnder c) : IsContent (part ++ [c]) where
  ne_nil := by simp
  trim := by rw [Text.stripRight_concat, if_neg (by simp [hc.not_isBlank])]
  begins := h.begins.concat hc.ne.1 fun _ => hc.ne.2.2
  opening := by
    rw [List.dropLast_concat]
    exact h.unended
  unbroken := List.forall_mem_append.2 ⟨h.unbroken, List.forall_mem_singleton.2 hc.ne.2.1⟩

/-- A line ends without a character of its own or with one. -/
theorem IsContent.cases (h : IsContent content) :
    IsPart content ∨ ∃ part c, IsPart part ∧ IsEnder c ∧ content = part ++ [c] := by
  obtain ⟨part, c, rfl⟩ := (List.eq_nil_or_concat' content).resolve_left h.ne_nil
  have hunended := h.opening
  rw [List.dropLast_concat] at hunended
  by_cases hc : IsEnder c
  · exact .inr ⟨part, c,
      ⟨h.begins.of_append, hunended, (List.forall_mem_append.1 h.unbroken).1⟩, hc, rfl⟩
  · exact .inl ⟨h.begins,
      List.forall_mem_append.2 ⟨hunended, List.forall_mem_singleton.2 hc⟩, h.unbroken⟩

theorem IsContent.stripRight_line (h : IsContent content) (depth : Int) :
    Text.stripRight (indent depth ++ content) = indent depth ++ content := by
  have hne : Text.stripRight content ≠ [] := by
    rw [h.trim]
    exact h.ne_nil
  rw [Text.stripRight_append_of_ne_nil hne, h.trim]

theorem IsContent.line_ne_nil (h : IsContent content) (depth : Int) :
    indent depth ++ content ≠ [] := List.append_ne_nil_of_right_ne_nil _ h.ne_nil

theorem IsContent.emit_line (h : IsContent content) (depth : Int) :
    emit (indent depth ++ content) = [indent depth ++ content] := by
  have htrim := h.stripRight_line depth
  rw [emit_eq_singleton (by rw [htrim]; exact h.line_ne_nil depth), htrim]

/-- Whether a line may stand behind lines that leave `depth` braces open. -/
def IsLine (depth : Int) (line : Text) : Prop :=
  ∃ content, IsContent content ∧ line = indent (lineDepth depth content) ++ content

/-- Whether lines may stand one after the other, behind lines that leave `depth` braces open. -/
def Follow : Int → List Text → Prop
  | _, [] => True
  | depth, line :: rest => IsLine depth line ∧ Follow (depth + surplus line) rest

/-- A part that ends without a character of its own is a line, or it is blank and leaves no trace. -/
theorem IsPart.follow_emit (h : IsPart part) (hls : Follow (lineDepth start part) ls) :
    Follow start (emit (indent (lineDepth start part) ++ part) ++ ls) := by
  by_cases hnil : Text.stripRight part = []
  · -- a blank part holds no closing brace, so the depth is still that of the lines before
    have hblank := List.all_eq_true.1 (Text.stripRight_eq_nil_iff.1 hnil)
    have hemit : emit (indent (lineDepth start part) ++ part) = [] :=
      emit_eq_nil (by rw [Text.stripRight_append_of_nil hnil, stripRight_indent])
    rw [hemit]
    rwa [lineDepth_of_blank hblank] at hls
  · have hkept := Text.stripRight_append_of_ne_nil hnil (indent (lineDepth start part))
    obtain ⟨blanks, hpart⟩ := Text.prefix_stripRight part
    have hdepth : lineDepth start part = lineDepth start (Text.stripRight part) := by
      rw [← lineDepth_append hnil blanks, hpart]
    rw [emit_eq_singleton (by rw [hkept]; exact List.append_ne_nil_of_right_ne_nil _ hnil), hkept]
    have hstripped : IsPart (Text.stripRight part) := by
      rw [← hpart] at h
      exact h.of_append
    refine ⟨⟨Text.stripRight part, ?_, by rw [← hdepth]⟩, ?_⟩
    · exact hstripped.isContent hnil (Text.stripRight_stripRight part)
    · rwa [hstripped.surplus_line, ← hdepth]

/-- A part and an end of a line are a line. -/
theorem IsPart.follow_emit_concat (h : IsPart part) (hc : IsEnder c)
    (hls : Follow (lineDepth start part + surplus [c]) ls) :
    Follow start (emit (indent (lineDepth start part) ++ part ++ [c]) ++ ls) := by
  rw [emit_concat _ hc.not_isBlank]
  refine ⟨⟨part ++ [c], h.isContent_concat hc, ?_⟩, ?_⟩
  · rw [lineDepth_concat hc.ne.1, List.append_assoc]
  · rwa [List.append_assoc, h.surplus_line_concat]

/-- Whatever text comes next, the lines that are read follow those before. -/
theorem follow_linesOn (h : IsPart part) (start : Int) (t : Text) :
    Follow start (linesOn start part t) := by
  induction t generalizing start part with
  | nil =>
    have hemit : Follow start (emit (indent (lineDepth start part) ++ part) ++ []) :=
      h.follow_emit trivial
    rwa [List.append_nil] at hemit
  | cons c rest ih =>
    by_cases hender : IsEnder c
    · rw [linesOn_ender hender]
      exact h.follow_emit_concat hender (ih isPart_nil _)
    by_cases hclose : c = '\x7d'
    · subst hclose
      rw [linesOn_close]
      exact h.follow_emit (ih isPart_closing _)
    by_cases hskip : part = [] ∧ ((c = '\r' ∨ c = '\n') ∨ c = ' ' ∨ c = '\t')
    · obtain ⟨rfl, hc⟩ := hskip
      rw [linesOn_skip hc]
      exact ih h start
    by_cases hbreak : c = '\r' ∨ c = '\n'
    · rw [linesOn_break hbreak fun hnil => hskip ⟨hnil, .inl hbreak⟩]
      exact h.follow_emit (ih isPart_nil _)
    · have hplain : IsPlain c := ⟨hender, hclose, not_or.1 hbreak⟩
      have hfirst (hnil : part = []) : c ≠ ' ' ∧ c ≠ '\t' :=
        not_or.1 fun hc => hskip ⟨hnil, .inr hc⟩
      rw [linesOn_plain hplain hfirst]
      exact ih (h.concat hplain hfirst) start

/-- Lines that may follow each other are read as they are. -/
theorem Follow.linesOn_unlines (h : Follow start ls) : linesOn start [] (Text.unlines ls) = ls := by
  induction ls generalizing start with
  | nil =>
    rw [linesOn_start]
    exact emit_indent start
  | cons line rest ih =>
    obtain ⟨⟨content, hcontent, rfl⟩, hrest⟩ := h
    have hlines := ih hrest
    have hemit := hcontent.emit_line (lineDepth start content)
    rcases hcontent.cases with hpart | ⟨part, c, hpart, hc, rfl⟩
    · -- the line ends with the text or with the line feed behind it
      rw [hpart.surplus_line] at hlines
      by_cases hnil : rest = []
      · subst hnil
        have hread := linesOn_part hpart start []
        rw [List.append_nil, linesOn_nil, hemit] at hread
        rw [Text.unlines, Text.join, linesOn_indent, hread]
      · rw [Text.unlines_cons _ hnil, List.append_assoc, linesOn_indent, linesOn_part hpart,
          linesOn_break (.inr rfl) hcontent.ne_nil, hemit, hlines]
        rfl
    · -- the line ends with its last character, and a line feed behind it is passed over
      rw [lineDepth_concat hc.ne.1] at hemit hlines ⊢
      rw [hpart.surplus_line_concat, linesOn_start] at hlines
      obtain ⟨tail, htext, htail⟩ := exists_unlines_cons _ hlines
      rw [← linesOn_start] at htail
      rw [htext, List.append_assoc, List.append_assoc, linesOn_indent, linesOn_part hpart,
        List.singleton_append, linesOn_ender hc, htail, List.append_assoc, hemit]
      rfl

/-! ## The shape of a whole layout -/

theorem not_mem_line (hc : c ≠ ' ') (hcontent : c ∉ content) (depth : Int) :
    c ∉ indent depth ++ content := by
  intro hmem
  rcases List.mem_append.1 hmem with hmem | hmem
  · exact hc (List.eq_of_mem_replicate hmem)
  · exact hcontent hmem

theorem dropWhile_line (hfirst : content.head? ≠ some ' ') (depth : Int) :
    (indent depth ++ content).dropWhile (· = ' ') = content := by
  rw [List.dropWhile_append_of_pos fun c hc => decide_eq_true (List.eq_of_mem_replicate hc)]
  cases content with
  | nil => rfl
  | cons c content => exact List.dropWhile_cons_of_neg (by simpa using hfirst)

theorem not_isEnder_iff : ¬ IsEnder c ↔ c ≠ '\x7b' ∧ c ≠ ';' ∧ c ≠ ',' := by
  simp [IsEnder]

theorem IsLine.isShaped {line : Text} (h : IsLine depth line) : IsShaped line := by
  obtain ⟨content, hcontent, rfl⟩ := h
  have htrim := hcontent.stripRight_line (lineDepth depth content)
  refine ⟨?_, htrim, ?_, fun c hc => not_isEnder_iff.1 ?_, ?_⟩
  · rw [← Text.stripRight_eq_nil_iff, htrim]
    exact hcontent.line_ne_nil _
  · exact not_mem_line (by decide) (fun hmem => (hcontent.unbroken _ hmem).1 rfl) _
  · rw [List.dropLast_append_of_ne_nil hcontent.ne_nil] at hc
    rcases List.mem_append.1 hc with hc | hc
    · rw [List.eq_of_mem_replicate hc]
      exact not_isEnder_space
    · exact hcontent.opening c hc
  · rw [dropWhile_line hcontent.begins.first.1]
    exact hcontent.begins.closing

theorem IsMargin.isShaped {margin : Text} (h : IsMargin margin) :
    IsShaped (margin ++ ['\x7b']) where
  inked hblank := by
    have hopen := List.all_eq_true.1 hblank '\x7b' (by simp)
    exact absurd hopen (by decide)
  trim := by rw [Text.stripRight_concat, if_neg (by decide)]
  unbroken hmem := by
    rcases List.mem_append.1 hmem with hmem | hmem
    · exact (h _ hmem).2.2 rfl
    · exact absurd hmem (by decide)
  opening c hc := by
    rw [List.dropLast_concat] at hc
    obtain ⟨hopen, -, hseparator⟩ := ne_of_isBlank (h c hc).1
    exact ⟨hopen, not_or.1 hseparator⟩
  closing hmem := by
    have hmem := (List.dropWhile_sublist _).subset (List.mem_of_mem_tail hmem)
    rcases List.mem_append.1 hmem with hmem | hmem
    · exact (ne_of_isBlank (h _ hmem).1).2.1 rfl
    · exact absurd hmem (by decide)

theorem IsMargin.surplus_first {margin : Text} (h : IsMargin margin) :
    surplus (margin ++ ['\x7b']) = 1 := by
  rw [← surplus_ink, Text.ink_append, Text.ink_eq_nil fun c hc => (h c hc).1]
  rfl

theorem Follow.isLine_of_append {earlier later : List Text} {line : Text}
    (h : Follow depth (earlier ++ line :: later)) : IsLine (depth + surplus earlier.flatten) line := by
  induction earlier generalizing depth with
  | nil =>
    rw [show surplus ([] : List Text).flatten = 0 from rfl, Int.add_zero]
    exact h.1
  | cons first earlier ih =>
    rw [List.flatten_cons, surplus_append, ← Int.add_assoc]
    exact ih h.2

theorem Follow.exists_isLine (h : Follow depth ls) {line : Text} (hline : line ∈ ls) :
    ∃ depth, IsLine depth line := by
  obtain ⟨earlier, later, rfl⟩ := List.append_of_mem hline
  exact ⟨_, h.isLine_of_append⟩

/-- A margin with a brace, and lines that follow it, are laid out. -/
theorem Follow.isLaidOut {margin : Text} (hmargin : IsMargin margin) (h : Follow 1 ls) :
    IsLaidOut ((margin ++ ['\x7b']) :: ls) where
  shaped := by
    refine List.forall_mem_cons.2 ⟨hmargin.isShaped, fun line hline => ?_⟩
    obtain ⟨depth, hline⟩ := h.exists_isLine hline
    exact hline.isShaped
  first := ⟨margin, List.all_eq_true.2 fun c hc => (hmargin c hc).1, rfl⟩
  indented earlier line later hls hne := by
    obtain ⟨first, earlier, rfl⟩ := List.exists_cons_of_ne_nil hne
    obtain ⟨rfl, rfl⟩ := List.cons.inj hls
    obtain ⟨content, hcontent, hline⟩ := h.isLine_of_append
    refine ⟨content, ?_, hcontent.ne_nil, hcontent.begins.first⟩
    rw [List.flatten_cons, surplus_append, hmargin.surplus_first]
    exact hline

/-- A line of the right shape and the right indentation may stand where it stands. -/
theorem IsShaped.isLine {line : Text} (h : IsShaped line) (hnewline : '\n' ∉ line)
    (hline : line = indent (lineDepth depth content) ++ content) (hne : content ≠ [])
    (hfirst : content.head? ≠ some ' ' ∧ content.head? ≠ some '\t') : IsLine depth line := by
  subst hline
  have hclosing := h.closing
  rw [dropWhile_line hfirst.1] at hclosing
  have hopening := h.opening
  rw [List.dropLast_append_of_ne_nil hne] at hopening
  refine ⟨content, ⟨hne, ?_, ⟨hfirst, hclosing⟩, fun c hc => ?_, fun c hc => ⟨?_, ?_⟩⟩, rfl⟩
  · have htrim := h.trim
    by_cases hnil : Text.stripRight content = []
    · rw [Text.stripRight_append_of_nil hnil, stripRight_indent] at htrim
      exact absurd htrim.symm (List.append_ne_nil_of_right_ne_nil _ hne)
    · rw [Text.stripRight_append_of_ne_nil hnil] at htrim
      exact List.append_cancel_left htrim
  · exact not_isEnder_iff.2 (hopening c (List.mem_append_right _ hc))
  · rintro rfl
    exact h.unbroken (List.mem_append_right _ hc)
  · rintro rfl
    exact hnewline (List.mem_append_right _ hc)

theorem IsLaidOut.follow {earlier later : List Text} (h : IsLaidOut (earlier ++ later))
    (hne : earlier ≠ []) (hnewline : ∀ line ∈ later, '\n' ∉ line) :
    Follow (surplus earlier.flatten) later := by
  induction later generalizing earlier with
  | nil => trivial
  | cons line later ih =>
    obtain ⟨hline, hlater⟩ := List.forall_mem_cons.1 hnewline
    obtain ⟨content, heq, hcontent, hfirst⟩ := h.indented earlier line later rfl hne
    have hnext : Follow (surplus (earlier ++ [line]).flatten) later :=
      ih (by rwa [List.append_assoc]) (by simp) hlater
    rw [List.flatten_append, surplus_append, List.flatten_singleton] at hnext
    exact ⟨(h.shaped line (by simp)).isLine hline heq hcontent hfirst, hnext⟩

/-- The lines of an object type are a margin with a brace and what follows it. -/
theorem lines_layout (h : isObjectType t) : ∃ margin ls, IsMargin margin ∧ Follow 1 ls ∧
    Text.lines (layout t) = (margin ++ ['\x7b']) :: ls := by
  obtain ⟨blanks, rest, hblank, rfl⟩ := isObjectType_iff.1 h
  obtain ⟨margin, hmargin, hfirst⟩ :=
    exists_margin hblank (fun c hc => absurd hc List.not_mem_nil) false rest
  have hfollow := follow_linesOn isPart_nil 1 rest
  rw [linesOn_start] at hfollow
  refine ⟨margin, _, hmargin, hfollow, ?_⟩
  rw [layout, if_pos h, hfirst, Text.lines_unlines (by simp)]
  refine List.forall_mem_cons.2 ⟨fun hmem => ?_, fun line hline hmem => ?_⟩
  · rcases List.mem_append.1 hmem with hmem | hmem
    · exact (hmargin _ hmem).2.1 rfl
    · exact absurd hmem (by decide)
  · obtain ⟨depth, content, hcontent, rfl⟩ := hfollow.exists_isLine hline
    exact not_mem_line (by decide) (fun hc => (hcontent.unbroken _ hc).2 rfl) _ hmem

/-- A text whose lines have the shape of a layout is read as it is. -/
theorem IsLaidOut.layout_eq (h : IsLaidOut (Text.lines t)) : layout t = t := by
  obtain ⟨margin, hblank, hhead⟩ := h.first
  obtain ⟨rest, hlines⟩ := List.head?_eq_some_iff.1 hhead
  have ht : t = Text.unlines ((margin ++ ['\x7b']) :: rest) := by
    rw [← hlines, Text.unlines_lines]
  have hnewline : ∀ line ∈ (margin ++ ['\x7b']) :: rest, '\n' ∉ line := by
    rw [← hlines]
    exact fun line hline => Text.not_mem_of_mem_splitOn hline
  obtain ⟨hfirst, hrest⟩ := List.forall_mem_cons.1 hnewline
  have hshape : IsLaidOut ([margin ++ ['\x7b']] ++ rest) := by rwa [hlines] at h
  have hmargin : IsMargin margin := fun c hc => by
    refine ⟨List.all_eq_true.1 hblank c hc, ?_, ?_⟩
    · rintro rfl
      exact hfirst (List.mem_append_left _ hc)
    · rintro rfl
      exact (hshape.shaped _ List.mem_cons_self).unbroken (List.mem_append_left _ hc)
  have hread := (hshape.follow (by simp) hrest).linesOn_unlines
  rw [List.flatten_singleton, hmargin.surplus_first, linesOn_start] at hread
  obtain ⟨more, hmore, -⟩ := exists_unlines_cons (margin ++ ['\x7b']) hread
  have hobject : isObjectType t :=
    isObjectType_iff.2 ⟨margin, more, fun c hc => (hmargin c hc).1, by rw [ht, hmore]; simp⟩
  rw [layout, if_pos hobject, ht, linesFrom_first hmargin hread]

/-- The lines of an object type that is laid out have the shape of a layout, and a layout leaves
nothing else as it is. -/
theorem isLaidOut_lines_layout (h : isObjectType t) :
    IsLaidOut (Text.lines (layout t)) ∧ (layout t = t ↔ IsLaidOut (Text.lines t)) := by
  obtain ⟨margin, ls, hmargin, hfollow, hlines⟩ := lines_layout h
  have hshape : IsLaidOut (Text.lines (layout t)) := by
    rw [hlines]
    exact hfollow.isLaidOut hmargin
  refine ⟨hshape, fun heq => ?_, IsLaidOut.layout_eq⟩
  rwa [heq] at hshape

/-- More braces are closed than opened, and a line is broken. -/
theorem isLaidOut_lines_layout_unbalanced :
    let t : Text := " \x7b a: \x7b ; b\r\n\t c, \x7d\x7d\x7d d".toList
    isObjectType t ∧
      Text.lines (layout t) = [" \x7b", "  a: \x7b", "    ;", "    b", "    c,", "  \x7d", "\x7d",
        "\x7d d"].map String.toList ∧
      IsLaidOut (Text.lines (layout t)) := by
  intro t
  have ht : isObjectType t := by decide
  exact ⟨ht, by decide +kernel, (isLaidOut_lines_layout ht).1⟩

end Legible.TypeLayout
