import Legible.Proofs.Message.Layout

/-!
# Parts of a line

While a type is laid out, a line holds a part (`IsPart`) behind its indentation.  A part begins with a
closing brace, which is one level up, or with another character that neither ends a line nor is a
space, and all that follows is plain.  So the depth of the line and whether it is fresh are known from
its part, and from the braces that the lines before it leave open: `linesOn` reads on from there, with
one equation for each kind of character.
-/

namespace Legible.TypeLayout

/-- How many more braces a text opens than it closes. -/
def surplus (t : Text) : Int := t.count '\x7b' - t.count '\x7d'

/-- The depth of a line that begins with `content`, where `depth` braces are open before it: a
closing brace at its beginning is one level up. -/
def lineDepth (depth : Int) (content : Text) : Int :=
  if content.head? = some '\x7d' then depth - 1 else depth

variable {start depth : Int} {t part : Text} {c : Char}

/-! ## Open braces -/

theorem surplus_append (s t : Text) : surplus (s ++ t) = surplus s + surplus t := by
  simp only [surplus, List.count_append, Int.natCast_add]
  omega

theorem surplus_ink (t : Text) : surplus (Text.ink t) = surplus t := by
  rw [surplus, Text.ink, List.count_filter (by decide), List.count_filter (by decide), surplus]

theorem surplus_indent (depth : Int) : surplus (indent depth) = 0 := by
  rw [← surplus_ink, ink_indent]
  rfl

/-! ## Parts of a line -/

/-- The characters that end a line and stay at its end. -/
def IsEnder (c : Char) : Prop := c = '\x7b' ∨ c = ';' ∨ c = ','

/-- The characters that mean nothing to the layout, spaces at the beginning of a line apart. -/
def IsPlain (c : Char) : Prop := ¬ IsEnder c ∧ c ≠ '\x7d' ∧ c ≠ '\r' ∧ c ≠ '\n'

theorem not_isEnder_closing : ¬ IsEnder '\x7d' := by
  rintro (h | h | h) <;> exact absurd h (by decide)

theorem not_isEnder_space : ¬ IsEnder ' ' := by
  rintro (h | h | h) <;> exact absurd h (by decide)

theorem IsEnder.not_isBlank (h : IsEnder c) : Text.isBlank c = false := by
  rcases h with rfl | rfl | rfl <;> decide

theorem IsEnder.ne (h : IsEnder c) : c ≠ '\x7d' ∧ (c ≠ '\r' ∧ c ≠ '\n') ∧ c ≠ ' ' ∧ c ≠ '\t' := by
  rcases h with rfl | rfl | rfl <;> decide

/-- Whether a text may stand behind an indentation: no space comes first, and a closing brace comes
first only. -/
structure Begins (t : Text) : Prop where
  first : t.head? ≠ some ' ' ∧ t.head? ≠ some '\t'
  closing : '\x7d' ∉ t.tail

theorem begins_nil : Begins [] := ⟨by decide, List.not_mem_nil⟩

theorem Begins.of_append {s t : Text} (h : Begins (s ++ t)) : Begins s := by
  cases s with
  | nil => exact begins_nil
  | cons b more => exact ⟨h.first, fun hmem => h.closing (List.mem_append_left t hmem)⟩

theorem Begins.concat (h : Begins t) (hc : c ≠ '\x7d') (hfirst : t = [] → c ≠ ' ' ∧ c ≠ '\t') :
    Begins (t ++ [c]) := by
  cases t with
  | nil => exact ⟨by simpa using hfirst rfl, List.not_mem_nil⟩
  | cons b more =>
    refine ⟨h.first, fun hmem => ?_⟩
    rcases List.mem_append.1 hmem with hmem | hmem
    · exact h.closing hmem
    · exact hc (List.mem_singleton.1 hmem).symm

/-- What a line may hold behind its indentation before it ends. -/
structure IsPart (part : Text) : Prop where
  begins : Begins part
  unended : ∀ c ∈ part, ¬ IsEnder c
  unbroken : ∀ c ∈ part, c ≠ '\r' ∧ c ≠ '\n'

theorem isPart_nil : IsPart [] where
  begins := begins_nil
  unended _ h := absurd h List.not_mem_nil
  unbroken _ h := absurd h List.not_mem_nil

theorem isPart_closing : IsPart ['\x7d'] where
  begins := ⟨by decide, List.not_mem_nil⟩
  unended := List.forall_mem_singleton.2 not_isEnder_closing
  unbroken := List.forall_mem_singleton.2 (by decide)

theorem IsPart.concat (h : IsPart part) (hc : IsPlain c)
    (hfirst : part = [] → c ≠ ' ' ∧ c ≠ '\t') : IsPart (part ++ [c]) where
  begins := h.begins.concat hc.2.1 hfirst
  unended := List.forall_mem_append.2 ⟨h.unended, List.forall_mem_singleton.2 hc.1⟩
  unbroken := List.forall_mem_append.2 ⟨h.unbroken, List.forall_mem_singleton.2 hc.2.2⟩

theorem IsPart.of_append {s t : Text} (h : IsPart (s ++ t)) : IsPart s where
  begins := h.begins.of_append
  unended := (List.forall_mem_append.1 h.unended).1
  unbroken := (List.forall_mem_append.1 h.unbroken).1

theorem IsPart.surplus_eq (h : IsPart part) (start : Int) :
    start + surplus part = lineDepth start part := by
  have hopen : part.count '\x7b' = 0 :=
    List.count_eq_zero.2 fun hmem => h.unended _ hmem (.inl rfl)
  cases part with
  | nil => exact Int.add_zero start
  | cons b more =>
    have hmore : more.count '\x7d' = 0 := List.count_eq_zero.2 h.begins.closing
    rw [surplus, hopen, List.count_cons, hmore, lineDepth]
    by_cases hb : b = '\x7d'
    · simp [hb]
      omega
    · simp [hb]

theorem IsPart.surplus_line (h : IsPart part) (start depth : Int) :
    start + surplus (indent depth ++ part) = lineDepth start part := by
  rw [surplus_append, surplus_indent, Int.zero_add, h.surplus_eq]

theorem IsPart.surplus_line_concat (h : IsPart part) (start depth : Int) (c : Char) :
    start + surplus (indent depth ++ (part ++ [c])) = lineDepth start part + surplus [c] := by
  rw [← List.append_assoc, surplus_append, ← Int.add_assoc, h.surplus_line]

theorem lineDepth_of_blank (h : ∀ c ∈ part, Text.isBlank c) : lineDepth start part = start := by
  rw [lineDepth, if_neg]
  intro hhead
  exact absurd (h _ (List.mem_of_mem_head? hhead)) (by decide)

theorem lineDepth_append (hne : part ≠ []) (t : Text) :
    lineDepth start (part ++ t) = lineDepth start part := by
  rw [lineDepth, List.head?_append_of_ne_nil _ hne, lineDepth]

theorem lineDepth_concat (hc : c ≠ '\x7d') :
    lineDepth start (part ++ [c]) = lineDepth start part := by
  cases part with
  | nil => simp [lineDepth, hc]
  | cons b more => rfl

/-! ## Reading on behind a part -/

/-- The lines of the rest of a text, where the current line holds `part` behind its indentation. -/
def linesOn (start : Int) (part : Text) (t : Text) : List Text :=
  linesFrom (lineDepth start part) (indent (lineDepth start part) ++ part) part.isEmpty t

theorem linesOn_start (start : Int) (t : Text) :
    linesOn start [] t = linesFrom start (indent start) true t := by
  rw [linesOn, List.append_nil]
  rfl

theorem linesOn_nil : linesOn start part [] = emit (indent (lineDepth start part) ++ part) := rfl

theorem linesOn_ender (hc : IsEnder c) (rest : Text) : linesOn start part (c :: rest) =
    emit (indent (lineDepth start part) ++ part ++ [c]) ++
      linesOn (lineDepth start part + surplus [c]) [] rest := by
  rw [linesOn_start]
  rcases hc with rfl | rfl | rfl
  · exact linesFrom_open rest
  · rw [show surplus [';'] = 0 from rfl, Int.add_zero]
    rfl
  · rw [show surplus [','] = 0 from rfl, Int.add_zero]
    rfl

theorem linesOn_close (rest : Text) : linesOn start part ('\x7d' :: rest) =
    emit (indent (lineDepth start part) ++ part) ++
      linesOn (lineDepth start part) ['\x7d'] rest :=
  linesFrom_close rest

theorem linesOn_break (hc : c = '\r' ∨ c = '\n') (hne : part ≠ []) (rest : Text) :
    linesOn start part (c :: rest) =
      emit (indent (lineDepth start part) ++ part) ++ linesOn (lineDepth start part) [] rest := by
  obtain ⟨b, more, rfl⟩ := List.exists_cons_of_ne_nil hne
  rw [linesOn_start]
  rcases hc with rfl | rfl <;> rfl

theorem linesOn_skip (hc : (c = '\r' ∨ c = '\n') ∨ c = ' ' ∨ c = '\t') (rest : Text) :
    linesOn start [] (c :: rest) = linesOn start [] rest := by
  rcases hc with (rfl | rfl) | rfl | rfl <;> rfl

theorem linesOn_plain (hc : IsPlain c) (hfirst : part = [] → c ≠ ' ' ∧ c ≠ '\t') (rest : Text) :
    linesOn start part (c :: rest) = linesOn start (part ++ [c]) rest := by
  obtain ⟨hender, hclose, hreturn, hnewline⟩ := hc
  simp only [IsEnder, not_or] at hender
  have hskip : ¬ (part.isEmpty && (decide (c = ' ') || decide (c = '\t')) : Bool) := by
    simpa using hfirst
  have hfresh : (part ++ [c]).isEmpty = false := by simp
  rw [linesOn, linesOn, lineDepth_concat hclose, linesFrom, if_neg hender.1, if_neg hclose,
    if_neg (by simp [hender.2]), if_neg (by simp [hreturn, hnewline]), if_neg hskip, hfresh,
    List.append_assoc]

theorem linesOn_indent (start depth : Int) (rest : Text) :
    linesOn start [] (indent depth ++ rest) = linesOn start [] rest := by
  rw [linesOn_start, linesFrom_indent, linesOn_start]

/-- A part at the beginning of a line is read as it is. -/
theorem linesOn_part (h : IsPart part) (start : Int) (rest : Text) :
    linesOn start [] (part ++ rest) = linesOn start part rest := by
  induction part using List.reverseRecOn generalizing rest with
  | nil => rfl
  | append_singleton part c ih =>
    have hc : c ∈ part ++ [c] := by simp
    rw [List.append_assoc, ih h.of_append, List.singleton_append]
    by_cases hclose : part = [] ∧ c = '\x7d'
    · obtain ⟨rfl, rfl⟩ := hclose
      rw [linesOn_close, List.append_nil, emit_indent]
      rfl
    · refine linesOn_plain ⟨h.unended c hc, ?_, h.unbroken c hc⟩ ?_ rest
      · rintro rfl
        obtain ⟨b, more, rfl⟩ := List.exists_cons_of_ne_nil fun hnil => hclose ⟨hnil, rfl⟩
        exact h.begins.closing (by simp)
      · rintro rfl
        simpa using h.begins.first

end Legible.TypeLayout
