import Legible.Text.Basic

/-!
# Lines of a text

Splitting at a character undoes joining with it, where no piece holds the character
(`splitOn_join`).  So the lines of a text of lines are these lines (`lines_unlines`).
-/

namespace Legible.Text

variable {c sep : Char} {s t piece : Text} {ls rest : List Text}

theorem join_cons {sep : Text} (piece : Text) {pieces : List Text} (h : pieces ≠ []) :
    join sep (piece :: pieces) = piece ++ (sep ++ join sep pieces) := by
  obtain ⟨next, rest, rfl⟩ := List.exists_cons_of_ne_nil h
  rw [join, List.append_assoc]
  simp

theorem splitOn_of_not_mem (h : sep ∉ t) : splitOn sep t = [t] := by
  induction t with
  | nil => rfl
  | cons c t ih =>
    obtain ⟨hc, ht⟩ := List.ne_and_not_mem_of_not_mem_cons h
    rw [splitOn, if_neg (Ne.symm hc), ih ht]
    rfl

theorem splitOn_append_cons (h : sep ∉ t) (rest : Text) :
    splitOn sep (t ++ sep :: rest) = t :: splitOn sep rest := by
  induction t with
  | nil => rw [List.nil_append, splitOn, if_pos rfl]
  | cons c t ih =>
    obtain ⟨hc, ht⟩ := List.ne_and_not_mem_of_not_mem_cons h
    rw [List.cons_append, splitOn, if_neg (Ne.symm hc), ih ht]
    rfl

theorem splitOn_append (h : sep ∉ s) (ht : splitOn sep t = piece :: rest) :
    splitOn sep (s ++ t) = (s ++ piece) :: rest := by
  induction s with
  | nil => exact ht
  | cons c s ih =>
    obtain ⟨hc, hs⟩ := List.ne_and_not_mem_of_not_mem_cons h
    rw [List.cons_append, splitOn, if_neg (Ne.symm hc), ih hs]
    rfl

theorem splitOn_concat (h : c ≠ sep) (t : Text) :
    ∃ front piece, splitOn sep (t ++ [c]) = front ++ [piece ++ [c]] := by
  induction t with
  | nil =>
    refine ⟨[], [], ?_⟩
    rw [List.nil_append, splitOn, if_neg h]
    rfl
  | cons d t ih =>
    obtain ⟨front, piece, hsplit⟩ := ih
    rw [List.cons_append, splitOn, hsplit]
    split
    · exact ⟨[] :: front, piece, rfl⟩
    · cases front with
      | nil => exact ⟨[], d :: piece, rfl⟩
      | cons first front => exact ⟨(d :: first) :: front, piece, rfl⟩

theorem splitOn_join {pieces : List Text} (hne : pieces ≠ []) (h : ∀ p ∈ pieces, sep ∉ p) :
    splitOn sep (join [sep] pieces) = pieces := by
  induction pieces with
  | nil => exact absurd rfl hne
  | cons p pieces ih =>
    obtain ⟨hp, hpieces⟩ := List.forall_mem_cons.1 h
    by_cases hnil : pieces = []
    · subst hnil
      exact splitOn_of_not_mem hp
    · rw [join_cons p hnil]
      exact (splitOn_append_cons hp _).trans (congrArg _ (ih hnil hpieces))

theorem mem_join {sep piece : Text} {pieces : List Text} (h : piece ∈ pieces) {c : Char}
    (hc : c ∈ piece) : c ∈ join sep pieces := by
  induction pieces with
  | nil => exact absurd h List.not_mem_nil
  | cons first rest ih =>
    by_cases hrest : rest = []
    · rw [hrest, join]
      rw [hrest, List.mem_singleton] at h
      exact h ▸ hc
    · rw [join_cons first hrest]
      rcases List.mem_cons.1 h with rfl | h
      · exact List.mem_append_left _ hc
      · exact List.mem_append_right _ (List.mem_append_right _ (ih h))

theorem mem_or_exists_of_mem_join {sep : Text} {pieces : List Text} {c : Char}
    (h : c ∈ join sep pieces) : c ∈ sep ∨ ∃ piece ∈ pieces, c ∈ piece := by
  induction pieces with
  | nil => exact absurd h List.not_mem_nil
  | cons first rest ih =>
    by_cases hrest : rest = []
    · subst hrest
      exact .inr ⟨first, List.mem_cons_self, h⟩
    · rw [join_cons first hrest, List.mem_append, List.mem_append] at h
      rcases h with h | h | h
      · exact .inr ⟨first, List.mem_cons_self, h⟩
      · exact .inl h
      · refine (ih h).imp_right ?_
        rintro ⟨piece, hpiece, hc⟩
        exact ⟨piece, List.mem_cons_of_mem first hpiece, hc⟩

theorem not_mem_join {sep : Text} {pieces : List Text} {c : Char} (hsep : c ∉ sep)
    (h : ∀ piece ∈ pieces, c ∉ piece) : c ∉ join sep pieces := by
  intro hmem
  rcases mem_or_exists_of_mem_join hmem with hc | ⟨piece, hpiece, hc⟩
  · exact hsep hc
  · exact h piece hpiece hc

/-! ## Line feeds -/

theorem lines_ne_nil (t : Text) : lines t ≠ [] := splitOn_ne_nil '\n' t

theorem unlines_lines (t : Text) : unlines (lines t) = t := join_splitOn '\n' t

theorem lines_unlines (hne : ls ≠ []) (h : ∀ l ∈ ls, '\n' ∉ l) : lines (unlines ls) = ls :=
  splitOn_join hne h

theorem unlines_cons (l : Text) (h : ls ≠ []) : unlines (l :: ls) = l ++ '\n' :: unlines ls :=
  join_cons l h

theorem unlines_append {as bs : List Text} (ha : as ≠ []) (hb : bs ≠ []) :
    unlines (as ++ bs) = unlines as ++ '\n' :: unlines bs := by
  induction as with
  | nil => exact absurd rfl ha
  | cons a as ih =>
    by_cases has : as = []
    · subst has
      exact unlines_cons a hb
    · rw [List.cons_append, unlines_cons a (List.append_ne_nil_of_left_ne_nil has bs), ih has,
        unlines_cons a has, List.append_assoc]
      rfl

end Legible.Text
