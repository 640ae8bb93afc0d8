import Legible.Keymap.Chord
import Legible.Proofs.Text.Blank
import Legible.Proofs.Text.Lines

/-!
# Words between separators

The words of a text stand between its separators, without the blanks around them.  Words that are
put together with separators are found again (`wordsBetween_join_words`), and the blanks at the
ends of a text change none of its words (`wordsBetween_strip`).
-/

namespace Legible.Keymap

open Text

variable {sep c : Char} {t w : Text} {words pieces : List Text}

/-- Whether a text is a word where a character separates words. -/
structure IsWord (sep : Char) (w : Text) : Prop where
  ne_nil : w ≠ []
  strip_eq : strip w = w
  not_mem : sep ∉ w

theorem isWord_of_mem_wordsBetween (h : w ∈ wordsBetween sep t) : IsWord sep w := by
  obtain ⟨hpieces, hne⟩ := List.mem_filter.1 h
  obtain ⟨piece, hpiece, rfl⟩ := List.mem_map.1 hpieces
  exact
    { ne_nil := by simpa using hne
      strip_eq := strip_strip piece
      not_mem := fun hsep => not_mem_of_mem_splitOn hpiece (mem_of_mem_strip hsep) }

theorem mem_of_mem_wordsBetween (h : w ∈ wordsBetween sep t) (hc : c ∈ w) : c ∈ t := by
  obtain ⟨hpieces, -⟩ := List.mem_filter.1 h
  obtain ⟨piece, hpiece, rfl⟩ := List.mem_map.1 hpieces
  rw [← join_splitOn sep t]
  exact mem_join hpiece (mem_of_mem_strip hc)

/-- A text without words is made of separators and blanks. -/
theorem eq_or_isBlank_of_wordsBetween_eq_nil (h : wordsBetween sep t = []) (hc : c ∈ t) :
    c = sep ∨ isBlank c := by
  rw [← join_splitOn sep t] at hc
  rcases mem_or_exists_of_mem_join hc with hsep | ⟨piece, hpiece, hmem⟩
  · exact .inl (List.mem_singleton.1 hsep)
  · have hstrip := List.filter_eq_nil_iff.1 h (strip piece) (List.mem_map.2 ⟨piece, hpiece, rfl⟩)
    exact .inr (isBlank_of_strip_eq_nil (by simpa using hstrip) hmem)

/-! ## Putting words together -/

theorem wordsBetween_join (h : ∀ p ∈ pieces, sep ∉ p) :
    wordsBetween sep (join [sep] pieces) = (pieces.map strip).filter (!·.isEmpty) := by
  by_cases hne : pieces = []
  · subst hne
    rfl
  · rw [wordsBetween, splitOn_join hne h]

theorem wordsBetween_join_words (h : ∀ w ∈ words, IsWord sep w) :
    wordsBetween sep (join [sep] words) = words := by
  have hstrip : words.map strip = words :=
    (List.map_congr_left fun w hw => (h w hw).strip_eq).trans (List.map_id' words)
  rw [wordsBetween_join fun w hw => (h w hw).not_mem, hstrip, List.filter_eq_self]
  intro w hw
  simpa using (h w hw).ne_nil

theorem wordsBetween_of_isWord (h : IsWord sep w) : wordsBetween sep w = [w] := by
  have hall : ∀ v ∈ [w], IsWord sep v := by simpa using h
  exact wordsBetween_join_words hall

theorem join_append_cons {between : Text} (front w : Text) (words : List Text) :
    join between ((front ++ w) :: words) = front ++ join between (w :: words) := by
  by_cases hnil : words = []
  · subst hnil
    rfl
  · rw [join_cons _ hnil, join_cons w hnil, List.append_assoc]

theorem join_sep_append_cons (blanks w : Text) (words : List Text) :
    join (sep :: blanks) (w :: words) = join [sep] (w :: words.map (blanks ++ ·)) := by
  induction words generalizing w with
  | nil => rfl
  | cons v words ih =>
    rw [join_cons w (List.cons_ne_nil v words), List.map_cons, join_cons w (List.cons_ne_nil _ _), ih,
      join_append_cons]
    rfl

/-- Words are found again where blanks follow the separators between them. -/
theorem wordsBetween_join_spaced {blanks : Text} (hblanks : allBlank blanks) (hsep : sep ∉ blanks)
    (h : ∀ w ∈ words, IsWord sep w) : wordsBetween sep (join (sep :: blanks) words) = words := by
  cases words with
  | nil => rfl
  | cons w words =>
    obtain ⟨hw, hwords⟩ := List.forall_mem_cons.1 h
    have hpieces : ∀ piece ∈ w :: words.map (blanks ++ ·), sep ∉ piece := by
      rintro piece hpiece
      rcases List.mem_cons.1 hpiece with rfl | hpiece
      · exact hw.not_mem
      · obtain ⟨v, hv, rfl⟩ := List.mem_map.1 hpiece
        intro hmem
        rcases List.mem_append.1 hmem with hblank | hmem
        · exact hsep hblank
        · exact (hwords v hv).not_mem hmem
    have hstrip : (w :: words.map (blanks ++ ·)).map strip = (w :: words).map strip := by
      rw [List.map_cons, List.map_map, List.map_cons]
      refine congrArg _ (List.map_congr_left fun v _ => ?_)
      have hafter : ∀ c ∈ ([] : Text), isBlank c := by simp
      have hpadded := strip_padded (List.all_eq_true.1 hblanks) hafter v
      rwa [List.append_nil] at hpadded
    rw [join_sep_append_cons, wordsBetween_join hpieces, hstrip,
      ← wordsBetween_join fun v hv => (h v hv).not_mem, wordsBetween_join_words h]

theorem join_ne_nil {between : Text} (hne : words ≠ []) (h : ∀ w ∈ words, w ≠ []) :
    join between words ≠ [] := by
  obtain ⟨w, words, rfl⟩ := List.exists_cons_of_ne_nil hne
  obtain ⟨c, rest, hw⟩ := List.exists_cons_of_ne_nil (h w List.mem_cons_self)
  exact List.ne_nil_of_mem (mem_join List.mem_cons_self (hw ▸ List.mem_cons_self))

/-- Where words are put together no blanks arise at the ends. -/
theorem strip_join {between : Text} (h : ∀ w ∈ words, w ≠ [] ∧ strip w = w) :
    strip (join between words) = join between words := by
  induction words with
  | nil => rfl
  | cons w words ih =>
    obtain ⟨⟨hne, hstrip⟩, hwords⟩ := List.forall_mem_cons.1 h
    by_cases hnil : words = []
    · subst hnil
      exact hstrip
    · rw [join_cons w hnil]
      exact strip_append hstrip hne (ih hwords) (join_ne_nil hnil fun v hv => (hwords v hv).1) between

/-! ## Blanks at the ends -/

theorem wordsBetween_blank_cons (hc : isBlank c) (hsep : c ≠ sep) (t : Text) :
    wordsBetween sep (c :: t) = wordsBetween sep t := by
  obtain ⟨piece, rest, hsplit⟩ := List.exists_cons_of_ne_nil (splitOn_ne_nil sep t)
  have hpiece : strip (c :: piece) = strip piece :=
    congrArg stripRight (List.dropWhile_cons_of_pos hc)
  rw [wordsBetween, wordsBetween, splitOn, if_neg hsep, hsplit, consHead, List.map_cons,
    List.map_cons, hpiece]

theorem map_stripRight_consHead {ps qs : List Text} (h : ps.map stripRight = qs.map stripRight)
    (c : Char) : (consHead c ps).map stripRight = (consHead c qs).map stripRight := by
  cases ps with
  | nil =>
    rw [List.map_nil, eq_comm, List.map_eq_nil_iff] at h
    rw [h]
  | cons p ps =>
    obtain ⟨q, qs, rfl⟩ := List.exists_cons_of_ne_nil (l := qs) (by rintro rfl; simp at h)
    obtain ⟨hhead, htail⟩ := List.cons.inj h
    rw [consHead, consHead, List.map_cons, List.map_cons, htail, stripRight, stripRight, hhead]

theorem map_stripRight_splitOn_concat (hc : isBlank c) (hsep : c ≠ sep) (t : Text) :
    (splitOn sep (t ++ [c])).map stripRight = (splitOn sep t).map stripRight := by
  induction t with
  | nil =>
    simp [splitOn, hsep, consHead, stripRight, hc]
  | cons d t ih =>
    rw [List.cons_append, splitOn, splitOn]
    split
    · rw [List.map_cons, List.map_cons, ih]
    · exact map_stripRight_consHead ih d

theorem wordsBetween_concat_blank (hc : isBlank c) (hsep : c ≠ sep) (t : Text) :
    wordsBetween sep (t ++ [c]) = wordsBetween sep t := by
  have hstrip (ps : List Text) : ps.map strip = (ps.map stripRight).map stripLeft := by
    rw [List.map_map]
    exact List.map_congr_left fun p _ => (stripLeft_stripRight p).symm
  rw [wordsBetween, wordsBetween, hstrip, hstrip, map_stripRight_splitOn_concat hc hsep]

theorem wordsBetween_stripLeft (hsep : isBlank sep = false) (t : Text) :
    wordsBetween sep (stripLeft t) = wordsBetween sep t := by
  induction t with
  | nil => rfl
  | cons c t ih =>
    by_cases hc : isBlank c
    · have hne : c ≠ sep := by
        rintro rfl
        exact absurd hc (by simp [hsep])
      have hdrop : stripLeft (c :: t) = stripLeft t := List.dropWhile_cons_of_pos hc
      rw [hdrop, ih, wordsBetween_blank_cons hc hne]
    · have hkeep : stripLeft (c :: t) = c :: t := List.dropWhile_cons_of_neg hc
      rw [hkeep]

theorem wordsBetween_stripRight (hsep : isBlank sep = false) (t : Text) :
    wordsBetween sep (stripRight t) = wordsBetween sep t := by
  induction t using List.reverseRecOn with
  | nil => rfl
  | append_singleton t c ih =>
    rw [stripRight_concat]
    split
    · rename_i hc
      have hne : c ≠ sep := by
        rintro rfl
        exact absurd hc (by simp [hsep])
      rw [ih, wordsBetween_concat_blank hc hne]
    · rfl

theorem wordsBetween_strip (hsep : isBlank sep = false) (t : Text) :
    wordsBetween sep (strip t) = wordsBetween sep t := by
  rw [strip, wordsBetween_stripRight hsep, wordsBetween_stripLeft hsep]

end Legible.Keymap
