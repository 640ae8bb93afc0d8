import Legible.Text.Blank
import Legible.Text.Word
import Mathlib.Data.List.DropRight

/-!
# Blanks at the ends of a text

Taking the blanks off the end of a text is `List.rdropWhile`, as taking them off the beginning is
`List.dropWhile`.  What is taken off the end of two texts together is taken off the second one,
unless that is blank (`stripRight_append_of_ne_nil`).
-/

namespace Legible.Text

variable {c : Char} {s t : Text}

theorem stripRight_concat (t : Text) (c : Char) :
    stripRight (t ++ [c]) = if isBlank c then stripRight t else t ++ [c] := by
  induction t with
  | nil => simp [stripRight]
  | cons d t ih =>
    rw [List.cons_append, stripRight, ih, stripRight]
    by_cases hc : isBlank c
    · rw [if_pos hc, if_pos hc]
    · rw [if_neg hc, if_neg hc]
      cases t <;> rfl

theorem stripRight_eq_rdropWhile (t : Text) : stripRight t = t.rdropWhile isBlank := by
  induction t using List.reverseRecOn with
  | nil => rfl
  | append_singleton t c ih => rw [stripRight_concat, List.rdropWhile_concat, ih]

theorem stripRight_stripRight (t : Text) : stripRight (stripRight t) = stripRight t := by
  rw [stripRight_eq_rdropWhile, stripRight_eq_rdropWhile, List.rdropWhile_idempotent]

theorem prefix_stripRight (t : Text) : stripRight t <+: t := by
  rw [stripRight_eq_rdropWhile]
  exact List.rdropWhile_prefix isBlank t

theorem stripRight_eq_nil (h : ∀ c ∈ t, isBlank c) : stripRight t = [] :=
  stripRight_eq_nil_iff.2 (List.all_eq_true.2 h)

theorem stripRight_of_forall (h : ∀ c ∈ t, isBlank c = false) : stripRight t = t := by
  rw [stripRight_eq_rdropWhile, List.rdropWhile_eq_self_iff]
  intro hne hlast
  rw [h _ (List.getLast_mem hne)] at hlast
  exact Bool.false_ne_true hlast

theorem stripRight_append (s t : Text) :
    stripRight (s ++ t) = if stripRight t = [] then stripRight s else s ++ stripRight t := by
  simp only [stripRight_eq_rdropWhile, List.rdropWhile, List.reverse_append, List.dropWhile_append,
    List.isEmpty_iff, List.reverse_eq_nil_iff]
  split_ifs
  · rfl
  · rw [List.reverse_append, List.reverse_reverse]

theorem stripRight_append_of_nil (h : stripRight t = []) (s : Text) :
    stripRight (s ++ t) = stripRight s := by rw [stripRight_append, if_pos h]

theorem stripRight_append_of_ne_nil (h : stripRight t ≠ []) (s : Text) :
    stripRight (s ++ t) = s ++ stripRight t := by rw [stripRight_append, if_neg h]

theorem stripLeft_append_cons {blanks : Text} (h : ∀ c ∈ blanks, isBlank c)
    (hc : isBlank c = false) (t : Text) : stripLeft (blanks ++ c :: t) = c :: t := by
  rw [stripLeft, List.dropWhile_append_of_pos h, List.dropWhile_cons_of_neg (by simp [hc])]

/-- No blank belongs to a word. -/
theorem isWordChar_of_isBlank (h : isBlank c) : isWordChar c = false := by
  have htable : ∀ r ∈ blankRanges, ∀ i ∈ List.range (r.2 - r.1 + 1),
      inRanges (r.1 + i) alphanumericRanges = false := by decide +kernel
  obtain ⟨r, hr, hfirst, hlast⟩ := exists_range_of_inRanges h
  have hoffset : r.1 + (c.toNat - r.1) = c.toNat := by omega
  have hrange := htable r hr (c.toNat - r.1) (List.mem_range.2 (by omega))
  rw [hoffset] at hrange
  have hline : c ≠ '_' := fun heq => absurd (heq ▸ h) (by decide)
  simp [isWordChar, isAlphanumeric, hline, hrange]

theorem mem_of_mem_strip (h : c ∈ strip t) : c ∈ t :=
  (List.dropWhile_sublist _).subset ((prefix_stripRight _).subset h)

/-! ## Both ends -/

theorem isBlank_of_strip_eq_nil (h : strip t = []) (hc : c ∈ t) : isBlank c := by
  rw [strip, stripRight_eq_nil_iff, allBlank, List.all_eq_true] at h
  rw [← List.takeWhile_append_dropWhile (p := isBlank) (l := t), List.mem_append] at hc
  rcases hc with hbefore | hrest
  · exact List.mem_takeWhile_imp hbefore
  · exact h c hrest

theorem stripLeft_stripRight (t : Text) : stripLeft (stripRight t) = stripRight (stripLeft t) := by
  induction t with
  | nil => rfl
  | cons c t ih =>
    by_cases hc : isBlank c
    · have hleft : stripLeft (c :: t) = stripLeft t := List.dropWhile_cons_of_pos hc
      rw [hleft, ← ih, stripRight, if_pos hc]
      split
      · rename_i hnil
        rw [hnil]
      · exact List.dropWhile_cons_of_pos hc
    · have hleft (t : Text) : stripLeft (c :: t) = c :: t := List.dropWhile_cons_of_neg hc
      rw [hleft, stripRight, if_neg hc]
      split
      · exact hleft []
      · exact hleft _

theorem stripLeft_stripLeft (t : Text) : stripLeft (stripLeft t) = stripLeft t :=
  List.dropWhile_idempotent isBlank t

theorem isBlank_head (h : stripLeft (c :: t) = c :: t) : isBlank c = false := by
  simpa using List.dropWhile_eq_self_iff.1 h (Nat.zero_lt_succ _)

theorem strip_eq_self_iff : strip t = t ↔ stripLeft t = t ∧ stripRight t = t := by
  constructor
  · intro h
    constructor
    · rw [← h, strip, ← stripLeft_stripRight, stripLeft_stripLeft]
    · rw [← h, strip, stripRight_stripRight]
  · rintro ⟨hleft, hright⟩
    rw [strip, hleft, hright]

theorem strip_of_forall (h : ∀ c ∈ t, isBlank c = false) : strip t = t := by
  apply strip_eq_self_iff.2
  constructor
  · refine List.dropWhile_eq_self_iff.2 fun hlen => ?_
    simp [h _ (List.getElem_mem hlen)]
  · exact stripRight_of_forall h

theorem strip_strip (t : Text) : strip (strip t) = strip t := by
  apply strip_eq_self_iff.2
  constructor
  · rw [strip, ← stripLeft_stripRight, stripLeft_stripLeft]
  · rw [strip, stripRight_stripRight]

/-- Blanks around a text do not matter. -/
theorem strip_padded {before after : Text} (hbefore : ∀ c ∈ before, isBlank c)
    (hafter : ∀ c ∈ after, isBlank c) (t : Text) : strip (before ++ t ++ after) = strip t := by
  have hleft : stripLeft (before ++ (t ++ after)) = stripLeft (t ++ after) :=
    List.dropWhile_append_of_pos hbefore
  rw [List.append_assoc, strip, hleft, ← stripLeft_stripRight,
    stripRight_append_of_nil (stripRight_eq_nil hafter), stripLeft_stripRight, strip]

/-- What stands between two texts does not matter where neither begins or ends with a blank. -/
theorem strip_append (hs : strip s = s) (hsne : s ≠ []) (ht : strip t = t) (htne : t ≠ [])
    (between : Text) : strip (s ++ (between ++ t)) = s ++ (between ++ t) := by
  obtain ⟨hleft, -⟩ := strip_eq_self_iff.1 hs
  obtain ⟨-, hright⟩ := strip_eq_self_iff.1 ht
  apply strip_eq_self_iff.2
  constructor
  · obtain ⟨c, s, rfl⟩ := List.exists_cons_of_ne_nil hsne
    exact List.dropWhile_cons_of_neg (by simp [isBlank_head hleft])
  · rw [← List.append_assoc, stripRight_append_of_ne_nil (hright.symm ▸ htne), hright]

end Legible.Text
