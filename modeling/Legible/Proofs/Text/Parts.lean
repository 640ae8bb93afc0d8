import Legible.Text.Basic
import Mathlib.Data.List.TakeWhile

/-!
# Cutting a text at a part

A text is cut at the first place where a part stands.  In two texts put together that is the first
place in the first one; where the part stands in the first one nowhere, it is the first place in the
second one, unless the part stands across the border (`cutAtPart?_append`).  It cannot stand there
if the second text begins with a character that the part has at its own beginning only.
-/

namespace Legible.Text

/-! ## Cutting at a character -/

theorem cutAt?_eq_some_iff {sep : Char} {t before after : Text} :
    cutAt? sep t = some (before, after) ↔ t = before ++ sep :: after ∧ sep ∉ before := by
  induction t generalizing before with
  | nil => simp [cutAt?]
  | cons c rest ih =>
    rw [cutAt?]
    by_cases hc : c = sep
    · rw [if_pos hc]
      constructor
      · intro h
        obtain ⟨rfl, rfl⟩ := Prod.mk.inj (Option.some.inj h)
        exact ⟨by rw [hc]; rfl, List.not_mem_nil⟩
      · rintro ⟨h, hmem⟩
        cases before with
        | nil => rw [(List.cons.inj h).2]
        | cons d before =>
          rw [← hc, (List.cons.inj h).1] at hmem
          exact absurd List.mem_cons_self hmem
    · rw [if_neg hc, Option.map_eq_some_iff]
      constructor
      · rintro ⟨⟨first, second⟩, hcut, hp⟩
        obtain ⟨rfl, rfl⟩ := Prod.mk.inj hp
        obtain ⟨rfl, hmem⟩ := ih.1 hcut
        exact ⟨rfl, fun h => (List.mem_cons.1 h).elim (fun e => hc e.symm) hmem⟩
      · rintro ⟨h, hmem⟩
        cases before with
        | nil => exact absurd (List.cons.inj h).1 hc
        | cons d before =>
          obtain ⟨rfl, rfl⟩ := List.cons.inj h
          exact ⟨(before, after), ih.2 ⟨rfl, fun hm => hmem (List.mem_cons_of_mem _ hm)⟩, rfl⟩

theorem cutAt?_eq_none_iff {sep : Char} {t : Text} : cutAt? sep t = none ↔ sep ∉ t := by
  induction t with
  | nil => simp [cutAt?]
  | cons c rest ih =>
    rw [cutAt?, List.mem_cons, not_or]
    by_cases hc : c = sep
    · simp [hc]
    · rw [if_neg hc, Option.map_eq_none_iff, ih]
      exact ⟨fun h => ⟨fun e => hc e.symm, h⟩, fun h => h.2⟩

/-! ## Behind the last of a character -/

section Last

variable {c sep : Char} {t : Text}

theorem ne_of_mem_reverse (h : sep ∉ t) :
    ∀ c ∈ t.reverse, decide (c ≠ sep) = true := fun _ hc =>
  decide_eq_true fun heq => h (heq ▸ List.mem_reverse.1 hc)

theorem afterLast_of_not_mem (h : sep ∉ t) : afterLast sep t = t := by
  rw [afterLast, List.takeWhile_eq_self_iff.2 (ne_of_mem_reverse h), List.reverse_reverse]

theorem afterLast_append_cons (h : sep ∉ t) (s : Text) : afterLast sep (s ++ sep :: t) = t := by
  rw [afterLast, List.reverse_append, List.reverse_cons, List.append_assoc,
    List.takeWhile_append_of_pos (ne_of_mem_reverse h), List.singleton_append,
    List.takeWhile_cons_of_neg (by simp), List.append_nil, List.reverse_reverse]

theorem afterLast_concat (h : c ≠ sep) (t : Text) :
    afterLast sep (t ++ [c]) = afterLast sep t ++ [c] := by
  rw [afterLast, afterLast, List.reverse_append, List.reverse_singleton, List.singleton_append,
    List.takeWhile_cons_of_pos (by simpa using h), List.reverse_cons]

theorem exists_last_of_mem (h : sep ∈ t) : ∃ s e, t = s ++ sep :: e ∧ sep ∉ e := by
  obtain ⟨e, s, hsplit, he⟩ := List.eq_append_cons_of_mem (List.mem_reverse.2 h)
  refine ⟨s.reverse, e.reverse, ?_, fun hmem => he (List.mem_reverse.1 hmem)⟩
  rw [← List.reverse_reverse t, hsplit, List.reverse_append, List.reverse_cons, List.append_assoc]
  rfl

end Last

/-! ## Cutting at a part -/

variable {c : Char} {part x rest : Text}

theorem isPrefixOf_iff {t : Text} : part.isPrefixOf t = true ↔ part <+: t :=
  List.isPrefixOf_iff_prefix

theorem holds_iff {t : Text} : holds t part = true ↔ part <:+: t := by
  rw [holds]
  induction t with
  | nil => simp [indexOf?]
  | cons c t ih =>
    rw [indexOf?, List.infix_cons_iff]
    by_cases h : part <+: c :: t
    · rw [if_pos (isPrefixOf_iff.2 h)]
      exact iff_of_true rfl (.inl h)
    · rw [if_neg (mt isPrefixOf_iff.1 h), Option.isSome_map, ih, or_iff_right h]

theorem cutAtPart?_eq_none_iff {t : Text} : cutAtPart? part t = none ↔ ¬ part <:+: t := by
  induction t with
  | nil => simp [cutAtPart?]
  | cons c t ih =>
    rw [cutAtPart?, List.infix_cons_iff, not_or]
    by_cases h : part <+: c :: t
    · rw [if_pos (isPrefixOf_iff.2 h)]
      exact iff_of_false (fun h => nomatch h) fun hnot => hnot.1 h
    · rw [if_neg (mt isPrefixOf_iff.1 h), Option.map_eq_none_iff, ih]
      exact ⟨fun hrest => ⟨h, hrest⟩, And.right⟩

theorem cutAtPart?_self (hpart : part ≠ []) (rest : Text) :
    cutAtPart? part (part ++ rest) = some ([], rest) := by
  obtain ⟨c, t, ht⟩ := List.exists_cons_of_ne_nil (List.append_ne_nil_of_left_ne_nil hpart rest)
  have hbegins : part.isPrefixOf (c :: t) = true := isPrefixOf_iff.2 ⟨rest, ht⟩
  rw [ht, cutAtPart?, if_pos hbegins, ← ht, List.drop_left]

/-- A part that begins nowhere in the first of two texts is looked for in the second one. -/
theorem cutAtPart?_append (h : ∀ y, y ≠ [] → y <:+ x → ¬ part <+: y ++ rest) :
    cutAtPart? part (x ++ rest) = (cutAtPart? part rest).map fun p => (x ++ p.1, p.2) := by
  induction x with
  | nil => exact Option.map_id'.symm
  | cons c x ih =>
    have hhere : ¬ part <+: c :: x ++ rest := h (c :: x) (List.cons_ne_nil c x) List.suffix_rfl
    have hthere := ih fun y hne hy => h y hne (hy.trans (List.suffix_cons c x))
    rw [List.cons_append] at hhere ⊢
    rw [cutAtPart?, if_neg (mt isPrefixOf_iff.1 hhere), hthere, Option.map_map]
    rfl

theorem cutAtPart?_of_not_mem (h : c ∉ x) (rest : Text) :
    cutAtPart? (c :: part) (x ++ (c :: part ++ rest)) = some (x, rest) := by
  rw [cutAtPart?_append, cutAtPart?_self (List.cons_ne_nil c part)]
  · rw [Option.map_some, List.append_nil]
  · intro y hne hy hbegins
    obtain ⟨d, y, rfl⟩ := List.exists_cons_of_ne_nil hne
    rw [List.cons_append, List.cons_prefix_cons] at hbegins
    exact h (hbegins.1 ▸ hy.subset List.mem_cons_self)

/-- A text that goes over the border of two others begins with the first one whole, so that it holds
the character behind the border at another place than its beginning. -/
theorem prefix_of_append_eq {u more y : Text} (h : u ++ more = y ++ c :: rest) (hy : y ≠ [])
    (hc : c ∉ u.tail) : u <+: y := by
  rcases List.append_eq_append_iff.1 h with ⟨v, rfl, -⟩ | ⟨v, rfl, hv⟩
  · exact List.prefix_append u v
  · cases v with
    | nil => exact (List.append_nil y).symm ▸ List.prefix_rfl
    | cons d v =>
      obtain ⟨e, y, rfl⟩ := List.exists_cons_of_ne_nil hy
      rw [(List.cons.inj hv).1] at hc
      exact absurd (List.mem_append_right y List.mem_cons_self) hc

theorem cutAtPart?_of_not_infix (hc : c ∉ part) (h : ¬ c :: part <:+: x) (rest : Text) :
    cutAtPart? (c :: part) (x ++ (c :: part ++ rest)) = some (x, rest) := by
  rw [cutAtPart?_append, cutAtPart?_self (List.cons_ne_nil c part)]
  · rw [Option.map_some, List.append_nil]
  · rintro y hne hy ⟨more, hmore⟩
    have hbegins : c :: part <+: y := prefix_of_append_eq hmore hne hc
    exact h (hbegins.isInfix.trans hy.isInfix)

end Legible.Text
