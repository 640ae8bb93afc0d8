import Legible.Keymap.Command
import Mathlib.Data.List.Nodup

/-!
# Chords that are taken

The commands are gone through in the order of the menu, and a chord is in conflict wherever it has
been met before.  So each command is in conflict with the commands before it over the chords that
they have, and over a chord that it repeats it is in conflict with itself: of the times at which it
has the chord only the first one is free, and that only if no command before it has the chord
(`count_conflicts`).
-/

namespace Legible

/-- The commands before one in the menu. -/
def Command.before (a : Command) : List Command := all.takeWhile (· ≠ a)

namespace Keymap

variable {m : Keymap} {a : Command} {x : Text} {taken : List Text}

/-- Whether a command before one in the menu has a chord. -/
def IsTaken (m : Keymap) (a : Command) (x : Text) : Prop := ∃ b ∈ a.before, x ∈ m.get b

instance (m : Keymap) (a : Command) (x : Text) : Decidable (m.IsTaken a x) :=
  inferInstanceAs (Decidable (∃ b ∈ a.before, x ∈ m.get b))

/-! ## The chords of one command -/

theorem command_of_mem_takenBefore {chords : List Text} {e : Conflict}
    (h : e ∈ takenBefore a taken chords) : e.command = a := by
  induction chords generalizing taken with
  | nil => exact absurd h List.not_mem_nil
  | cons chord chords ih =>
    rw [takenBefore] at h
    split at h
    · rcases List.mem_cons.1 h with rfl | h
      · rfl
      · exact ih h
    · exact ih h

/-- What is taken is in conflict every time, and anything else every time but the first. -/
theorem count_takenBefore (a : Command) (x : Text) (taken chords : List Text) :
    (takenBefore a taken chords).count ⟨a, x⟩ =
      if x ∈ taken then chords.count x else chords.count x - 1 := by
  induction chords generalizing taken with
  | nil => simp [takenBefore]
  | cons chord chords ih =>
    rw [takenBefore]
    by_cases hchord : chord ∈ taken
    · rw [if_pos (List.contains_iff_mem.2 hchord), List.count_cons, List.count_cons, ih]
      by_cases hx : chord = x
      · subst hx
        simp [hchord]
      · simp [hx]
    · rw [if_neg (mt List.contains_iff_mem.1 hchord), List.count_cons, ih]
      by_cases hx : chord = x
      · subst hx
        simp [hchord]
      · simp [hx, Ne.symm hx]

/-! ## All commands -/

theorem command_mem_of_mem_conflictsAmong {commands : List Command} {e : Conflict}
    (h : e ∈ conflictsAmong m taken commands) : e.command ∈ commands := by
  induction commands generalizing taken with
  | nil => exact absurd h List.not_mem_nil
  | cons b commands ih =>
    rw [conflictsAmong, List.mem_append] at h
    rcases h with h | h
    · exact command_of_mem_takenBefore h ▸ List.mem_cons_self
    · exact List.mem_cons_of_mem b (ih h)

theorem count_conflictsAmong {first last : List Command} (hfirst : a ∉ first) (hlast : a ∉ last) :
    (conflictsAmong m taken (first ++ a :: last)).count ⟨a, x⟩ =
      if x ∈ taken ∨ ∃ b ∈ first, x ∈ m.get b then (m.get a).count x
      else (m.get a).count x - 1 := by
  induction first generalizing taken with
  | nil =>
    have hrest : ⟨a, x⟩ ∉ conflictsAmong m (m.get a ++ taken) last :=
      fun h => hlast (command_mem_of_mem_conflictsAmong h)
    rw [List.nil_append, conflictsAmong, List.count_append, count_takenBefore,
      List.count_eq_zero_of_not_mem hrest]
    simp
  | cons b first ih =>
    obtain ⟨hb, hfirst⟩ := List.ne_and_not_mem_of_not_mem_cons hfirst
    have hhead : ⟨a, x⟩ ∉ takenBefore b taken (m.get b) :=
      fun h => hb (command_of_mem_takenBefore h)
    rw [List.cons_append, conflictsAmong, List.count_append, List.count_eq_zero_of_not_mem hhead,
      ih hfirst, Nat.zero_add]
    -- what the head of the list has is taken from here on
    refine if_congr ?_ rfl rfl
    simp only [List.mem_append, List.mem_cons, exists_eq_or_imp]
    tauto

theorem exists_all_eq (a : Command) :
    ∃ last, Command.all = a.before ++ a :: last ∧ a ∉ a.before ∧ a ∉ last := by
  cases a <;> exact ⟨_, rfl, by decide, by decide⟩

/-- How often a command is in conflict over a chord. -/
theorem count_conflicts (m : Keymap) (a : Command) (x : Text) :
    m.conflicts.count ⟨a, x⟩ =
      if m.IsTaken a x then (m.get a).count x else (m.get a).count x - 1 := by
  obtain ⟨last, hall, hbefore, hlast⟩ := exists_all_eq a
  rw [conflicts, hall, count_conflictsAmong hbefore hlast]
  refine if_congr ?_ rfl rfl
  simp [IsTaken]

theorem mem_conflicts (m : Keymap) (a : Command) (x : Text) :
    ⟨a, x⟩ ∈ m.conflicts ↔ x ∈ m.get a ∧ m.IsTaken a x ∨ 2 ≤ (m.get a).count x := by
  have hcount := count_conflicts m a x
  rw [← List.count_pos_iff, ← List.count_pos_iff, hcount]
  by_cases htaken : m.IsTaken a x
  · simp only [htaken, if_true, and_true]
    omega
  · simp only [htaken, if_false, and_false, false_or]
    omega

theorem conflicts_eq_nil_iff (m : Keymap) :
    m.conflicts = [] ↔
      (∀ a, (m.get a).Nodup) ∧ ∀ a, ∀ b ∈ a.before, List.Disjoint (m.get b) (m.get a) := by
  constructor
  · intro h
    have hnone (a : Command) (x : Text) := (mem_conflicts m a x).not.1 (by simp [h])
    refine ⟨fun a => List.nodup_iff_count_le_one.2 fun x => ?_, fun a b hb x hxb hxa => ?_⟩
    · by_contra hcount
      exact hnone a x (.inr (by omega))
    · exact hnone a x (.inl ⟨hxa, b, hb, hxb⟩)
  · rintro ⟨hnodup, hdisjoint⟩
    refine List.eq_nil_iff_forall_not_mem.2 fun ⟨a, x⟩ hmem => ?_
    rcases (mem_conflicts m a x).1 hmem with ⟨hxa, b, hb, hxb⟩ | hcount
    · exact hdisjoint a b hb hxb hxa
    · have := List.nodup_iff_count_le_one.1 (hnodup a) x
      omega

/-- Whatever the settings say, a command is in conflict over a chord just if it has the chord and a
command before it has it too, or if it has it more than once.  So a conflict is always with another
command just for those commands and chords where the chord is not repeated, or is taken anyway; and
there is no conflict at all just if no command repeats a chord and no two commands share one. -/
theorem mem_conflicts_iff (v : Value) (a : Command) (x : Text) :
    (⟨a, x⟩ ∈ (ofValue v).conflicts ↔
      x ∈ (ofValue v).get a ∧ (ofValue v).IsTaken a x ∨ 2 ≤ ((ofValue v).get a).count x) ∧
    ((⟨a, x⟩ ∈ (ofValue v).conflicts ↔ x ∈ (ofValue v).get a ∧ (ofValue v).IsTaken a x) ↔
      ((ofValue v).get a).count x ≤ 1 ∨ (ofValue v).IsTaken a x) ∧
    ((ofValue v).conflicts = [] ↔ (∀ a, ((ofValue v).get a).Nodup) ∧
      ∀ a, ∀ b ∈ a.before, List.Disjoint ((ofValue v).get b) ((ofValue v).get a)) := by
  refine ⟨mem_conflicts _ a x, ?_, conflicts_eq_nil_iff _⟩
  have hhas : 2 ≤ ((ofValue v).get a).count x → x ∈ (ofValue v).get a :=
    fun h => List.count_pos_iff.1 (by omega)
  have hle : ((ofValue v).get a).count x ≤ 1 ↔ ¬ 2 ≤ ((ofValue v).get a).count x := by omega
  rw [mem_conflicts, hle]
  tauto

/-- Two commands share a chord that the first of them also repeats. -/
theorem mem_conflicts_iff_sharedChord :
    let v : Value := .obj [("toggle".toList, .arr [.str "Ctrl+K".toList, .str "ctrl+k".toList]),
      ("next_error".toList, .str "control + K".toList)]
    Command.toggle ∈ Command.nextError.before ∧
      ⟨.nextError, "Ctrl+K".toList⟩ ∈ (ofValue v).conflicts ∧ (ofValue v).conflicts ≠ [] := by
  intro v
  obtain ⟨hmem, -, hnil⟩ := mem_conflicts_iff v .nextError "Ctrl+K".toList
  have hbefore : Command.toggle ∈ Command.nextError.before := by decide
  refine ⟨hbefore, hmem.2 (.inl (by decide +kernel)), fun h => ?_⟩
  have hdisjoint := (hnil.1 h).2 .nextError .toggle hbefore
  exact hdisjoint (a := "Ctrl+K".toList) (by decide +kernel) (by decide +kernel)

/-- A command that is given one chord in two spellings is in conflict with itself, although no two
commands share a chord. -/
theorem conflicts_repeatedChord :
    let m := ofValue (.obj
      [("toggle".toList, .arr [.str "Ctrl+K".toList, .str "ctrl+k".toList])])
    m.conflicts = [⟨.toggle, "Ctrl+K".toList⟩] ∧
      ∀ a ∈ Command.all, ∀ b ∈ Command.all, a ≠ b → ∀ x ∈ m.get a, x ∉ m.get b := by
  decide +kernel

end Keymap

end Legible
