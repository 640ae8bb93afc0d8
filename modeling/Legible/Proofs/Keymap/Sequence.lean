import Legible.Keymap.Command
import Legible.Proofs.Keymap.Chord

/-!
# Keymaps that are read again

The chords of a sequence are settled (`isSettled_of_mem_sequenceOf`), and settled chords are a
sequence already, as a list and as a text (`sequenceOf_of_isSettled`, `sequenceOf_text`).

Whatever the settings say, the chords of every command are settled (`allSettled_ofValue`): the default
ones are, and entering a field gives a command settled chords or none (`AllSettled.enter`).  A keymap
of settled chords that is written down is read as itself (`ofValue_toValue`).
-/

namespace Legible.Keymap

open Text

variable {ts chords : List Text} {c key : Text} {v : Value} {m : Keymap}

/-! ## Sequences -/

theorem isSettled_of_mem_sequenceOf (h : c ∈ sequenceOf ts) : IsSettled c := by
  obtain ⟨hmem, -⟩ := List.mem_filter.1 h
  obtain ⟨w, hw, rfl⟩ := List.mem_map.1 hmem
  obtain ⟨t, -, hword⟩ := List.mem_flatMap.1 hw
  exact isSettled_canonical (isWord_of_mem_wordsBetween hword)

/-- Texts whose chords are settled are a sequence of these chords. -/
theorem sequenceOf_of_flatMap (hchords : ts.flatMap chordsIn = chords)
    (h : ∀ c ∈ chords, IsSettled c) : sequenceOf ts = chords := by
  have hself : chords.map canonical = chords :=
    (List.map_congr_left fun c hc => (h c hc).canonical_eq).trans (List.map_id' chords)
  rw [sequenceOf, hchords, hself, List.filter_eq_self]
  intro c hc
  simpa using (h c hc).ne_nil

theorem sequenceOf_of_isSettled (h : ∀ c ∈ chords, IsSettled c) : sequenceOf chords = chords := by
  refine sequenceOf_of_flatMap ?_ h
  have hwords : ∀ c ∈ chords, chordsIn c = [c] :=
    fun c hc => wordsBetween_of_isWord (h c hc).toIsWord
  rw [List.flatMap_congr hwords, List.flatMap_singleton']

theorem sequenceOf_text (h : ∀ c ∈ chords, IsSettled c) :
    sequenceOf [join ", ".toList chords] = chords := by
  refine sequenceOf_of_flatMap ?_ h
  have hbetween : ", ".toList = [',', ' '] := rfl
  rw [List.flatMap_singleton, hbetween]
  exact wordsBetween_join_spaced (by decide) (by decide) fun c hc => (h c hc).toIsWord

theorem textsIn_map_str (ts : List Text) : textsIn (ts.map .str) = ts := by
  rw [textsIn, List.filterMap_map]
  exact List.filterMap_some

theorem isSettled_of_mem_sequenceOfValue (h : c ∈ sequenceOfValue v) : IsSettled c := by
  unfold sequenceOfValue at h
  split at h
  · exact isSettled_of_mem_sequenceOf h
  · exact isSettled_of_mem_sequenceOf h
  · exact absurd h List.not_mem_nil

/-! ## Keymaps -/

/-- Whether the chords of every command are settled. -/
def AllSettled (m : Keymap) : Prop := ∀ a, ∀ c ∈ m.get a, IsSettled c

theorem AllSettled.set (h : m.AllSettled) (hchords : ∀ c ∈ chords, IsSettled c) (a : Command) :
    (m.set a chords).AllSettled := by
  intro b
  by_cases hb : b = a
  · rw [hb, get_set_self]
    exact hchords
  · rw [get_set_of_ne m hb]
    exact h b

theorem allSettled_default : default.AllSettled := by
  intro a
  have hdefault : sequenceOf a.defaultChords = a.defaultChords := by
    cases a <;> decide +kernel
  rw [get_default, ← hdefault]
  exact fun c hc => isSettled_of_mem_sequenceOf hc

theorem AllSettled.enter (h : m.AllSettled) (key : Text) (v : Value) :
    (m.enter key v).AllSettled := by
  unfold Keymap.enter
  split
  · exact h
  · exact h.set (by simp) _
  · split
    · exact h
    · exact h.set (fun c hc => isSettled_of_mem_sequenceOfValue hc) _

theorem AllSettled.foldl_enter (h : m.AllSettled) (fields : List (Text × Value)) :
    (fields.foldl (fun m f => m.enter f.1 f.2) m).AllSettled := by
  induction fields generalizing m with
  | nil => exact h
  | cons f fields ih => exact ih (h.enter f.1 f.2)

theorem allSettled_ofValue (v : Value) : (ofValue v).AllSettled :=
  allSettled_default.foldl_enter v.fields

/-! ## Reading a keymap again -/

theorem ofText?_id (a : Command) : Command.ofText? a.id = some a := by
  cases a <;> decide

theorem enter_id (m : Keymap) (a : Command) (h : ∀ c ∈ chords, IsSettled c) :
    m.enter a.id (.arr (chords.map .str)) = m.set a chords := by
  have hsequence : sequenceOfValue (.arr (chords.map .str)) = chords := by
    rw [sequenceOfValue, textsIn_map_str, sequenceOf_of_isSettled h]
  cases chords with
  | nil => simp [enter, ofText?_id]
  | cons c chords =>
    rw [List.map_cons] at hsequence ⊢
    simp [enter, ofText?_id, hsequence]

theorem ofValue_toValue (h : m.AllSettled) : ofValue m.toValue = m := by
  have hfold (commands : List Command) (n : Keymap) :
      (commands.map fun a => (a.id, Value.arr ((m.get a).map .str))).foldl
        (fun n f => n.enter f.1 f.2) n = commands.foldl (fun n a => n.set a (m.get a)) n := by
    rw [List.foldl_map]
    simp only [enter_id _ _ (h _)]
  exact hfold Command.all default

/-- Whatever value the settings have for the keys, the keymap that it stands for is read back as
itself where it is written down, so it has the same chords for every identifier and the same
conflicts.  And whatever the texts of a sequence are, the text that is made of its chords has the
same chords again. -/
theorem ofValue_projection :
    (∀ v, ofValue (ofValue v).toValue = ofValue v) ∧
    (∀ v id, (ofValue (ofValue v).toValue).chordsOf id = (ofValue v).chordsOf id) ∧
    (∀ v, (ofValue (ofValue v).toValue).conflicts = (ofValue v).conflicts) ∧
    ∀ ts, sequenceOfValue (.str (sequenceText ts)) = sequenceOfValue (.arr (ts.map .str)) := by
  have hagain (v : Value) : ofValue (ofValue v).toValue = ofValue v :=
    ofValue_toValue (allSettled_ofValue v)
  refine ⟨hagain, fun v id => by rw [hagain], fun v => by rw [hagain], fun ts => ?_⟩
  rw [sequenceOfValue, sequenceOfValue, textsIn_map_str]
  exact sequenceOf_text fun c hc => isSettled_of_mem_sequenceOf hc

end Legible.Keymap
