import Legible.Value.Basic
import Mathlib.Data.List.Nodup

/-!
# Fields

What is found under a name after fields were given values or taken away, and which names there are
then: a new name comes last, and no name comes twice if none did before.
-/

namespace Legible

namespace Fields

variable {key other : Text} {fs : Fields} {v : Value}

/-! ## Looking up -/

theorem names_cons (f : Text × Value) (fs : Fields) : names (f :: fs) = f.1 :: names fs := rfl

theorem get?_cons_of_ne {k : Text} (h : k ≠ key) (v : Value) (fs : Fields) :
    get? key ((k, v) :: fs) = fs.get? key := if_neg h

theorem get?_eq_none_iff : fs.get? key = none ↔ key ∉ fs.names := by
  induction fs with
  | nil => exact iff_of_true rfl List.not_mem_nil
  | cons f fs ih =>
    obtain ⟨k, v⟩ := f
    by_cases hk : k = key
    · exact iff_of_false (by simp [get?, hk]) (by simp [names, hk])
    · rw [get?_cons_of_ne hk, ih, names_cons, List.mem_cons, not_or]
      exact ⟨fun h => ⟨Ne.symm hk, h⟩, And.right⟩

theorem has_eq_true_iff : fs.has key = true ↔ key ∈ fs.names := by
  rw [has, Option.isSome_iff_ne_none, ne_eq, get?_eq_none_iff, not_not]

theorem get?_of_mem (hnames : fs.names.Nodup) (h : (key, v) ∈ fs) : fs.get? key = some v := by
  induction fs with
  | nil => exact absurd h List.not_mem_nil
  | cons f fs ih =>
    obtain ⟨k, w⟩ := f
    obtain ⟨hk, hrest⟩ := List.nodup_cons.1 hnames
    rcases List.mem_cons.1 h with heq | h
    · obtain ⟨rfl, rfl⟩ := Prod.mk.inj heq
      exact if_pos rfl
    · have hmem : key ∈ names fs := List.mem_map_of_mem h
      have hne : k ≠ key := fun heq => hk (heq ▸ hmem)
      rw [get?_cons_of_ne hne, ih hrest h]

/-! ## Giving values -/

theorem set_of_get? (h : fs.get? key = some v) : fs.set key v = fs := by
  induction fs with
  | nil => exact nomatch h
  | cons f fs ih =>
    obtain ⟨k, w⟩ := f
    by_cases hk : k = key
    · rw [get?, if_pos hk] at h
      rw [set, if_pos hk, Option.some.inj h]
    · rw [get?_cons_of_ne hk] at h
      rw [set, if_neg hk, ih h]

/-- A new name is put last. -/
theorem set_of_not_mem (h : key ∉ fs.names) (v : Value) : fs.set key v = fs ++ [(key, v)] := by
  induction fs with
  | nil => rfl
  | cons f fs ih =>
    obtain ⟨k, w⟩ := f
    simp only [names, List.map_cons, List.mem_cons, not_or] at h
    rw [set, if_neg (Ne.symm h.1), ih h.2, List.cons_append]

theorem names_set_of_mem (h : key ∈ fs.names) (v : Value) : (fs.set key v).names = fs.names :=
  names_set_of_has (has_eq_true_iff.2 h) v

theorem names_set_of_not_mem (h : key ∉ fs.names) (v : Value) :
    (fs.set key v).names = fs.names ++ [key] := by
  rw [set_of_not_mem h, names, List.map_append]
  rfl

theorem mem_names_set (other key : Text) (v : Value) (fs : Fields) :
    other ∈ (fs.set key v).names ↔ other = key ∨ other ∈ fs.names := by
  by_cases h : key ∈ fs.names
  · rw [names_set_of_mem h]
    exact ⟨.inr, fun hother => hother.elim (· ▸ h) id⟩
  · rw [names_set_of_not_mem h]
    simp [or_comm]

theorem nodup_names_set (h : fs.names.Nodup) (key : Text) (v : Value) :
    (fs.set key v).names.Nodup := by
  by_cases hk : key ∈ fs.names
  · rwa [names_set_of_mem hk]
  · rw [names_set_of_not_mem hk]
    exact List.nodup_append.2 ⟨h, List.nodup_singleton key, fun a ha b hb heq =>
      hk (List.mem_singleton.1 hb ▸ heq ▸ ha)⟩

/-! ## Taking away -/

theorem get?_erase_self (key : Text) (fs : Fields) : (fs.erase key).get? key = none := by
  rw [get?_eq_none_iff, names, erase]
  simp

theorem get?_erase_of_ne (h : other ≠ key) (fs : Fields) :
    (fs.erase key).get? other = fs.get? other := by
  induction fs with
  | nil => rfl
  | cons f fs ih =>
    obtain ⟨k, v⟩ := f
    by_cases hk : k = key
    · rw [erase, List.filter_cons_of_neg (by simp [hk]), get?_cons_of_ne (hk ▸ Ne.symm h)]
      exact ih
    · rw [erase, List.filter_cons_of_pos (by simp [hk])]
      by_cases ho : k = other
      · rw [get?, get?, if_pos ho, if_pos ho]
      · rw [get?_cons_of_ne ho, get?_cons_of_ne ho]
        exact ih

theorem nodup_names_erase (h : fs.names.Nodup) (key : Text) : (fs.erase key).names.Nodup :=
  h.sublist (List.filter_sublist.map _)

end Fields

namespace Value

theorem isObject_iff {v : Value} : v.isObject ↔ ∃ fs, v = .obj fs := by
  cases v with
  | obj fs => exact iff_of_true rfl ⟨fs, rfl⟩
  | _ => exact iff_of_false Bool.false_ne_true fun ⟨_, h⟩ => nomatch h

theorem field?_of_not_isObject {v : Value} (h : ¬ v.isObject) (key : Text) : v.field? key = none := by
  cases v with
  | obj fs => exact absurd rfl h
  | _ => rfl

end Value

end Legible
