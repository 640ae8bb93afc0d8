import Mathlib.Data.List.Forall2

/-!
# What a partial map makes of a list

A partial map leaves out those elements of a list that it is not defined for, and the others stand
beside what they are sent to, in order (`forall₂_filterMap`).
-/

namespace Legible

variable {α β : Type} {R : α → β → Prop} {p : α → Bool} {f : α → Option β} {as : List α}

/-- The elements that pass a test stand beside their images, if just these have one. -/
theorem forall₂_filterMap (hkept : ∀ a ∈ as, p a → ∃ b, f a = some b ∧ R a b)
    (hdropped : ∀ a ∈ as, ¬ p a → f a = none) :
    List.Forall₂ R (as.filter p) (as.filterMap f) := by
  induction as with
  | nil => exact .nil
  | cons a as ih =>
    obtain ⟨hhere, hkept⟩ := List.forall_mem_cons.1 hkept
    obtain ⟨hnone, hdropped⟩ := List.forall_mem_cons.1 hdropped
    by_cases hp : p a
    · obtain ⟨b, hb, hab⟩ := hhere hp
      rw [List.filter_cons_of_pos hp, List.filterMap_cons_some hb]
      exact .cons hab (ih hkept hdropped)
    · rw [List.filter_cons_of_neg hp, List.filterMap_cons_none (hnone hp)]
      exact ih hkept hdropped

end Legible
