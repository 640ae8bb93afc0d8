import Legible.Text.Basic

/-!
# Character classes as tables of ranges

A class of characters is a list of closed ranges of code points in increasing order.
`inRanges` looks a code point up and stops at the first range beyond it.
-/

namespace Legible.Text

/-- Whether a code point lies in one of the ranges, which stand in increasing order. -/
def inRanges (n : Nat) : List (Nat × Nat) → Bool
  | [] => false
  | (first, last) :: rest => if n < first then false else n ≤ last || inRanges n rest

theorem exists_range_of_inRanges {n : Nat} {rs : List (Nat × Nat)} (h : inRanges n rs = true) :
    ∃ r ∈ rs, r.1 ≤ n ∧ n ≤ r.2 := by
  induction rs with
  | nil => simp [inRanges] at h
  | cons r rs ih =>
    obtain ⟨first, last⟩ := r
    simp only [inRanges] at h
    split at h
    · simp at h
    · rename_i hf
      rw [Bool.or_eq_true] at h
      cases h with
      | inl h => exact ⟨(first, last), by simp, by omega, by simpa using h⟩
      | inr h =>
        obtain ⟨r, hr, hle⟩ := ih h
        exact ⟨r, by simp [hr], hle⟩

end Legible.Text
