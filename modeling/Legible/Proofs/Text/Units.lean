import Legible.Text.Units
import Mathlib.Order.GaloisConnection.Defs
import Mathlib.Order.Monotone.Basic

/-!
# Unit positions and character indexes

`indexAt` counts the characters that a number of UTF-16 units reaches into, and `unitsAt` counts the
units of a number of characters.  The two are adjoint: so many units reach no further than into so
many characters if and only if they are no more than the units of these (`indexAt_le_iff`).  No
index is lost on the way through units (`indexAt_unitsAt`).  A position of units is lost only where
it lies between the two halves of a pair, and then it moves behind the pair (`unitsAt_indexAt`).
-/

namespace Legible.Text

variable {c : Char} {t : Text} {u i : Nat}

theorem unitsOf_eq_two (h : 0xFFFF < c.toNat) : unitsOf c = 2 := if_neg (Nat.not_le.2 h)

theorem unitsOf_eq_one (h : ¬ 0xFFFF < c.toNat) : unitsOf c = 1 := if_pos (Nat.not_lt.1 h)

theorem indexAt_cons_of_lt (h : u < unitsOf c) : indexAt (c :: t) u = u := if_pos h

theorem indexAt_cons_of_le (h : unitsOf c ≤ u) :
    indexAt (c :: t) u = indexAt t (u - unitsOf c) + 1 := if_neg (Nat.not_lt.2 h)

/-! ## The two directions -/

theorem indexAt_le_iff (t : Text) (u i : Nat) : indexAt t u ≤ i ↔ u ≤ unitsAt t i := by
  induction t generalizing u i with
  | nil => exact Iff.rfl
  | cons c t ih =>
    have hpos := unitsOf_pos c
    rcases Nat.lt_or_ge u (unitsOf c) with hu | hu
    · rw [indexAt_cons_of_lt hu]
      cases i with
      | zero => rfl
      | succ i =>
        have hle := unitsOf_le c
        rw [unitsAt]
        omega
    · rw [indexAt_cons_of_le hu]
      cases i with
      | zero =>
        rw [unitsAt]
        omega
      | succ i =>
        rw [Nat.succ_le_succ_iff, ih, unitsAt]
        omega

theorem unitsAt_lt_succ (t : Text) (i : Nat) : unitsAt t i < unitsAt t (i + 1) := by
  induction t generalizing i with
  | nil => exact Nat.lt_succ_self i
  | cons c t ih =>
    cases i with
    | zero => exact Nat.lt_of_lt_of_le (unitsOf_pos c) (Nat.le_add_right _ _)
    | succ i => exact Nat.add_lt_add_left (ih i) _

theorem strictMono_unitsAt (t : Text) : StrictMono (unitsAt t) :=
  strictMono_nat_of_lt_succ (unitsAt_lt_succ t)

theorem indexAt_unitsAt (t : Text) (i : Nat) : indexAt t (unitsAt t i) = i :=
  (strictMono_unitsAt t).injective
    (GaloisConnection.u_l_u_eq_u (fun u i => indexAt_le_iff t u i) i)

/-! ## Positions behind characters of a text -/

theorem unitsAt_eq_units_take (h : i ≤ t.length) :
    unitsAt t i = units (t.take i) := by
  induction t generalizing i with
  | nil =>
    obtain rfl : i = 0 := Nat.le_zero.1 h
    rfl
  | cons c t ih =>
    cases i with
    | zero => rfl
    | succ i => rw [unitsAt, ih (Nat.le_of_succ_le_succ h), List.take_succ_cons, units]

theorem unitsAt_length (t : Text) : unitsAt t t.length = units t := by
  rw [unitsAt_eq_units_take (Nat.le_refl _), List.take_length]

theorem unitsAt_le_units (h : i ≤ t.length) : unitsAt t i ≤ units t :=
  unitsAt_length t ▸ (strictMono_unitsAt t).monotone h

/-- A position of units lies past the end of a text just if its index does. -/
theorem indexAt_le_length_iff (t : Text) (u : Nat) : indexAt t u ≤ t.length ↔ u ≤ units t := by
  rw [indexAt_le_iff, unitsAt_length]

/-! ## Positions within a pair -/

/-- Whether a position of units lies between the two halves of a character. -/
def SplitsPair (t : Text) (u : Nat) : Prop :=
  ∃ before c after, t = before ++ c :: after ∧ 0xFFFF < c.toNat ∧ u = units before + 1

theorem not_splitsPair_nil (u : Nat) : ¬ SplitsPair [] u := by
  rintro ⟨before, c, after, ht, -⟩
  exact List.append_ne_nil_of_right_ne_nil before (List.cons_ne_nil c after) ht.symm

/-- The position lies in the first character or in the rest of the text. -/
theorem splitsPair_cons : SplitsPair (c :: t) u ↔
    (0xFFFF < c.toNat ∧ u = 1) ∨ (unitsOf c ≤ u ∧ SplitsPair t (u - unitsOf c)) := by
  constructor
  · rintro ⟨before, d, after, ht, hd, rfl⟩
    cases before with
    | nil =>
      obtain ⟨rfl, -⟩ := List.cons.inj ht
      exact .inl ⟨hd, rfl⟩
    | cons b before =>
      obtain ⟨rfl, rfl⟩ := List.cons.inj ht
      refine .inr ⟨?_, before, d, after, rfl, hd, ?_⟩ <;> rw [units] <;> omega
  · rintro (⟨hc, rfl⟩ | ⟨hu, before, d, after, rfl, hd, hbefore⟩)
    · exact ⟨[], c, t, rfl, hc, rfl⟩
    · refine ⟨c :: before, d, after, rfl, hd, ?_⟩
      rw [units]
      omega

instance decidableSplitsPair : (t : Text) → (u : Nat) → Decidable (SplitsPair t u)
  | [], u => .isFalse (not_splitsPair_nil u)
  | c :: t, u =>
    have := decidableSplitsPair t (u - unitsOf c)
    decidable_of_iff _ splitsPair_cons.symm

theorem not_splitsPair_zero (t : Text) : ¬ SplitsPair t 0 := by
  rintro ⟨before, c, after, -, -, hzero⟩
  exact Nat.succ_ne_zero _ hzero.symm

theorem lt_units_of_splitsPair (h : SplitsPair t u) : u < units t := by
  obtain ⟨before, c, after, rfl, hc, rfl⟩ := h
  rw [units_append, units, unitsOf_eq_two hc]
  omega

/-- A position behind the first of two texts lies within a pair just if it does so in the second. -/
theorem splitsPair_append (s t : Text) (u : Nat) :
    SplitsPair (s ++ t) (units s + u) ↔ SplitsPair t u := by
  induction s with
  | nil => rw [List.nil_append, units, Nat.zero_add]
  | cons c s ih =>
    have hrest : unitsOf c + units s + u - unitsOf c = units s + u := by omega
    rw [List.cons_append, splitsPair_cons, units, hrest, ih]
    refine ⟨fun h => (h.resolve_left ?_).2, fun h => .inr ⟨by omega, h⟩⟩
    rintro ⟨hc, hone⟩
    rw [unitsOf_eq_two hc] at hone
    omega

/-- Behind one unit a pair is cut just if the first character is one. -/
theorem splitsPair_one (t : Text) : SplitsPair t 1 ↔ ∃ c ∈ t.head?, 0xFFFF < c.toNat := by
  cases t with
  | nil => simpa using not_splitsPair_nil 1
  | cons c t =>
    rw [splitsPair_cons, List.head?_cons]
    refine ⟨?_, fun ⟨d, hd, hastral⟩ => .inl ⟨Option.some.inj hd ▸ hastral, rfl⟩⟩
    rintro (⟨hc, -⟩ | ⟨hle, hrest⟩)
    · exact ⟨c, rfl, hc⟩
    · have hpos := unitsOf_pos c
      rw [Nat.sub_eq_zero_of_le (by omega)] at hrest
      exact absurd hrest (not_splitsPair_zero t)

theorem unitsAt_indexAt (t : Text) (u : Nat) :
    unitsAt t (indexAt t u) = if SplitsPair t u then u + 1 else u := by
  induction t generalizing u with
  | nil => rw [if_neg (not_splitsPair_nil u), indexAt, unitsAt]
  | cons c t ih =>
    rcases Nat.lt_or_ge u (unitsOf c) with hu | hu
    · have hle := unitsOf_le c
      rw [indexAt_cons_of_lt hu]
      obtain rfl | rfl : u = 0 ∨ u = 1 := by omega
      · rw [unitsAt_zero, if_neg]
        rw [splitsPair_cons]
        omega
      · have hc : 0xFFFF < c.toNat := by
          by_contra hc
          rw [unitsOf_eq_one hc] at hu
          omega
        rw [if_pos (splitsPair_cons.2 (.inl ⟨hc, rfl⟩)), unitsAt, unitsAt_zero, unitsOf_eq_two hc]
    · have hsplits : SplitsPair (c :: t) u ↔ SplitsPair t (u - unitsOf c) := by
        rw [splitsPair_cons]
        refine ⟨?_, fun h => .inr ⟨hu, h⟩⟩
        rintro (⟨hc, rfl⟩ | ⟨-, h⟩)
        · rw [unitsOf_eq_two hc] at hu
          omega
        · exact h
      rw [indexAt_cons_of_le hu, unitsAt, ih]
      simp only [hsplits]
      split_ifs <;> omega

/-- The index of a position of units and the position of an index are adjoint.  Indexes are kept by
the way through units; positions are kept by the way through indexes unless they split a pair, and
then they move behind it. -/
theorem indexAt_adjoint_unitsAt (t : Text) :
    GaloisConnection (indexAt t) (unitsAt t) ∧
    (∀ i, indexAt t (unitsAt t i) = i) ∧
    (∀ u, unitsAt t (indexAt t u) = if SplitsPair t u then u + 1 else u) ∧
    Monotone (indexAt t) ∧ Monotone (unitsAt t) := by
  have hadjoint : GaloisConnection (indexAt t) (unitsAt t) := indexAt_le_iff t
  exact ⟨hadjoint, indexAt_unitsAt t, unitsAt_indexAt t, hadjoint.monotone_l, hadjoint.monotone_u⟩

/-- A position within a pair, and one past the end. -/
example :
    let t : Text := ['a', '😀']
    SplitsPair t 2 ∧ indexAt t 2 = 2 ∧ unitsAt t 2 = 3 ∧ indexAt t 5 = 4 ∧ unitsAt t 4 = 5 := by
  decide

end Legible.Text
