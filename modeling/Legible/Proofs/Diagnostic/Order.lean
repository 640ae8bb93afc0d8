import Legible.Diagnostic.Basic
import Mathlib.Data.List.Dedup
import Mathlib.Data.List.Rotate

/-!
# Going round the diagnostics

The places at which diagnostics begin stand in a circle, in their order and each once (`starts`).
From any place the next diagnostic is one that begins at the first of them after it, and the
previous one begins at the last of them before it, round the circle (`map_start_next?`,
`map_start_previous?`).

Both directions are one and the same walk, over the circle and an order or over both turned round.
Where the walk begins is known by the number of places that are passed already, and each step goes
on by one (`following?_eq`, `walk_eq_rotate`); a step in the other direction undoes it
(`following?_back`).
-/

namespace Legible.Diagnostic

/-! ## A walk round a list -/

section Walk

variable {α : Type} {lt : α → α → Bool} {ps : List α} {p q : α}

/-- The first element of a list that comes after another, or else the first of all. -/
def following? (lt : α → α → Bool) (ps : List α) (p : α) : Option α :=
  (ps.find? (lt p)).or ps.head?

/-- How many elements of a list do not come after another. -/
def passed (lt : α → α → Bool) (ps : List α) (p : α) : Nat := ps.countP fun q => !lt p q

theorem exists_following? (lt : α → α → Bool) (hne : ps ≠ []) (p : α) :
    ∃ q, following? lt ps p = some q := by
  obtain ⟨a, rest, rfl⟩ := List.exists_cons_of_ne_nil hne
  rw [following?, List.head?_cons]
  cases (a :: rest).find? (lt p) with
  | none => exact ⟨a, rfl⟩
  | some q => exact ⟨q, rfl⟩

theorem passed_cons (lt : α → α → Bool) (a : α) (ps : List α) (p : α) :
    passed lt (a :: ps) p = passed lt ps p + if lt p a then 0 else 1 := by
  rw [passed, List.countP_cons, passed]
  cases lt p a <;> rfl

theorem passed_le (lt : α → α → Bool) (ps : List α) (p : α) : passed lt ps p ≤ ps.length :=
  List.countP_le_length

theorem passed_eq_zero (h : ∀ b ∈ ps, lt p b) : passed lt ps p = 0 :=
  List.countP_eq_zero.2 fun b hb => by simp [h b hb]

variable (htrans : ∀ a b c, lt a b → lt b c → lt a c) (hirrefl : ∀ a, lt a a = false)
  (hsorted : ps.Pairwise fun a b => lt a b)

include htrans hsorted

theorem find?_eq_getElem?_passed (p : α) : ps.find? (lt p) = ps[passed lt ps p]? := by
  induction ps with
  | nil => rfl
  | cons a ps ih =>
    obtain ⟨ha, hps⟩ := List.pairwise_cons.1 hsorted
    rw [passed_cons]
    cases hp : lt p a with
    | true =>
      -- everything behind the first element comes after it, so nothing is passed
      rw [passed_eq_zero fun b hb => htrans p a b hp (ha b hb), List.find?_cons_of_pos hp]
      rfl
    | false =>
      rw [List.find?_cons_of_neg (by simp [hp]), ih hps]
      rfl

theorem following?_eq (p : α) :
    following? lt ps p = ps[passed lt ps p % ps.length]? := by
  rw [following?, find?_eq_getElem?_passed htrans hsorted]
  rcases Nat.lt_or_eq_of_le (passed_le lt ps p) with hlt | heq
  · rw [Nat.mod_eq_of_lt hlt, List.getElem?_eq_getElem hlt, Option.some_or]
  · rw [heq, Nat.mod_self, List.getElem?_eq_none (Nat.le_refl _), Option.none_or,
      List.head?_eq_getElem?]

include hirrefl

theorem passed_getElem {i : Nat} (hi : i < ps.length) : passed lt ps ps[i] = i + 1 := by
  induction ps generalizing i with
  | nil => exact absurd hi (Nat.not_lt_zero i)
  | cons a ps ih =>
    obtain ⟨ha, hps⟩ := List.pairwise_cons.1 hsorted
    cases i with
    | zero =>
      rw [List.getElem_cons_zero, passed_cons, passed_eq_zero ha, hirrefl]
      rfl
    | succ i =>
      have hi : i < ps.length := Nat.lt_of_succ_lt_succ hi
      have hback : lt ps[i] a = false := by
        refine Bool.eq_false_iff.2 fun hlt => ?_
        have hcircle := htrans a ps[i] a (ha _ (List.getElem_mem hi)) hlt
        exact Bool.false_ne_true ((hirrefl a).symm.trans hcircle)
      rw [List.getElem_cons_succ, passed_cons, ih hps hi, hback]
      rfl

theorem following?_getElem {i : Nat} (hi : i < ps.length) :
    following? lt ps ps[i] = ps[(i + 1) % ps.length]? := by
  rw [following?_eq htrans hsorted, passed_getElem htrans hirrefl hsorted hi]

/-- Each step of a walk goes to the next element, and after the last one to the first. -/
theorem walk_getElem? {c : Nat → α} (hc : ∀ n, following? lt ps (c n) = some (c (n + 1)))
    (n : Nat) : ps[(n + passed lt ps (c 0)) % ps.length]? = some (c (n + 1)) := by
  induction n with
  | zero => rw [← hc, following?_eq htrans hsorted, Nat.zero_add]
  | succ n ih =>
    obtain ⟨hi, hget⟩ := List.getElem?_eq_some_iff.1 ih
    rw [← hc, ← hget, following?_getElem htrans hirrefl hsorted hi, Nat.mod_add_mod,
      Nat.add_right_comm]

/-- A walk as long as the list visits its elements in a circle, beginning behind those that it has
passed, and then begins again. -/
theorem walk_eq_rotate {c : Nat → α} (hc : ∀ n, following? lt ps (c n) = some (c (n + 1))) :
    ((List.range ps.length).map fun n => c (n + 1)) = ps.rotate (passed lt ps (c 0)) ∧
      c (ps.length + 1) = c 1 := by
  have hwalk := walk_getElem? htrans hirrefl hsorted hc
  constructor
  · refine List.ext_getElem? fun n => ?_
    by_cases hn : n < ps.length
    · rw [List.getElem?_rotate hn, hwalk]
      simp [hn]
    · rw [List.getElem?_eq_none (by simpa using hn), List.getElem?_eq_none (by simpa using hn)]
  · have hagain := hwalk ps.length
    rw [Nat.add_mod_left] at hagain
    have hfirst := hwalk 0
    rw [Nat.zero_add] at hfirst
    exact Option.some.inj (hagain.symm.trans hfirst)

/-- From an element of the list, a step in the other direction undoes a step. -/
theorem following?_back (hp : p ∈ ps) (hq : following? lt ps p = some q) :
    following? (fun a b => lt b a) ps.reverse q = some p := by
  obtain ⟨i, hi, rfl⟩ := List.getElem_of_mem hp
  rw [following?_getElem htrans hirrefl hsorted hi] at hq
  obtain ⟨hlt, rfl⟩ := List.getElem?_eq_some_iff.1 hq
  have hback : ps.reverse.Pairwise fun a b => lt b a := List.pairwise_reverse.2 hsorted
  -- the same element, counted from the other end
  have hj : ps.length - 1 - (i + 1) % ps.length < ps.reverse.length := by
    rw [List.length_reverse]
    omega
  have hsame : ps[(i + 1) % ps.length] = ps.reverse[ps.length - 1 - (i + 1) % ps.length] := by
    rw [List.getElem_reverse]
    congr 1
    omega
  rw [hsame, following?_getElem (fun a b c hab hbc => htrans c b a hbc hab) hirrefl hback hj,
    List.length_reverse, List.getElem?_reverse (Nat.mod_lt _ (Nat.zero_lt_of_lt hi)),
    List.getElem?_eq_some_iff]
  refine ⟨by omega, ?_⟩
  congr 1
  by_cases hlast : i + 1 = ps.length
  · rw [hlast, Nat.mod_self, Nat.sub_zero, Nat.sub_add_cancel (by omega), Nat.mod_self]
    omega
  · rw [Nat.mod_eq_of_lt (by omega : i + 1 < ps.length), Nat.mod_eq_of_lt (by omega)]
    omega

end Walk

/-! ## Places in order -/

variable {p q : Int × Int} {ds : List Diagnostic} {d : Diagnostic}

theorem placeLe_iff : placeLe p q ↔ p.1 < q.1 ∨ p.1 = q.1 ∧ p.2 ≤ q.2 := by simp [placeLe]

theorem placeLt_iff : placeLt p q ↔ p.1 < q.1 ∨ p.1 = q.1 ∧ p.2 < q.2 := by simp [placeLt]

theorem placeLt_trans (p q r : Int × Int) (hpq : placeLt p q) (hqr : placeLt q r) :
    placeLt p r := by
  rw [placeLt_iff] at *
  omega

theorem placeLt_irrefl (p : Int × Int) : placeLt p p = false := by simp [placeLt]

theorem placeLe_trans (p q r : Int × Int) (hpq : placeLe p q) (hqr : placeLe q r) :
    placeLe p r := by
  rw [placeLe_iff] at *
  omega

theorem not_placeLt (p q : Int × Int) : (!placeLt p q) = placeLe q p := by
  rw [Bool.eq_iff_iff, Bool.not_eq_true', ← Bool.not_eq_true, placeLt_iff, placeLe_iff]
  omega

theorem placeLe_total (p q : Int × Int) : placeLe p q || placeLe q p := by
  rw [Bool.or_eq_true, placeLe_iff, placeLe_iff]
  omega

theorem placeLe_antisymm (hpq : placeLe p q) (hqp : placeLe q p) : p = q := by
  rw [placeLe_iff] at hpq hqp
  exact Prod.ext (by omega) (by omega)

theorem placeLt_of_le_of_ne (hle : placeLe p q) (hne : p ≠ q) : placeLt p q := by
  refine Bool.of_not_eq_false fun hlt => hne (placeLe_antisymm hle ?_)
  rw [← not_placeLt, hlt]
  rfl

/-! ## Where diagnostics begin -/

/-- The places at which diagnostics begin, in order and each once. -/
def starts (ds : List Diagnostic) : List (Int × Int) := ((sorted ds).map start).dedup

theorem mem_starts : p ∈ starts ds ↔ ∃ d ∈ ds, d.start = p := by
  rw [starts, List.mem_dedup, List.mem_map, sorted]
  simp only [List.mem_mergeSort]

theorem pairwise_starts_le (ds : List Diagnostic) :
    ((sorted ds).map start).Pairwise fun p q => placeLe p q := by
  rw [List.pairwise_map]
  exact List.pairwise_mergeSort (fun d e f => placeLe_trans d.start e.start f.start)
    (fun d e => placeLe_total d.start e.start) ds

theorem pairwise_starts (ds : List Diagnostic) : (starts ds).Pairwise fun p q => placeLt p q :=
  ((pairwise_starts_le ds).sublist (List.dedup_sublist _)).and (List.nodup_dedup _) |>.imp
    fun ⟨hle, hne⟩ => placeLt_of_le_of_ne hle hne

theorem starts_ne_nil (h : ds ≠ []) : starts ds ≠ [] := by
  obtain ⟨d, rest, rfl⟩ := List.exists_cons_of_ne_nil h
  exact List.ne_nil_of_mem (mem_starts.2 ⟨d, List.mem_cons_self, rfl⟩)

/-! ## The next and the previous diagnostic -/

section First

variable {α : Type} {r : α → α → Prop} {as bs : List α} {test : α → Bool} {a : α}

theorem rel_of_find?_eq_some (hrefl : ∀ a, r a a) (h : as.Pairwise r) (ha : as.find? test = some a)
    {b : α} (hb : b ∈ as) (htest : test b) : r a b := by
  obtain ⟨-, front, back, rfl, hfront⟩ := List.find?_eq_some_iff_append.1 ha
  rcases List.mem_append.1 hb with hb | hb
  · exact absurd (hfront b hb) (by simp [htest])
  · rcases List.mem_cons.1 hb with rfl | hb
    · exact hrefl b
    · exact List.rel_of_pairwise_cons (List.pairwise_append.1 h).2.1 hb

/-- What is found first in a sorted list depends on its elements only, not on how often they stand
in it. -/
theorem find?_eq_of_mem_iff (hrefl : ∀ a, r a a) (hanti : ∀ a b, r a b → r b a → a = b)
    (has : as.Pairwise r) (hbs : bs.Pairwise r) (hmem : ∀ a, a ∈ as ↔ a ∈ bs)
    (test : α → Bool) : as.find? test = bs.find? test := by
  cases ha : as.find? test with
  | none =>
    refine (List.find?_eq_none.2 fun b hb => ?_).symm
    exact List.find?_eq_none.1 ha b ((hmem b).2 hb)
  | some a =>
    have htest : test a := List.find?_some ha
    have hin : a ∈ bs := (hmem a).1 (List.mem_of_find?_eq_some ha)
    obtain ⟨b, hb⟩ := Option.isSome_iff_exists.1 (List.find?_isSome.2 ⟨a, hin, htest⟩)
    have hab : r a b := rel_of_find?_eq_some hrefl has ha
      ((hmem b).2 (List.mem_of_find?_eq_some hb)) (List.find?_some hb)
    have hba : r b a := rel_of_find?_eq_some hrefl hbs hb hin htest
    rw [hb, hanti a b hab hba]

theorem head?_eq_find? (as : List α) : as.head? = as.find? fun _ => true := by
  cases as <;> rfl

theorem mem_of_find?_or_head? (h : (as.find? test).or as.head? = some a) : a ∈ as := by
  rcases Option.or_eq_some_iff.1 h with hfound | ⟨-, hfirst⟩
  · exact List.mem_of_find?_eq_some hfound
  · exact List.mem_of_head? hfirst

end First

theorem mem_of_next? {line column : Int} (h : next? ds line column = some d) : d ∈ ds :=
  List.mem_mergeSort.1 (mem_of_find?_or_head? h)

theorem mem_of_previous? {line column : Int} (h : previous? ds line column = some d) : d ∈ ds := by
  rw [previous?, ← List.head?_reverse] at h
  exact List.mem_mergeSort.1 (List.mem_reverse.1 (mem_of_find?_or_head? h))

/-- The first diagnostic behind a place, or else the first of all, begins at the place that follows
among places in which the same is found first. -/
theorem map_start_find?_or_head? {ps : List (Int × Int)}
    (hfind : ∀ test, (ds.map start).find? test = ps.find? test)
    (lt : Int × Int → Int × Int → Bool) (p : Int × Int) :
    ((ds.find? fun d => lt p d.start).or ds.head?).map start = following? lt ps p := by
  rw [following?, head?_eq_find? ps, ← hfind, ← hfind, ← head?_eq_find?, List.find?_map,
    List.head?_map, ← Option.map_or]
  rfl

/-- Going to the next diagnostic goes to the place after the cursor in the circle. -/
theorem map_start_next? (ds : List Diagnostic) (line column : Int) :
    (next? ds line column).map start = following? placeLt (starts ds) (line, column) := by
  refine map_start_find?_or_head? ?_ placeLt (line, column)
  exact find?_eq_of_mem_iff (r := fun p q => placeLe p q) (fun p => by simp [placeLe])
    (fun _ _ => placeLe_antisymm) (pairwise_starts_le ds)
    ((pairwise_starts_le ds).sublist (List.dedup_sublist _)) (fun _ => List.mem_dedup.symm)

/-- Going to the previous diagnostic goes to the place before the cursor in the circle. -/
theorem map_start_previous? (ds : List Diagnostic) (line column : Int) :
    (previous? ds line column).map start =
      following? (fun p q => placeLt q p) (starts ds).reverse (line, column) := by
  rw [previous?, ← List.head?_reverse]
  refine map_start_find?_or_head? ?_ (fun p q => placeLt q p) (line, column)
  rw [List.map_reverse]
  refine find?_eq_of_mem_iff (r := fun p q => placeLe q p) (fun p => by simp [placeLe])
    (fun _ _ hpq hqp => placeLe_antisymm hqp hpq)
    (List.pairwise_reverse.2 (pairwise_starts_le ds))
    (List.pairwise_reverse.2 ((pairwise_starts_le ds).sublist (List.dedup_sublist _)))
    (fun p => ?_)
  rw [List.mem_reverse, List.mem_reverse]
  exact List.mem_dedup.symm

end Legible.Diagnostic
