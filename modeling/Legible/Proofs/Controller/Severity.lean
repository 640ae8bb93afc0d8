import Legible.Controller
import Mathlib.Data.List.Basic

/-!
# The worst severity

The worst severity is looked for from the first diagnostic to the last one.  A name that has no rank
of its own ranks with errors where it is met, but with hints while it is held.  So an error stays
once it is held, but a name of no rank gives way to the next information or warning.  The severity
that is found has the highest rank of all, unless this happens behind the last name of no rank
(`Forgets`); then it has the highest rank of what comes behind that name (`max?_severityRank_iff`).
-/

namespace Legible.Controller

open Diagnostic (rank? rankOf)

variable {s held : Text} {d : Diagnostic} {ds before after : List Diagnostic}

/-- The rank of a diagnostic: that of its severity. -/
def severityRank (d : Diagnostic) : Nat := rankOf (severityOf d)

/-- Whether the severity of a diagnostic has a rank of its own. -/
def IsRanked (d : Diagnostic) : Prop := (rank? (severityOf d)).isSome

instance (d : Diagnostic) : Decidable (IsRanked d) :=
  inferInstanceAs (Decidable ((rank? (severityOf d)).isSome = true))

/-- Whether a diagnostic is an error by name. -/
def IsError (d : Diagnostic) : Prop := severityOf d = "error".toList

instance (d : Diagnostic) : Decidable (IsError d) :=
  inferInstanceAs (Decidable (severityOf d = "error".toList))

/-- No diagnostic is an error by name, `d` is the last one whose severity has no rank of its own,
and one behind it ranks above hints. -/
structure Forgets (ds before : List Diagnostic) (d : Diagnostic) (after : List Diagnostic) :
    Prop where
  split : ds = before ++ d :: after
  noError : ∀ e ∈ ds, ¬ IsError e
  unranked : ¬ IsRanked d
  ranked : ∀ e ∈ after, IsRanked e
  higher : ∃ e ∈ after, 0 < severityRank e

/-- No diagnostic is an error by name, and both a severity that has no rank of its own and one that
ranks above hints occur. -/
structure IsMixed (ds : List Diagnostic) : Prop where
  noError : ∀ e ∈ ds, ¬ IsError e
  unranked : ∃ e ∈ ds, ¬ IsRanked e
  higher : ∃ e ∈ ds, IsRanked e ∧ 0 < severityRank e

/-! ## Ranks -/

theorem rankOf_le (s : Text) : rankOf s ≤ 3 := by
  rw [rankOf, rank?]
  split_ifs <;> decide

theorem heldRank_of_isSome (h : (rank? s).isSome) : heldRank s = rankOf s := by
  obtain ⟨n, hn⟩ := Option.isSome_iff_exists.1 h
  rw [heldRank, rankOf, hn, Option.getD_some, Option.getD_some]

theorem heldRank_of_not_isSome (h : ¬ (rank? s).isSome) : heldRank s = 0 := by
  rw [heldRank, Option.not_isSome_iff_eq_none.1 h, Option.getD_none]

theorem rankOf_of_not_isSome (h : ¬ (rank? s).isSome) : rankOf s = 3 := by
  rw [rankOf, Option.not_isSome_iff_eq_none.1 h, Option.getD_none]

theorem rankOf_of_heldRank_pos (h : 0 < heldRank s) : rankOf s = heldRank s := by
  by_cases hs : (rank? s).isSome
  · exact (heldRank_of_isSome hs).symm
  · rw [heldRank_of_not_isSome hs] at h
    exact absurd h (Nat.lt_irrefl 0)

/-- Only an error is held at the rank of errors. -/
theorem heldRank_lt (h : s ≠ "error".toList) : heldRank s < 3 := by
  rw [heldRank, rank?, if_neg h]
  split_ifs <;> decide

theorem severityRank_le_heldRank_error (d : Diagnostic) :
    severityRank d ≤ heldRank "error".toList := rankOf_le (severityOf d)

theorem severityRank_lt (hranked : IsRanked d) (herror : ¬ IsError d) : severityRank d < 3 := by
  rw [severityRank, ← heldRank_of_isSome hranked]
  exact heldRank_lt herror

/-! ## What is held -/

/-- What is held behind some diagnostics. -/
def worstFrom (held : Text) (ds : List Diagnostic) : Text :=
  ds.foldl (fun worst d => worse worst (severityOf d)) held

theorem worstFrom_cons (held : Text) (d : Diagnostic) (ds : List Diagnostic) :
    worstFrom held (d :: ds) = worstFrom (worse held (severityOf d)) ds := rfl

theorem worstSeverity_split (before : List Diagnostic) (d : Diagnostic) (after : List Diagnostic) :
    worstSeverity (before ++ d :: after) =
      worstFrom (worse (worstSeverity before) (severityOf d)) after := by
  rw [worstSeverity, List.foldl_append]
  rfl

/-- What is held stays where nothing ranks above it. -/
theorem worstFrom_eq_self (h : ∀ d ∈ ds, severityRank d ≤ heldRank held) :
    worstFrom held ds = held := by
  induction ds with
  | nil => rfl
  | cons d ds ih =>
    obtain ⟨hd, hds⟩ := List.forall_mem_cons.1 h
    have hstep : worse held (severityOf d) = held := if_neg (Nat.not_lt.2 hd)
    rw [worstFrom_cons, hstep, ih hds]

theorem worstFrom_eq_or_exists (held : Text) (ds : List Diagnostic) :
    worstFrom held ds = held ∨ ∃ d ∈ ds, worstFrom held ds = severityOf d := by
  induction ds generalizing held with
  | nil => exact .inl rfl
  | cons d ds ih =>
    rw [worstFrom_cons]
    rcases ih (worse held (severityOf d)) with h | ⟨e, he, h⟩
    · rw [h, worse]
      split_ifs
      · exact .inr ⟨d, List.mem_cons_self, rfl⟩
      · exact .inl rfl
    · exact .inr ⟨e, List.mem_cons_of_mem d he, h⟩

/-- Among severities that have ranks of their own the highest rank is held. -/
theorem heldRank_worstFrom (h : ∀ d ∈ ds, IsRanked d) :
    heldRank (worstFrom held ds) = (ds.map severityRank).foldl max (heldRank held) := by
  induction ds generalizing held with
  | nil => rfl
  | cons d ds ih =>
    obtain ⟨hd, hds⟩ := List.forall_mem_cons.1 h
    have hstep : heldRank (worse held (severityOf d)) = max (heldRank held) (severityRank d) := by
      rw [worse]
      split_ifs with hlt
      · rw [heldRank_of_isSome hd]
        exact (Nat.max_eq_right (Nat.le_of_lt hlt)).symm
      · exact (Nat.max_eq_left (Nat.not_lt.1 hlt)).symm
    rw [worstFrom_cons, ih hds, hstep, List.map_cons, List.foldl_cons]

/-- From the lowest rank on, that is the highest rank of all. -/
theorem max?_severityRank (hne : ds ≠ []) (h : ∀ d ∈ ds, IsRanked d) (hheld : heldRank held = 0) :
    (ds.map severityRank).max? = some (heldRank (worstFrom held ds)) := by
  rw [heldRank_worstFrom h, hheld, List.foldl_max, Nat.zero_max]
  have hsome : (ds.map severityRank).max?.isSome :=
    List.isSome_max?_iff.2 (mt List.map_eq_nil_iff.1 hne)
  obtain ⟨m, hm⟩ := Option.isSome_iff_exists.1 hsome
  rw [hm, Option.getD_some]

theorem rankOf_eq_max? (hworst : rankOf (worstSeverity ds) = 3) (h : ∃ d ∈ ds, severityRank d = 3) :
    (ds.map severityRank).max? = some (rankOf (worstSeverity ds)) := by
  obtain ⟨d, hd, hrank⟩ := h
  rw [hworst]
  refine List.max?_eq_some_iff.2 ⟨List.mem_map.2 ⟨d, hd, hrank⟩, fun n hn => ?_⟩
  obtain ⟨e, -, rfl⟩ := List.mem_map.1 hn
  exact rankOf_le (severityOf e)

/-! ## Errors by name -/

theorem worstSeverity_of_isError (hd : d ∈ ds) (h : IsError d) :
    worstSeverity ds = "error".toList := by
  obtain ⟨before, after, rfl⟩ := List.append_of_mem hd
  have hstep : worse (worstSeverity before) (severityOf d) = "error".toList := by
    rw [worse, h]
    split_ifs with hlt
    · rfl
    · by_contra hne
      exact hlt (heldRank_lt hne)
  rw [worstSeverity_split, hstep]
  exact worstFrom_eq_self fun e _ => severityRank_le_heldRank_error e

theorem worstSeverity_ne_error (h : ∀ d ∈ ds, ¬ IsError d) : worstSeverity ds ≠ "error".toList := by
  intro heq
  rcases worstFrom_eq_or_exists "hint".toList ds with hhint | ⟨d, hd, hsame⟩
  · exact absurd (heq.symm.trans hhint) (by decide)
  · exact h d hd (hsame.symm.trans heq)

/-! ## The last name of no rank -/

theorem exists_last_unranked (h : ∃ d ∈ ds, ¬ IsRanked d) :
    ∃ before d after, ds = before ++ d :: after ∧ ¬ IsRanked d ∧ ∀ e ∈ after, IsRanked e := by
  induction ds with
  | nil =>
    obtain ⟨d, hd, -⟩ := h
    exact absurd hd List.not_mem_nil
  | cons e ds ih =>
    by_cases hrest : ∃ d ∈ ds, ¬ IsRanked d
    · obtain ⟨before, d, after, rfl, hd⟩ := ih hrest
      exact ⟨e :: before, d, after, rfl, hd⟩
    · obtain ⟨d, hd, hunranked⟩ := h
      push Not at hrest
      rcases List.mem_cons.1 hd with rfl | hd
      · exact ⟨[], d, ds, rfl, hunranked, hrest⟩
      · exact absurd (hrest d hd) hunranked

/-- Where there are no errors by name, it is held. -/
theorem worstSeverity_of_unranked (hbefore : ∀ e ∈ before, ¬ IsError e) (hd : ¬ IsRanked d) :
    worstSeverity (before ++ d :: after) = worstFrom (severityOf d) after := by
  have hlt : heldRank (worstSeverity before) < rankOf (severityOf d) := by
    rw [rankOf_of_not_isSome hd]
    exact heldRank_lt (worstSeverity_ne_error hbefore)
  rw [worstSeverity_split, worse, if_pos hlt]

namespace Forgets

/-- What is found is the worst of what comes behind it. -/
theorem max?_after (h : Forgets ds before d after) :
    (after.map severityRank).max? = some (rankOf (worstSeverity ds)) := by
  obtain ⟨rfl, hnoError, hunranked, hranked, e, he, hpos⟩ := h
  rw [List.forall_mem_append] at hnoError
  rw [worstSeverity_of_unranked hnoError.1 hunranked]
  have hmax := max?_severityRank (List.ne_nil_of_mem he) hranked (heldRank_of_not_isSome hunranked)
  have hle := (List.max?_eq_some_iff.1 hmax).2 _ (List.mem_map_of_mem he)
  rw [rankOf_of_heldRank_pos (Nat.lt_of_lt_of_le hpos hle), hmax]

theorem mem (h : Forgets ds before d after) : d ∈ ds :=
  h.split ▸ List.mem_append_right before List.mem_cons_self

/-- That is not the worst of all. -/
theorem rank_lt (h : Forgets ds before d after) : rankOf (worstSeverity ds) < severityRank d := by
  obtain ⟨hmem, -⟩ := List.max?_eq_some_iff.1 h.max?_after
  obtain ⟨e, he, hrank⟩ := List.mem_map.1 hmem
  have hds : e ∈ ds := h.split ▸ List.mem_append_right before (List.mem_cons_of_mem d he)
  rw [← hrank, severityRank, severityRank, rankOf_of_not_isSome h.unranked]
  exact severityRank_lt (h.ranked e he) (h.noError e hds)

theorem isMixed (h : Forgets ds before d after) : IsMixed ds := by
  obtain ⟨e, he, hpos⟩ := h.higher
  have hds : e ∈ ds := h.split ▸ List.mem_append_right before (List.mem_cons_of_mem d he)
  exact ⟨h.noError, ⟨d, h.mem, h.unranked⟩, e, hds, h.ranked e he, hpos⟩

end Forgets

/-! ## The highest rank -/

theorem max?_of_isError (hd : d ∈ ds) (h : IsError d) :
    (ds.map severityRank).max? = some (rankOf (worstSeverity ds)) := by
  refine rankOf_eq_max? ?_ ⟨d, hd, ?_⟩
  · rw [worstSeverity_of_isError hd h]
    rfl
  · rw [severityRank, h]
    rfl

theorem max?_of_isRanked (hne : ds ≠ []) (h : ∀ d ∈ ds, IsRanked d) :
    (ds.map severityRank).max? = some (rankOf (worstSeverity ds)) := by
  have hsome : (rank? (worstSeverity ds)).isSome := by
    rcases worstFrom_eq_or_exists "hint".toList ds with hheld | ⟨d, hd, hheld⟩
    · rw [worstSeverity, ← worstFrom, hheld]
      rfl
    · rw [worstSeverity, ← worstFrom, hheld]
      exact h d hd
  rw [← heldRank_of_isSome hsome]
  exact max?_severityRank hne h rfl

theorem max?_of_unranked (hbefore : ∀ e ∈ before, ¬ IsError e) (hd : ¬ IsRanked d)
    (hafter : ∀ e ∈ after, severityRank e = 0) :
    ((before ++ d :: after).map severityRank).max? =
      some (rankOf (worstSeverity (before ++ d :: after))) := by
  have hstays : worstFrom (severityOf d) after = severityOf d :=
    worstFrom_eq_self fun e he => hafter e he ▸ Nat.zero_le _
  refine rankOf_eq_max? ?_ ⟨d, List.mem_append_right _ List.mem_cons_self, ?_⟩
  · rw [worstSeverity_of_unranked hbefore hd, hstays]
    exact rankOf_of_not_isSome hd
  · exact rankOf_of_not_isSome hd

theorem max?_or_forgets (hne : ds ≠ []) :
    (ds.map severityRank).max? = some (rankOf (worstSeverity ds)) ∨
      ∃ before d after, Forgets ds before d after := by
  by_cases herror : ∃ d ∈ ds, IsError d
  · obtain ⟨d, hd, h⟩ := herror
    exact .inl (max?_of_isError hd h)
  push Not at herror
  by_cases hunranked : ∃ d ∈ ds, ¬ IsRanked d
  · obtain ⟨before, d, after, rfl, hd, hafter⟩ := exists_last_unranked hunranked
    by_cases hhigher : ∃ e ∈ after, 0 < severityRank e
    · exact .inr ⟨before, d, after, rfl, herror, hd, hafter, hhigher⟩
    · have hlow : ∀ e ∈ after, severityRank e = 0 := fun e he =>
        Nat.eq_zero_of_not_pos fun hpos => hhigher ⟨e, he, hpos⟩
      exact .inl (max?_of_unranked (List.forall_mem_append.1 herror).1 hd hlow)
  · push Not at hunranked
    exact .inl (max?_of_isRanked hne hunranked)

theorem max?_iff_not_forgets (hne : ds ≠ []) :
    (ds.map severityRank).max? = some (rankOf (worstSeverity ds)) ↔
      ¬ ∃ before d after, Forgets ds before d after := by
  constructor
  · rintro hmax ⟨before, d, after, h⟩
    have hle := (List.max?_eq_some_iff.1 hmax).2 _ (List.mem_map_of_mem h.mem)
    exact absurd h.rank_lt (Nat.not_lt.2 hle)
  · exact (max?_or_forgets hne).resolve_right

/-! ## Other orders -/

theorem IsMixed.perm {es : List Diagnostic} (h : IsMixed ds) (hperm : es.Perm ds) : IsMixed es := by
  obtain ⟨hnoError, ⟨d, hd, hunranked⟩, e, he, hhigher⟩ := h
  exact ⟨fun e he => hnoError e (hperm.mem_iff.1 he), ⟨d, hperm.mem_iff.2 hd, hunranked⟩,
    e, hperm.mem_iff.2 he, hhigher⟩

theorem rank_eq_of_not_isMixed {es : List Diagnostic} (h : ¬ IsMixed ds) (hperm : es.Perm ds) :
    rankOf (worstSeverity es) = rankOf (worstSeverity ds) := by
  by_cases hnil : ds = []
  · subst hnil
    rw [hperm.eq_nil]
  have hmax := (max?_or_forgets hnil).resolve_right fun ⟨_, _, _, hforgets⟩ => h hforgets.isMixed
  have hmax' := (max?_or_forgets fun hnil' => hnil (hnil' ▸ hperm).symm.eq_nil).resolve_right
    fun ⟨_, _, _, hforgets⟩ => h (hforgets.isMixed.perm hperm.symm)
  have hmap : (es.map severityRank).Perm (ds.map severityRank) := hperm.map severityRank
  have hsame : (es.map severityRank).max? = some (rankOf (worstSeverity ds)) := by
    rw [List.max?_eq_some_iff] at hmax ⊢
    exact ⟨hmap.mem_iff.2 hmax.1, fun n hn => hmax.2 n (hmap.mem_iff.1 hn)⟩
  exact Option.some.inj (hmax'.symm.trans hsame)

/-- With the names of no rank in front, the last of them is forgotten. -/
theorem IsMixed.exists_forgets (h : IsMixed ds) :
    ∃ es, es.Perm ds ∧ ∃ before d after, Forgets es before d after := by
  obtain ⟨hnoError, ⟨u, hu, hunranked⟩, e, he, hranked, hpos⟩ := h
  let p : Diagnostic → Bool := fun d => decide (IsRanked d)
  have hperm : (ds.filter (!p ·) ++ ds.filter p).Perm ds :=
    List.perm_append_comm.trans (List.filter_append_perm p ds)
  have hmem : u ∈ ds.filter (!p ·) := List.mem_filter.2 ⟨hu, by simpa [p] using hunranked⟩
  obtain ⟨before, d, hsplit⟩ := (List.eq_nil_or_concat _).resolve_left (List.ne_nil_of_mem hmem)
  have hd : d ∈ ds.filter (!p ·) := by
    rw [hsplit, List.concat_eq_append]
    exact List.mem_append_right before List.mem_cons_self
  refine ⟨_, hperm, before, d, ds.filter p, ?_, ?_, ?_, ?_, ?_⟩
  · rw [hsplit, List.concat_append]
  · exact fun e he => hnoError e (hperm.mem_iff.1 he)
  · simpa [p] using (List.mem_filter.1 hd).2
  · exact fun e he => of_decide_eq_true (List.mem_filter.1 he).2
  · exact ⟨e, List.mem_filter.2 ⟨he, decide_eq_true hranked⟩, hpos⟩

/-- With one of them at the end, it is found. -/
theorem IsMixed.exists_rank_eq (h : IsMixed ds) :
    ∃ es, es.Perm ds ∧ rankOf (worstSeverity es) = 3 := by
  obtain ⟨hnoError, ⟨d, hd, hunranked⟩, -⟩ := h
  obtain ⟨before, after, rfl⟩ := List.append_of_mem hd
  have hperm : ((before ++ after) ++ [d]).Perm (before ++ d :: after) :=
    (List.perm_append_singleton d _).trans List.perm_middle.symm
  have hothers : ∀ e ∈ before ++ after, ¬ IsError e := fun e he =>
    hnoError e (hperm.mem_iff.1 (List.mem_append_left [d] he))
  refine ⟨_, hperm, ?_⟩
  rw [worstSeverity_of_unranked hothers hunranked]
  exact rankOf_of_not_isSome hunranked

theorem forall_perm_rank_eq_iff (ds : List Diagnostic) :
    (∀ es, es.Perm ds → rankOf (worstSeverity es) = rankOf (worstSeverity ds)) ↔ ¬ IsMixed ds := by
  constructor
  · intro hsame hmixed
    obtain ⟨first, hfirst, before, d, after, hforgets⟩ := hmixed.exists_forgets
    obtain ⟨last, hlast, hrank⟩ := hmixed.exists_rank_eq
    have hlt := hforgets.rank_lt
    rw [hsame first hfirst, ← hsame last hlast, hrank] at hlt
    exact absurd hlt (Nat.not_lt.2 (rankOf_le (severityOf d)))
  · exact fun h es hperm => rank_eq_of_not_isMixed h hperm

/-- The severity found for some diagnostics has the highest rank of all, unless there is no error by
name among them and something above hints comes behind the last severity of no rank; then it has the
highest rank of what comes behind that.  So it has the same rank in every order, unless there is no
error by name while both a severity of no rank and one above hints occur. -/
theorem max?_severityRank_iff (hne : ds ≠ []) :
    ((ds.map severityRank).max? = some (rankOf (worstSeverity ds)) ↔
      ¬ ∃ before d after, Forgets ds before d after) ∧
    (∀ before d after, Forgets ds before d after →
      (after.map severityRank).max? = some (rankOf (worstSeverity ds))) ∧
    ((∀ es, es.Perm ds → rankOf (worstSeverity es) = rankOf (worstSeverity ds)) ↔
      ¬ IsMixed ds) :=
  ⟨max?_iff_not_forgets hne, fun _ _ _ h => h.max?_after, forall_perm_rank_eq_iff ds⟩

/-- A diagnostic of a severity. -/
def ofSeverity (severity : String) : Diagnostic :=
  { message := ['m'], line := 0, column := 0, endLine := 0, endColumn := 3,
    severity := severity.toList }

/-- A fatal error gives way to an information behind it. -/
theorem max?_severityRank_fatal :
    let ds := [ofSeverity "Fatal", ofSeverity "info"]
    ds ≠ [] ∧ Forgets ds [] (ofSeverity "Fatal") [ofSeverity "info"] ∧
      ([ofSeverity "info"].map severityRank).max? = some (rankOf (worstSeverity ds)) := by
  intro ds
  have hne : ds ≠ [] := List.cons_ne_nil _ _
  have hforgets : Forgets ds [] (ofSeverity "Fatal") [ofSeverity "info"] :=
    ⟨rfl, by decide +kernel, by decide +kernel, by decide +kernel, by decide +kernel⟩
  exact ⟨hne, hforgets, (max?_severityRank_iff hne).2.1 _ _ _ hforgets⟩

/-- Of a fatal error and an information the information is found, but in the other order the fatal
error. -/
theorem rank_worstSeverity_fatal :
    let ds := [ofSeverity "fatal", ofSeverity "info"]
    (ds.map severityRank).max? = some 3 ∧ rankOf (worstSeverity ds) = 1 ∧
      rankOf (worstSeverity ds.reverse) = 3 := by
  decide +kernel

end Legible.Controller
