import Legible.Text.Case
import Legible.Text.Digit
import Legible.Proofs.Text.Blank
import Mathlib.Data.Nat.Bitwise

/-!
# Letter case

Two texts that differ in the case of ASCII letters only have one lower case and one upper case
(`lower_congr`, `upper_congr`).  In the other direction, a text whose lower case is made of plain
characters differs from it in the case of ASCII letters only (`map_toLower_of_lower`); plain are
those that are the lower case of no letter beyond ASCII.

The upper case of a character is the character itself or one of the images in the tables
(`upperOf_cases`), and those hold no blanks and no ASCII but capitals.

What the tables have to do with one another is looked up in sets of code points that are the bits
of one number.
-/

namespace Legible.Text

variable {c x : Char} {n : Nat} {s t name u : Text} {runs : List (Nat × Nat × Nat × Int)}

/-! ## Sets of code points -/

/-- A set of code points, as the bits of a number. -/
def bitsOf (ns : List Nat) : Nat := ns.foldl (fun bits n => bits ||| 1 <<< n) 0

theorem testBit_foldl_bits (ns : List Nat) (bits n : Nat) :
    (ns.foldl (fun bits n => bits ||| 1 <<< n) bits).testBit n =
      (bits.testBit n || decide (n ∈ ns)) := by
  induction ns generalizing bits with
  | nil => simp
  | cons k ns ih =>
    rw [List.foldl_cons, ih, Nat.testBit_or, Nat.one_shiftLeft, Nat.testBit_two_pow, Bool.or_assoc]
    simp [eq_comm]

theorem testBit_bitsOf (ns : List Nat) (n : Nat) : (bitsOf ns).testBit n = decide (n ∈ ns) := by
  rw [bitsOf, testBit_foldl_bits, Nat.zero_testBit, Bool.false_or]

theorem not_mem_of_testBit {ns : List Nat} (h : (bitsOf ns).testBit n = false) : n ∉ ns := by
  rw [testBit_bitsOf] at h
  exact of_decide_eq_false h

/-- The code points of some ranges. -/
def codesIn (ranges : List (Nat × Nat)) : List Nat :=
  ranges.flatMap fun r => (List.range (r.2 - r.1 + 1)).map (r.1 + ·)

theorem mem_codesIn {ranges : List (Nat × Nat)} {r : Nat × Nat} (hr : r ∈ ranges) (hfirst : r.1 ≤ n)
    (hlast : n ≤ r.2) : n ∈ codesIn ranges := by
  refine List.mem_flatMap.2 ⟨r, hr, List.mem_map.2 ⟨n - r.1, List.mem_range.2 ?_, ?_⟩⟩
  · omega
  · omega

/-! ## Maps given by runs -/

/-- The code points that a map given by runs changes, each with its image. -/
def pairsOf (runs : List (Nat × Nat × Nat × Int)) : List (Nat × Nat) :=
  runs.flatMap fun (first, last, step, shift) =>
    (List.range ((last - first) / step + 1)).map fun i =>
      (first + i * step, (((first + i * step : Nat) : Int) + shift).toNat)

theorem mapByRuns_cases (n : Nat) (runs : List (Nat × Nat × Nat × Int)) :
    mapByRuns n runs = n ∨ (n, mapByRuns n runs) ∈ pairsOf runs := by
  induction runs with
  | nil => exact .inl rfl
  | cons r runs ih =>
    obtain ⟨first, last, step, shift⟩ := r
    rw [mapByRuns]
    split
    · rename_i h
      obtain ⟨hfirst, hlast, hstep⟩ := h
      have hn : first + (n - first) / step * step = n := by
        have := Nat.div_add_mod' (n - first) step
        omega
      have hi : (n - first) / step < (last - first) / step + 1 :=
        Nat.lt_succ_of_le (Nat.div_le_div_right (by omega))
      refine .inr (List.mem_flatMap.2 ⟨_, List.mem_cons_self, List.mem_map.2 ⟨(n - first) / step,
        List.mem_range.2 hi, ?_⟩⟩)
      rw [hn]
    · rcases ih with h | h
      · exact .inl h
      · obtain ⟨r, hr, hpair⟩ := List.mem_flatMap.1 h
        exact .inr (List.mem_flatMap.2 ⟨r, List.mem_cons_of_mem _ hr, hpair⟩)

theorem mapByRuns_of_not_mem (h : n ∉ (pairsOf runs).map Prod.fst) : mapByRuns n runs = n := by
  rcases mapByRuns_cases n runs with heq | hmem
  · exact heq
  · exact absurd (List.mem_map.2 ⟨_, hmem, rfl⟩) h

theorem mapByRuns_of_lt (h : ∀ r ∈ runs, n < r.1) : mapByRuns n runs = n := by
  induction runs with
  | nil => rfl
  | cons r runs ih =>
    obtain ⟨first, last, step, shift⟩ := r
    have hfirst : n < first := h _ List.mem_cons_self
    rw [mapByRuns, if_neg (by omega)]
    exact ih fun s hs => h s (List.mem_cons_of_mem _ hs)

theorem expansionOf_cases (n : Nat) (table : List (Nat × List Nat)) :
    expansionOf n table = none ∨ ∃ e ∈ table, e.1 = n ∧ expansionOf n table = some e.2 := by
  induction table with
  | nil => exact .inl rfl
  | cons e table ih =>
    obtain ⟨source, image⟩ := e
    rw [expansionOf]
    split
    · rename_i heq
      exact .inr ⟨_, List.mem_cons_self, heq.symm, rfl⟩
    · rcases ih with hnone | ⟨e, he, hsome⟩
      · exact .inl hnone
      · exact .inr ⟨e, List.mem_cons_of_mem _ he, hsome⟩

/-- The code points whose upper case is not the character itself. -/
def upperSources : List Nat := (pairsOf upperRuns).map Prod.fst ++ upperExpansions.map Prod.fst

theorem upperOf_of_not_mem (h : c.toNat ∉ upperSources) : upperOf c = [c] := by
  rw [upperSources, List.mem_append, not_or] at h
  rw [upperOf]
  rcases expansionOf_cases c.toNat upperExpansions with hnone | ⟨e, he, hsource, -⟩
  · rw [hnone, mapByRuns_of_not_mem h.1, Char.ofNat_toNat]
  · exact absurd (List.mem_map.2 ⟨e, he, hsource⟩) h.2

/-! ## Letters of ASCII text -/

/-- Only the first run of the table lies in ASCII. -/
theorem foldChar_of_ascii (h : c.toNat < 0x80) : foldChar c = c.toLower := by
  obtain ⟨runs, hruns, hbeyond⟩ : ∃ runs, lowerRuns = (0x41, 0x5A, 1, 32) :: runs ∧
      ∀ r ∈ runs, 0x80 ≤ r.1 := ⟨_, rfl, by decide +kernel⟩
  have hall : ∀ n : Nat, n < 0x80 →
      Char.ofNat (if 0x41 ≤ n ∧ n ≤ 0x5A ∧ (n - 0x41) % 1 = 0 then ((n : Int) + 32).toNat else n) =
        (Char.ofNat n).toLower := by
    decide +kernel
  rw [foldChar, hruns, mapByRuns, mapByRuns_of_lt fun r hr => Nat.lt_of_lt_of_le h (hbeyond r hr),
    hall c.toNat h, Char.ofNat_toNat]

theorem lowerAfter_of_ascii (h : ∀ c ∈ t, c.toNat < 0x80) (before : Text) :
    lowerAfter before t = t.map Char.toLower := by
  induction t generalizing before with
  | nil => rfl
  | cons c rest ih =>
    have hc : c.toNat < 0x80 := h c List.mem_cons_self
    have hsigma : c ≠ 'Σ' := by
      rintro rfl
      exact absurd hc (by decide)
    have hdotted : c ≠ 'İ' := by
      rintro rfl
      exact absurd hc (by decide)
    rw [lowerAfter, lowerOf, if_neg hsigma, if_neg hdotted, foldChar_of_ascii hc,
      ih fun d hd => h d (List.mem_cons_of_mem c hd)]
    rfl

/-- In ASCII text, case is a matter of single letters. -/
theorem lower_of_ascii (h : ∀ c ∈ t, c.toNat < 0x80) : lower t = t.map Char.toLower :=
  lowerAfter_of_ascii h []

theorem upperOf_of_ascii (h : c.toNat < 0x80) : upperOf c = [c.toUpper] := by
  obtain ⟨runs, hruns, hbeyond⟩ : ∃ runs, upperRuns = (0x61, 0x7A, 1, -32) :: runs ∧
      ∀ r ∈ runs, 0x80 ≤ r.1 := ⟨_, rfl, by decide +kernel⟩
  have hexpansions : ∀ e ∈ upperExpansions, 0x80 ≤ e.1 := by decide +kernel
  have hall : ∀ n : Nat, n < 0x80 →
      Char.ofNat (if 0x61 ≤ n ∧ n ≤ 0x7A ∧ (n - 0x61) % 1 = 0 then ((n : Int) + -32).toNat else n) =
        (Char.ofNat n).toUpper := by
    decide +kernel
  rw [upperOf]
  rcases expansionOf_cases c.toNat upperExpansions with hnone | ⟨e, he, hsource, -⟩
  · rw [hnone, hruns, mapByRuns, mapByRuns_of_lt fun r hr => Nat.lt_of_lt_of_le h (hbeyond r hr)]
    dsimp only
    rw [hall c.toNat h, Char.ofNat_toNat]
  · have := hexpansions e he
    omega

theorem toLower_of_not_ascii (h : 0x80 ≤ c.toNat) : c.toLower = c := by
  have hbeyond : ¬ (c.val ≥ 'A'.val ∧ c.val ≤ 'Z'.val) := by
    rintro ⟨-, hle⟩
    have hle : c.toNat ≤ 0x5A := hle
    omega
  exact dif_neg hbeyond

/-- What is the same for the capitals and the small letters of ASCII. -/
theorem congr_toLower {α : Type} {f : Char → α}
    (h : ∀ n < 0x80, f (Char.ofNat n).toLower = f (Char.ofNat n)) (c : Char) :
    f c.toLower = f c := by
  by_cases hc : c.toNat < 0x80
  · have hn := h c.toNat hc
    rwa [Char.ofNat_toNat] at hn
  · rw [toLower_of_not_ascii (by omega)]

theorem foldChar_toLower (c : Char) : foldChar c.toLower = foldChar c := by
  refine congr_toLower (fun n hn => ?_) c
  have hlt : (Char.ofNat n).toNat < 0x80 ∧ (Char.ofNat n).toLower.toNat < 0x80 ∧
      (Char.ofNat n).toLower.toLower = (Char.ofNat n).toLower := by
    revert n
    decide +kernel
  rw [foldChar_of_ascii hlt.1, foldChar_of_ascii hlt.2.1, hlt.2.2]

theorem upperOf_toLower (c : Char) : upperOf c.toLower = upperOf c := by
  refine congr_toLower (fun n hn => ?_) c
  have hlt : (Char.ofNat n).toNat < 0x80 ∧ (Char.ofNat n).toLower.toNat < 0x80 ∧
      (Char.ofNat n).toLower.toUpper = (Char.ofNat n).toUpper := by
    revert n
    decide +kernel
  rw [upperOf_of_ascii hlt.1, upperOf_of_ascii hlt.2.1, hlt.2.2]

theorem isCased_toLower (c : Char) : isCased c.toLower = isCased c :=
  congr_toLower (by decide +kernel) c

theorem isCaseIgnorable_toLower (c : Char) : isCaseIgnorable c.toLower = isCaseIgnorable c :=
  congr_toLower (by decide +kernel) c

theorem toLower_eq_iff_of_not_ascii (hx : 0x80 ≤ x.toNat) (c : Char) : c.toLower = x ↔ c = x := by
  by_cases hc : c.toNat < 0x80
  · have hlower : ∀ n < 0x80, (Char.ofNat n).toLower.toNat < 0x80 := by decide +kernel
    have hlt := hlower c.toNat hc
    rw [Char.ofNat_toNat] at hlt
    refine iff_of_false ?_ ?_
    · rintro rfl
      omega
    · rintro rfl
      omega
  · rw [toLower_of_not_ascii (by omega)]

/-! ## Texts of the same letters -/

/-- Whether two texts differ in the case of ASCII letters only. -/
def SameLetters (s t : Text) : Prop := s.map Char.toLower = t.map Char.toLower

instance (s t : Text) : Decidable (SameLetters s t) :=
  inferInstanceAs (Decidable (s.map Char.toLower = t.map Char.toLower))

theorem SameLetters.length_eq (h : SameLetters s t) : s.length = t.length := by
  have hlen := congrArg List.length h
  rwa [List.length_map, List.length_map] at hlen

theorem reachesCased_map_toLower (t : Text) : reachesCased (t.map Char.toLower) = reachesCased t := by
  induction t with
  | nil => rfl
  | cons c t ih =>
    rw [List.map_cons, reachesCased, reachesCased, isCaseIgnorable_toLower, isCased_toLower, ih]

theorem lowerOf_toLower (before : Text) (c : Char) (after : Text) :
    lowerOf (before.map Char.toLower) c.toLower (after.map Char.toLower) =
      lowerOf before c after := by
  have hsigma := toLower_eq_iff_of_not_ascii (x := 'Σ') (by decide) c
  have hdotted := toLower_eq_iff_of_not_ascii (x := 'İ') (by decide) c
  rw [lowerOf, lowerOf, reachesCased_map_toLower, reachesCased_map_toLower, foldChar_toLower]
  simp only [hsigma, hdotted]

theorem lowerAfter_map_toLower (before t : Text) :
    lowerAfter (before.map Char.toLower) (t.map Char.toLower) = lowerAfter before t := by
  induction t generalizing before with
  | nil => rfl
  | cons c t ih =>
    rw [List.map_cons, lowerAfter, lowerAfter, lowerOf_toLower, ← List.map_cons, ih]

theorem lower_congr (h : SameLetters s t) : lower s = lower t := by
  have hs : lower (s.map Char.toLower) = lower s := lowerAfter_map_toLower [] s
  have ht : lower (t.map Char.toLower) = lower t := lowerAfter_map_toLower [] t
  rw [← hs, ← ht, h]

theorem upper_map_toLower (t : Text) : upper (t.map Char.toLower) = upper t := by
  rw [upper, upper, List.flatMap_map]
  exact List.flatMap_congr fun c _ => upperOf_toLower c

theorem upper_congr (h : SameLetters s t) : upper s = upper t := by
  rw [← upper_map_toLower s, ← upper_map_toLower t, h]

/-! ## Plain characters -/

/-- Whether a character is the lower case of no letter beyond ASCII. -/
structure IsPlain (x : Char) : Prop where
  ne_sigma : x ≠ 'σ'
  ne_finalSigma : x ≠ 'ς'
  ne_dot : x ≠ '\u0307'
  ascii : ∀ p ∈ pairsOf lowerRuns, Char.ofNat p.2 = x → p.1 < 0x80 ∨ p.1 = 0x130

/-- All of ASCII is plain but the lower case of the Kelvin sign. -/
theorem isPlain_of_ascii (hx : x.toNat < 0x80) (hk : x ≠ 'k') : IsPlain x where
  ne_sigma := by
    rintro rfl
    exact absurd hx (by decide)
  ne_finalSigma := by
    rintro rfl
    exact absurd hx (by decide)
  ne_dot := by
    rintro rfl
    exact absurd hx (by decide)
  ascii := by
    have htable : ∀ p ∈ pairsOf lowerRuns, (Char.ofNat p.2).toNat < 0x80 →
        p.1 < 0x80 ∨ p.1 = 0x130 ∨ Char.ofNat p.2 = 'k' := by
      decide +kernel
    rintro p hp rfl
    rcases htable p hp hx with h | h | h
    · exact .inl h
    · exact .inr h
    · exact absurd h hk

theorem isSome_digitIn (n : Nat) (ranges : List (Nat × Nat)) :
    (digitIn n ranges).isSome = inRanges n ranges := by
  induction ranges with
  | nil => rfl
  | cons r ranges ih =>
    obtain ⟨first, last⟩ := r
    rw [digitIn, inRanges]
    by_cases hfirst : n < first
    · simp [hfirst]
    · by_cases hlast : n ≤ last
      · simp [hfirst, hlast]
      · simp [hfirst, hlast, ih]

theorem mem_codesIn_of_inRanges {ranges : List (Nat × Nat)} (h : inRanges n ranges) :
    n ∈ codesIn ranges := by
  obtain ⟨r, hr, hfirst, hlast⟩ := exists_range_of_inRanges h
  exact mem_codesIn hr hfirst hlast

theorem mem_codesIn_of_isDecimal (h : isDecimal c) : c.toNat ∈ codesIn decimalRanges := by
  rw [isDecimal, digitValue?, isSome_digitIn] at h
  exact mem_codesIn_of_inRanges h

theorem isPlain_of_isDecimal (hx : isDecimal x) : IsPlain x where
  ne_sigma := by
    rintro rfl
    exact absurd hx (by decide +kernel)
  ne_finalSigma := by
    rintro rfl
    exact absurd hx (by decide +kernel)
  ne_dot := by
    rintro rfl
    exact absurd hx (by decide +kernel)
  ascii := by
    have htable : ∀ n ∈ codesIn decimalRanges,
        (bitsOf ((pairsOf lowerRuns).map fun p => (Char.ofNat p.2).toNat)).testBit n = false := by
      decide +kernel
    rintro p hp rfl
    have hnot := not_mem_of_testBit (htable _ (mem_codesIn_of_isDecimal hx))
    exact absurd (List.mem_map.2 ⟨p, hp, rfl⟩) hnot

theorem toLower_of_foldChar (hx : IsPlain (foldChar c)) (hc : c ≠ 'İ') : c.toLower = foldChar c := by
  by_cases hascii : c.toNat < 0x80
  · exact (foldChar_of_ascii hascii).symm
  · rw [toLower_of_not_ascii (by omega), foldChar]
    rcases mapByRuns_cases c.toNat lowerRuns with heq | hmem
    · rw [heq, Char.ofNat_toNat]
    · have hsource : c.toNat < 0x80 ∨ c.toNat = 0x130 := hx.ascii _ hmem rfl
      have hdotted : c = 'İ' := by
        rw [← Char.ofNat_toNat c, hsource.resolve_left hascii]
      exact absurd hdotted hc

/-- Only letters of ASCII lie behind a lower case that is made of plain characters. -/
theorem map_toLower_of_lowerAfter (h : ∀ x ∈ name, IsPlain x) {before : Text}
    (ht : lowerAfter before t = name) : t.map Char.toLower = name := by
  induction t generalizing before name with
  | nil => exact ht
  | cons c rest ih =>
    rw [lowerAfter, lowerOf] at ht
    subst ht
    by_cases hsigma : c = 'Σ'
    · rw [if_pos hsigma] at h
      split at h
      · exact absurd rfl (h _ (List.mem_append_left _ List.mem_cons_self)).ne_finalSigma
      · exact absurd rfl (h _ (List.mem_append_left _ List.mem_cons_self)).ne_sigma
    · rw [if_neg hsigma] at h ⊢
      by_cases hdotted : c = 'İ'
      · rw [if_pos hdotted] at h
        exact absurd rfl (h '\u0307' (List.mem_append_left _ (by simp))).ne_dot
      · rw [if_neg hdotted] at h ⊢
        rw [List.map_cons, toLower_of_foldChar (h _ List.mem_cons_self) hdotted,
          ih (fun x hx => h x (List.mem_cons_of_mem _ hx)) rfl]
        rfl

theorem map_toLower_of_lower (h : ∀ x ∈ name, IsPlain x) (ht : lower t = name) :
    t.map Char.toLower = name := map_toLower_of_lowerAfter h ht

/-! ## Upper case -/

theorem upperOf_of_isDecimal (h : isDecimal c) : upperOf c = [c] := by
  have htable : ∀ n ∈ codesIn decimalRanges, (bitsOf upperSources).testBit n = false := by
    decide +kernel
  exact upperOf_of_not_mem (not_mem_of_testBit (htable _ (mem_codesIn_of_isDecimal h)))

theorem isBlank_of_isDecimal (h : isDecimal c) : isBlank c = false := by
  have htable : ∀ n ∈ codesIn decimalRanges, (bitsOf (codesIn blankRanges)).testBit n = false := by
    decide +kernel
  have hnot := not_mem_of_testBit (htable _ (mem_codesIn_of_isDecimal h))
  by_contra hblank
  exact hnot (mem_codesIn_of_inRanges ((Bool.not_eq_false _).mp hblank))

/-- Whether a character is no blank, and in ASCII a capital. -/
structure IsRaised (c : Char) : Prop where
  notBlank : isBlank c = false
  capital : c.toNat < 0x80 → 0x41 ≤ c.toNat ∧ c.toNat ≤ 0x5A

section Images

variable {k : Nat}

theorem toNat_image (h : (k, n) ∈ pairsOf upperRuns) : (Char.ofNat n).toNat = n := by
  have hvalid : ∀ p ∈ pairsOf upperRuns, (Char.ofNat p.2).toNat = p.2 := by decide +kernel
  exact hvalid _ h

theorem upperOf_image (h : (k, n) ∈ pairsOf upperRuns) : upperOf (Char.ofNat n) = [Char.ofNat n] := by
  have htable : ∀ p ∈ pairsOf upperRuns, (bitsOf upperSources).testBit p.2 = false := by
    decide +kernel
  apply upperOf_of_not_mem
  rw [toNat_image h]
  exact not_mem_of_testBit (htable _ h)

theorem isRaised_image (h : (k, n) ∈ pairsOf upperRuns) : IsRaised (Char.ofNat n) := by
  have htable : ∀ n ∈ codesIn (blankRanges ++ [(0, 0x40), (0x5B, 0x7F)]),
      (bitsOf ((pairsOf upperRuns).map Prod.snd)).testBit n = false := by
    decide +kernel
  have hnot (hn : n ∈ codesIn (blankRanges ++ [(0, 0x40), (0x5B, 0x7F)])) : False :=
    not_mem_of_testBit (htable n hn) (List.mem_map.2 ⟨_, h, rfl⟩)
  have hn := toNat_image h
  constructor
  · by_contra hblank
    have hrange : inRanges (Char.ofNat n).toNat blankRanges := (Bool.not_eq_false _).mp hblank
    obtain ⟨r, hr, hfirst, hlast⟩ := exists_range_of_inRanges (hn ▸ hrange)
    exact hnot (mem_codesIn (List.mem_append_left _ hr) hfirst hlast)
  · intro hlt
    rw [hn] at hlt ⊢
    constructor
    · apply Nat.lt_of_not_le
      intro hle
      exact hnot (mem_codesIn (r := (0, 0x40)) (by simp) (Nat.zero_le n) hle)
    · apply Nat.le_of_not_lt
      intro hgt
      exact hnot (mem_codesIn (r := (0x5B, 0x7F)) (by simp) hgt (Nat.le_of_lt_succ hlt))

end Images

/-- The upper case of a character is the character itself, one other that is its own upper case, or
several characters. -/
theorem upperOf_cases (c : Char) : upperOf c = [c] ∨
    (∃ x, upperOf c = [x] ∧ upperOf x = [x] ∧ IsRaised x) ∨
    ∃ e ∈ upperExpansions, upperOf c = e.2.map Char.ofNat := by
  rw [upperOf]
  rcases expansionOf_cases c.toNat upperExpansions with hnone | ⟨e, he, -, hsome⟩
  · rw [hnone]
    dsimp only
    rcases mapByRuns_cases c.toNat upperRuns with heq | hmem
    · exact .inl (by rw [heq, Char.ofNat_toNat])
    · exact .inr (.inl ⟨_, rfl, upperOf_image hmem, isRaised_image hmem⟩)
  · rw [hsome]
    exact .inr (.inr ⟨e, he, rfl⟩)

end Legible.Text
