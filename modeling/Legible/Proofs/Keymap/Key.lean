import Legible.Proofs.Keymap.Words
import Legible.Proofs.Text.Case

/-!
# Keys and modifiers

A word names a modifier just if it differs from one of the modifier's names in the case of ASCII
letters only (`ofText?_eq_some_iff`).  Any other word is a key, and `keyName` gives the key its
usual spelling, which is a key again and its own usual spelling (`IsKey.keyName`).

The usual spelling is the word itself, or a name from the table of keys, or the upper case of one
character, or an `F` with digits (`keyName_cases`); each of these is looked at once.
-/

namespace Legible.Keymap

open Text

variable {c x : Char} {low w : Text} {m : Modifier}

/-! ## Characters of words -/

/-- Whether a character neither is blank nor sets words or chords apart. -/
def isInner (c : Char) : Bool := !isBlank c && c != '+' && c != ','

theorem isInner_iff : isInner c ↔ isBlank c = false ∧ c ≠ '+' ∧ c ≠ ',' := by
  simp [isInner, and_assoc]

theorem isWord_of_all (hne : w ≠ []) (h : w.all isInner) : IsWord '+' w ∧ ',' ∉ w := by
  have hchars (c : Char) (hc : c ∈ w) : isBlank c = false ∧ c ≠ '+' ∧ c ≠ ',' :=
    isInner_iff.1 (List.all_eq_true.1 h c hc)
  exact ⟨⟨hne, strip_of_forall fun c hc => (hchars c hc).1, fun hplus => (hchars _ hplus).2.1 rfl⟩,
    fun hcomma => (hchars _ hcomma).2.2 rfl⟩

/-! ## Modifiers -/

/-- Whether a word is a name of a modifier, in any case of the ASCII letters. -/
def Modifier.IsNamedBy (m : Modifier) (w : Text) : Prop :=
  ∃ name, (name, m) ∈ aliases ∧ SameLetters w name

/-- The names of modifiers are small letters of ASCII, and there is no `k` among them. -/
theorem small_of_mem_aliases {name : Text} (h : (name, m) ∈ Modifier.aliases) :
    (∀ x ∈ name, x.toNat < 0x80 ∧ x ≠ 'k') ∧ name.map Char.toLower = name := by
  have htable : ∀ p ∈ Modifier.aliases,
      (p.1.all fun x => x.toNat < 0x80 && x != 'k') ∧ p.1.map Char.toLower = p.1 := by
    decide +kernel
  obtain ⟨hchars, hsmall⟩ := htable _ h
  exact ⟨fun x hx => by simpa using List.all_eq_true.1 hchars x hx, hsmall⟩

theorem ofText?_eq_some_iff : Modifier.ofText? w = some m ↔ m.IsNamedBy w := by
  constructor
  · intro h
    obtain ⟨first, last, hall, -⟩ := List.lookup_eq_some_iff.1 h
    have hmem : (lower w, m) ∈ Modifier.aliases := by simp [hall]
    obtain ⟨hchars, hsmall⟩ := small_of_mem_aliases hmem
    have hplain : ∀ x ∈ lower w, IsPlain x :=
      fun x hx => isPlain_of_ascii (hchars x hx).1 (hchars x hx).2
    exact ⟨lower w, hmem, (map_toLower_of_lower hplain rfl).trans hsmall.symm⟩
  · rintro ⟨name, hmem, hletters⟩
    obtain ⟨hchars, hsmall⟩ := small_of_mem_aliases hmem
    have hlookup : ∀ p ∈ Modifier.aliases, Modifier.aliases.lookup p.1 = some p.2 := by
      decide +kernel
    rw [Modifier.ofText?, lower_congr hletters, lower_of_ascii fun x hx => (hchars x hx).1, hsmall]
    exact hlookup _ hmem

instance (m : Modifier) (w : Text) : Decidable (m.IsNamedBy w) :=
  decidable_of_iff _ ofText?_eq_some_iff

/-- Whether a word is a name of some modifier. -/
def NamesModifier (w : Text) : Prop := ∃ m : Modifier, m.IsNamedBy w

theorem isSome_ofText?_iff : (Modifier.ofText? w).isSome ↔ NamesModifier w := by
  simp only [Option.isSome_iff_exists, ofText?_eq_some_iff]
  rfl

instance (w : Text) : Decidable (NamesModifier w) := decidable_of_iff _ isSome_ofText?_iff

theorem ofText?_name (m : Modifier) : Modifier.ofText? m.name = some m := by
  cases m <;> decide +kernel

theorem isWord_of_isNamedBy (h : m.IsNamedBy w) : IsWord '+' w ∧ ',' ∉ w := by
  obtain ⟨name, hmem, hletters⟩ := h
  have htable : ∀ p ∈ Modifier.aliases, p.1.length ≠ 0 ∧ p.1.all isInner := by decide +kernel
  obtain ⟨hlength, hinner⟩ := htable _ hmem
  apply isWord_of_all
  · rintro rfl
    exact hlength hletters.length_eq.symm
  · rw [List.all_eq_true] at hinner ⊢
    intro c hc
    have hlower : c.toLower ∈ name := by
      rw [← (small_of_mem_aliases hmem).2, ← hletters]
      exact List.mem_map.2 ⟨c, hc, rfl⟩
    rw [← congr_toLower (f := isInner) (by decide +kernel) c]
    exact hinner _ hlower

theorem isWord_name (m : Modifier) : IsWord '+' m.name ∧ ',' ∉ m.name :=
  isWord_of_isNamedBy (ofText?_eq_some_iff.1 (ofText?_name m))

/-! ## Words that stand in no table -/

theorem lower_singleton (x : Char) : (∃ y, lower [x] = [y]) ∨ lower [x] = ['i', '\u0307'] := by
  rw [lower, lowerAfter, lowerAfter, lowerOf, List.append_nil]
  split
  · split
    · exact .inl ⟨_, rfl⟩
    · exact .inl ⟨_, rfl⟩
  · split
    · exact .inr rfl
    · exact .inl ⟨_, rfl⟩

theorem lower_comma_cons (rest : Text) : ∃ low, lower (',' :: rest) = ',' :: low := by
  have hcomma (before after : Text) : lowerOf before ',' after = [','] := by
    rw [lowerOf, if_neg (by decide), if_neg (by decide), foldChar_of_ascii (by decide)]
    rfl
  refine ⟨lowerAfter [','] rest, ?_⟩
  rw [lower, lowerAfter, hcomma]
  rfl

theorem lookup_eq_none {α : Type} {table : List (Text × α)} (h : ∀ p ∈ table, p.1 ≠ low) :
    table.lookup low = none := by
  rw [List.lookup_eq_none_iff]
  intro p hp
  simpa using (h p hp).symm

/-- The names of modifiers and keys are longer than one character, and begin with no comma. -/
theorem lookup_eq_none_of_short (h : (∃ y, low = [y]) ∨ low = ['i', '\u0307'] ∨ ∃ s, low = ',' :: s) :
    Modifier.aliases.lookup low = none ∧ keyNames.lookup low = none := by
  have hlong (name : Text)
      (hname : name.length ≠ 1 ∧ name ≠ ['i', '\u0307'] ∧ name.head? ≠ some ',') : name ≠ low := by
    rintro rfl
    obtain ⟨hone, hdotted, hcomma⟩ := hname
    rcases h with ⟨y, rfl⟩ | rfl | ⟨s, rfl⟩
    · exact hone rfl
    · exact hdotted rfl
    · exact hcomma rfl
  have haliases : ∀ p ∈ Modifier.aliases,
      p.1.length ≠ 1 ∧ p.1 ≠ ['i', '\u0307'] ∧ p.1.head? ≠ some ',' := by decide +kernel
  have hkeys : ∀ p ∈ keyNames,
      p.1.length ≠ 1 ∧ p.1 ≠ ['i', '\u0307'] ∧ p.1.head? ≠ some ',' := by decide +kernel
  exact ⟨lookup_eq_none fun p hp => hlong _ (haliases p hp),
    lookup_eq_none fun p hp => hlong _ (hkeys p hp)⟩

theorem isFunctionKey_cons (h : isFunctionKey low) :
    ∃ digits, low = 'f' :: digits ∧ ∀ d ∈ digits, isDecimal d := by
  unfold isFunctionKey at h
  split at h
  · exact ⟨_, rfl, by simpa using h⟩
  · exact ⟨_, rfl, by simpa using h⟩
  · exact absurd h Bool.false_ne_true

/-! ## The usual spelling of a key -/

/-- Whether a word is a key in its usual spelling. -/
structure IsKey (w : Text) : Prop extends IsWord '+' w where
  not_modifier : Modifier.ofText? w = none
  keyName_eq : keyName w = w

instance (w : Text) : Decidable (IsKey w) :=
  decidable_of_iff
    ((w ≠ [] ∧ strip w = w ∧ '+' ∉ w) ∧ Modifier.ofText? w = none ∧ keyName w = w)
    ⟨fun ⟨⟨hne, hstrip, hplus⟩, hnone, hname⟩ => ⟨⟨hne, hstrip, hplus⟩, hnone, hname⟩,
      fun h => ⟨⟨h.ne_nil, h.strip_eq, h.not_mem⟩, h.not_modifier, h.keyName_eq⟩⟩

theorem isKey_of_all (hne : w ≠ []) (h : w.all isInner) (hnone : Modifier.ofText? w = none)
    (hname : keyName w = w) : IsKey w ∧ ',' ∉ w := by
  obtain ⟨hword, hcomma⟩ := isWord_of_all hne h
  exact ⟨⟨hword, hnone, hname⟩, hcomma⟩

theorem isKey_of_mem_keyNames {p : Text × Text} (h : p ∈ keyNames) : IsKey p.2 ∧ ',' ∉ p.2 := by
  have hwords : ∀ p ∈ keyNames, p.2 ≠ [] ∧ p.2.all isInner := by decide +kernel
  have hascii : ∀ p ∈ keyNames, p.2.all fun x => x.toNat < 0x80 := by decide +kernel
  -- the small letters of the names are looked up, since those are quick to come by
  have hlookups : ∀ p ∈ keyNames, Modifier.aliases.lookup (p.2.map Char.toLower) = none ∧
      keyNames.lookup (p.2.map Char.toLower) = some p.2 := by decide +kernel
  have hlower : lower p.2 = p.2.map Char.toLower :=
    lower_of_ascii fun x hx => of_decide_eq_true (List.all_eq_true.1 (hascii p h) x hx)
  obtain ⟨hne, hinner⟩ := hwords p h
  obtain ⟨hnone, hname⟩ := hlookups p h
  rw [← hlower] at hnone hname
  exact isKey_of_all hne hinner hnone (by rw [keyName, hname])

theorem isKey_of_mem_upperExpansions {e : Nat × List Nat} (h : e ∈ upperExpansions) :
    IsKey (e.2.map Char.ofNat) ∧ ',' ∉ e.2.map Char.ofNat := by
  have htable : ∀ e ∈ upperExpansions,
      IsKey (e.2.map Char.ofNat) ∧ ',' ∉ e.2.map Char.ofNat := by decide +kernel
  exact htable e h

theorem keyName_singleton (x : Char) : keyName [x] = upperOf x := by
  have hnone := (lookup_eq_none_of_short ((lower_singleton x).imp_right .inl)).2
  rw [keyName, hnone]
  simp [upper]

theorem isKey_singleton (h : IsRaised x) (hupper : upperOf x = [x]) : IsKey [x] ∧ ',' ∉ [x] := by
  have hne {y : Char} (hy : y.toNat < 0x41) : x ≠ y := by
    rintro rfl
    have := (h.capital (by omega)).1
    omega
  have hinner : isInner x := isInner_iff.2 ⟨h.notBlank, hne (by decide), hne (by decide)⟩
  refine isKey_of_all (List.cons_ne_nil x []) (by simpa using hinner) ?_ ?_
  · exact (lookup_eq_none_of_short ((lower_singleton x).imp_right .inl)).1
  · rw [keyName_singleton, hupper]

/-- The usual spelling of a function key differs from the word in the case of ASCII letters only. -/
theorem upper_functionKey (h : isFunctionKey (lower w)) :
    SameLetters (upper w) w ∧ ∀ c ∈ upper w, c = 'F' ∨ isDecimal c := by
  obtain ⟨digits, hlow, hdigits⟩ := isFunctionKey_cons h
  have hplain : ∀ x ∈ 'f' :: digits, IsPlain x := by
    intro x hx
    rcases List.mem_cons.1 hx with rfl | hx
    · exact isPlain_of_ascii (by decide) (by decide)
    · exact isPlain_of_isDecimal (hdigits x hx)
  have hsmall : w.map Char.toLower = 'f' :: digits := map_toLower_of_lower hplain hlow
  have hupper : upper w = 'F' :: digits := by
    rw [← upper_map_toLower, hsmall, upper, List.flatMap_cons, upperOf_of_ascii (by decide),
      List.flatMap_congr fun d hd => upperOf_of_isDecimal (hdigits d hd), List.flatMap_singleton']
    rfl
  have hagain : ('f' :: digits).map Char.toLower = 'f' :: digits := by
    rw [← hsmall, List.map_map]
    exact List.map_congr_left fun c _ => congr_toLower (f := Char.toLower) (by decide +kernel) c
  refine ⟨?_, ?_⟩
  · rw [SameLetters, hupper, hsmall, ← hagain]
    rfl
  · intro c hc
    rw [hupper] at hc
    exact (List.mem_cons.1 hc).imp_right (hdigits c)

theorem isKey_functionKey (hnone : Modifier.ofText? w = none)
    (hname : keyNames.lookup (lower w) = none) (h : isFunctionKey (lower w)) :
    IsKey (upper w) ∧ ',' ∉ upper w := by
  obtain ⟨hletters, hchars⟩ := upper_functionKey h
  have hlower : lower (upper w) = lower w := lower_congr hletters
  apply isKey_of_all
  · intro hnil
    rw [← hlower, hnil] at h
    exact absurd h (by decide)
  · rw [List.all_eq_true]
    intro c hc
    rcases hchars c hc with rfl | hdecimal
    · decide
    · rw [isInner_iff]
      refine ⟨isBlank_of_isDecimal hdecimal, ?_, ?_⟩
      · rintro rfl
        exact absurd hdecimal (by decide)
      · rintro rfl
        exact absurd hdecimal (by decide)
  · rwa [Modifier.ofText?, hlower]
  · rw [keyName, hlower, hname]
    simp [h, upper_congr hletters]

/-- The usual spelling of a word that names no modifier: the word itself, or a key in its usual
spelling without commas. -/
theorem keyName_cases (hnone : Modifier.ofText? w = none) :
    keyName w = w ∨ IsKey (keyName w) ∧ ',' ∉ keyName w := by
  by_cases hname : keyNames.lookup (lower w) = none
  · by_cases hlen : w.length = 1
    · obtain ⟨x, rfl⟩ := List.length_eq_one_iff.1 hlen
      rw [keyName_singleton]
      rcases upperOf_cases x with hself | ⟨y, hy, hupper, hraised⟩ | ⟨e, he, hexpansion⟩
      · exact .inl hself
      · rw [hy]
        exact .inr (isKey_singleton hraised hupper)
      · rw [hexpansion]
        exact .inr (isKey_of_mem_upperExpansions he)
    · by_cases hfunction : isFunctionKey (lower w)
      · have hupper : keyName w = upper w := by simp [keyName, hname, hfunction]
        rw [hupper]
        exact .inr (isKey_functionKey hnone hname hfunction)
      · exact .inl (by simp [keyName, hname, hlen, hfunction])
  · obtain ⟨name, hsome⟩ := Option.ne_none_iff_exists'.1 hname
    obtain ⟨first, last, htable, -⟩ := List.lookup_eq_some_iff.1 hsome
    have hkey : keyName w = name := by simp [keyName, hsome]
    rw [hkey]
    exact .inr (isKey_of_mem_keyNames (p := (lower w, name)) (by simp [htable]))

theorem isKey_keyName (hw : IsWord '+' w) (hnone : Modifier.ofText? w = none) :
    IsKey (keyName w) := by
  rcases keyName_cases hnone with hself | ⟨hkey, -⟩
  · exact hself.symm ▸ ⟨hw, hnone, hself⟩
  · exact hkey

theorem comma_not_mem_keyName (hnone : Modifier.ofText? w = none) (h : ',' ∉ w) :
    ',' ∉ keyName w := by
  rcases keyName_cases hnone with hself | ⟨-, hcomma⟩
  · rwa [hself]
  · exact hcomma

/-- A comma is a key where it is taken for one, with whatever follows it. -/
theorem isKey_comma_cons {rest : Text} (h : IsWord '+' (',' :: rest)) : IsKey (',' :: rest) := by
  obtain ⟨low, hlow⟩ := lower_comma_cons rest
  obtain ⟨hnone, hname⟩ := lookup_eq_none_of_short (.inr (.inr ⟨low, hlow⟩))
  refine ⟨h, hnone, ?_⟩
  cases rest with
  | nil =>
    rw [keyName_singleton, upperOf_of_ascii (by decide)]
    rfl
  | cons d rest =>
    rw [keyName, hname, hlow]
    simp [isFunctionKey]

/-! ## Keys in another case -/

/-- Whether the usual spelling of a key has nothing to do with the case of its letters: it is a
single character, a function key or a key with a name. -/
def IsCaseless (w : Text) : Prop :=
  w.length = 1 ∨ isFunctionKey (lower w) ∨ ∃ name, (lower w, name) ∈ keyNames

theorem keyName_congr {v : Text} (hw : IsCaseless w) (h : SameLetters w v) :
    keyName w = keyName v := by
  rw [keyName, keyName, ← lower_congr h, ← upper_congr h, ← h.length_eq]
  cases hname : keyNames.lookup (lower w) with
  | some name => rfl
  | none =>
    have hupper : w.length = 1 ∨ isFunctionKey (lower w) := by
      rcases hw with hlen | hfunction | ⟨name, hmem⟩
      · exact .inl hlen
      · exact .inr hfunction
      · rw [List.lookup_eq_none_iff] at hname
        exact absurd (hname _ hmem) (by simp)
    simp [hupper]

end Legible.Keymap
