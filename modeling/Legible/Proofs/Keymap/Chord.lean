import Legible.Proofs.Keymap.Key

/-!
# The one spelling of a chord

`spell` writes a key behind some modifiers, in their order and each of them once.  What is written
so is read back as the same key and the same modifiers (`ordered?_spell`), so it is settled: it is
a chord that `canonical` leaves alone.  The chord that `canonical` makes of a word between commas is
settled for that reason, or because it is the word itself (`isSettled_canonical`).

In the other direction a `Writing` is a chord as a user may write it, with the words in any order.
Of such a text only the key and the set of its modifiers are left (`canonical_text`).
-/

namespace Legible.Keymap

open Text

variable {k t w : Text} {ms : List Modifier}

/-! ## Spelling a chord -/

/-- The words of a key with modifiers: the modifiers in their order, then the key. -/
def wordsFor (ms : List Modifier) (k : Text) : List Text :=
  (Modifier.all.filter (ms.contains ·)).map Modifier.name ++ [k]

/-- A key with modifiers in one text. -/
def spell (ms : List Modifier) (k : Text) : Text := join ['+'] (wordsFor ms k)

theorem mem_all (m : Modifier) : m ∈ Modifier.all := by
  cases m <;> decide

theorem eq_or_of_mem_wordsFor (h : w ∈ wordsFor ms k) : w = k ∨ ∃ m : Modifier, w = m.name := by
  rcases List.mem_append.1 h with hname | hkey
  · obtain ⟨m, -, rfl⟩ := List.mem_map.1 hname
    exact .inr ⟨m, rfl⟩
  · exact .inl (List.mem_singleton.1 hkey)

theorem isWord_of_mem_wordsFor (hk : IsWord '+' k) (h : w ∈ wordsFor ms k) : IsWord '+' w := by
  rcases eq_or_of_mem_wordsFor h with rfl | ⟨m, rfl⟩
  · exact hk
  · exact (isWord_name m).1

theorem modifiersOf_wordsFor (hk : Modifier.ofText? k = none) :
    modifiersOf (wordsFor ms k) = Modifier.all.filter (ms.contains ·) := by
  have hnames (l : List Modifier) : (l.map Modifier.name).filterMap Modifier.ofText? = l := by
    rw [List.filterMap_map]
    exact (List.filterMap_congr fun m _ => ofText?_name m).trans List.filterMap_some
  rw [modifiersOf, wordsFor, List.filterMap_append, hnames]
  simp [hk]

/-- Of words of which all but one name modifiers that one is the key. -/
theorem keysOf_append_cons {first last : List Text} (hfirst : ∀ w ∈ first, NamesModifier w)
    (hk : Modifier.ofText? k = none) (hlast : ∀ w ∈ last, NamesModifier w) :
    keysOf (first ++ k :: last) = [k] := by
  have hnone {words : List Text} (h : ∀ w ∈ words, NamesModifier w) :
      words.filter (fun w => (Modifier.ofText? w).isNone) = [] := by
    rw [List.filter_eq_nil_iff]
    intro w hw
    simpa [Option.isSome_iff_ne_none] using isSome_ofText?_iff.2 (h w hw)
  rw [keysOf, List.filter_append, hnone hfirst, List.filter_cons_of_pos (by simp [hk]), hnone hlast]
  rfl

theorem keysOf_wordsFor (hk : Modifier.ofText? k = none) : keysOf (wordsFor ms k) = [k] := by
  refine keysOf_append_cons (fun w hw => ?_) hk (by simp)
  obtain ⟨m, -, rfl⟩ := List.mem_map.1 hw
  exact ⟨m, ofText?_eq_some_iff.1 (ofText?_name m)⟩

theorem spell_congr {ns : List Modifier} (h : ∀ m, m ∈ ms ↔ m ∈ ns) (k : Text) :
    spell ms k = spell ns k := by
  have hmem : Modifier.all.filter (ms.contains ·) = Modifier.all.filter (ns.contains ·) :=
    List.filter_congr fun m _ => by simp [h]
  rw [spell, wordsFor, hmem]
  rfl

theorem isWord_spell (hk : IsWord '+' k) (hcomma : ',' ∉ k) (ms : List Modifier) :
    IsWord ',' (spell ms k) where
  ne_nil := by
    apply join_ne_nil
    · simp [wordsFor]
    · exact fun w hw => (isWord_of_mem_wordsFor hk hw).ne_nil
  strip_eq := strip_join fun w hw =>
    ⟨(isWord_of_mem_wordsFor hk hw).ne_nil, (isWord_of_mem_wordsFor hk hw).strip_eq⟩
  not_mem := by
    refine not_mem_join (by decide) fun w hw => ?_
    rcases eq_or_of_mem_wordsFor hw with rfl | ⟨m, rfl⟩
    · exact hcomma
    · exact (isWord_name m).2

/-! ## Reading a chord -/

theorem ordered?_eq (t : Text) :
    ordered? t = (keysOf (wordsBetween '+' t)).getLast?.map fun key =>
      spell (modifiersOf (wordsBetween '+' t)) (keyName key) := by
  rw [ordered?]
  cases (keysOf (wordsBetween '+' t)).getLast? with
  | none => rfl
  | some key => rfl

theorem ordered?_spell (hk : IsKey k) (ms : List Modifier) :
    ordered? (spell ms k) = some (spell ms k) := by
  have hwords : wordsBetween '+' (spell ms k) = wordsFor ms k :=
    wordsBetween_join_words fun w hw => isWord_of_mem_wordsFor hk.toIsWord hw
  rw [ordered?_eq, hwords, keysOf_wordsFor hk.not_modifier, modifiersOf_wordsFor hk.not_modifier,
    List.getLast?_singleton, Option.map_some, hk.keyName_eq]
  exact congrArg some (spell_congr (fun m => by simp [mem_all m]) k)

theorem exists_spell_of_ordered? (hw : ',' ∉ w) (h : ordered? w = some t) :
    ∃ k, IsKey k ∧ ',' ∉ k ∧ t = spell (modifiersOf (wordsBetween '+' w)) k := by
  rw [ordered?_eq, Option.map_eq_some_iff] at h
  obtain ⟨key, hlast, rfl⟩ := h
  obtain ⟨hkey, hnone⟩ := List.mem_filter.1 (List.mem_of_getLast? hlast)
  rw [Option.isNone_iff_eq_none] at hnone
  exact ⟨keyName key, isKey_keyName (isWord_of_mem_wordsBetween hkey) hnone,
    comma_not_mem_keyName hnone (fun hc => hw (mem_of_mem_wordsBetween hkey hc)), rfl⟩

/-! ## Settled chords -/

/-- Whether a text is a chord in its one spelling. -/
structure IsSettled (t : Text) : Prop extends IsWord ',' t where
  canonical_eq : canonical t = t

theorem canonical_of_isWord (h : IsWord ',' w) : canonical w = (ordered? w).getD w := by
  have hchords : chordsIn w = [w] := wordsBetween_of_isWord h
  have hne : w.isEmpty = false := by simpa using h.ne_nil
  rw [canonical, h.strip_eq, hchords]
  simp [hne]

theorem isSettled_spell (hk : IsKey k) (hcomma : ',' ∉ k) (ms : List Modifier) :
    IsSettled (spell ms k) where
  toIsWord := isWord_spell hk.toIsWord hcomma ms
  canonical_eq := by
    rw [canonical_of_isWord (isWord_spell hk.toIsWord hcomma ms), ordered?_spell hk, Option.getD_some]

theorem isSettled_canonical (h : IsWord ',' w) : IsSettled (canonical w) := by
  have hcanonical := canonical_of_isWord h
  cases hordered : ordered? w with
  | none =>
    -- a word without a key stays as it is
    rw [hordered, Option.getD_none] at hcanonical
    exact hcanonical.symm ▸ ⟨h, hcanonical⟩
  | some t =>
    rw [hordered, Option.getD_some] at hcanonical
    obtain ⟨k, hk, hcomma, rfl⟩ := exists_spell_of_ordered? h.not_mem hordered
    exact hcanonical.symm ▸ isSettled_spell hk hcomma _

/-- A text of commas and blanks is taken for a key. -/
theorem canonical_of_chordsIn_eq_nil (hstrip : strip t = t) (hne : t ≠ []) (h : chordsIn t = []) :
    canonical t = t := by
  have hcommas (c : Char) (hc : c ∈ t) : c = ',' ∨ isBlank c :=
    eq_or_isBlank_of_wordsBetween_eq_nil h hc
  have hplus : '+' ∉ t := by
    intro hmem
    rcases hcommas '+' hmem with heq | hblank
    · exact absurd heq (by decide)
    · exact absurd hblank (by decide)
  obtain ⟨c, rest, rfl⟩ := List.exists_cons_of_ne_nil hne
  have hnoblank : isBlank c = false := isBlank_head (strip_eq_self_iff.1 hstrip).1
  have hc : c = ',' := (hcommas c List.mem_cons_self).resolve_right (by simp [hnoblank])
  subst hc
  have hordered : ordered? (',' :: rest) = some (',' :: rest) :=
    ordered?_spell (isKey_comma_cons ⟨hne, hstrip, hplus⟩) []
  rw [canonical, hstrip, h]
  simp [hordered]

theorem canonical_strip (t : Text) : canonical (strip t) = canonical t := by
  rw [canonical, canonical, strip_strip]

theorem canonical_canonical (t : Text) : canonical (canonical t) = canonical t := by
  rw [← canonical_strip t]
  by_cases hnil : strip t = []
  · rw [hnil]
    rfl
  cases hchords : chordsIn (strip t) with
  | nil =>
    have hself := canonical_of_chordsIn_eq_nil (strip_strip t) hnil hchords
    rw [hself, hself]
  | cons first rest =>
    have hmem : first ∈ chordsIn (strip t) := hchords ▸ List.mem_cons_self
    have hword : IsWord ',' first := isWord_of_mem_wordsBetween hmem
    have hfirst : canonical (strip t) = canonical first := by
      rw [canonical_of_isWord hword, canonical, strip_strip, hchords]
      simp [hnil]
    rw [hfirst, (isSettled_canonical hword).canonical_eq]

/-! ## Chords as they may be written -/

/-- A word with blanks around it. -/
structure Padded where
  before : Text
  word : Text
  after : Text
  blank_before : allBlank before
  blank_after : allBlank after

/-- A word with its blanks in one text. -/
def Padded.text (p : Padded) : Text := p.before ++ p.word ++ p.after

theorem Padded.strip_text (p : Padded) : strip p.text = strip p.word :=
  strip_padded (List.all_eq_true.1 p.blank_before) (List.all_eq_true.1 p.blank_after) p.word

theorem Padded.not_mem_text {p : Padded} {c : Char} (hblank : isBlank c = false) (h : c ∉ p.word) :
    c ∉ p.text := by
  intro hc
  rw [text, List.mem_append, List.mem_append] at hc
  rcases hc with (hbefore | hword) | hafter
  · exact Bool.false_ne_true (hblank.symm.trans (List.all_eq_true.1 p.blank_before c hbefore))
  · exact h hword
  · exact Bool.false_ne_true (hblank.symm.trans (List.all_eq_true.1 p.blank_after c hafter))

/-- A chord as it may be written: a key, and before and after it any words that name modifiers, all
of them with blanks around them. -/
structure Writing where
  first : List Padded
  key : Padded
  last : List Padded
  modifiers : ∀ p ∈ first ++ last, NamesModifier p.word
  isWord_key : IsWord '+' key.word
  comma_key : ',' ∉ key.word
  not_modifier_key : ¬ NamesModifier key.word

namespace Writing

variable (s : Writing)

/-- The words of a chord. -/
def words : List Padded := s.first ++ s.key :: s.last

/-- A chord as it is written. -/
def text : Text := join ['+'] (s.words.map Padded.text)

/-- Whether a modifier is named in a chord. -/
def Has (m : Modifier) : Prop := ∃ p ∈ s.first ++ s.last, m.IsNamedBy p.word

instance : DecidablePred s.Has := fun m =>
  inferInstanceAs (Decidable (∃ p ∈ s.first ++ s.last, m.IsNamedBy p.word))

variable {s}

theorem ofText?_key : Modifier.ofText? s.key.word = none := by
  rw [← Option.not_isSome_iff_eq_none, isSome_ofText?_iff]
  exact s.not_modifier_key

theorem isWord_of_mem_words {p : Padded} (h : p ∈ s.words) : IsWord '+' p.word ∧ ',' ∉ p.word := by
  by_cases hkey : p = s.key
  · subst hkey
    exact ⟨s.isWord_key, s.comma_key⟩
  · have hmem : p ∈ s.first ++ s.last := by
      simp only [words, List.mem_append, List.mem_cons] at h ⊢
      tauto
    obtain ⟨m, hm⟩ := s.modifiers p hmem
    exact isWord_of_isNamedBy hm

theorem wordsBetween_text : wordsBetween '+' s.text = s.words.map Padded.word := by
  have hplus : ∀ piece ∈ s.words.map Padded.text, '+' ∉ piece := by
    intro piece hpiece
    obtain ⟨p, hp, rfl⟩ := List.mem_map.1 hpiece
    exact Padded.not_mem_text (by decide) (isWord_of_mem_words hp).1.not_mem
  have hstrip : (s.words.map Padded.text).map strip = s.words.map Padded.word := by
    rw [List.map_map]
    exact List.map_congr_left fun p hp =>
      p.strip_text.trans (isWord_of_mem_words hp).1.strip_eq
  rw [text, wordsBetween_join hplus, hstrip, List.filter_eq_self]
  intro w hw
  obtain ⟨p, hp, rfl⟩ := List.mem_map.1 hw
  simpa using (isWord_of_mem_words hp).1.ne_nil

theorem comma_not_mem_text : ',' ∉ s.text := by
  refine not_mem_join (by decide) fun piece hpiece => ?_
  obtain ⟨p, hp, rfl⟩ := List.mem_map.1 hpiece
  exact Padded.not_mem_text (by decide) (isWord_of_mem_words hp).2

theorem keysOf_words : keysOf (s.words.map Padded.word) = [s.key.word] := by
  rw [words, List.map_append, List.map_cons]
  refine keysOf_append_cons (fun w hw => ?_) ofText?_key fun w hw => ?_
  · obtain ⟨p, hp, rfl⟩ := List.mem_map.1 hw
    exact s.modifiers p (List.mem_append_left _ hp)
  · obtain ⟨p, hp, rfl⟩ := List.mem_map.1 hw
    exact s.modifiers p (List.mem_append_right _ hp)

theorem mem_modifiersOf_words (m : Modifier) :
    m ∈ modifiersOf (s.words.map Padded.word) ↔ s.Has m := by
  have hkey : ¬ m.IsNamedBy s.key.word := fun h => s.not_modifier_key ⟨m, h⟩
  simp only [modifiersOf, List.mem_filterMap, List.mem_map, exists_exists_and_eq_and,
    ofText?_eq_some_iff, Has, words, List.mem_append, List.mem_cons]
  constructor
  · rintro ⟨p, hp | rfl | hp, hm⟩
    · exact ⟨p, .inl hp, hm⟩
    · exact absurd hm hkey
    · exact ⟨p, .inr hp, hm⟩
  · rintro ⟨p, hp | hp, hm⟩
    · exact ⟨p, .inl hp, hm⟩
    · exact ⟨p, .inr (.inr hp), hm⟩

end Writing

theorem canonical_of_comma_not_mem (h : ',' ∉ t) : canonical t = (ordered? t).getD (strip t) := by
  have hordered : ordered? (strip t) = ordered? t := by
    rw [ordered?_eq, ordered?_eq, wordsBetween_strip (by decide)]
  by_cases hnil : strip t = []
  · rw [← hordered, ← canonical_strip, hnil]
    rfl
  · have hword : IsWord ',' (strip t) := ⟨hnil, strip_strip t, fun hc => h (mem_of_mem_strip hc)⟩
    rw [← canonical_strip, canonical_of_isWord hword, hordered]

/-- Of a chord as it is written the modifiers are left that it names, and its key. -/
theorem canonical_text (s : Writing) :
    canonical s.text = join ['+'] ((Modifier.all.filter fun m => s.Has m).map Modifier.name ++
      [keyName s.key.word]) := by
  have hordered : ordered? s.text =
      some (spell (modifiersOf (s.words.map Padded.word)) (keyName s.key.word)) := by
    rw [ordered?_eq, Writing.wordsBetween_text, Writing.keysOf_words]
    rfl
  have hmodifiers : Modifier.all.filter ((modifiersOf (s.words.map Padded.word)).contains ·) =
      Modifier.all.filter fun m => s.Has m :=
    List.filter_congr fun m _ => by simp [Writing.mem_modifiersOf_words]
  rw [canonical_of_comma_not_mem Writing.comma_not_mem_text, hordered, Option.getD_some, spell,
    wordsFor, hmodifiers]

/-- Every text has one spelling as a chord, which is its own.  The spelling of a key among words that
name modifiers, with blanks around all of them, is made of the modifiers that are named and of the
key's usual spelling; so it is the same for two such texts that name the same modifiers and have the
same key, where the case of a single character, a function key or a key with a name is ignored. -/
theorem canonical_spellings :
    (∀ t, canonical (canonical t) = canonical t) ∧
    (∀ s : Writing,
      canonical s.text = join ['+'] ((Modifier.all.filter fun m => s.Has m).map Modifier.name ++
        [keyName s.key.word])) ∧
    ∀ r s : Writing, (∀ m, r.Has m ↔ s.Has m) →
      r.key.word = s.key.word ∨ IsCaseless r.key.word ∧ SameLetters r.key.word s.key.word →
      canonical r.text = canonical s.text := by
  refine ⟨canonical_canonical, canonical_text, fun r s hmodifiers hkeys => ?_⟩
  have hkey : keyName r.key.word = keyName s.key.word := by
    rcases hkeys with heq | ⟨hcaseless, hletters⟩
    · rw [heq]
    · exact keyName_congr hcaseless hletters
  rw [canonical_text, canonical_text, hkey]
  simp only [hmodifiers]

/-- A chord with a function key, written in two ways. -/
theorem canonical_spellings_functionKey :
    let plain (w : Text) : Padded := ⟨[], w, [], by decide, by decide⟩
    let spaced (w : Text) : Padded := ⟨[' '], w, ['\t', ' '], by decide, by decide⟩
    let r : Writing := ⟨[spaced "cmd".toList], plain "F5".toList, [],
      by decide +kernel, ⟨by decide, by decide, by decide⟩, by decide, by decide +kernel⟩
    let s : Writing := ⟨[plain "META".toList], spaced "f5".toList, [plain "Win".toList],
      by decide +kernel, ⟨by decide, by decide, by decide⟩, by decide, by decide +kernel⟩
    r.text = " cmd\t +F5".toList ∧ s.text = "META+ f5\t +Win".toList ∧
      canonical r.text = "Meta+F5".toList ∧ canonical r.text = canonical s.text := by
  intro plain spaced r s
  obtain ⟨-, hvalue, hsame⟩ := canonical_spellings
  refine ⟨by decide, by decide, ?_, hsame r s ?_ (.inr ⟨.inr (.inl ?_), ?_⟩)⟩
  · rw [hvalue]
    decide +kernel
  · intro m
    cases m <;> decide +kernel
  · decide +kernel
  · decide

end Legible.Keymap
