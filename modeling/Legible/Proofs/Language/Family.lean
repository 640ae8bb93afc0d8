import Legible.Language
import Legible.Proofs.Text.Case
import Legible.Proofs.Text.Lines
import Legible.Proofs.Text.Parts

/-!
# Files of the family

Whether a file belongs to the family is told by the suffix of its path as it stands, and its
language by the suffix of its path without the blanks around it.  So the two agree but for blanks:
one at the end of a path belongs to the suffix, and those before a path that is nothing but a suffix
make it the suffix of a name (`isFamily_iff_isSupported`).
-/

namespace Legible

variable {c : Char} {s t n p e piece blanks : Text} {rest : List Text}

/-! ## Last names -/

namespace Path

open Text

theorem suffixOfName_of_not_mem (h : '.' ∉ n) : suffixOfName n = [] := by
  rw [suffixOfName, afterLast_of_not_mem h]
  exact if_pos (by simp)

theorem suffixOfName_append_cons (he : '.' ∉ e) (s : Text) :
    suffixOfName (s ++ '.' :: e) = if e = [] ∨ s = [] then [] else '.' :: e := by
  rw [suffixOfName, afterLast_append_cons he]
  refine if_congr ?_ rfl rfl
  rw [Bool.or_eq_true, List.isEmpty_iff, decide_eq_true_iff, List.length_append, List.length_cons,
    ← List.length_eq_zero_iff (l := s)]
  exact or_congr Iff.rfl (by omega)

theorem suffixOfName_cases (n : Text) :
    suffixOfName n = [] ∨ suffixOfName n = '.' :: afterLast '.' n := by
  rw [suffixOfName]
  split
  · exact .inl rfl
  · exact .inr rfl

/-- A front without dots changes the suffix of a name only if the name begins with its last dot. -/
theorem suffixOfName_append (hs : s ≠ []) (hdot : '.' ∉ s) (n : Text) :
    suffixOfName (s ++ n) = suffixOfName n ∨ suffixOfName (s ++ n) = n ∧ suffixOfName n = [] := by
  by_cases hn : '.' ∈ n
  · obtain ⟨front, e, rfl, he⟩ := exists_last_of_mem hn
    rw [← List.append_assoc, suffixOfName_append_cons he, suffixOfName_append_cons he]
    have hne : s ++ front ≠ [] := List.append_ne_nil_of_left_ne_nil hs front
    by_cases hnil : e = []
    · rw [if_pos (.inl hnil), if_pos (.inl hnil)]
      exact .inl rfl
    · rw [if_neg (not_or.2 ⟨hnil, hne⟩)]
      by_cases hfront : front = []
      · subst hfront
        exact .inr ⟨rfl, if_pos (.inr rfl)⟩
      · rw [if_neg (not_or.2 ⟨hnil, hfront⟩)]
        exact .inl rfl
  · have hboth : '.' ∉ s ++ n := fun h => (List.mem_append.1 h).elim hdot hn
    rw [suffixOfName_of_not_mem hn, suffixOfName_of_not_mem hboth]
    exact .inl rfl

/-- Whether a piece of a path is one of its names. -/
def isName (n : Text) : Bool := !n.isEmpty && n ≠ ['.']

theorem isName_of_mem (h : c ∈ n) (hc : c ≠ '.') : isName n = true := by
  have hne : n ≠ [] := List.ne_nil_of_mem h
  have hdot : n ≠ ['.'] := by
    rintro rfl
    exact hc (List.mem_singleton.1 h)
  simp [isName, hne, hdot]

theorem names_eq (p : Text) : names p = (splitOn '/' p).filter isName := rfl

theorem lastName_of_split (front : List Text) {back : List Text} (h : splitOn '/' p = front ++ back)
    (hne : back.filter isName ≠ []) : lastName p = ((back.filter isName).getLast?).getD [] := by
  rw [lastName, names_eq, h, List.filter_append, List.getLast?_append_of_ne_nil _ hne]

theorem suffix_of_split (h : splitOn '/' p = piece :: rest) (hrest : rest.filter isName = []) :
    suffix p = suffixOfName piece := by
  rw [suffix, lastName, names_eq, h, List.filter_cons, hrest]
  by_cases hname : isName piece
  · rw [if_pos hname]
    rfl
  · rw [if_neg hname]
    have hnone : piece = [] ∨ piece = ['.'] := by
      by_contra hnot
      rw [not_or] at hnot
      exact hname (by simp [isName, hnot])
    rcases hnone with rfl | rfl
    · rfl
    · rfl

theorem exists_lastName_concat (hslash : c ≠ '/') (hdot : c ≠ '.') (t : Text) :
    ∃ name, lastName (t ++ [c]) = name ++ [c] := by
  obtain ⟨front, piece, hsplit⟩ := splitOn_concat hslash t
  have hname : isName (piece ++ [c]) = true :=
    isName_of_mem (List.mem_append_right piece List.mem_cons_self) hdot
  have hfilter : [piece ++ [c]].filter isName = [piece ++ [c]] := List.filter_cons_of_pos hname
  refine ⟨piece, ?_⟩
  rw [lastName_of_split front hsplit (by rw [hfilter]; exact List.cons_ne_nil _ _), hfilter]
  rfl

end Path

namespace Language

open Text

/-! ## Suffixes of the family -/

/-- The suffixes are a dot and letters of ASCII, so that only their capitals are other ways to write
them. -/
theorem exists_of_ofSuffix? (h : (ofSuffix? s).isSome) :
    ∃ r ∈ bySuffix, s.map Char.toLower = r.1 := by
  have htable : ∀ r ∈ bySuffix, r.1.all fun x => x.toNat < 0x80 && x ≠ 'k' := by decide
  obtain ⟨r, hr, hlower⟩ := List.lookup_isSome_iff.1 h
  have hplain : ∀ x ∈ r.1, IsPlain x := by
    intro x hx
    have hx := List.all_eq_true.1 (htable r hr) x hx
    rw [Bool.and_eq_true, decide_eq_true_iff, decide_eq_true_iff] at hx
    exact isPlain_of_ascii hx.1 hx.2
  exact ⟨r, hr, map_toLower_of_lower hplain (eq_of_beq hlower)⟩

/-- No suffix of the family has a blank, or a dot behind its first character. -/
theorem shape_of_ofSuffix? (h : (ofSuffix? s).isSome) :
    (∀ c ∈ s, isBlank c = false) ∧ ∃ e, s = '.' :: e ∧ e ≠ [] ∧ '.' ∉ e := by
  have htable : ∀ r ∈ bySuffix, (r.1.all fun c => !isBlank c) ∧
      r.1.head? = some '.' ∧ r.1.tail ≠ [] ∧ '.' ∉ r.1.tail := by decide
  have hblank := congr_toLower (f := isBlank) (by decide +kernel)
  have hdot := congr_toLower (f := fun c => decide (c = '.')) (by decide +kernel)
  obtain ⟨r, hr, hletters⟩ := exists_of_ofSuffix? h
  obtain ⟨hblanks, hhead, htail, hnodot⟩ := htable r hr
  rw [← hletters] at hblanks hhead htail hnodot
  refine ⟨fun c hc => ?_, ?_⟩
  · have hno := List.all_eq_true.1 hblanks c.toLower (List.mem_map_of_mem hc)
    rwa [hblank c, Bool.not_eq_true'] at hno
  · cases s with
    | nil => exact absurd hhead nofun
    | cons d e =>
      have hd : d = '.' :=
        of_decide_eq_true ((hdot d).symm.trans (decide_eq_true (Option.some.inj hhead)))
      refine ⟨e, by rw [hd], ?_, fun he => hnodot ?_⟩
      · rintro rfl
        exact htail rfl
      · exact List.mem_map.2 ⟨'.', he, rfl⟩

theorem isSupported_of_mem (h : s ∈ supported) : isSupported s = true := by
  have htable : ∀ kind ∈ supported, strip kind = kind ∧ (kind.all fun c => c.toNat < 0x80) ∧
      kind.map Char.toLower = kind := by decide
  obtain ⟨hstrip, hall, hletters⟩ := htable s h
  have hascii : ∀ c ∈ s, c.toNat < 0x80 := fun c hc =>
    of_decide_eq_true (List.all_eq_true.1 hall c hc)
  rw [isSupported, hstrip, lower_of_ascii hascii, hletters]
  exact List.contains_iff_mem.2 h

/-- The languages of the family are those that the popup serves. -/
theorem isSupported_ofPath (p : Text) : isSupported (ofPath p plain) = isFamily (strip p) := by
  have htable : ∀ r ∈ bySuffix, r.2 ∈ supported := by decide
  rw [ofPath, isFamily]
  cases hlookup : ofSuffix? (Path.suffix (strip p)) with
  | none => decide +kernel
  | some language =>
    obtain ⟨front, back, hsplit, -⟩ := List.lookup_eq_some_iff.1 hlookup
    have hmem := htable _ (hsplit ▸ List.mem_append_right front List.mem_cons_self)
    exact isSupported_of_mem hmem

/-- With a front before it, a name that is nothing but a suffix of the family has this suffix; no
other name gains or loses one. -/
theorem ofSuffix?_suffixOfName_append (hs : s ≠ []) (hdot : '.' ∉ s) (n : Text) :
    ((ofSuffix? n).isSome ∧ (ofSuffix? (Path.suffixOfName (s ++ n))).isSome = true ∧
      (ofSuffix? (Path.suffixOfName n)).isSome = false) ∨
    (¬ (ofSuffix? n).isSome ∧ (ofSuffix? (Path.suffixOfName (s ++ n))).isSome =
      (ofSuffix? (Path.suffixOfName n)).isSome) := by
  by_cases hsome : (ofSuffix? n).isSome
  · obtain ⟨-, e, rfl, he, hnodot⟩ := shape_of_ofSuffix? hsome
    have hbare : Path.suffixOfName ('.' :: e) = [] :=
      (Path.suffixOfName_append_cons hnodot []).trans (if_pos (.inr rfl))
    rw [Path.suffixOfName_append_cons hnodot, if_neg (not_or.2 ⟨he, hs⟩), hbare]
    exact .inl ⟨hsome, hsome, rfl⟩
  · refine .inr ⟨hsome, ?_⟩
    rcases Path.suffixOfName_append hs hdot n with h | ⟨h, hnil⟩
    · rw [h]
    · rw [h, hnil, Bool.eq_false_of_not_eq_true hsome]
      rfl

/-! ## Blanks around a path -/

theorem isBlank_ne {d : Char} (hc : isBlank c) (hd : isBlank d = false) : c ≠ d := by
  rintro rfl
  exact absurd hc (by simp [hd])

theorem not_mem_blanks (h : ∀ d ∈ blanks, isBlank d) (hc : isBlank c = false) : c ∉ blanks :=
  fun hmem => isBlank_ne (h c hmem) hc rfl

theorem isFamily_concat_blank (hc : isBlank c) (t : Text) : isFamily (t ++ [c]) = false := by
  have hslash : c ≠ '/' := isBlank_ne hc (by decide)
  have hdot : c ≠ '.' := isBlank_ne hc (by decide)
  obtain ⟨name, hname⟩ := Path.exists_lastName_concat hslash hdot t
  rw [isFamily, Path.suffix, hname]
  rcases Path.suffixOfName_cases (name ++ [c]) with h | h
  · rw [h]
    rfl
  · rw [h, afterLast_concat hdot]
    by_contra hsome
    have hno := (shape_of_ofSuffix? (Bool.eq_true_of_not_eq_false hsome)).1 c (by simp)
    exact absurd hc (by simp [hno])

/-- A path of the family but for a blank at its end. -/
structure EndsBlank (p : Text) : Prop where
  blank : ∃ c ∈ p.getLast?, isBlank c
  family : isFamily (strip p)

/-- A path that begins with a blank, and whose only name is a suffix of the family behind blanks. -/
structure BeginsBlank (p : Text) : Prop where
  blank : ∃ c ∈ p.head?, isBlank c
  name : ∃ name, Path.names p = [name] ∧ (ofSuffix? (stripLeft name)).isSome

theorem stripLeft_piece (h : splitOn '/' t = piece :: rest) (ht : stripLeft t = t) :
    stripLeft piece = piece := by
  cases piece with
  | nil => rfl
  | cons d piece =>
    obtain ⟨more, hmore⟩ : ∃ more, t = d :: more := by
      rw [← join_splitOn '/' t, h]
      cases rest with
      | nil => exact ⟨_, rfl⟩
      | cons next rest => exact ⟨_, rfl⟩
    have hd : isBlank d = false := isBlank_head (hmore ▸ ht)
    exact List.dropWhile_cons_of_neg (by simp [hd])

section Front

variable (hne : blanks ≠ []) (hblanks : ∀ c ∈ blanks, isBlank c)
include hne hblanks

/-- Blanks before a path belong to its first piece, which is a name with them. -/
theorem names_append (h : splitOn '/' t = piece :: rest) :
    Path.names (blanks ++ t) = (blanks ++ piece) :: rest.filter Path.isName := by
  obtain ⟨b, more, rfl⟩ := List.exists_cons_of_ne_nil hne
  have hb : b ≠ '.' := isBlank_ne (hblanks b List.mem_cons_self) (by decide)
  have hname : Path.isName (b :: more ++ piece) = true := Path.isName_of_mem List.mem_cons_self hb
  rw [Path.names_eq, splitOn_append (not_mem_blanks hblanks (by decide)) h,
    List.filter_cons_of_pos hname]

theorem beginsBlank_append_iff (ht : stripLeft t = t) (h : splitOn '/' t = piece :: rest) :
    BeginsBlank (blanks ++ t) ↔ rest.filter Path.isName = [] ∧ (ofSuffix? piece).isSome := by
  have hnames := names_append hne hblanks h
  have hstrip : stripLeft (blanks ++ piece) = piece := by
    rw [stripLeft, List.dropWhile_append_of_pos hblanks]
    exact stripLeft_piece h ht
  constructor
  · rintro ⟨-, name, hsame, hsome⟩
    obtain ⟨rfl, hrest⟩ := List.cons.inj (hnames.symm.trans hsame)
    rw [hstrip] at hsome
    exact ⟨hrest, hsome⟩
  · rintro ⟨hrest, hsome⟩
    obtain ⟨b, more, rfl⟩ := List.exists_cons_of_ne_nil hne
    refine ⟨⟨b, rfl, hblanks b List.mem_cons_self⟩, _, hrest ▸ hnames, ?_⟩
    rwa [hstrip]

/-- They matter only if the path is nothing but a suffix of the family. -/
theorem isFamily_append (ht : stripLeft t = t) :
    (BeginsBlank (blanks ++ t) ∧ isFamily (blanks ++ t) = true ∧ isFamily t = false) ∨
      (¬ BeginsBlank (blanks ++ t) ∧ isFamily (blanks ++ t) = isFamily t) := by
  obtain ⟨piece, rest, hsplit⟩ := List.exists_cons_of_ne_nil (splitOn_ne_nil '/' t)
  have hall := splitOn_append (not_mem_blanks hblanks (by decide)) hsplit
  rw [beginsBlank_append_iff hne hblanks ht hsplit]
  by_cases hrest : rest.filter Path.isName = []
  · rw [isFamily, isFamily, Path.suffix_of_split hsplit hrest, Path.suffix_of_split hall hrest,
      and_iff_right hrest]
    exact ofSuffix?_suffixOfName_append hne (not_mem_blanks hblanks (by decide)) piece
  · have hlast : Path.lastName (blanks ++ t) = Path.lastName t := by
      rw [Path.lastName_of_split [blanks ++ piece] hall hrest,
        Path.lastName_of_split [piece] hsplit hrest]
    refine .inr ⟨fun h => hrest h.1, ?_⟩
    rw [isFamily, isFamily, Path.suffix, Path.suffix, hlast]

end Front

theorem not_beginsBlank_of_stripLeft (h : stripLeft p = p) : ¬ BeginsBlank p := by
  rintro ⟨⟨c, hhead, hc⟩, -⟩
  obtain ⟨t, rfl⟩ := List.head?_eq_some_iff.1 hhead
  exact absurd hc (by simp [isBlank_head h])

theorem isFamily_stripLeft (p : Text) :
    (BeginsBlank p ∧ isFamily p = true ∧ isFamily (stripLeft p) = false) ∨
      (¬ BeginsBlank p ∧ isFamily p = isFamily (stripLeft p)) := by
  have hsplit : p.takeWhile isBlank ++ stripLeft p = p := List.takeWhile_append_dropWhile
  by_cases hne : p.takeWhile isBlank = []
  · have hself : stripLeft p = p := by rwa [hne] at hsplit
    exact .inr ⟨not_beginsBlank_of_stripLeft hself, by rw [hself]⟩
  · have hblanks : ∀ c ∈ p.takeWhile isBlank, isBlank c := fun c hc => List.mem_takeWhile_imp hc
    have hcases := isFamily_append hne hblanks (stripLeft_stripLeft p)
    rwa [hsplit] at hcases

theorem not_beginsBlank_concat (hc : isBlank c) (t : Text) : ¬ BeginsBlank (t ++ [c]) := by
  rintro ⟨-, name, hnames, hsome⟩
  obtain ⟨front, hlast⟩ := Path.exists_lastName_concat (isBlank_ne hc (by decide))
    (isBlank_ne hc (by decide)) t
  rw [Path.lastName, hnames] at hlast
  obtain rfl : name = front ++ [c] := hlast
  rw [stripLeft, List.dropWhile_append] at hsome
  split at hsome
  · rw [List.dropWhile_cons_of_pos hc] at hsome
    exact absurd hsome (by decide)
  · have hno := (shape_of_ofSuffix? hsome).1 c (List.mem_append_right _ List.mem_cons_self)
    exact absurd hc (by simp [hno])

/-- Where the family of a path and that of the path without the blanks around it differ. -/
theorem isFamily_cases (p : Text) :
    (BeginsBlank p ∧ ¬ EndsBlank p ∧ isFamily p = true ∧ isFamily (strip p) = false) ∨
    (EndsBlank p ∧ ¬ BeginsBlank p ∧ isFamily p = false ∧ isFamily (strip p) = true) ∨
    (¬ BeginsBlank p ∧ ¬ EndsBlank p ∧ isFamily p = isFamily (strip p)) := by
  rcases List.eq_nil_or_concat' p with rfl | ⟨t, c, rfl⟩
  · have hends : ¬ EndsBlank [] := fun h => absurd h.family (by decide)
    exact .inr (.inr ⟨not_beginsBlank_of_stripLeft rfl, hends, rfl⟩)
  by_cases hc : isBlank c
  · rw [isFamily_concat_blank hc]
    have hbegins := not_beginsBlank_concat hc t
    by_cases hfamily : isFamily (strip (t ++ [c]))
    · exact .inr (.inl ⟨⟨⟨c, List.getLast?_concat, hc⟩, hfamily⟩, hbegins, rfl, hfamily⟩)
    · have hends : ¬ EndsBlank (t ++ [c]) := fun h => hfamily h.family
      exact .inr (.inr ⟨hbegins, hends, (Bool.eq_false_of_not_eq_true hfamily).symm⟩)
  · have hends : ¬ EndsBlank (t ++ [c]) := by
      rintro ⟨⟨d, hlast, hd⟩, -⟩
      rw [List.getLast?_concat] at hlast
      exact hc (Option.some.inj hlast ▸ hd)
    have hstrip : strip (t ++ [c]) = stripLeft (t ++ [c]) := by
      rw [strip, ← stripLeft_stripRight, stripRight_concat, if_neg hc]
    rw [hstrip]
    rcases isFamily_stripLeft (t ++ [c]) with ⟨hbegins, hfamily, hnot⟩ | ⟨hbegins, hsame⟩
    · exact .inl ⟨hbegins, hends, hfamily, hnot⟩
    · exact .inr (.inr ⟨hbegins, hends, hsame⟩)

theorem not_beginsBlank_of_isAbsolute (h : Path.isAbsolute p) : ¬ BeginsBlank p := by
  unfold Path.isAbsolute at h
  split at h
  · exact not_beginsBlank_of_stripLeft (List.dropWhile_cons_of_neg (by decide))
  · exact absurd h Bool.false_ne_true

/-- The family has a file just if the popup serves documents of its language, unless there is a
blank at the end of a path that belongs to the family otherwise, or the path is nothing but a suffix
of the family behind blanks.  In the first case only the popup takes the file for one of the family,
and in the second one only the workspace does.  No absolute path is of the second kind. -/
theorem isFamily_iff_isSupported (p : Text) :
    ((isFamily p ↔ isSupported (ofPath p plain)) ↔ ¬ EndsBlank p ∧ ¬ BeginsBlank p) ∧
    (isSupported (ofPath p plain) ∧ ¬ isFamily p ↔ EndsBlank p) ∧
    (isFamily p ∧ ¬ isSupported (ofPath p plain) ↔ BeginsBlank p) ∧
    ¬ (Path.isAbsolute p ∧ BeginsBlank p) := by
  have habsolute : ¬ (Path.isAbsolute p ∧ BeginsBlank p) := fun h =>
    not_beginsBlank_of_isAbsolute h.1 h.2
  rw [isSupported_ofPath, ← and_assoc, ← and_assoc]
  refine ⟨?_, habsolute⟩
  rcases isFamily_cases p with ⟨hbegins, hends, hp, hstrip⟩ | ⟨hends, hbegins, hp, hstrip⟩ |
    ⟨hbegins, hends, hsame⟩
  · simp [hbegins, hends, hp, hstrip]
  · simp [hbegins, hends, hp, hstrip]
  · simp [hbegins, hends, hsame]

/-- A file with a blank behind its name is served by the popup and not by the workspace; for a
suffix alone behind a blank it is the other way round. -/
theorem isFamily_blank :
    (isSupported (ofPath "a.ts ".toList plain) ∧ ¬ isFamily "a.ts ".toList) ∧
    (isFamily " .ts".toList ∧ ¬ isSupported (ofPath " .ts".toList plain)) := by
  decide +kernel

end Language

end Legible
