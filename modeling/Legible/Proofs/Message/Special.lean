import Legible.Message
import Legible.Proofs.Text.Blank
import Legible.Proofs.Text.Parts

/-!
# Special cases of messages

The two special cases are read from what a message quotes.  Where the quoted types and names hold no
apostrophe, they are taken whole from the first place that has the form of the special case, whatever
stands before and behind it, and the rules have no part in the text (`Reworder.prettify_eq_special`).

A word before an apostrophe is described by `QuotesAfter` and an object type with a field by
`HoldsField`: both say how the text is put together, and the message is searched for just that
(`findQuote?_eq_none_iff`, `hasField_iff`).
-/

namespace Legible.Message

open Text

/-! ## Words before an apostrophe -/

/-- Whether one of the words stands somewhere in a text with blanks, at least one, and an apostrophe
behind it. -/
def QuotesAfter (words : List Text) (t : Text) : Prop :=
  ∃ word ∈ words, ∃ before blanks after, blanks ≠ [] ∧ (∀ c ∈ blanks, isBlank c) ∧
    t = before ++ (word ++ blanks ++ '\'' :: after)

variable {words : List Text} {word t : Text} {c : Char}

theorem afterQuote?_eq_some_iff {quoted : Text} :
    afterQuote? word t = some quoted ↔
      ∃ blanks, blanks ≠ [] ∧ (∀ c ∈ blanks, isBlank c) ∧ t = word ++ blanks ++ '\'' :: quoted := by
  unfold afterQuote?
  constructor
  · intro h
    split at h
    · rename_i hword
      obtain ⟨rest, rfl⟩ := isPrefixOf_iff.1 hword
      rw [List.drop_left] at h
      split at h
      · rename_i c rest
        split at h
        · rename_i hc
          split at h
          · rename_i after hstrip
            obtain rfl := Option.some.inj h
            refine ⟨c :: rest.takeWhile isBlank, List.cons_ne_nil _ _, ?_, ?_⟩
            · exact List.forall_mem_cons.2 ⟨hc, fun d hd => List.mem_takeWhile_imp hd⟩
            · have hrest : rest = rest.takeWhile isBlank ++ '\'' :: after := by
                rw [← hstrip, stripLeft, List.takeWhile_append_dropWhile]
              rw [List.append_assoc, List.cons_append, ← hrest]
          · cases h
        · cases h
      · cases h
    · cases h
  · rintro ⟨blanks, hne, hblank, rfl⟩
    obtain ⟨c, blanks, rfl⟩ := List.exists_cons_of_ne_nil hne
    obtain ⟨hc, hblank⟩ := List.forall_mem_cons.1 hblank
    have hstrip : stripLeft (blanks ++ '\'' :: quoted) = '\'' :: quoted :=
      stripLeft_append_cons hblank (by decide) quoted
    rw [if_pos (isPrefixOf_iff.2 (List.append_assoc .. ▸ List.prefix_append ..)), List.append_assoc,
      List.drop_left, List.cons_append]
    dsimp only
    rw [if_pos hc, hstrip]
    rfl

theorem quotesAfter_cons :
    QuotesAfter words (c :: t) ↔
      (∃ word ∈ words, ∃ quoted, afterQuote? word (c :: t) = some quoted) ∨ QuotesAfter words t := by
  constructor
  · rintro ⟨word, hword, before, blanks, after, hne, hblank, heq⟩
    cases before with
    | nil => exact .inl ⟨word, hword, after, afterQuote?_eq_some_iff.2 ⟨blanks, hne, hblank, heq⟩⟩
    | cons d before =>
      exact .inr ⟨word, hword, before, blanks, after, hne, hblank, (List.cons.inj heq).2⟩
  · rintro (⟨word, hword, quoted, h⟩ | ⟨word, hword, before, blanks, after, hne, hblank, rfl⟩)
    · obtain ⟨blanks, hne, hblank, heq⟩ := afterQuote?_eq_some_iff.1 h
      exact ⟨word, hword, [], blanks, quoted, hne, hblank, heq⟩
    · exact ⟨word, hword, c :: before, blanks, after, hne, hblank, rfl⟩

theorem findQuote?_eq_none_iff : findQuote? words t = none ↔ ¬ QuotesAfter words t := by
  induction t with
  | nil =>
    refine iff_of_true rfl ?_
    rintro ⟨word, -, before, blanks, after, -, -, heq⟩
    simp at heq
  | cons c t ih =>
    rw [findQuote?, Option.or_eq_none_iff, List.findSome?_eq_none_iff, ih, quotesAfter_cons, not_or]
    refine and_congr_left' ⟨?_, fun h word hword => ?_⟩
    · rintro h ⟨word, hword, quoted, hquoted⟩
      exact nomatch (h word hword).symm.trans hquoted
    · exact Option.eq_none_iff_forall_ne_some.2 fun quoted hquoted =>
        h ⟨word, hword, quoted, hquoted⟩

/-- A text in which no word stands before an apostrophe is passed over, if the character behind it
cannot stand inside of such a place. -/
theorem findQuote?_append {x : Text} (h : ¬ QuotesAfter words x) (hword : ∀ w ∈ words, c ∉ w.tail)
    (hblank : isBlank c = false) (hquote : c ≠ '\'') (rest : Text) :
    findQuote? words (x ++ c :: rest) = findQuote? words (c :: rest) := by
  induction x with
  | nil => rfl
  | cons d x ih =>
    rw [quotesAfter_cons, not_or] at h
    have hhere : (words.findSome? fun w => afterQuote? w (d :: (x ++ c :: rest))) = none := by
      refine List.findSome?_eq_none_iff.2 fun w hw => ?_
      refine Option.eq_none_iff_forall_ne_some.2 fun quoted hquoted => ?_
      obtain ⟨blanks, hne, hblanks, heq⟩ := afterQuote?_eq_some_iff.1 hquoted
      have hsplit : (w ++ blanks ++ ['\'']) ++ quoted = (d :: x) ++ c :: rest := by
        simpa using heq.symm
      have hrest : c ∉ blanks ++ ['\''] := by
        simp only [List.mem_append, List.mem_singleton, not_or]
        exact ⟨fun hc => Bool.false_ne_true (hblank.symm.trans (hblanks c hc)), hquote⟩
      have htail : c ∉ (w ++ blanks ++ ['\'']).tail := by
        rw [List.append_assoc]
        cases w with
        | nil => exact fun hc => hrest (List.mem_of_mem_tail hc)
        | cons e w => exact fun hc => (List.mem_append.1 hc).elim (hword _ hw) hrest
      obtain ⟨after, hafter⟩ := prefix_of_append_eq hsplit (List.cons_ne_nil d x) htail
      refine h.1 ⟨w, hw, after, afterQuote?_eq_some_iff.2 ⟨blanks, hne, hblanks, ?_⟩⟩
      simpa using hafter.symm
    rw [List.cons_append, findQuote?, hhere, Option.none_or, ih h.2]

/-- The first of the words is found where it begins a text. -/
theorem findQuote?_word (hword : word ≠ []) (rest : Text) :
    findQuote? (word :: words) (word ++ ' ' :: '\'' :: rest) = some rest := by
  have hafter : afterQuote? word (word ++ ' ' :: '\'' :: rest) = some rest :=
    afterQuote?_eq_some_iff.2 ⟨[' '], by simp, by simp [isBlank_space], by simp⟩
  obtain ⟨c, t, ht⟩ :=
    List.exists_cons_of_ne_nil (List.append_ne_nil_of_left_ne_nil hword (' ' :: '\'' :: rest))
  rw [ht] at hafter ⊢
  rw [findQuote?, List.findSome?_cons, hafter]
  rfl

theorem suffix_of_findQuote? {quoted : Text} (h : findQuote? words t = some quoted) :
    quoted <:+ t := by
  induction t with
  | nil => exact nomatch h
  | cons c t ih =>
    rw [findQuote?, Option.or_eq_some_iff] at h
    rcases h with h | ⟨-, h⟩
    · obtain ⟨w, -, hw⟩ := List.exists_of_findSome?_eq_some h
      obtain ⟨blanks, -, -, heq⟩ := afterQuote?_eq_some_iff.1 hw
      exact ⟨w ++ blanks ++ ['\''], by simp [heq]⟩
    · exact (ih h).trans (List.suffix_cons c t)

/-! ## Object types with a field -/

/-- Whether an object type with a field begins a text: a brace, a word, a colon and a character of a
word, with blanks between them or not. -/
def BeginsField (t : Text) : Prop :=
  ∃ left word right space c after, (∀ b ∈ left ++ right ++ space, isBlank b) ∧
    word ≠ [] ∧ (∀ d ∈ word, isWordChar d) ∧ isWordChar c ∧
    t = '\x7b' :: (left ++ (word ++ (right ++ ':' :: (space ++ c :: after))))

/-- Whether an object type with a field stands somewhere in a text. -/
def HoldsField (t : Text) : Prop := ∃ rest, rest <:+ t ∧ BeginsField rest

theorem takeWhile_append_stripLeft (t : Text) : t.takeWhile isBlank ++ stripLeft t = t :=
  List.takeWhile_append_dropWhile

theorem isBlank_of_isWordChar (h : isWordChar c) : isBlank c = false := by
  cases hc : isBlank c with
  | false => rfl
  | true => exact absurd h (by simp [isWordChar_of_isBlank hc])

theorem beginsField_iff : beginsField t ↔ BeginsField t := by
  unfold beginsField
  constructor
  · intro h
    split at h
    · rename_i rest
      dsimp only at h
      split at h
      · rename_i d word more hword hcolon
        split at h
        · rename_i c after hc
          refine ⟨rest.takeWhile isBlank, d :: word,
            ((stripLeft rest).dropWhile isWordChar).takeWhile isBlank, more.takeWhile isBlank, c,
            after, ?_, List.cons_ne_nil d word, ?_, h, ?_⟩
          · intro b hb
            simp only [List.mem_append] at hb
            rcases hb with (hb | hb) | hb <;> exact List.mem_takeWhile_imp hb
          · intro e he
            exact List.mem_takeWhile_imp (hword ▸ he)
          · rw [← hc, takeWhile_append_stripLeft, ← hcolon, takeWhile_append_stripLeft, ← hword,
              List.takeWhile_append_dropWhile, takeWhile_append_stripLeft]
        · exact nomatch h
      · exact nomatch h
    · exact nomatch h
  · rintro ⟨left, word, right, space, c, after, hblank, hne, hword, hc, rfl⟩
    obtain ⟨d, word, rfl⟩ := List.exists_cons_of_ne_nil hne
    simp only [List.mem_append, or_imp, forall_and] at hblank
    obtain ⟨⟨hleft, hright⟩, hspace⟩ := hblank
    have hstop : (right ++ ':' :: (space ++ c :: after)).takeWhile isWordChar = [] := by
      cases right with
      | nil => exact List.takeWhile_cons_of_neg (by decide)
      | cons b right =>
        exact List.takeWhile_cons_of_neg
          (by simp [isWordChar_of_isBlank (hright b List.mem_cons_self)])
    have hdrop : (right ++ ':' :: (space ++ c :: after)).dropWhile isWordChar =
        right ++ ':' :: (space ++ c :: after) := by
      conv_rhs => rw [← List.takeWhile_append_dropWhile (p := isWordChar)
        (l := right ++ ':' :: (space ++ c :: after)), hstop, List.nil_append]
    have hbegin : stripLeft (left ++ (d :: word ++ (right ++ ':' :: (space ++ c :: after)))) =
        d :: word ++ (right ++ ':' :: (space ++ c :: after)) :=
      stripLeft_append_cons hleft (isBlank_of_isWordChar (hword d List.mem_cons_self)) _
    have hcolon : stripLeft (right ++ ':' :: (space ++ c :: after)) = ':' :: (space ++ c :: after) :=
      stripLeft_append_cons hright (by decide) _
    have hlast : stripLeft (space ++ c :: after) = c :: after :=
      stripLeft_append_cons hspace (isBlank_of_isWordChar hc) _
    simp only [hbegin, List.takeWhile_append_of_pos hword, List.dropWhile_append_of_pos hword, hstop,
      hdrop, hcolon, hlast, List.append_nil, hc]

theorem hasField_iff : hasField t ↔ HoldsField t := by
  induction t with
  | nil =>
    refine iff_of_false Bool.false_ne_true ?_
    rintro ⟨rest, hrest, left, word, right, space, c, after, -, -, -, -, rfl⟩
    exact nomatch List.suffix_nil.1 hrest
  | cons c t ih =>
    rw [hasField, Bool.or_eq_true, beginsField_iff, ih]
    constructor
    · rintro (h | ⟨rest, hrest, h⟩)
      · exact ⟨c :: t, List.suffix_rfl, h⟩
      · exact ⟨rest, hrest.trans (List.suffix_cons c t), h⟩
    · rintro ⟨rest, hrest, h⟩
      rcases List.suffix_cons_iff.1 hrest with rfl | hrest
      · exact .inl h
      · exact .inr ⟨rest, hrest, h⟩

/-! ## What is read from a message -/

/-- A message about a type that does not fit another, with a text before and behind it. -/
def mismatchMessage (before given expected after : Text) : Text :=
  before ++ "Type '".toList ++ given ++ "' is not assignable to type '".toList ++ expected ++
    '\'' :: after

/-- A message about a missing property, with a text before and behind it. -/
def missingMessage (before property actual required after : Text) : Text :=
  before ++ "Property '".toList ++ property ++ "' is missing in type '".toList ++ actual ++
    "' but required in type '".toList ++ required ++ '\'' :: after

variable {before given expected property actual required : Text}

/-- The types are the quoted ones, whatever stands before them that does not quote a type. -/
theorem mismatch?_mismatchMessage
    (hbefore : ¬ QuotesAfter ["Type".toList, "type".toList] before) (hgiven : '\'' ∉ given)
    (hexpected : '\'' ∉ expected) (after : Text) :
    mismatch? (mismatchMessage before given expected after) = some (given, expected) := by
  have hfirst : findQuote? ["Type".toList, "type".toList]
      (mismatchMessage before given expected after) =
        some (given ++ ("' is not assignable to".toList ++
          (" type '".toList ++ (expected ++ '\'' :: after)))) := by
    have htype : "Type '".toList = 'T' :: ("ype".toList ++ [' ', '\'']) := rfl
    have hmiddle : "' is not assignable to type '".toList =
      "' is not assignable to".toList ++ " type '".toList := rfl
    have hword : "Type".toList = 'T' :: "ype".toList := rfl
    simp only [mismatchMessage, htype, hmiddle, List.append_assoc, List.cons_append]
    rw [findQuote?_append hbefore (by decide) (by decide) (by decide), ← List.cons_append, ← hword]
    exact findQuote?_word (by decide) _
  have hgivenCut : cutAtPart? "' is not assignable to".toList (given ++
      ("' is not assignable to".toList ++ (" type '".toList ++ (expected ++ '\'' :: after)))) =
        some (given, " type '".toList ++ (expected ++ '\'' :: after)) :=
    cutAtPart?_of_not_mem hgiven _
  have hsecond : findQuote? ["type".toList] (" type '".toList ++ (expected ++ '\'' :: after)) =
      some (expected ++ '\'' :: after) := by
    have hspace : ¬ QuotesAfter ["type".toList] [' '] := findQuote?_eq_none_iff.1 (by decide)
    exact (findQuote?_append hspace (by decide) (by decide) (by decide) _).trans
      (findQuote?_word (by decide) _)
  have hexpectedCut : cutAt? '\'' (expected ++ '\'' :: after) = some (expected, after) :=
    cutAt?_eq_some_iff.2 ⟨rfl, hexpected⟩
  simp only [mismatch?, hfirst, hgivenCut, hsecond, hexpectedCut, Option.bind_eq_bind,
    Option.bind_some, Option.pure_def]

theorem mismatch?_eq_none (h : ¬ "' is not assignable to".toList <:+: t) : mismatch? t = none := by
  rw [mismatch?]
  cases hquote : findQuote? ["Type".toList, "type".toList] t with
  | none => rfl
  | some quoted =>
    have hquoted : ¬ "' is not assignable to".toList <:+: quoted := fun hpart =>
      h (hpart.trans (suffix_of_findQuote? hquote).isInfix)
    rw [Option.bind_eq_bind, Option.bind_some, cutAtPart?_eq_none_iff.2 hquoted]
    rfl

/-- The property and the types are the quoted ones, whatever stands before them that does not begin
to tell of a property. -/
theorem missing?_missingMessage (hbefore : ¬ "Property '".toList <:+: before)
    (hproperty : '\'' ∉ property) (hactual : '\'' ∉ actual) (hrequired : '\'' ∉ required)
    (after : Text) :
    missing? (missingMessage before property actual required after) =
      some (property, actual, required) := by
  have hfirst : cutAtPart? "Property '".toList
      (missingMessage before property actual required after) =
        some (before, property ++ ("' is missing in type '".toList ++ (actual ++
          ("' but required in type '".toList ++ (required ++ '\'' :: after))))) := by
    simp only [missingMessage, List.append_assoc]
    exact cutAtPart?_of_not_infix (by decide) hbefore _
  have hpropertyCut : cutAtPart? "' is missing in type '".toList
      (property ++ ("' is missing in type '".toList ++ (actual ++
        ("' but required in type '".toList ++ (required ++ '\'' :: after))))) =
      some (property, actual ++ ("' but required in type '".toList ++ (required ++ '\'' :: after))) :=
    cutAtPart?_of_not_mem hproperty _
  have hactualCut : cutAtPart? "' but required in type '".toList
      (actual ++ ("' but required in type '".toList ++ (required ++ '\'' :: after))) =
        some (actual, required ++ '\'' :: after) :=
    cutAtPart?_of_not_mem hactual _
  have hrequiredCut : cutAt? '\'' (required ++ '\'' :: after) = some (required, after) :=
    cutAt?_eq_some_iff.2 ⟨rfl, hrequired⟩
  simp only [missing?, hfirst, hpropertyCut, hactualCut, hrequiredCut, Option.bind_eq_bind,
    Option.bind_some, Option.pure_def]

/-! ## Rewording -/

namespace Reworder

/-- A special case is the text of the message, and no rule is applied. -/
theorem prettify_of_find? (r : Reworder) {special : SpecialCase} {text : Text}
    (h : SpecialCase.find? t = some (special, text)) :
    r.canApply t ∧ (r.prettify t).special.map SpecialCase.name = some special.name ∧
      (r.prettify t).text = (if r.leadSpecial then r.lead else []) ++ text := by
  refine ⟨?_, ?_, ?_⟩
  · rw [canApply, h]
    rfl
  · rw [prettify, h]
    rfl
  · rw [prettify, h]
    cases r.leadSpecial <;> rfl

/-- The first types that a message says not to fit are reworded as they are quoted, if an object
type with a field stands somewhere in the message.  So are the first property that is said to be
missing and its types, if no types are said not to fit.  What stands around does not matter, and
neither do the rules. -/
theorem prettify_eq_special (r : Reworder) {a b p : Text} (ha : '\'' ∉ a) (hb : '\'' ∉ b)
    (hp : '\'' ∉ p) (x y : Text) :
    (¬ QuotesAfter ["Type".toList, "type".toList] x → HoldsField (mismatchMessage x a b y) →
      r.canApply (mismatchMessage x a b y) ∧
      (r.prettify (mismatchMessage x a b y)).special.map SpecialCase.name =
        some "assignability".toList ∧
      (r.prettify (mismatchMessage x a b y)).text =
        (if r.leadSpecial then r.lead else []) ++
          ("Type mismatch:\n\nProvided:\n".toList ++ TypeLayout.layout a ++
            "\n\nExpected:\n".toList ++ TypeLayout.layout b)) ∧
    (¬ "Property '".toList <:+: x → ¬ "is not assignable".toList <:+: missingMessage x p a b y →
      r.canApply (missingMessage x p a b y) ∧
      (r.prettify (missingMessage x p a b y)).special.map SpecialCase.name =
        some "missing_property".toList ∧
      (r.prettify (missingMessage x p a b y)).text =
        (if r.leadSpecial then r.lead else []) ++
          ("Property ".toList ++ p ++ " is missing in type:\n\n".toList ++ TypeLayout.layout a ++
            "\n\nbut required in type:\n\n".toList ++ TypeLayout.layout b)) := by
  constructor
  · intro hx hfield
    have hfind : SpecialCase.find? (mismatchMessage x a b y) =
        some (.assignability, "Type mismatch:\n\nProvided:\n".toList ++ TypeLayout.layout a ++
          "\n\nExpected:\n".toList ++ TypeLayout.layout b) := by
      rw [SpecialCase.find?, assignability?, if_pos (hasField_iff.2 hfield),
        mismatch?_mismatchMessage hx ha hb]
      rfl
    exact r.prettify_of_find? hfind
  · intro hx hassignable
    have hpart : "is not assignable".toList <:+: "' is not assignable to".toList :=
      ⟨"' ".toList, " to".toList, rfl⟩
    have hmismatch : mismatch? (missingMessage x p a b y) = none :=
      mismatch?_eq_none fun h => hassignable (hpart.trans h)
    have hfind : SpecialCase.find? (missingMessage x p a b y) =
        some (.missingProperty, "Property ".toList ++ p ++ " is missing in type:\n\n".toList ++
          TypeLayout.layout a ++ "\n\nbut required in type:\n\n".toList ++
            TypeLayout.layout b) := by
      rw [SpecialCase.find?, assignability?, hmismatch, Option.map_none, ite_self, missingProperty?,
        missing?_missingMessage hx hp ha hb]
      rfl
    exact r.prettify_of_find? hfind

/-- Quoted names around and a word that runs into the message do not matter, and neither does a rule
that would put a letter before every character. -/
theorem prettify_eq_special_crowded :
    let r : Reworder := ⟨"→ ".toList, true, false,
      [⟨⟨[], ['x']⟩, ⟨.empty, 0, none⟩, [.text ['x']]⟩]⟩
    let a := "\x7b k: T; \x7d".toList
    let before := "'x', type".toList
    let after := " Type 'c'".toList
    let first := mismatchMessage before a "Type".toList after
    let second := missingMessage before ['k'] a "Type".toList after
    first = ("'x', typeType '\x7b k: T; \x7d' is not assignable to type 'Type' Type 'c'").toList ∧
    ¬ QuotesAfter ["Type".toList, "type".toList] before ∧ HoldsField first ∧
    ¬ "Property '".toList <:+: before ∧ ¬ "is not assignable".toList <:+: second ∧
    (r.prettify first).text =
      "→ Type mismatch:\n\nProvided:\n\x7b\n  k: T;\n\x7d\n\nExpected:\nType".toList ∧
    (r.prettify second).text = ("→ Property k is missing in type:\n\n" ++
      "\x7b\n  k: T;\n\x7d\n\nbut required in type:\n\nType").toList := by
  intro r a before after first second
  have hquotes : ¬ QuotesAfter ["Type".toList, "type".toList] before :=
    findQuote?_eq_none_iff.1 (by decide)
  have hfield : HoldsField first := hasField_iff.1 (by decide +kernel)
  have hproperty : ¬ "Property '".toList <:+: before := cutAtPart?_eq_none_iff.1 (by decide)
  have hassignable : ¬ "is not assignable".toList <:+: second :=
    cutAtPart?_eq_none_iff.1 (by decide +kernel)
  have hspecial := r.prettify_eq_special (a := a) (b := "Type".toList) (p := ['k']) (by decide)
    (by decide) (by decide) before after
  refine ⟨by decide +kernel, hquotes, hfield, hproperty, hassignable, ?_, ?_⟩
  · rw [(hspecial.1 hquotes hfield).2.2]
    decide +kernel
  · rw [(hspecial.2 hproperty hassignable).2.2]
    decide +kernel

end Reworder

end Legible.Message
