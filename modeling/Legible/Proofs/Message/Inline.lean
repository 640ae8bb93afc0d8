import Legible.TypeLayout
import Legible.Proofs.Text.Blank
import Mathlib.Data.List.TakeWhile

/-!
# Blocks inside a line

`expandInline` moves the blocks that follow a colon in a line onto lines of their own.  `Expands`
says what that means: the line is gone through from the left, where a block after a colon begins the
whole of it is replaced, and everywhere else one character is kept.  It is stated for any kind of
characters that a block may hold between its braces.

A block of `expandInline` ends with the first closing brace, so it may hold any character but that
(`expands_expandInline`), an opening brace among them.  The blocks without any brace between theirs
are what is moved exactly as long as no block that is moved holds one: for a block that does, the
line goes on behind its colon as it was, and not with a line break
(`Expands.not_mem_of_lineBreak`).
-/

namespace Legible.TypeLayout

variable {allowed : Char → Prop} {blanks inside t rest out : Text} {found plain : List Text}

/-- A block with a text between its braces. -/
def block (inside : Text) : Text := '\x7b' :: inside ++ ['\x7d']

/-- Whether a block may follow a colon and some blanks, where it may hold the allowed characters. -/
structure IsInline (allowed : Char → Prop) (blanks inside : Text) : Prop where
  blank : ∀ c ∈ blanks, Text.isBlank c
  ne_nil : inside ≠ []
  allowed : ∀ c ∈ inside, allowed c

instance [DecidablePred allowed] (blanks inside : Text) :
    Decidable (IsInline allowed blanks inside) :=
  decidable_of_iff (blanks.all Text.isBlank ∧ inside ≠ [] ∧ inside.all (allowed ·))
    ⟨fun ⟨hblank, hne, hallowed⟩ => ⟨List.all_eq_true.1 hblank, hne, fun c hc =>
        of_decide_eq_true (List.all_eq_true.1 hallowed c hc)⟩,
      fun h => ⟨List.all_eq_true.2 h.blank, h.ne_nil, List.all_eq_true.2 fun c hc =>
        decide_eq_true (h.allowed c hc)⟩⟩

/-- Whether a text begins with a colon and a block. -/
def BeginsInline (allowed : Char → Prop) (t : Text) : Prop :=
  ∃ blanks inside rest, IsInline allowed blanks inside ∧
    t = ':' :: (blanks ++ (block inside ++ rest))

/-- A text, and the same text with the leftmost blocks after a colon, none of which overlaps another,
moved onto lines of their own.  What these blocks hold is listed in order. -/
@[mk_iff]
inductive Expands (allowed : Char → Prop) : List Text → Text → Text → Prop
  | nil : Expands allowed [] [] []
  | move {blanks inside rest out : Text} {found : List Text} :
      IsInline allowed blanks inside → Expands allowed found rest out →
      Expands allowed (inside :: found) (':' :: (blanks ++ (block inside ++ rest)))
        (':' :: '\n' :: (layout (block inside) ++ out))
  | keep {c : Char} {rest out : Text} {found : List Text} :
      ¬ BeginsInline allowed (c :: rest) → Expands allowed found rest out →
      Expands allowed found (c :: rest) (c :: out)

/-- The characters that a block of `expandInline` may hold. -/
def NotClosing (c : Char) : Prop := c ≠ '\x7d'

/-- The characters that are no braces. -/
def NotBrace (c : Char) : Prop := c ≠ '\x7b' ∧ c ≠ '\x7d'

instance : DecidablePred NotClosing := fun _ => inferInstanceAs (Decidable (_ ≠ _))

instance : DecidablePred NotBrace := fun _ => inferInstanceAs (Decidable (_ ∧ _))

/-! ## Blocks that are found -/

theorem IsInline.mono {allowed' : Char → Prop} (h : IsInline allowed blanks inside)
    (hallowed : ∀ c ∈ inside, allowed' c) : IsInline allowed' blanks inside :=
  ⟨h.blank, h.ne_nil, hallowed⟩

theorem IsInline.notClosing (h : IsInline NotBrace blanks inside) :
    IsInline NotClosing blanks inside := h.mono fun c hc => (h.allowed c hc).2

theorem blockAfterColon?_of_isInline (h : IsInline NotClosing blanks inside) (rest : Text) :
    blockAfterColon? (blanks ++ (block inside ++ rest)) = some (block inside, rest) := by
  obtain ⟨c, inner, rfl⟩ := List.exists_cons_of_ne_nil h.ne_nil
  have hinside : ∀ d ∈ c :: inner, decide (d ≠ '\x7d') = true := fun d hd =>
    decide_eq_true (h.allowed d hd)
  have htext : block (c :: inner) ++ rest = '\x7b' :: ((c :: inner) ++ '\x7d' :: rest) := by
    simp [block]
  rw [blockAfterColon?, htext, Text.stripLeft_append_cons h.blank (by decide)]
  simp only [List.takeWhile_append_of_pos hinside, List.dropWhile_append_of_pos hinside]
  simp [block]

theorem blockAfterColon?_eq_some_iff {b : Text} : blockAfterColon? t = some (b, rest) ↔
    ∃ blanks inside, IsInline NotClosing blanks inside ∧ b = block inside ∧
      t = blanks ++ (block inside ++ rest) := by
  constructor
  · intro h
    unfold blockAfterColon? at h
    split at h
    · rename_i more hbrace
      split at h
      · rename_i c inner d after htake hdrop
        simp only [Option.some.injEq, Prod.mk.injEq] at h
        obtain ⟨rfl, rfl⟩ := h
        -- the block ends with the first closing brace after its opening one
        obtain rfl : d = '\x7d' := by
          have hhead := List.head?_dropWhile_not (· ≠ '\x7d') more
          rw [hdrop] at hhead
          simpa using hhead
        have hmore : more = (c :: inner) ++ '\x7d' :: after := by
          rw [← htake, ← hdrop, List.takeWhile_append_dropWhile]
        refine ⟨t.takeWhile Text.isBlank, c :: inner, ⟨?_, by simp, ?_⟩, rfl, ?_⟩
        · exact fun e he => List.mem_takeWhile_imp he
        · intro e he
          rw [← htake] at he
          simpa [NotClosing] using List.mem_takeWhile_imp he
        · calc t = t.takeWhile Text.isBlank ++ Text.stripLeft t :=
                List.takeWhile_append_dropWhile.symm
            _ = t.takeWhile Text.isBlank ++ (block (c :: inner) ++ after) := by
                rw [hbrace, hmore]
                simp [block]
      · simp at h
    · simp at h
  · rintro ⟨blanks, inside, h, rfl, rfl⟩
    exact blockAfterColon?_of_isInline h rest

theorem block_injective : Function.Injective block := by
  intro a b h
  exact List.append_cancel_right (List.cons.inj h).2

/-- Where a block after a colon begins, there is only one. -/
theorem IsInline.unique {blanks' inside' rest' : Text} (h : IsInline NotClosing blanks inside)
    (h' : IsInline NotClosing blanks' inside')
    (htext : blanks ++ (block inside ++ rest) = blanks' ++ (block inside' ++ rest')) :
    inside = inside' ∧ rest = rest' := by
  have hfound := blockAfterColon?_of_isInline h rest
  rw [htext, blockAfterColon?_of_isInline h' rest'] at hfound
  simp only [Option.some.injEq, Prod.mk.injEq] at hfound
  exact ⟨block_injective hfound.1.symm, hfound.2.symm⟩

theorem not_beginsInline_of_ne {c : Char} (hc : c ≠ ':') (rest : Text) :
    ¬ BeginsInline allowed (c :: rest) := by
  rintro ⟨blanks, inside, more, -, htext⟩
  exact hc (List.cons.inj htext).1

/-! ## Expanding -/

theorem expands_expandInline (t : Text) : ∃ found, Expands NotClosing found t (expandInline t) := by
  fun_induction expandInline t with
  | case1 => exact ⟨[], .nil⟩
  | case2 rest b after hb ih =>
    obtain ⟨found, hfound⟩ := ih
    obtain ⟨blanks, inside, hinline, rfl, rfl⟩ := blockAfterColon?_eq_some_iff.1 hb
    exact ⟨inside :: found, .move hinline hfound⟩
  | case3 rest hnone ih =>
    obtain ⟨found, hfound⟩ := ih
    refine ⟨found, .keep ?_ hfound⟩
    rintro ⟨blanks, inside, more, hinline, htext⟩
    rw [(List.cons.inj htext).2, blockAfterColon?_of_isInline hinline] at hnone
    exact Option.some_ne_none _ hnone
  | case4 c rest hc ih =>
    obtain ⟨found, hfound⟩ := ih
    exact ⟨found, .keep (not_beginsInline_of_ne hc rest) hfound⟩

/-- Every text can be expanded, whatever blocks may hold. -/
theorem exists_expands (allowed : Char → Prop) (t : Text) :
    ∃ found out, Expands allowed found t out := by
  induction hlength : t.length using Nat.strong_induction_on generalizing t with
  | _ n ih =>
    subst hlength
    by_cases hbegins : BeginsInline allowed t
    · obtain ⟨blanks, inside, rest, hinline, rfl⟩ := hbegins
      obtain ⟨found, out, hrest⟩ := ih rest.length (by simp; omega) rest rfl
      exact ⟨_, _, .move hinline hrest⟩
    · cases t with
      | nil => exact ⟨[], [], .nil⟩
      | cons c rest =>
        obtain ⟨found, out, hrest⟩ := ih rest.length (by simp) rest rfl
        exact ⟨_, _, .keep hbegins hrest⟩

/-- There is one way to expand a text, where blocks hold no closing brace. -/
theorem Expands.unique (hallowed : ∀ c, allowed c → NotClosing c) {found' : List Text} {out' : Text}
    (h : Expands allowed found t out) (h' : Expands allowed found' t out') :
    found = found' ∧ out = out' := by
  induction h generalizing found' out' with
  | nil =>
    cases h'
    exact ⟨rfl, rfl⟩
  | @move blanks inside rest out found hinline _ ih =>
    rcases (expands_iff ..).1 h' with ⟨-, htext, -⟩ |
      ⟨blanks', inside', rest', more, found', hinline', hrest, rfl, htext, rfl⟩ |
      ⟨c, rest', more, hnone, -, htext, -⟩
    · exact nomatch htext
    · obtain ⟨rfl, rfl⟩ := (hinline.mono fun c hc => hallowed c (hinline.allowed c hc)).unique
        (hinline'.mono fun c hc => hallowed c (hinline'.allowed c hc)) (List.cons.inj htext).2
      obtain ⟨rfl, rfl⟩ := ih hrest
      exact ⟨rfl, rfl⟩
    · rw [← htext] at hnone
      exact absurd ⟨blanks, inside, rest, hinline, rfl⟩ hnone
  | @keep c rest out found hnone _ ih =>
    rcases (expands_iff ..).1 h' with ⟨-, htext, -⟩ |
      ⟨blanks, inside, more, _, _, hinline, -, -, htext, -⟩ |
      ⟨d, rest', more, -, hrest, htext, rfl⟩
    · exact nomatch htext
    · exact absurd ⟨blanks, inside, more, hinline, htext⟩ hnone
    · obtain ⟨rfl, rfl⟩ := List.cons.inj htext
      obtain ⟨rfl, rfl⟩ := ih hrest
      exact ⟨rfl, rfl⟩

/-- A text in which no block begins stays as it is. -/
theorem Expands.eq_self (h : Expands allowed found t out)
    (hnone : ∀ before after, t = before ++ after → ¬ BeginsInline allowed after) : out = t := by
  induction h with
  | nil => rfl
  | move hinline => exact absurd ⟨_, _, _, hinline, rfl⟩ (hnone [] _ rfl)
  | @keep c rest out found _ _ ih =>
    rw [ih fun before after h => hnone (c :: before) after (congrArg _ h)]

/-- The first character is kept. -/
theorem Expands.head? (h : Expands allowed found t out) : out.head? = t.head? := by
  cases h <;> rfl

theorem Expands.notBrace (h : Expands NotClosing found t out)
    (hfound : ∀ inside ∈ found, '\x7b' ∉ inside) : Expands NotBrace found t out := by
  induction h with
  | nil => exact .nil
  | @move blanks inside rest out found hinline _ ih =>
    refine .move (hinline.mono fun c hc => ⟨?_, hinline.allowed c hc⟩)
      (ih fun inner hinner => hfound inner (List.mem_cons_of_mem _ hinner))
    rintro rfl
    exact hfound inside List.mem_cons_self hc
  | keep hnone _ ih =>
    refine .keep ?_ (ih hfound)
    rintro ⟨blanks, inside, more, hinline, htext⟩
    exact hnone ⟨blanks, inside, more, hinline.notClosing, htext⟩

/-- A line break that is written behind the colon of a block is the one before the block. -/
theorem Expands.not_mem_of_lineBreak (hinline : IsInline NotClosing blanks inside)
    (hblanks : '\n' ∉ blanks)
    (h : Expands NotBrace plain (':' :: (blanks ++ (block inside ++ rest))) (':' :: '\n' :: out)) :
    '\x7b' ∉ inside ∧ ∃ plain' out', out = layout (block inside) ++ out' ∧
      Expands NotBrace plain' rest out' := by
  rcases (expands_iff ..).1 h with ⟨-, htext, -⟩ |
    ⟨blanks', inside', rest', out', plain', hinline', hrest, -, htext, hout⟩ |
    ⟨c, rest', out', -, hrest, htext, hout⟩
  · exact nomatch htext
  · obtain ⟨rfl, rfl⟩ := hinline.unique hinline'.notClosing (List.cons.inj htext).2
    refine ⟨fun hmem => (hinline'.allowed _ hmem).1 rfl, plain', out', ?_, hrest⟩
    simpa using hout
  · -- the colon is kept alone, so what follows it in the text is the line break
    obtain ⟨rfl, rfl⟩ := List.cons.inj htext
    obtain ⟨-, rfl⟩ := List.cons.inj hout
    have hhead := hrest.head?
    cases blanks with
    | nil => exact absurd hhead (by simp [block])
    | cons b blanks =>
      obtain rfl : '\n' = b := by simpa using hhead
      exact absurd List.mem_cons_self hblanks

theorem Expands.not_mem_of_notBrace (h : Expands NotClosing found t out) (hline : '\n' ∉ t)
    (hplain : Expands NotBrace plain t out) : ∀ inside ∈ found, '\x7b' ∉ inside := by
  induction h generalizing plain with
  | nil => exact fun _ h => absurd h List.not_mem_nil
  | @move blanks inside rest out found hinline _ ih =>
    obtain ⟨hblanks, hrest⟩ : '\n' ∉ blanks ∧ '\n' ∉ rest := by simp_all
    obtain ⟨hinside, plain', out', hout, hplain'⟩ :=
      hplain.not_mem_of_lineBreak hinline hblanks
    rw [List.append_cancel_left hout] at ih
    exact List.forall_mem_cons.2 ⟨hinside, ih hrest hplain'⟩
  | @keep c rest out found hnone _ ih =>
    rcases (expands_iff ..).1 hplain with ⟨-, htext, -⟩ |
      ⟨blanks, inside, more, out', plain', hinline, -, -, htext, -⟩ |
      ⟨d, rest', out', -, hrest, htext, hout⟩
    · exact nomatch htext
    · exact absurd ⟨blanks, inside, more, hinline.notClosing, htext⟩ hnone
    · obtain ⟨-, rfl⟩ := List.cons.inj htext
      obtain ⟨-, rfl⟩ := List.cons.inj hout
      exact ih (fun hmem => hline (List.mem_cons_of_mem c hmem)) hrest

/-- What is moved are the blocks from an opening brace to the first closing one.  These are the
blocks without braces inside if none of them holds an opening brace; in a line, only then. -/
theorem expandInline_braceFree (t : Text) :
    ∃ found, Expands NotClosing found t (expandInline t) ∧
      ((∀ before after, t = before ++ after → ¬ BeginsInline NotClosing after) →
        expandInline t = t) ∧
      ∃ plain out, Expands NotBrace plain t out ∧
        ((∀ inside ∈ found, '\x7b' ∉ inside) → expandInline t = out) ∧
        ('\n' ∉ t → expandInline t = out → ∀ inside ∈ found, '\x7b' ∉ inside) := by
  obtain ⟨found, hfound⟩ := expands_expandInline t
  obtain ⟨plain, out, hout⟩ := exists_expands NotBrace t
  refine ⟨found, hfound, hfound.eq_self, plain, out, hout, fun hplain => ?_, fun hline heq => ?_⟩
  · exact ((hfound.notBrace hplain).unique (fun c hc => hc.2) hout).2
  · rw [← heq] at hout
    exact hfound.not_mem_of_notBrace hline hout

/-- A block that holds no brace. -/
theorem expandInline_braceFree_flatBlock :
    let line : Text := "a: \x7b b; \x7d".toList
    let inside : Text := " b; ".toList
    '\n' ∉ line ∧ '\x7b' ∉ inside ∧ Expands NotClosing [inside] line (expandInline line) ∧
      ∃ plain, Expands NotBrace plain line (expandInline line) := by
  intro line inside
  have hinside : '\x7b' ∉ inside := by decide
  have hinline : IsInline NotClosing [' '] inside := by decide
  have hline : Expands NotClosing [inside] line _ :=
    .keep (not_beginsInline_of_ne (by decide) _) (.move hinline .nil)
  obtain ⟨found, hfound, -, plain, out, hout, hplain, -⟩ := expandInline_braceFree line
  obtain ⟨rfl, -⟩ := hline.unique (fun _ => id) hfound
  refine ⟨by decide, hinside, hfound, plain, ?_⟩
  rw [hplain (List.forall_mem_singleton.2 hinside)]
  exact hout

/-- A block within a block: the outer one ends where the inner one does. -/
theorem not_expands_expandInline_nestedBlock :
    let line : Text := "x: \x7b a: \x7b b: string \x7d \x7d".toList
    ¬ ∃ plain, Expands NotBrace plain line (expandInline line) := by
  rintro line ⟨plain, hplain⟩
  have hinline : IsInline NotClosing [' '] " a: \x7b b: string ".toList := by decide
  have hline : Expands NotClosing [" a: \x7b b: string ".toList] line _ :=
    .keep (not_beginsInline_of_ne (by decide) _)
      (.move hinline
        (.keep (not_beginsInline_of_ne (by decide) _)
          (.keep (not_beginsInline_of_ne (by decide) _) .nil)))
  obtain ⟨found, hfound⟩ := expands_expandInline line
  obtain ⟨rfl, -⟩ := hline.unique (fun _ => id) hfound
  exact hfound.not_mem_of_notBrace (by decide) hplain _ List.mem_cons_self (by decide)

end Legible.TypeLayout
