import Legible.Proofs.Text.Decimal
import Legible.Template
import Mathlib.Data.List.Chain

/-!
# Templates and their parts

Parts are written as a template by giving every group in braces and every dollar sign of a text
twice (`render`).  The parts that a template is read as are normal: no text is empty, no two texts
are neighbours, and no group has more digits than a numeral may have (`isNormal_of_parse`).  Normal
parts are just those that are read back from what is written for them (`parse_render`).

What a template is read as is known from its front: a written part in front of a template puts that
part in front of the parts of the template.
-/

namespace Legible

/-- Whether a part of a template is text. -/
def TemplatePart.isText : TemplatePart → Bool
  | text _ => true
  | group _ => false

namespace Template

/-! ## Writing parts -/

/-- A text with every dollar sign twice. -/
def escape (t : Text) : Text := t.flatMap fun c => if c = '$' then ['$', '$'] else [c]

/-- One part as it is written in a template. -/
def renderPart : TemplatePart → Text
  | .text t => escape t
  | .group n => '$' :: '\x7b' :: (Text.ofNat n ++ ['\x7d'])

/-- The template of some parts. -/
def render (parts : List TemplatePart) : Text := parts.flatMap renderPart

/-! ## Normal parts -/

/-- What holds of the parts that a template is read as. -/
structure IsNormal (parts : List TemplatePart) : Prop where
  groups : ∀ n, .group n ∈ parts → n < 10 ^ Number.digitLimit
  texts : ∀ t, .text t ∈ parts → t ≠ []
  apart : parts.IsChain fun p q => ¬ (p.isText ∧ q.isText)

variable {t rest : Text} {parts : List TemplatePart}

theorem isNormal_nil : IsNormal [] := ⟨by simp, by simp, List.isChain_nil⟩

theorem IsNormal.tail {p : TemplatePart} (h : IsNormal (p :: parts)) : IsNormal parts where
  groups n hn := h.groups n (List.mem_cons_of_mem _ hn)
  texts t ht := h.texts t (List.mem_cons_of_mem _ ht)
  apart := h.apart.tail

theorem IsNormal.consGroup (h : IsNormal parts) {n : Nat} (hn : n < 10 ^ Number.digitLimit) :
    IsNormal (.group n :: parts) where
  groups m hm := by
    rcases List.mem_cons.1 hm with heq | hm
    · exact TemplatePart.group.inj heq ▸ hn
    · exact h.groups m hm
  texts t ht := h.texts t (by simpa using ht)
  apart := h.apart.cons (by simp [TemplatePart.isText])

/-- A text may be put before parts that begin with no text. -/
theorem IsNormal.consText (h : IsNormal parts) (ht : t ≠ [])
    (hhead : ∀ p ∈ parts.head?, p.isText = false) : IsNormal (.text t :: parts) where
  groups n hn := h.groups n (by simpa using hn)
  texts t' ht' := by
    rcases List.mem_cons.1 ht' with heq | ht'
    · exact TemplatePart.text.inj heq ▸ ht
    · exact h.texts t' ht'
  apart := h.apart.cons fun p hp => by simp [hhead p hp]

theorem IsNormal.head_of_text (h : IsNormal (.text t :: parts)) :
    ∀ p ∈ parts.head?, p.isText = false := by
  intro p hp
  have hapart := h.apart.rel_head? hp
  simpa [TemplatePart.isText] using hapart

theorem IsNormal.consChar (h : IsNormal parts) (c : Char) : IsNormal (consChar c parts) := by
  unfold Template.consChar
  split
  · exact h.tail.consText (List.cons_ne_nil _ _) h.head_of_text
  · rename_i hhead
    refine h.consText (List.cons_ne_nil _ _) fun p hp => ?_
    cases p with
    | group n => rfl
    | text t =>
      obtain ⟨rest, hparts⟩ := List.head?_eq_some_iff.1 hp
      exact absurd hparts (hhead t rest)

/-! ## Reading what is written -/

theorem parse_nil : parse [] = .ok [] := by rw [parse]

theorem parse_plain {c : Char} (h : c ≠ '$') (t : Text) :
    parse (c :: t) = (parse t).map (consChar c) := by
  rw [parse, if_neg h]

theorem parse_dollars (t : Text) : parse ('$' :: '$' :: t) = (parse t).map (consChar '$') := by
  rw [parse, if_pos rfl]
  rfl

/-- A text that is written in front of a template gives its characters to the parts. -/
theorem parse_escape_append (s t : Text) :
    parse (escape s ++ t) = (parse t).map fun parts => s.foldr consChar parts := by
  induction s with
  | nil =>
    show parse t = (parse t).map id
    cases parse t <;> rfl
  | cons c s ih =>
    have hcons : parse (escape (c :: s) ++ t) = (parse (escape s ++ t)).map (consChar c) := by
      by_cases hc : c = '$'
      · subst hc
        exact parse_dollars (escape s ++ t)
      · rw [← parse_plain hc, escape, List.flatMap_cons, if_neg hc]
        rfl
    rw [hcons, ih]
    cases parse t <;> rfl

theorem foldr_consChar (ht : t ≠ []) (hhead : ∀ p ∈ parts.head?, p.isText = false) :
    t.foldr consChar parts = .text t :: parts := by
  induction t with
  | nil => exact absurd rfl ht
  | cons c s ih =>
    cases s with
    | cons d s => rw [List.foldr_cons, ih (List.cons_ne_nil d s), consChar]
    | nil =>
      match parts, hhead with
      | [], _ => rfl
      | .group n :: rest, _ => rfl
      | .text u :: rest, h => exact absurd (h (.text u) rfl) Bool.true_eq_false.mp

theorem digitRun_ofNat (n : Nat) (t : Text) :
    digitRun (Text.ofNat n ++ '\x7d' :: t) = Text.ofNat n := by
  have hdigit (c : Char) (hc : c ∈ Text.ofNat n) : Text.isDecimal c = true := by
    rw [Text.isDecimal, Text.digitValue?_of_mem_ofNat hc]
    rfl
  have hbrace : Text.isDecimal '\x7d' = false := by decide
  rw [digitRun, List.takeWhile_append_of_pos hdigit, List.takeWhile_cons_of_neg (by simp [hbrace]),
    List.append_nil]

theorem digitValues_ofNat (n : Nat) :
    digitValues (Text.ofNat n) = (Text.ofNat n).map fun c => c.toNat - 48 := by
  refine List.map_congr_left fun c hc => ?_
  rw [Text.digitValue?_of_mem_ofNat hc]
  rfl

theorem ofNumeral_ofNat {n : Nat} (h : n < 10 ^ Number.digitLimit) :
    Number.ofNumeral (digitValues (Text.ofNat n)) = .ok n := by
  have hlength : (Text.ofNat n).length ≤ Number.digitLimit :=
    (Text.length_ofNat_le_iff (by decide)).2 h
  rw [digitValues_ofNat, Number.ofNumeral, if_neg (by rw [List.length_map]; omega),
    Text.ofDigits_ofNat]

theorem markAfter?_braces (n : Nat) (t : Text) :
    markAfter? ('\x7b' :: (Text.ofNat n ++ '\x7d' :: t)) =
      some (.group (digitValues (Text.ofNat n)), (Text.ofNat n).length + 2) := by
  have hne : (Text.ofNat n).isEmpty = false := by simpa using Text.ofNat_ne_nil n
  simp only [markAfter?, digitRun_ofNat, hne, List.drop_left]

/-- A group that is written in front of a template is put in front of the parts. -/
theorem parse_group_append {n : Nat} (h : n < 10 ^ Number.digitLimit) (t : Text) :
    parse (renderPart (.group n) ++ t) = (parse t).map (.group n :: ·) := by
  have hwritten : renderPart (.group n) ++ t =
      '$' :: '\x7b' :: (Text.ofNat n ++ '\x7d' :: t) := by
    simp [renderPart]
  have hdrop : ('\x7b' :: (Text.ofNat n ++ '\x7d' :: t)).drop ((Text.ofNat n).length + 2) = t := by
    rw [List.drop_succ_cons, ← List.drop_drop, List.drop_left]
    rfl
  rw [hwritten, parse, if_pos rfl, markAfter?_braces]
  dsimp only
  rw [ofNumeral_ofNat h, hdrop]
  cases parse t <;> rfl

theorem parse_render_of_isNormal (h : IsNormal parts) : parse (render parts) = .ok parts := by
  induction parts with
  | nil => exact parse_nil
  | cons p rest ih =>
    have hrest := ih h.tail
    have hrender : render (p :: rest) = renderPart p ++ render rest := List.flatMap_cons
    rw [hrender]
    cases p with
    | group n => rw [parse_group_append (h.groups n List.mem_cons_self), hrest, Except.map]
    | text t =>
      rw [renderPart, parse_escape_append, hrest, Except.map,
        foldr_consChar (h.texts t List.mem_cons_self) h.head_of_text]

/-! ## What is read is normal -/

theorem ofDigits_lt {ds : List Nat} (h : ∀ d ∈ ds, d < 10) :
    Text.ofDigits 10 ds < 10 ^ ds.length := by
  induction ds using List.reverseRecOn with
  | nil => decide
  | append_singleton ds d ih =>
    have hds := ih fun e he => h e (by simp [he])
    have hd := h d (by simp)
    rw [Text.ofDigits] at hds
    rw [Text.ofDigits, List.foldl_append, List.length_append, List.foldl_cons, List.foldl_nil,
      List.length_singleton, Nat.pow_succ]
    omega

theorem lt_of_ofNumeral {n : Nat} (h : Number.ofNumeral (digitValues t) = .ok n) :
    n < 10 ^ Number.digitLimit := by
  have hdigits (d : Nat) (hd : d ∈ digitValues t) : d < 10 := by
    obtain ⟨c, -, rfl⟩ := List.mem_map.1 hd
    cases hc : Text.digitValue? c with
    | none => decide
    | some d => exact Text.digitValue?_lt_ten hc
  unfold Number.ofNumeral at h
  split at h
  · exact nomatch h
  · rename_i hlength
    obtain rfl := Except.ok.inj h
    calc Text.ofDigits 10 (digitValues t)
        < 10 ^ (digitValues t).length := ofDigits_lt hdigits
      _ ≤ 10 ^ Number.digitLimit := Nat.pow_le_pow_right (by decide) (Nat.not_lt.1 hlength)

theorem exists_eq_digitValues {digits : List Nat} {size : Nat}
    (h : markAfter? t = some (.group digits, size)) : ∃ s, digits = digitValues s := by
  unfold markAfter? at h
  split at h
  · exact nomatch h
  · dsimp only at h
    split at h
    · exact ⟨_, Mark.group.inj (congrArg Prod.fst (Option.some.inj h)) |>.symm⟩
    · exact nomatch h
  · dsimp only at h
    split at h
    · exact nomatch h
    · exact ⟨_, Mark.group.inj (congrArg Prod.fst (Option.some.inj h)) |>.symm⟩

/-- The parts that a template is read as are normal. -/
theorem isNormal_of_parse (h : parse t = .ok parts) : IsNormal parts := by
  have hmap {t : Text} {f : List TemplatePart → List TemplatePart} {parts : List TemplatePart}
      (h : (parse t).map f = .ok parts) : ∃ ps, parse t = .ok ps ∧ parts = f ps := by
    cases hparse : parse t with
    | error e => exact nomatch hparse ▸ h
    | ok ps => exact ⟨ps, rfl, (Except.ok.inj (hparse ▸ h)).symm⟩
  fun_induction parse t generalizing parts with
  | case1 => exact Except.ok.inj h ▸ isNormal_nil
  | case2 rest hnone ih =>
    obtain ⟨ps, hps, rfl⟩ := hmap h
    exact (ih hps).consChar '$'
  | case3 rest size hmark ih =>
    obtain ⟨ps, hps, rfl⟩ := hmap h
    exact (ih hps).consChar '$'
  | case4 rest digits size hmark ih =>
    obtain ⟨s, rfl⟩ := exists_eq_digitValues hmark
    cases hn : Number.ofNumeral (digitValues s) with
    | error e => exact nomatch hn ▸ h
    | ok n =>
      cases hps : parse (rest.drop size) with
      | error e => exact nomatch hps ▸ hn ▸ h
      | ok ps =>
        obtain rfl := Except.ok.inj (hps ▸ hn ▸ h)
        exact (ih hps).consGroup (lt_of_ofNumeral hn)
  | case5 c rest hc ih =>
    obtain ⟨ps, hps, rfl⟩ := hmap h
    exact (ih hps).consChar c

/-- Normal parts are just those that are read back from what is written for them.  Whatever a
template is read as is normal, so that writing it again and reading that gives the same parts. -/
theorem parse_render :
    (∀ parts, IsNormal parts ↔ parse (render parts) = .ok parts) ∧
      ∀ t parts, parse t = .ok parts → IsNormal parts ∧ parse (render parts) = .ok parts := by
  constructor
  · intro parts
    exact ⟨parse_render_of_isNormal, isNormal_of_parse⟩
  · intro t parts h
    have hnormal := isNormal_of_parse h
    exact ⟨hnormal, parse_render_of_isNormal hnormal⟩

/-- Bare groups, zeros in front of a numeral and dollar signs that begin nothing are written in
one way only. -/
theorem parse_render_bareGroups :
    let t := "$$$1\x7b$\x7b007\x7d2$x".toList
    let parts : List TemplatePart :=
      [.text ['$'], .group 1, .text ['\x7b'], .group 7, .text "2$x".toList]
    parse t = .ok parts ∧ IsNormal parts ∧ parse (render parts) = .ok parts ∧
      render parts = "$$$\x7b1\x7d\x7b$\x7b7\x7d2$$x".toList := by
  intro t parts
  have hread : parse t = .ok parts := by
    decide +kernel
  obtain ⟨hnormal, hagain⟩ := parse_render.2 t parts hread
  exact ⟨hread, hnormal, hagain, by decide⟩

end Template

end Legible
