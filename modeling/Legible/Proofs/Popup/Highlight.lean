import Legible.Popup.Highlight
import Legible.Proofs.Text.Parts
import Mathlib.Data.List.Count
import Mathlib.Data.List.Infix
import Mathlib.Data.List.Nodup

/-!
# What stands out in the lines of the popup

The search for a word goes on behind each hit.  A word none of whose ends is a beginning of it
cannot begin again within a hit, so nothing is missed (`mem_columnsOf`).  The names of the basic
types are such words, and so each of them is marked wherever it stands, and once.

The spans of a line are the marks of this line (`filter_highlights`), so that what is said of all
spans is shown for the marks of one line and the line before it (`standsOut_highlights`).
-/

namespace Legible.Popup

variable {word line before : Text} {lines : List Text} {m : Mark} {column skip n k : Nat}

/-! ## Looking for a word -/

/-- Whether no end of a word is a beginning of it. -/
def Borderless (word : Text) : Prop := ∀ k < word.length, 0 < k → ¬ word.drop k <+: word

theorem not_prefix_of_borderless (hword : Borderless word) {t : Text} (hhit : word <+: t)
    (hpos : 0 < k) (hlt : k < word.length) : ¬ word <+: t.drop k := by
  obtain ⟨rest, rfl⟩ := hhit
  intro hagain
  rw [List.drop_append_of_le_length (Nat.le_of_lt hlt)] at hagain
  have hend : word.drop k <+: word :=
    List.prefix_of_prefix_length_le (List.prefix_append ..) hagain
      (by rw [List.length_drop]; exact Nat.sub_le _ _)
  exact hword k hlt hpos hend

/-- A place in the rest of a text is the next place in the whole. -/
theorem exists_next_iff {p : Nat → Prop} {least x : Nat} :
    (∃ k, least ≤ k ∧ x = column + 1 + k ∧ p (k + 1)) ↔
      ∃ k, least + 1 ≤ k ∧ x = column + k ∧ p k := by
  constructor
  · rintro ⟨k, hk, hx, hthere⟩
    exact ⟨k + 1, by omega, by omega, hthere⟩
  · rintro ⟨k, hk, hx, hthere⟩
    refine ⟨k - 1, by omega, by omega, ?_⟩
    rwa [Nat.sub_add_cancel (by omega)]

/-- The search finds the word wherever it begins behind the characters that are to be passed. -/
theorem mem_columnsOf (hword : Borderless word) (hne : word ≠ []) {t : Text} {x : Nat} :
    x ∈ columnsOf word column skip t ↔ ∃ k, skip ≤ k ∧ x = column + k ∧ word <+: t.drop k := by
  induction t generalizing column skip with
  | nil => simp [columnsOf, hne]
  | cons c rest ih =>
    have hnext (least : Nat) :
        (∃ k, least ≤ k ∧ x = column + 1 + k ∧ word <+: rest.drop k) ↔
          ∃ k, least + 1 ≤ k ∧ x = column + k ∧ word <+: (c :: rest).drop k :=
      exists_next_iff (p := fun k => word <+: (c :: rest).drop k)
    cases skip with
    | succ skip => rw [columnsOf, ih, hnext]
    | zero =>
      rw [columnsOf]
      by_cases hhit : word <+: c :: rest
      · have hlength : word.length - 1 + 1 = word.length :=
          Nat.sub_add_cancel (List.length_pos_iff.2 hne)
        rw [if_pos (Text.isPrefixOf_iff.2 hhit), List.mem_cons, ih, hnext, hlength]
        constructor
        · rintro (rfl | ⟨k, -, hx, hthere⟩)
          · exact ⟨0, Nat.le_refl 0, rfl, hhit⟩
          · exact ⟨k, Nat.zero_le k, hx, hthere⟩
        · rintro ⟨k, -, hx, hthere⟩
          rcases Nat.eq_zero_or_pos k with rfl | hpos
          · exact .inl hx
          · -- the word does not begin again before its end
            refine .inr ⟨k, ?_, hx, hthere⟩
            by_contra hlt
            exact not_prefix_of_borderless hword hhit hpos (Nat.lt_of_not_le hlt) hthere
      · rw [if_neg (mt Text.isPrefixOf_iff.1 hhit), ih, hnext]
        constructor
        · rintro ⟨k, -, hx, hthere⟩
          exact ⟨k, Nat.zero_le k, hx, hthere⟩
        · rintro ⟨k, -, hx, hthere⟩
          refine ⟨k, Nat.pos_of_ne_zero ?_, hx, hthere⟩
          rintro rfl
          exact hhit hthere

theorem nodup_columnsOf (hword : Borderless word) (hne : word ≠ []) (column skip : Nat) (t : Text) :
    (columnsOf word column skip t).Nodup := by
  induction t generalizing column skip with
  | nil => rw [columnsOf]; exact List.nodup_nil
  | cons c rest ih =>
    cases skip with
    | succ skip => rw [columnsOf]; exact ih ..
    | zero =>
      rw [columnsOf]
      split
      · refine List.nodup_cons.2 ⟨fun hagain => ?_, ih ..⟩
        obtain ⟨k, -, hk, -⟩ := (mem_columnsOf hword hne).1 hagain
        omega
      · exact ih ..

/-! ## The names of basic types -/

theorem borderless_of_mem_typeKeywords (h : word ∈ typeKeywords) :
    Borderless word ∧ word ≠ [] := by
  have hall : ∀ word ∈ typeKeywords,
      (∀ k < word.length, 0 < k → ¬ word.drop k <+: word) ∧ word ≠ [] := by
    decide +kernel
  exact hall word h

theorem nodup_typeKeywords : typeKeywords.Nodup := by decide +kernel

theorem mem_columnsOf_iff (h : word ∈ typeKeywords) {x : Nat} :
    x ∈ columnsOf word 0 0 line ↔ word <+: line.drop x := by
  obtain ⟨hword, hne⟩ := borderless_of_mem_typeKeywords h
  rw [mem_columnsOf hword hne]
  constructor
  · rintro ⟨k, -, hk, hthere⟩
    rwa [hk, Nat.zero_add]
  · exact fun hthere => ⟨x, Nat.zero_le x, (Nat.zero_add x).symm, hthere⟩

/-- Whether the name of a basic type stands between two columns of a line. -/
def IsKeyword (line : Text) (first last : Nat) : Prop :=
  last ≤ line.length ∧ (line.take last).drop first ∈ typeKeywords

theorem isKeyword_iff {first last : Nat} : IsKeyword line first last ↔
    ∃ word ∈ typeKeywords, word <+: line.drop first ∧ last = first + word.length := by
  constructor
  · rintro ⟨hlast, hmem⟩
    refine ⟨_, hmem, ?_, ?_⟩
    · rw [List.drop_take]
      exact List.take_prefix _ _
    · have hpos := List.length_pos_iff.2 (borderless_of_mem_typeKeywords hmem).2
      rw [List.length_drop, List.length_take, Nat.min_eq_left hlast] at hpos ⊢
      omega
  · rintro ⟨word, hmem, hprefix, rfl⟩
    have hpos := List.length_pos_iff.2 (borderless_of_mem_typeKeywords hmem).2
    have hle := hprefix.length_le
    rw [List.length_drop] at hle
    refine ⟨by omega, ?_⟩
    rw [List.drop_take, Nat.add_sub_cancel_left, ← List.prefix_iff_eq_take.1 hprefix]
    exact hmem

theorem IsKeyword.lt {first last : Nat} (h : IsKeyword line first last) : first < last := by
  obtain ⟨word, hmem, -, rfl⟩ := isKeyword_iff.1 h
  have hpos := List.length_pos_iff.2 (borderless_of_mem_typeKeywords hmem).2
  omega

/-- The marks of the names of basic types on a line. -/
def keywordMarks (line : Text) : List Mark :=
  typeKeywords.flatMap fun word =>
    (columnsOf word 0 0 line).map fun column : Nat => ⟨column, column + word.length, .type⟩

theorem mem_keywordMarks :
    m ∈ keywordMarks line ↔ ∃ first last : Nat, m = ⟨first, last, .type⟩ ∧
      IsKeyword line first last := by
  simp only [keywordMarks, List.mem_flatMap, List.mem_map, isKeyword_iff]
  constructor
  · rintro ⟨word, hmem, x, hx, rfl⟩
    have hthere := (mem_columnsOf_iff hmem).1 hx
    exact ⟨x, x + word.length, by rw [Int.natCast_add], word, hmem, hthere, rfl⟩
  · rintro ⟨first, last, rfl, word, hmem, hthere, rfl⟩
    exact ⟨word, hmem, first, (mem_columnsOf_iff hmem).2 hthere, by rw [Int.natCast_add]⟩

theorem nodup_keywordMarks (line : Text) : (keywordMarks line).Nodup := by
  refine List.nodup_flatMap.2 ⟨fun word hmem => ?_, nodup_typeKeywords.imp_of_mem ?_⟩
  · obtain ⟨hword, hne⟩ := borderless_of_mem_typeKeywords hmem
    refine (nodup_columnsOf hword hne 0 0 line).map fun x y hxy => ?_
    exact Int.ofNat_inj.1 (Mark.mk.inj hxy).1
  · -- two words that stand between the same columns are the same
    intro word other hmem hmem' hne
    refine List.disjoint_left.2 fun m hm hm' => hne ?_
    obtain ⟨x, hx, rfl⟩ := List.mem_map.1 hm
    obtain ⟨y, hy, hxy⟩ := List.mem_map.1 hm'
    obtain ⟨hstart, hstop, -⟩ := Mark.mk.inj hxy
    obtain rfl : x = y := by omega
    have hprefix := List.prefix_of_prefix_length_le ((mem_columnsOf_iff hmem).1 hx)
      ((mem_columnsOf_iff hmem').1 hy) (by omega)
    exact hprefix.eq_of_length (by omega)

/-! ## The name of a property -/

theorem propertyNameLength?_bounds {t : Text} (h : propertyNameLength? t = some n) :
    0 < n ∧ n ≤ t.length := by
  unfold propertyNameLength? at h
  dsimp only at h
  split at h
  · rename_i hprefix
    have hword := (Text.isPrefixOf_iff.1 hprefix).length_le
    generalize hrest : t.drop "Property".toList.length = rest at h
    have hlength : rest.length = t.length - "Property".toList.length := by
      rw [← hrest, List.length_drop]
    have hblanks := (List.takeWhile_prefix Text.isBlank (l := rest)).length_le
    have hname := (List.takeWhile_prefix Text.isWordChar
      (l := rest.drop (rest.takeWhile Text.isBlank).length)).length_le
    rw [List.length_drop] at hname
    have hpos : 0 < "Property".toList.length := by decide
    split at h
    · exact nomatch h
    · obtain rfl := Option.some.inj h
      omega
  · exact nomatch h

theorem propertyName?_bounds {t : Text} {first last : Nat}
    (h : propertyName? column t = some (first, last)) :
    column ≤ first ∧ first < last ∧ last ≤ column + t.length := by
  induction t generalizing column with
  | nil => exact nomatch h
  | cons c rest ih =>
    rw [propertyName?] at h
    split at h
    · rename_i length hlength
      obtain ⟨rfl, rfl⟩ := Prod.mk.inj (Option.some.inj h)
      obtain ⟨hpos, hle⟩ := propertyNameLength?_bounds hlength
      omega
    · have := ih h
      rw [List.length_cons]
      omega

/-! ## The marks of a line -/

/-- What a mark of a line may be: one with a format, from a column to a later one of the line or to
the end of the line. -/
structure FitsInto (line : Text) (m : Mark) : Prop where
  start : 0 ≤ m.start
  stop : m.stop = -1 ∨ m.start < m.stop ∧ m.stop ≤ line.length
  format : m.style.format?.isSome

theorem marksOf_eq (before line : Text) : marksOf before line =
    ((propertyName? 0 line).toList.map fun (first, last) => ⟨first, last, .special⟩) ++
    keywordMarks line ++ (if isHeading line then [⟨0, -1, .title⟩] else []) ++
    (if Message.rawHeader <:+: line ∨ Message.rawHeader <:+: before then [⟨0, -1, .comment⟩]
      else []) := by
  simp only [← Text.holds_iff, ← Bool.or_eq_true]
  rfl

theorem mem_marksOf : m ∈ marksOf before line ↔
    (∃ first last, propertyName? 0 line = some (first, last) ∧ m = ⟨first, last, .special⟩) ∨
    m ∈ keywordMarks line ∨ (isHeading line ∧ m = ⟨0, -1, .title⟩) ∨
    ((Message.rawHeader <:+: line ∨ Message.rawHeader <:+: before) ∧ m = ⟨0, -1, .comment⟩) := by
  rw [marksOf_eq, List.mem_append, List.mem_append, List.mem_append, or_assoc, or_assoc]
  refine or_congr ?_ (or_congr Iff.rfl (or_congr ?_ ?_))
  · simp [eq_comm]
  · rw [List.mem_ite_nil_right, List.mem_singleton]
  · rw [List.mem_ite_nil_right, List.mem_singleton]

theorem fitsInto_of_mem_marksOf (h : m ∈ marksOf before line) : FitsInto line m := by
  rcases mem_marksOf.1 h with ⟨first, last, hname, rfl⟩ | hkeyword | ⟨-, rfl⟩ | ⟨-, rfl⟩
  · obtain ⟨-, hlt, hle⟩ := propertyName?_bounds hname
    exact ⟨Int.natCast_nonneg first, .inr (by dsimp only; omega), rfl⟩
  · obtain ⟨first, last, rfl, hword⟩ := mem_keywordMarks.1 hkeyword
    have hlt := hword.lt
    have hle := hword.1
    exact ⟨Int.natCast_nonneg first, .inr (by dsimp only; omega), rfl⟩
  · exact ⟨Int.le_refl 0, .inl rfl, rfl⟩
  · exact ⟨Int.le_refl 0, .inl rfl, rfl⟩

theorem type_mem_marksOf {start stop : Int} : ⟨start, stop, .type⟩ ∈ marksOf before line ↔
    ∃ first last : Nat, start = first ∧ stop = last ∧ IsKeyword line first last := by
  simp [mem_marksOf, mem_keywordMarks, and_assoc]

theorem filter_of_style {marks : List Mark} {style : Style} (h : ∀ m ∈ marks, m.style = style)
    (wanted : Style) :
    marks.filter (·.style = wanted) = if style = wanted then marks else [] := by
  split
  · rename_i hsame
    exact List.filter_eq_self.2 fun m hm => decide_eq_true ((h m hm).trans hsame)
  · rename_i hother
    refine List.filter_eq_nil_iff.2 fun m hm hwanted => hother ?_
    exact (h m hm).symm.trans (of_decide_eq_true hwanted)

/-- The four kinds of marks have a style each. -/
theorem filter_marksOf (before line : Text) (wanted : Style) :
    (marksOf before line).filter (·.style = wanted) =
      (if .special = wanted then
        (propertyName? 0 line).toList.map fun (first, last) => ⟨first, last, .special⟩ else []) ++
      (if .type = wanted then keywordMarks line else []) ++
      (if .title = wanted then if isHeading line then [⟨0, -1, .title⟩] else [] else []) ++
      (if .comment = wanted then
        if Message.rawHeader <:+: line ∨ Message.rawHeader <:+: before then [⟨0, -1, .comment⟩]
        else [] else []) := by
  rw [marksOf_eq, List.filter_append, List.filter_append, List.filter_append]
  refine congrArg₂ _ (congrArg₂ _ (congrArg₂ _ ?_ ?_) ?_) ?_
  · refine filter_of_style (fun m hm => ?_) wanted
    obtain ⟨p, -, rfl⟩ := List.mem_map.1 hm
    rfl
  · refine filter_of_style (fun m hm => ?_) wanted
    obtain ⟨first, last, rfl, -⟩ := mem_keywordMarks.1 hm
    rfl
  · refine filter_of_style (fun m hm => ?_) wanted
    obtain ⟨-, hm⟩ := List.mem_ite_nil_right.1 hm
    rw [List.mem_singleton.1 hm]
  · refine filter_of_style (fun m hm => ?_) wanted
    obtain ⟨-, hm⟩ := List.mem_ite_nil_right.1 hm
    rw [List.mem_singleton.1 hm]

theorem filter_marksOf_type (before line : Text) :
    (marksOf before line).filter (·.style = .type) = keywordMarks line := by
  rw [filter_marksOf]
  simp

theorem filter_marksOf_comment (before line : Text) :
    (marksOf before line).filter (·.style = .comment) =
      if Message.rawHeader <:+: line ∨ Message.rawHeader <:+: before then [⟨0, -1, .comment⟩]
      else [] := by
  rw [filter_marksOf]
  simp

/-! ## The spans of some lines -/

theorem exists_of_mem_spansFrom {span : Span} (h : span ∈ spansFrom n before lines) :
    ∃ k < lines.length, span.line = (n + k : Nat) := by
  induction lines generalizing n before with
  | nil => exact absurd h List.not_mem_nil
  | cons line rest ih =>
    rw [spansFrom, List.mem_append] at h
    rcases h with h | h
    · obtain ⟨m, -, rfl⟩ := List.mem_map.1 h
      exact ⟨0, Nat.zero_lt_succ _, rfl⟩
    · obtain ⟨k, hk, hline⟩ := ih h
      exact ⟨k + 1, Nat.succ_lt_succ hk, by rw [hline, Nat.add_right_comm, Nat.add_assoc]⟩

theorem pairwise_spansFrom (n : Nat) (before : Text) (lines : List Text) :
    (spansFrom n before lines).Pairwise fun a b => a.line ≤ b.line := by
  induction lines generalizing n before with
  | nil => exact .nil
  | cons line rest ih =>
    rw [spansFrom]
    refine List.pairwise_append.2 ⟨?_, ih .., fun a ha b hb => ?_⟩
    · exact List.pairwise_map.2 (List.pairwise_of_forall fun _ _ => Int.le_refl _)
    · obtain ⟨m, -, rfl⟩ := List.mem_map.1 ha
      obtain ⟨k, -, hline⟩ := exists_of_mem_spansFrom hb
      rw [hline]
      dsimp only
      omega

/-- On each line lie the marks of this line, given the one before it. -/
theorem filter_spansFrom {previous : Text} (hline : lines[k]? = some line)
    (hprevious : (before :: lines)[k]? = some previous) (n : Nat) :
    (spansFrom n before lines).filter (fun span => span.line = ((n + k : Nat) : Int)) =
      (marksOf previous line).map (⟨(n + k : Nat), ·⟩) := by
  induction lines generalizing n before k with
  | nil => exact absurd hline (by simp)
  | cons first rest ih =>
    rw [spansFrom, List.filter_append]
    cases k with
    | zero =>
      obtain rfl := Option.some.inj hline
      obtain rfl := Option.some.inj hprevious
      have hlater : (spansFrom (n + 1) first rest).filter
          (fun span => span.line = ((n + 0 : Nat) : Int)) = [] := by
        refine List.filter_eq_nil_iff.2 fun span hspan => ?_
        obtain ⟨k, -, hk⟩ := exists_of_mem_spansFrom hspan
        rw [decide_eq_true_iff]
        omega
      rw [hlater, List.append_nil]
      exact List.filter_eq_self.2 (by simp)
    | succ k =>
      have hearlier : ((marksOf before first).map fun m => (⟨n, m⟩ : Span)).filter
          (fun span => span.line = ((n + (k + 1) : Nat) : Int)) = [] := by
        refine List.filter_eq_nil_iff.2 fun span hspan => ?_
        obtain ⟨m, -, rfl⟩ := List.mem_map.1 hspan
        rw [decide_eq_true_iff]
        dsimp only
        omega
      rw [hearlier, List.nil_append, ← Nat.add_assoc, Nat.add_right_comm]
      exact ih hline hprevious (n + 1)

/-- The line before a line; the first one counts as having an empty line before it. -/
def lineBefore (lines : List Text) : Nat → Text
  | 0 => []
  | n + 1 => (lines[n]?).getD []

theorem filter_highlights (hline : lines[n]? = some line) :
    (highlights lines).filter (fun span => span.line = (n : Int)) =
      (marksOf (lineBefore lines n) line).map (⟨n, ·⟩) := by
  have hprevious : (([] : Text) :: lines)[n]? = some (lineBefore lines n) := by
    cases n with
    | zero => rfl
    | succ n =>
      have hn : n < lines.length := Nat.lt_of_succ_lt (List.getElem?_eq_some_iff.1 hline).1
      rw [List.getElem?_cons_succ, lineBefore, List.getElem?_eq_getElem hn]
      rfl
  have hspans := filter_spansFrom hline hprevious 0
  rwa [Nat.zero_add] at hspans

/-- A span lies on a line of the lines and is one of the marks of this line. -/
theorem mem_highlights {span : Span} : span ∈ highlights lines ↔
    ∃ (n : Nat) (line : Text), span.line = n ∧ lines[n]? = some line ∧
      span.mark ∈ marksOf (lineBefore lines n) line := by
  constructor
  · intro h
    obtain ⟨n, hn, hspan⟩ := exists_of_mem_spansFrom h
    rw [Nat.zero_add] at hspan
    have hline := List.getElem?_eq_getElem hn
    have hmem : span ∈ (highlights lines).filter fun span => span.line = (n : Int) :=
      List.mem_filter.2 ⟨h, decide_eq_true hspan⟩
    rw [filter_highlights hline] at hmem
    obtain ⟨m, hm, rfl⟩ := List.mem_map.1 hmem
    exact ⟨n, _, rfl, hline, hm⟩
  · rintro ⟨n, line, hspan, hline, hm⟩
    have hmem : span ∈ (marksOf (lineBefore lines n) line).map (⟨n, ·⟩) :=
      List.mem_map.2 ⟨span.mark, hm, by rw [← hspan]⟩
    rw [← filter_highlights hline] at hmem
    exact (List.mem_filter.1 hmem).1

theorem count_highlights (hline : lines[n]? = some line) (m : Mark) :
    (highlights lines).count ⟨n, m⟩ = (marksOf (lineBefore lines n) line).count m := by
  have hthere : decide ((⟨n, m⟩ : Span).line = (n : Int)) = true := decide_eq_true rfl
  rw [← List.count_filter (p := fun span : Span => decide (span.line = (n : Int))) hthere,
    filter_highlights hline]
  exact List.count_map_of_injective _ _ (fun a b h => (Span.mk.inj h).2) m

/-- What stands out in some lines. -/
structure StandsOut (lines : List Text) (spans : List Span) : Prop where
  ordered : spans.Pairwise fun a b => a.line ≤ b.line
  /-- Just the names of basic types are marked as such, -/
  keyword : ∀ i start stop : Int, ⟨i, ⟨start, stop, .type⟩⟩ ∈ spans ↔
    ∃ (n first last : Nat) (line : Text), i = n ∧ start = first ∧ stop = last ∧
      lines[n]? = some line ∧ IsKeyword line first last
  /-- and each of them once. -/
  once : ∀ i start stop : Int, spans.count ⟨i, ⟨start, stop, .type⟩⟩ ≤ 1
  fits : ∀ span ∈ spans, ∃ (n : Nat) (line : Text), span.line = n ∧ lines[n]? = some line ∧
    FitsInto line span.mark
  /-- The heading of the raw message is marked, and the line behind it. -/
  comment : ∀ (n : Nat) (line : Text), lines[n]? = some line →
    (spans.filter fun span => span.line = (n : Int) && span.mark.style = .comment) =
      if Message.rawHeader <:+: line ∨ Message.rawHeader <:+: lineBefore lines n then
        [⟨n, ⟨0, -1, .comment⟩⟩]
      else []

theorem count_marksOf_type_le (before line : Text) (start stop : Int) :
    (marksOf before line).count ⟨start, stop, .type⟩ ≤ 1 := by
  have htype : decide ((⟨start, stop, .type⟩ : Mark).style = .type) = true := rfl
  rw [← List.count_filter (p := fun m : Mark => decide (m.style = .type)) htype,
    filter_marksOf_type]
  exact List.nodup_iff_count_le_one.1 (nodup_keywordMarks line) _

theorem standsOut_highlights (lines : List Text) : StandsOut lines (highlights lines) where
  ordered := pairwise_spansFrom 0 [] lines
  keyword i start stop := by
    rw [mem_highlights]
    constructor
    · rintro ⟨n, line, hi, hline, hm⟩
      obtain ⟨first, last, hstart, hstop, hword⟩ := type_mem_marksOf.1 hm
      exact ⟨n, first, last, line, hi, hstart, hstop, hline, hword⟩
    · rintro ⟨n, first, last, line, hi, hstart, hstop, hline, hword⟩
      exact ⟨n, line, hi, hline, type_mem_marksOf.2 ⟨first, last, hstart, hstop, hword⟩⟩
  once i start stop := by
    by_cases hmem : ⟨i, ⟨start, stop, .type⟩⟩ ∈ highlights lines
    · obtain ⟨n, line, rfl, hline, -⟩ := mem_highlights.1 hmem
      rw [count_highlights hline]
      exact count_marksOf_type_le ..
    · rw [List.count_eq_zero.2 hmem]
      exact Nat.zero_le 1
  fits span hspan := by
    obtain ⟨n, line, hi, hline, hm⟩ := mem_highlights.1 hspan
    exact ⟨n, line, hi, hline, fitsInto_of_mem_marksOf hm⟩
  comment n line hline := by
    have hsplit : ((highlights lines).filter fun span =>
        span.line = (n : Int) && span.mark.style = .comment) = ((highlights lines).filter
          fun span => span.line = (n : Int)).filter fun span => span.mark.style = .comment := by
      rw [List.filter_filter]
      exact List.filter_congr fun span _ => Bool.and_comm ..
    rw [hsplit, filter_highlights hline, List.filter_map]
    show ((marksOf _ line).filter (·.style = .comment)).map _ = _
    rw [filter_marksOf_comment]
    split <;> rfl

end Legible.Popup
