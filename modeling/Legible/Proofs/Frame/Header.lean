import Legible.Proofs.Frame.RoundTrip
import Legible.Proofs.Text.Case
import Legible.Proofs.Text.Lines
import Legible.Proofs.Text.Parts

/-!
# What a header tells

A header is a list of lines with a carriage return and a line feed between neighbours, of which only
the ASCII characters count.  The length of the body is told by the first line that is named for it,
in letters of either case and with blanks around the name or not: `TellsLength` says so of the lines,
and a reader finds just that length (`contentLength?_eq_some_iff`).

The reader finds the end of a header at the first terminator, which may begin inside the last line
of the header if that ends with a part of it (`splitHeader?_eq_some_iff`).
-/

namespace Legible

namespace Text

theorem toNat_of_mem_asciiOf {bs : Bytes} {c : Char} (h : c ∈ asciiOf bs) : c.toNat < 0x80 := by
  obtain ⟨b, hb, rfl⟩ := List.mem_map.1 h
  have hlt : b.toNat < 0x80 := by simpa using (List.mem_filter.1 hb).2
  have hvalid : b.toNat.isValidChar := .inl (by omega)
  rw [Char.ofNat, dif_pos hvalid]
  exact hlt

end Text

namespace Frame

open Text (asciiOf join strip)

/-! ## The end of a header -/

/-- Whether the terminator behind a header is the first one, also where the header ends with a part
of a terminator. -/
def EndsOnce (header : Bytes) : Prop :=
  ∀ before after, header ++ terminator = before ++ (terminator ++ after) → after = []

theorem endsOnce_nil : EndsOnce [] := by
  intro before after h
  have hlen := congrArg List.length h
  simp only [List.length_append, List.length_nil] at hlen
  exact List.eq_nil_of_length_eq_zero (by omega)

/-- A header that goes on does not begin with a terminator. -/
theorem EndsOnce.ne_terminator {b : UInt8} {header : Bytes} (h : EndsOnce (b :: header))
    (rest more : Bytes) : b :: (header ++ (terminator ++ rest)) ≠ terminator ++ more := by
  intro heq
  have hbegins : terminator <+: b :: (header ++ terminator) := by
    have hlong : terminator <+: b :: (header ++ (terminator ++ rest)) := ⟨more, heq.symm⟩
    have hshort : b :: (header ++ terminator) <+: b :: (header ++ (terminator ++ rest)) :=
      ⟨rest, by simp⟩
    refine List.prefix_of_prefix_length_le hlong hshort ?_
    simp only [List.length_cons, List.length_append]
    omega
  obtain ⟨after, hafter⟩ := hbegins
  have hnil := h [] after hafter.symm
  have hlen := congrArg List.length hafter
  simp only [hnil, List.append_nil, List.length_cons, List.length_append] at hlen
  omega

theorem EndsOnce.tail {b : UInt8} {header : Bytes} (h : EndsOnce (b :: header)) :
    EndsOnce header :=
  fun before after heq => h (b :: before) after (congrArg (b :: ·) heq)

theorem splitHeader?_of_ne {b : UInt8} {bs : Bytes} (h : ∀ more, b :: bs ≠ terminator ++ more) :
    splitHeader? (b :: bs) = (splitHeader? bs).map fun p => (b :: p.1, p.2) := by
  rw [splitHeader?]
  rintro more rfl rfl
  exact h more rfl

/-- A header is what stands before the first terminator. -/
theorem splitHeader?_eq_some_iff {bs header rest : Bytes} :
    splitHeader? bs = some (header, rest) ↔
      bs = header ++ (terminator ++ rest) ∧ EndsOnce header := by
  constructor
  · intro h
    fun_induction splitHeader? bs generalizing header with
    | case1 more =>
      obtain ⟨rfl, rfl⟩ := Prod.mk.inj (Option.some.inj h)
      exact ⟨rfl, endsOnce_nil⟩
    | case2 b bs hb ih =>
      obtain ⟨⟨first, second⟩, hsplit, hp⟩ := Option.map_eq_some_iff.1 h
      obtain ⟨rfl, rfl⟩ := Prod.mk.inj hp
      obtain ⟨rfl, honce⟩ := ih hsplit
      refine ⟨rfl, fun before after heq => ?_⟩
      cases before with
      | nil =>
        -- the terminator would begin with the first octet
        have hbegins : b :: (first ++ (terminator ++ second)) = terminator ++ (after ++ second) := by
          rw [← List.append_assoc terminator, ← List.append_assoc first, ← List.cons_append]
          exact congrArg (· ++ second) heq
        obtain ⟨rfl, hrest⟩ := List.cons.inj hbegins
        exact absurd hrest (hb _ rfl)
      | cons c before => exact honce before after (List.cons.inj heq).2
    | case3 => exact absurd h (by simp)
  · rintro ⟨rfl, honce⟩
    induction header with
    | nil => rfl
    | cons b header ih =>
      rw [List.cons_append, splitHeader?_of_ne (honce.ne_terminator rest), ih honce.tail]
      rfl

/-! ## Lines -/

theorem headerLines_ne_nil (t : Text) : headerLines t ≠ [] := by
  fun_cases headerLines t with
  | case1 => exact List.cons_ne_nil _ _
  | case2 rest => exact List.cons_ne_nil _ _
  | case3 c rest hc => exact Text.consHead_ne_nil c _

theorem join_headerLines (t : Text) : join lineEnd (headerLines t) = t := by
  fun_induction headerLines t with
  | case1 => rfl
  | case2 rest ih =>
    obtain ⟨line, lines, hlines⟩ := List.exists_cons_of_ne_nil (headerLines_ne_nil rest)
    rw [hlines] at ih
    rw [hlines, Text.join_nil_cons lineEnd (List.cons_ne_nil line lines), ih]
    rfl
  | case3 c rest hc ih => rw [Text.join_consHead lineEnd c (headerLines_ne_nil rest), ih]

theorem isLine_of_mem_headerLines {t line : Text} (h : line ∈ headerLines t) : IsLine line := by
  fun_induction headerLines t generalizing line with
  | case1 =>
    rw [List.mem_singleton.1 h]
    exact fun hinfix => absurd (List.infix_nil.1 hinfix) (List.cons_ne_nil _ _)
  | case2 rest ih =>
    rcases List.mem_cons.1 h with rfl | h
    · exact fun hinfix => absurd (List.infix_nil.1 hinfix) (List.cons_ne_nil _ _)
    · exact ih h
  | case3 c rest hc ih =>
    obtain ⟨first, lines, hlines⟩ := List.exists_cons_of_ne_nil (headerLines_ne_nil rest)
    rw [hlines] at h ih
    rcases List.mem_cons.1 h with rfl | h
    · intro hinfix
      rcases List.infix_cons_iff.1 hinfix with hprefix | hinfix
      · -- then the text begins with the end of a line
        obtain ⟨more, hmore⟩ := hprefix
        obtain ⟨rfl, hfirst⟩ := List.cons.inj hmore
        have hrest := join_headerLines rest
        rw [hlines, ← hfirst] at hrest
        cases lines with
        | nil => exact hc more rfl hrest.symm
        | cons next lines => exact hc _ rfl hrest.symm
      · exact ih List.mem_cons_self hinfix
    · exact ih (List.mem_cons_of_mem first h)

theorem headerLines_append {line : Text} (h : IsLine line) (rest : Text) :
    headerLines (line ++ (lineEnd ++ rest)) = line :: headerLines rest := by
  induction line with
  | nil => rfl
  | cons c line ih =>
    rw [List.cons_append, headerLines, ih h.tail]
    · rfl
    · rintro more rfl hline
      cases line with
      | nil => exact absurd (List.cons.inj hline).1 (by decide)
      | cons d line =>
        obtain ⟨rfl, -⟩ := List.cons.inj hline
        exact h ⟨[], line, rfl⟩

/-- Lines that are put together are taken apart again. -/
theorem headerLines_join {lines : List Text} (hne : lines ≠ []) (h : ∀ line ∈ lines, IsLine line) :
    headerLines (join lineEnd lines) = lines := by
  induction lines with
  | nil => exact absurd rfl hne
  | cons line lines ih =>
    have hline : IsLine line := h line List.mem_cons_self
    by_cases hlines : lines = []
    · rw [hlines]
      exact headerLines_line hline
    · rw [Text.join_cons line hlines, headerLines_append hline,
        ih hlines fun l hl => h l (List.mem_cons_of_mem line hl)]

/-! ## The length -/

/-- Whether a name is that of the length, in letters of either case. -/
def IsLengthName (name : Text) : Prop :=
  (strip name).map Char.toLower = "content-length".toList

instance (name : Text) : Decidable (IsLengthName name) := inferInstanceAs (Decidable (_ = _))

/-- Whether the name of a line, which stands before its first colon, is that of the length. -/
def IsLengthLine (line : Text) : Prop :=
  ∃ name value, line = name ++ ':' :: value ∧ ':' ∉ name ∧ IsLengthName name

/-- Whether a header tells a length: by a line that is named for it and holds the numeral, among
other lines of which none before it is named so. -/
def TellsLength (header : Bytes) (n : Nat) : Prop :=
  ∃ before name value after,
    asciiOf header = join lineEnd (before ++ (name ++ ':' :: value) :: after) ∧
    (∀ line ∈ before ++ (name ++ ':' :: value) :: after, IsLine line) ∧
    (∀ line ∈ before, ¬ IsLengthLine line) ∧
    ':' ∉ name ∧ IsLengthName name ∧ Number.ofText (strip value) = .ok (n : Int)

theorem lower_strip_eq_iff {name : Text} (h : ∀ c ∈ name, c.toNat < 0x80) :
    Text.lower (strip name) = "content-length".toList ↔ IsLengthName name := by
  rw [Text.lower_of_ascii fun c hc => h c (Text.mem_of_mem_strip hc), IsLengthName]

variable {header : Bytes} {line name value : Text} {n : Nat}

theorem lengthInLine?_of_name (hname : ':' ∉ name)
    (hascii : ∀ c ∈ name ++ ':' :: value, c.toNat < 0x80) :
    lengthInLine? (name ++ ':' :: value) =
      if IsLengthName name then
        match Number.ofText (strip value) with
        | .ok (.ofNat n) => some (some n)
        | _ => some none
      else none := by
  rw [lengthInLine?, Text.cutAt?_eq_some_iff.2 ⟨rfl, hname⟩]
  have hiff := lower_strip_eq_iff fun c hc => hascii c (List.mem_append_left _ hc)
  exact ite_congr (propext hiff) (fun _ => rfl) fun _ => rfl

/-- A line without a colon has no name. -/
theorem exists_name_of_mem (h : ':' ∈ line) :
    ∃ name value, line = name ++ ':' :: value ∧ ':' ∉ name := by
  cases hcut : Text.cutAt? ':' line with
  | none => exact absurd h (Text.cutAt?_eq_none_iff.1 hcut)
  | some p => exact ⟨p.1, p.2, Text.cutAt?_eq_some_iff.1 hcut⟩

theorem lengthInLine?_eq_none_iff (hascii : ∀ c ∈ line, c.toNat < 0x80) :
    lengthInLine? line = none ↔ ¬ IsLengthLine line := by
  by_cases hcolon : ':' ∈ line
  · obtain ⟨name, value, rfl, hname⟩ := exists_name_of_mem hcolon
    rw [lengthInLine?_of_name hname hascii]
    split
    · rename_i hlength
      refine iff_of_false ?_ (not_not_intro ⟨name, value, rfl, hname, hlength⟩)
      split <;> exact Option.some_ne_none _
    · rename_i hlength
      refine iff_of_true rfl ?_
      rintro ⟨other, rest, heq, hother, hlength'⟩
      have hcut := Text.cutAt?_eq_some_iff.2 ⟨heq, hother⟩
      rw [Text.cutAt?_eq_some_iff.2 ⟨rfl, hname⟩] at hcut
      obtain ⟨rfl, -⟩ := Prod.mk.inj (Option.some.inj hcut)
      exact hlength hlength'
  · refine iff_of_true ?_ ?_
    · rw [lengthInLine?, Text.cutAt?_eq_none_iff.2 hcolon]
    · rintro ⟨name, value, rfl, -⟩
      exact hcolon (List.mem_append_right _ List.mem_cons_self)

theorem lengthInLine?_eq_some_iff (hascii : ∀ c ∈ line, c.toNat < 0x80) :
    lengthInLine? line = some (some n) ↔ ∃ name value, line = name ++ ':' :: value ∧ ':' ∉ name ∧
      IsLengthName name ∧ Number.ofText (strip value) = .ok (n : Int) := by
  constructor
  · intro h
    have hlength : IsLengthLine line := by
      refine Classical.byContradiction fun hnone => ?_
      rw [(lengthInLine?_eq_none_iff hascii).2 hnone] at h
      exact absurd h.symm (Option.some_ne_none _)
    obtain ⟨name, value, rfl, hname, hlength⟩ := hlength
    rw [lengthInLine?_of_name hname hascii, if_pos hlength] at h
    refine ⟨name, value, rfl, hname, hlength, ?_⟩
    split at h
    · rename_i m hvalue
      rw [hvalue, Option.some.inj (Option.some.inj h)]
      rfl
    · exact absurd (Option.some.inj h) (Option.some_ne_none _).symm
  · rintro ⟨name, value, rfl, hname, hlength, hvalue⟩
    rw [lengthInLine?_of_name hname hascii, if_pos hlength, hvalue]

/-- A reader finds the length that a header tells. -/
theorem contentLength?_eq_some_iff : contentLength? header = some n ↔ TellsLength header n := by
  have hascii {lines : List Text} (hjoin : asciiOf header = join lineEnd lines) {line : Text}
      (hline : line ∈ lines) : ∀ c ∈ line, c.toNat < 0x80 := fun c hc =>
    Text.toNat_of_mem_asciiOf (hjoin ▸ Text.mem_join hline hc)
  rw [contentLength?, Option.join_eq_some_iff]
  constructor
  · intro h
    obtain ⟨before, line, after, hlines, hline, hbefore⟩ := List.findSome?_eq_some_iff.1 h
    have hjoin : asciiOf header = join lineEnd (before ++ line :: after) := by
      rw [← hlines, join_headerLines]
    obtain ⟨name, value, rfl, hname, hlength, hvalue⟩ :=
      (lengthInLine?_eq_some_iff (hascii hjoin (by simp))).1 hline
    refine ⟨before, name, value, after, hjoin, fun line hl => ?_, fun line hl => ?_, hname, hlength,
      hvalue⟩
    · exact isLine_of_mem_headerLines (hlines ▸ hl)
    · exact (lengthInLine?_eq_none_iff (hascii hjoin (List.mem_append_left _ hl))).1 (hbefore line hl)
  · rintro ⟨before, name, value, after, hjoin, hlines, hbefore, hname, hlength, hvalue⟩
    rw [hjoin, headerLines_join (by simp) hlines]
    refine List.findSome?_eq_some_iff.2 ⟨before, _, after, rfl, ?_, fun line hl => ?_⟩
    · exact (lengthInLine?_eq_some_iff (hascii hjoin (by simp))).2
        ⟨name, value, rfl, hname, hlength, hvalue⟩
    · exact (lengthInLine?_eq_none_iff (hascii hjoin (List.mem_append_left _ hl))).2 (hbefore line hl)

theorem contentLength?_eq_none_iff :
    contentLength? header = none ↔ ∀ n, ¬ TellsLength header n := by
  rw [Option.eq_none_iff_forall_ne_some]
  exact forall_congr' fun n => not_congr contentLength?_eq_some_iff

end Frame

end Legible
