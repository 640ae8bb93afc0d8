import Legible.Proofs.Frame.Segments
import Legible.Proofs.Message.Ink
import Legible.Proofs.Value.Controls

/-!
# Stray octets before frames

Octets that are no frame and hold no carriage return run into the header of the frame that comes
next.  Where they are blank, beyond ASCII, or nothing, the header still tells its length.  Anything
else hides it, and a reader then drops the header alone: the body that it belongs to is left, runs
into the next header, and hides that as well.  So a reader gives every message or none
(`feed_stray`), and in the second case it waits for ever with the last body in hand.
-/

namespace Legible

namespace Text

variable {c : Char} {t : Text}

theorem mem_strip (h : c ∈ t) (hc : isBlank c = false) : c ∈ strip t := by
  have hink : c ∈ ink (strip t) := by
    rw [strip, ink_stripRight, ink_stripLeft]
    exact List.mem_filter.2 ⟨h, by rw [hc]; rfl⟩
  exact (List.mem_filter.1 hink).1

end Text

/-! ## Numerals -/

namespace Number

variable {c : Char} {t : Text}

/-- Whether a character has no place in a numeral, or around it. -/
def IsForeign (c : Char) : Prop :=
  isMargin c = false ∧ Text.digitValue? c = none ∧ c ∉ ['-', '+', '_']

instance (c : Char) : Decidable (IsForeign c) := inferInstanceAs (Decidable (_ ∧ _))

theorem mem_trim (h : c ∈ t) (hc : isMargin c = false) : c ∈ trim t := by
  have hdrop {t : Text} (h : c ∈ t) : c ∈ t.dropWhile isMargin := by
    rw [← List.takeWhile_append_dropWhile (p := isMargin) (l := t), List.mem_append] at h
    refine h.resolve_left fun hmem => ?_
    rw [List.mem_takeWhile_imp hmem] at hc
    exact Bool.noConfusion hc
  rw [trim, List.mem_reverse]
  exact hdrop (List.mem_reverse.2 (hdrop h))

theorem mem_splitSign (h : c ∈ t) (hc : c ∉ ['-', '+', '_']) : c ∈ (splitSign t).2 := by
  have hminus : c ≠ '-' := fun e => hc (by rw [e]; decide)
  have hplus : c ≠ '+' := fun e => hc (by rw [e]; decide)
  unfold splitSign
  split
  · exact (List.mem_cons.1 h).resolve_left hminus
  · exact (List.mem_cons.1 h).resolve_left hplus
  · exact h

theorem numeralDigits?_eq_none (h : c ∈ t) (hc : IsForeign c) : numeralDigits? t = none := by
  have hdigit (d : Char) {ds : Option (List Nat)} (h : c = d ∨ ds = none) :
      (do let d ← Text.digitValue? d; let ds ← ds; pure (d :: ds)) = none := by
    rcases h with rfl | rfl
    · rw [hc.2.1]
      rfl
    · cases Text.digitValue? d <;> rfl
  fun_induction numeralDigits? t with
  | case1 => rfl
  | case2 d => rw [← List.mem_singleton.1 h, hc.2.1]; rfl
  | case3 d rest ih =>
    have hscore : c ≠ '_' := fun e => hc.2.2 (by rw [e]; decide)
    rcases List.mem_cons.1 h with h | h
    · exact hdigit d (.inl h)
    · exact hdigit d (.inr (ih ((List.mem_cons.1 h).resolve_left hscore)))
  | case4 d rest _ _ ih =>
    rcases List.mem_cons.1 h with h | h
    · exact hdigit d (.inl h)
    · exact hdigit d (.inr (ih h))

theorem ofText_eq_error (h : c ∈ t) (hc : IsForeign c) : ofText t = .error .notNumeral := by
  have hbody := mem_splitSign (mem_trim h hc.1) hc.2.2
  rw [ofText]
  dsimp only
  rw [numeralDigits?_eq_none hbody hc]

end Number

namespace Frame

open Text (asciiOf strip)

/-! ## Headers behind stray octets -/

theorem contentLength?_of_line {header : Bytes} (h : '\r' ∉ asciiOf header) :
    contentLength? header = (lengthInLine? (asciiOf header)).join := by
  rw [contentLength?, headerLines_of_not_mem h, List.findSome?_cons]
  cases lengthInLine? (asciiOf header) <;> rfl

/-- A name that something stands before is longer than that of the length. -/
theorem isLengthName_append_iff {stray : Text} :
    IsLengthName (stray ++ "Content-Length".toList) ↔ Text.allBlank stray := by
  constructor
  · intro h
    have hlength : (strip (stray ++ "Content-Length".toList)).length = 14 := by
      rw [← List.length_map Char.toLower, h]
      rfl
    have hink : (Text.ink (strip (stray ++ "Content-Length".toList))).length =
        (Text.ink stray).length + 14 := by
      rw [strip, Text.ink_stripRight, Text.ink_stripLeft, Text.ink_append, List.length_append]
      rfl
    have hle : (Text.ink (strip (stray ++ "Content-Length".toList))).length ≤ 14 :=
      hlength ▸ List.length_filter_le _ _
    have hnone : Text.ink stray = [] := List.eq_nil_of_length_eq_zero (by omega)
    rw [Text.ink, List.filter_eq_nil_iff] at hnone
    exact List.all_eq_true.2 fun c hc => by simpa using hnone c hc
  · intro h
    have hleft : Text.stripLeft (stray ++ "Content-Length".toList) =
        Text.stripLeft "Content-Length".toList :=
      List.dropWhile_append_of_pos (List.all_eq_true.1 h)
    have hname : IsLengthName "Content-Length".toList := by decide +kernel
    rw [IsLengthName, strip, hleft]
    exact hname

/-- A header tells its length behind blanks, and none behind anything else. -/
theorem lengthInLine?_stray {stray : Text} (hascii : ∀ c ∈ stray, c.toNat < 0x80) (n : Nat) :
    (lengthInLine? (stray ++ header n)).join =
      if Text.allBlank stray then (lengthInLine? (header n)).join else none := by
  have hheader : header n = "Content-Length".toList ++ ':' :: ' ' :: Text.ofNat n := rfl
  have hline : ∀ c ∈ stray ++ header n, c.toNat < 0x80 :=
    List.forall_mem_append.2 ⟨hascii, fun c hc => (toNat_of_mem_header hc).1⟩
  by_cases hcolon : ':' ∈ stray
  · -- the name of the length stands in what should be a numeral
    have hblank : ¬ Text.allBlank stray := fun h =>
      absurd (List.all_eq_true.1 h ':' hcolon) (by decide)
    obtain ⟨name, value, rfl, hname⟩ := exists_name_of_mem hcolon
    have hvalue : Number.ofText (strip (value ++ header n)) = .error .notNumeral := by
      refine Number.ofText_eq_error (c := 'C') (Text.mem_strip ?_ (by decide)) (by decide)
      exact List.mem_append_right _ List.mem_cons_self
    rw [List.append_assoc, List.cons_append] at hline
    rw [if_neg hblank, List.append_assoc, List.cons_append, lengthInLine?_of_name hname hline,
      hvalue]
    split <;> rfl
  · -- the name of the length has the stray text in front of it
    have hname : ':' ∉ stray ++ "Content-Length".toList := fun h =>
      (List.mem_append.1 h).elim hcolon (by decide)
    have hown : IsLengthName "Content-Length".toList := by decide +kernel
    rw [hheader, ← List.append_assoc] at hline
    rw [hheader, ← List.append_assoc, lengthInLine?_of_name hname hline,
      lengthInLine?_of_name (by decide) fun c hc => (toNat_of_mem_header (n := n) hc).1,
      if_pos hown]
    simp only [isLengthName_append_iff]
    split <;> rfl

/-- The length that a header tells behind stray octets. -/
theorem contentLength?_stray {stray : Bytes} (h : 13 ∉ stray) (n : Nat) :
    contentLength? (stray ++ Text.encode (header n)) =
      if Text.allBlank (asciiOf stray) then contentLength? (Text.encode (header n)) else none := by
  have hheader : asciiOf (Text.encode (header n)) = header n :=
    Text.asciiOf_encode fun c hc => (toNat_of_mem_header hc).1
  have hreturn : '\r' ∉ header n := fun hc => (toNat_of_mem_header hc).2 rfl
  have hstray : '\r' ∉ asciiOf stray := Text.return_not_mem_asciiOf h
  rw [contentLength?_of_line, Text.asciiOf_append, hheader,
    lengthInLine?_stray (fun c hc => Text.toNat_of_mem_asciiOf hc), contentLength?_of_line, hheader]
  · rwa [hheader]
  · rw [Text.asciiOf_append, hheader, List.mem_append, not_or]
    exact ⟨hstray, hreturn⟩

/-! ## Reading behind stray octets -/

/-- The octets of a message, without a header. -/
def bodyOf (message : Fields) : Bytes := Text.encode (Value.print (.obj message))

theorem return_not_mem_bodyOf (message : Fields) : 13 ∉ bodyOf message :=
  Text.not_mem_encode (Value.noControls_print _).return_not_mem

/-- A message is never blank: it begins with a brace. -/
theorem not_allBlank_bodyOf (message : Fields) : ¬ Text.allBlank (asciiOf (bodyOf message)) := by
  have hbrace : '\x7b' ∈ asciiOf (bodyOf message) := by
    have hprint : Value.print (.obj message) =
        '\x7b' :: (Value.printFields message ++ ['\x7d']) := rfl
    rw [bodyOf, hprint, Text.asciiOf_encode_cons (by decide)]
    exact List.mem_cons_self
  exact fun h => absurd (List.all_eq_true.1 h _ hbrace) (by decide)

namespace Reader

variable {halts : Bytes → Bool} {stray : Bytes} {message : Fields} {messages : List Fields}

theorem endsOnce_of_return_not_mem {header : Bytes} (h : 13 ∉ header) : EndsOnce header :=
  (splitHeader?_eq_some_iff.1 (splitHeader?_append_terminator h [])).2

theorem step_stray (h : 13 ∉ stray) (message : Fields) (rest : Bytes) :
    step ⟨stray ++ (encode (.obj message) ++ rest), none⟩ =
      some (none, ⟨bodyOf message ++ rest,
        if Text.allBlank (asciiOf stray) then
          contentLength? (Text.encode (header (bodyOf message).length))
        else none⟩) := by
  have honce : EndsOnce (stray ++ Text.encode (header (bodyOf message).length)) := by
    apply endsOnce_of_return_not_mem
    rw [List.mem_append, not_or]
    exact ⟨h, return_not_mem_header _⟩
  have hstep := step_header honce (bodyOf message ++ rest)
  rw [contentLength?_stray h] at hstep
  rw [encode_eq, ← hstep, bodyOf]
  simp only [List.append_assoc]

/-- Blanks before a frame change nothing. -/
theorem bodies_blank (h : 13 ∉ stray) (hblank : Text.allBlank (asciiOf stray)) (rest : Bytes) :
    bodies halts ⟨stray ++ (encode (.obj message) ++ rest), none⟩ =
      bodies halts ⟨encode (.obj message) ++ rest, none⟩ := by
  have hstep := step_stray h message rest
  have hbare := step_stray List.not_mem_nil message rest
  rw [if_pos hblank] at hstep
  have hempty : Text.allBlank (asciiOf []) := rfl
  rw [if_pos hempty, List.nil_append] at hbare
  rw [bodies_of_header hstep, bodies_of_header hbare]

theorem bodies_of_return_not_mem (h : 13 ∉ stray) :
    bodies halts ⟨stray, none⟩ = ([], ⟨stray, none⟩) := by
  apply bodies_of_stuck
  rw [step]
  cases hsplit : splitHeader? stray with
  | none => rfl
  | some p =>
    obtain ⟨header, rest⟩ := p
    rw [(splitHeader?_eq_some_iff.1 hsplit).1] at h
    exact absurd (by simp [terminator]) h

/-- Where stray octets hide the length of the first header, no body is read at all: each is what
hides the next header. -/
theorem bodies_stray (h : 13 ∉ stray) (hblank : ¬ Text.allBlank (asciiOf stray))
    (hne : messages ≠ []) :
    bodies halts ⟨stray ++ messages.flatMap (fun m => encode (.obj m)), none⟩ =
      ([], ⟨bodyOf (messages.getLast hne), none⟩) := by
  induction messages generalizing stray with
  | nil => exact absurd rfl hne
  | cons message rest ih =>
    have hstep := step_stray h message (rest.flatMap fun m => encode (.obj m))
    rw [if_neg hblank] at hstep
    rw [List.flatMap_cons, bodies_of_header hstep]
    by_cases hrest : rest = []
    · subst hrest
      rw [List.flatMap_nil, List.append_nil, List.getLast_singleton]
      exact bodies_of_return_not_mem (return_not_mem_bodyOf message)
    · rw [ih (return_not_mem_bodyOf message) (not_allBlank_bodyOf message) hrest,
        List.getLast_cons hrest]

theorem feed_of_readable (h : ∀ m ∈ messages, IsReadable m) :
    (feed {} (messages.flatMap fun m => encode (.obj m))).1 = messages := by
  rw [feed_eq, extend, List.nil_append, bodies_frames h]
  dsimp only
  rw [List.filterMap_map]
  exact (List.filterMap_congr fun m hm => messageOf?_print (h m hm).1).trans List.filterMap_some

/-- Stray octets before frames change nothing if they are blank where they are ASCII.  Otherwise no
message is given, and the reader is left with the last one, which it takes for the beginning of a
header.  So of two messages or more all but the first are given only in the first case. -/
theorem feed_stray {stray : Bytes} {messages : List Fields} (h : 13 ∉ stray)
    (hne : messages ≠ []) :
    let frames := messages.flatMap fun m => encode (.obj m)
    let blank := Text.allBlank (asciiOf stray)
    let left : Reader := ⟨bodyOf (messages.getLast hne), none⟩
    (blank → feed {} (stray ++ frames) = feed {} frames ∧
      ∀ depth, feedWithin depth {} (stray ++ frames) = feedWithin depth {} frames) ∧
    (¬ blank → feed {} (stray ++ frames) = ([], left) ∧
      ∀ depth, feedWithin depth {} (stray ++ frames) = (some [], left)) ∧
    ((∀ m ∈ messages, IsReadable m) → 2 ≤ messages.length →
      ((feed {} (stray ++ frames)).1 = messages ∨ (feed {} (stray ++ frames)).1 = messages.tail ↔
        blank)) := by
  intro frames blank left
  have hquiet (hblank : blank) (halts : Bytes → Bool) :
      bodies halts ⟨stray ++ frames, none⟩ = bodies halts ⟨frames, none⟩ := by
    obtain ⟨message, rest, rfl⟩ := List.exists_cons_of_ne_nil hne
    exact bodies_blank h hblank _
  have hhidden (hblank : ¬ blank) (halts : Bytes → Bool) :
      bodies halts ⟨stray ++ frames, none⟩ = ([], left) := bodies_stray h hblank hne
  have hfeed (hblank : blank) : feed {} (stray ++ frames) = feed {} frames := by
    simp only [feed, List.nil_append, hquiet hblank]
  have hnone (hblank : ¬ blank) : feed {} (stray ++ frames) = ([], left) := by
    simp only [feed, List.nil_append, hhidden hblank, List.filterMap_nil]
  refine ⟨fun hblank => ⟨hfeed hblank, fun depth => ?_⟩,
    fun hblank => ⟨hnone hblank, fun depth => ?_⟩, fun hreadable htwo => ⟨fun hgiven => ?_, ?_⟩⟩
  · simp only [feedWithin, List.nil_append, hquiet hblank]
  · simp [feedWithin, hhidden hblank]
  · refine Classical.byContradiction fun hblank => ?_
    rw [hnone hblank] at hgiven
    have htail : messages.tail.length + 1 = messages.length := by
      rw [List.length_tail]
      omega
    rcases hgiven with hgiven | hgiven
    · exact hne hgiven.symm
    · rw [← hgiven, List.length_nil] at htail
      omega
  · intro hblank
    rw [hfeed hblank, feed_of_readable hreadable]
    exact .inl rfl

/-- A message without fields, and one with a field. -/
def shortMessages : List Fields := [[], [(['a'], .int 1)]]

theorem isReadable_shortMessages : ∀ m ∈ shortMessages, IsReadable m := by
  simp only [shortMessages, List.forall_mem_cons, IsReadable, Value.IsPlain, Value.FieldsPlain,
    List.not_mem_nil, false_implies, forall_const]
  decide +kernel

/-- A tab and an octet beyond ASCII do no harm. -/
theorem feed_stray_tab :
    let fed := feed {} ([9, 200] ++ shortMessages.flatMap fun m => encode (.obj m))
    13 ∉ ([9, 200] : Bytes) ∧ shortMessages ≠ [] ∧
      (∀ m ∈ shortMessages, IsReadable m) ∧ 2 ≤ shortMessages.length ∧
      fed = feed {} (shortMessages.flatMap fun m => encode (.obj m)) ∧
      (fed.1 = shortMessages ∨ fed.1 = shortMessages.tail) := by
  intro fed
  have hreturn : 13 ∉ ([9, 200] : Bytes) := by decide
  have hne : shortMessages ≠ [] := List.cons_ne_nil _ _
  have hblank : Text.allBlank (asciiOf [9, 200]) := by decide
  have htwo : 2 ≤ shortMessages.length := Nat.le_refl 2
  obtain ⟨hsame, -, hgiven⟩ := feed_stray hreturn hne
  exact ⟨hreturn, hne, isReadable_shortMessages, htwo, (hsame hblank).1,
    (hgiven isReadable_shortMessages htwo).2 hblank⟩

/-- A single letter costs all messages. -/
theorem feed_letterBeforeFrames :
    octets "x" ≠ [] ∧ 13 ∉ octets "x" ∧ 10 ∉ octets "x" ∧
      (∀ m ∈ shortMessages, IsReadable m) ∧ 2 ≤ shortMessages.length ∧
      (feed {} (octets "x" ++ shortMessages.flatMap fun m => encode (.obj m))).1 = [] := by
  have hreturn : 13 ∉ octets "x" := by decide
  have hne : shortMessages ≠ [] := List.cons_ne_nil _ _
  refine ⟨by decide, hreturn, by decide, isReadable_shortMessages, Nat.le_refl 2, ?_⟩
  rw [feed_eq, extend, List.nil_append, bodies_stray hreturn (by decide) hne]
  rfl

end Reader

end Frame

end Legible
