import Legible.Proofs.Frame.Chunks
import Legible.Proofs.Text.Blank
import Legible.Proofs.Text.Utf8
import Legible.Proofs.Value.RoundTrip

/-!
# Reading frames that were written

A reader that holds nothing gives back the messages of the frames that it is fed, in order and
complete, and holds nothing afterwards (`feed_frames`).

The header of a frame holds no carriage return, so it ends at its terminator
(`splitHeader?_append_terminator`), and the length that it tells is read back
(`contentLength?_header`).
-/

namespace Legible

namespace Text

theorem isBlank_of_mem_ofNat {c : Char} {n : Nat} (h : c ∈ ofNat n) : isBlank c = false := by
  obtain ⟨h₁, h₂⟩ := toNat_of_mem_ofNat h
  simp only [isBlank, blankRanges, inRanges]
  grind

theorem strip_space_ofNat (n : Nat) : strip (' ' :: ofNat n) = ofNat n := by
  have hleft : stripLeft (' ' :: ofNat n) = ofNat n := by
    obtain ⟨c, t, hn⟩ := List.exists_cons_of_ne_nil (ofNat_ne_nil n)
    have hc := isBlank_of_mem_ofNat (c := c) (n := n) (by simp [hn])
    rw [stripLeft, List.dropWhile_cons_of_pos isBlank_space, hn,
      List.dropWhile_cons_of_neg (by simp [hc])]
  rw [strip, hleft, stripRight_of_forall fun c hc => isBlank_of_mem_ofNat hc]

end Text

namespace Frame

/-! ## Headers -/

/-- The header of a body of `n` octets. -/
def header (n : Nat) : Text := "Content-Length: ".toList ++ Text.ofNat n

theorem encode_eq (v : Value) :
    encode v = Text.encode (header (Text.encode v.print).length) ++
      (terminator ++ Text.encode v.print) :=
  List.append_assoc _ _ _

theorem toNat_of_mem_header {c : Char} {n : Nat} (h : c ∈ header n) :
    c.toNat < 0x80 ∧ c ≠ '\r' := by
  have h : c ∈ "Content-Length: ".toList ∨ c ∈ Text.ofNat n := List.mem_append.1 h
  rcases h with h | h
  · have hall : ∀ c ∈ "Content-Length: ".toList, c.toNat < 0x80 ∧ c ≠ '\r' := by simp
    exact hall c h
  · have hc := Text.toNat_of_mem_ofNat h
    refine ⟨by omega, ?_⟩
    rintro rfl
    simp at hc

theorem splitHeader?_append_terminator {header : Bytes} (h : 13 ∉ header) (rest : Bytes) :
    splitHeader? (header ++ (terminator ++ rest)) = some (header, rest) := by
  induction header with
  | nil => rfl
  | cons b header ih =>
    have hb : b ≠ 13 := fun e => h (by simp [e])
    rw [List.cons_append, splitHeader?]
    · rw [ih fun hm => h (by simp [hm])]
      rfl
    · exact fun _ e => absurd e hb

theorem return_not_mem_header (n : Nat) : 13 ∉ Text.encode (header n) :=
  Text.not_mem_encode fun hc => (toNat_of_mem_header hc).2 rfl

theorem splitHeader?_header (n : Nat) (rest : Bytes) :
    splitHeader? (Text.encode (header n) ++ (terminator ++ rest)) =
      some (Text.encode (header n), rest) :=
  splitHeader?_append_terminator (return_not_mem_header n) rest

/-- What stands between two lines of a header. -/
def lineEnd : Text := ['\r', '\n']

/-- Whether a text is one line: no end of a line stands in it. -/
def IsLine (line : Text) : Prop := ¬ lineEnd <:+: line

theorem IsLine.tail {c : Char} {line : Text} (h : IsLine (c :: line)) : IsLine line :=
  fun hinfix => h (List.infix_cons hinfix)

theorem headerLines_line {line : Text} (h : IsLine line) : headerLines line = [line] := by
  induction line with
  | nil => rfl
  | cons c line ih =>
    rw [headerLines, ih h.tail]
    · rfl
    · rintro more rfl rfl
      exact h ⟨[], more, rfl⟩

theorem headerLines_of_not_mem {t : Text} (h : '\r' ∉ t) : headerLines t = [t] :=
  headerLines_line fun hpart => h (List.IsInfix.subset hpart List.mem_cons_self)

theorem lengthInLine?_header {n : Nat} (h : (Text.ofNat n).length ≤ Number.digitLimit) :
    lengthInLine? (header n) = some (some n) := by
  have hcut : Text.cutAt? ':' (header n) = some ("Content-Length".toList, ' ' :: Text.ofNat n) := rfl
  have hname : Text.lower (Text.strip "Content-Length".toList) = "content-length".toList := by
    decide +kernel
  have hread := Number.ofText_ofNat ((Text.length_ofNat_le_iff (by decide)).1 h)
  rw [lengthInLine?, hcut]
  dsimp only
  rw [if_pos hname, Text.strip_space_ofNat, hread]

/-- The length that a header tells is read back. -/
theorem contentLength?_header {n : Nat} (h : (Text.ofNat n).length ≤ Number.digitLimit) :
    contentLength? (Text.encode (header n)) = some n := by
  rw [contentLength?, Text.asciiOf_encode fun c hc => (toNat_of_mem_header hc).1,
    headerLines_of_not_mem fun hm => (toNat_of_mem_header hm).2 rfl, List.findSome?_cons,
    lengthInLine?_header h]
  rfl

/-! ## Messages -/

/-- Whether a message can be read back: it is plain, and the number of its octets has no more digits
than are read, as that of every document has that fits into a memory. -/
def IsReadable (message : Fields) : Prop :=
  (Value.obj message).IsPlain ∧
    (Text.ofNat (Text.encode (Value.print (.obj message))).length).length ≤ Number.digitLimit

theorem messageOf?_print {message : Fields} (h : (Value.obj message).IsPlain) :
    messageOf? (Text.encode (Value.print (.obj message))) = some message := by
  rw [messageOf?, Text.decode?_encode, Option.bind_some, Value.parse?_print h]

namespace Reader

theorem step_body (body rest : Bytes) :
    step ⟨body ++ rest, some body.length⟩ = some (some body, ⟨rest, none⟩) := by
  simp [step]

/-- A reader that holds nothing reads the frame that comes first, whatever follows. -/
theorem bodies_frame {message : Fields} (h : IsReadable message) (rest : Bytes) :
    bodies (fun _ => false) ⟨encode (.obj message) ++ rest, none⟩ =
      (Text.encode (Value.print (.obj message)) :: (bodies (fun _ => false) ⟨rest, none⟩).1,
        (bodies (fun _ => false) ⟨rest, none⟩).2) := by
  obtain ⟨-, hlen⟩ := h
  generalize hbody : Text.encode (Value.print (.obj message)) = body at hlen ⊢
  have hheader : step ⟨encode (.obj message) ++ rest, none⟩ =
      some (none, ⟨body ++ rest, some body.length⟩) := by
    rw [step, encode_eq, hbody, List.append_assoc, List.append_assoc, splitHeader?_header]
    dsimp only [Option.map_some]
    rw [contentLength?_header hlen]
  rw [bodies_of_header hheader, bodies_of_body (step_body body rest) rfl]

theorem bodies_frames {messages : List Fields} (h : ∀ m ∈ messages, IsReadable m) :
    bodies (fun _ => false) ⟨messages.flatMap fun m => encode (.obj m), none⟩ =
      (messages.map fun m => Text.encode (Value.print (.obj m)), {}) := by
  induction messages with
  | nil => exact bodies_of_stuck rfl
  | cons m messages ih =>
    rw [List.flatMap_cons, bodies_frame (h m (by simp)), ih fun m hm => h m (by simp [hm])]
    rfl

/-- A reader that holds nothing gives back the messages of some frames, with their fields in order,
and holds nothing afterwards. -/
theorem feed_frames {messages : List Fields} (h : ∀ m ∈ messages, IsReadable m) :
    feed {} (messages.flatMap fun m => encode (.obj m)) = (messages, {}) := by
  have hread : (messages.map fun m => Text.encode (Value.print (.obj m))).filterMap messageOf? =
      messages := by
    rw [List.filterMap_map]
    induction messages with
    | nil => rfl
    | cons m messages ih =>
      rw [List.filterMap_cons, Function.comp_apply, messageOf?_print (h m (by simp)).1,
        ih fun m hm => h m (by simp [hm])]
  rw [feed_eq, extend, List.nil_append, bodies_frames h, hread]

/-- Two messages, with characters that are escaped, characters of several octets, and nesting. -/
def twoMessages : List Fields :=
  [[(['i', 'd'], .int (-42)), (['é', '"', '\\', '\n', '\x01'], .arr [.null, .bool true, .obj []])],
    [(['t'], .str ['😀', '\x7f', '/', '\t'])]]

theorem feed_frames_twoMessages :
    (∀ m ∈ twoMessages, IsReadable m) ∧
      feed {} (twoMessages.flatMap fun m => encode (.obj m)) = (twoMessages, {}) := by
  have h : ∀ m ∈ twoMessages, IsReadable m := by
    simp only [twoMessages, List.forall_mem_cons, IsReadable, Value.IsPlain, Value.FieldsPlain,
      Value.ItemsPlain, List.not_mem_nil, false_implies, forall_const]
    decide +kernel
  exact ⟨h, feed_frames h⟩

end Reader

end Frame

end Legible
