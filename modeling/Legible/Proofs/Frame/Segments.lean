import Legible.Proofs.Frame.Header
import Legible.Proofs.Value.Nesting
import Mathlib.Data.List.Basic

/-!
# Malformed frames between others

What a server writes is made of frames of messages, of frames whose body is no message, and of
headers that tell no length.  A reader takes each of them for itself, whatever stands in the bodies:
it gives the messages in order and passes over the rest (`feed_segments`).

Where the nesting of bodies is bounded, the first body beyond the bound stops the reader, which has
gone past it, and the messages before it are lost.
-/

namespace Legible.Frame

/-- Whether a body is the document of a message. -/
def IsMessage (body : Bytes) (fields : Fields) : Prop :=
  ∃ t, Text.decode? body = some t ∧ Value.parse? t = some (.obj fields)

theorem messageOf?_eq_some_iff {body : Bytes} {fields : Fields} :
    messageOf? body = some fields ↔ IsMessage body fields := by
  have hsome : (Text.decode? body).bind Value.parse? = some (.obj fields) ↔
      IsMessage body fields := Option.bind_eq_some_iff
  rw [← hsome, messageOf?]
  constructor
  · intro h
    split at h
    · rename_i fs hfs
      rw [hfs, Option.some.inj h]
    · exact absurd h.symm (Option.some_ne_none _)
  · intro h
    rw [h]

/-- A part of what a server writes. -/
inductive Segment
  /-- The frame of a message. -/
  | message (header body : Bytes) (fields : Fields)
  /-- A frame whose body is no text, no document, or no object. -/
  | noise (header body : Bytes)
  /-- A header without a length, with no body behind it. -/
  | loose (header : Bytes)

namespace Segment

/-- The octets of a part. -/
def octets : Segment → Bytes
  | message header body _ => header ++ (terminator ++ body)
  | noise header body => header ++ (terminator ++ body)
  | loose header => header ++ terminator

/-- The body of a frame. -/
def body? : Segment → Option Bytes
  | message _ body _ => some body
  | noise _ body => some body
  | loose _ => none

/-- The message of a frame that has one. -/
def message? : Segment → Option Fields
  | message _ _ fields => some fields
  | _ => none

/-- Whether a part is what it is said to be: its header ends with its terminator and tells the length
of its body, and the body is that message, or none; or the header tells no length. -/
def WellFormed : Segment → Prop
  | message header body fields =>
    EndsOnce header ∧ TellsLength header body.length ∧ IsMessage body fields
  | noise header body =>
    EndsOnce header ∧ TellsLength header body.length ∧ ∀ fields, ¬ IsMessage body fields
  | loose header => EndsOnce header ∧ ∀ n, ¬ TellsLength header n

/-- Whether the body of a part is nested more deeply than a bound. -/
def isTooDeep (depth : Nat) (s : Segment) : Bool := s.body?.any (Frame.isTooDeep depth)

/-- The parts behind the first one whose body `halts`. -/
def behind (halts : Bytes → Bool) (segments : List Segment) : List Segment :=
  (segments.dropWhile fun s => !s.body?.any halts).tail

theorem behind_cons_of_halting {halts : Bytes → Bool} {s : Segment} (h : s.body?.any halts)
    (rest : List Segment) : behind halts (s :: rest) = rest := by
  rw [behind, List.dropWhile_cons_of_neg (by simp [h]), List.tail_cons]

theorem body?_bind_messageOf? {s : Segment} (h : s.WellFormed) :
    s.body?.bind messageOf? = s.message? := by
  cases s with
  | message header body fields => exact messageOf?_eq_some_iff.2 h.2.2
  | noise header body =>
    exact Option.eq_none_iff_forall_ne_some.2 fun fields hfields =>
      h.2.2 fields (messageOf?_eq_some_iff.1 hfields)
  | loose header => rfl

end Segment

namespace Reader

variable {halts : Bytes → Bool}

/-! ## One part -/

theorem step_header {header : Bytes} (h : EndsOnce header) (rest : Bytes) :
    step ⟨header ++ (terminator ++ rest), none⟩ =
      some (none, ⟨rest, contentLength? header⟩) := by
  rw [step, splitHeader?_eq_some_iff.2 ⟨rfl, h⟩]
  rfl

/-- A frame is read up to the end of its body. -/
theorem bodies_of_frame {header body : Bytes} (honce : EndsOnce header)
    (htells : TellsLength header body.length) (rest : Bytes) :
    bodies halts ⟨header ++ (terminator ++ body) ++ rest, none⟩ =
      if halts body then ([body], ⟨rest, none⟩)
      else (body :: (bodies halts ⟨rest, none⟩).1, (bodies halts ⟨rest, none⟩).2) := by
  have hheader := step_header honce (body ++ rest)
  rw [contentLength?_eq_some_iff.2 htells] at hheader
  rw [List.append_assoc, List.append_assoc, bodies_of_header hheader]
  by_cases h : halts body
  · rw [if_pos h, bodies_of_halting (step_body body rest) h]
  · rw [if_neg h, bodies_of_body (step_body body rest) (Bool.eq_false_iff.2 h)]

/-- A reader that holds nothing reads the part that comes first, whatever follows. -/
theorem bodies_segment {s : Segment} (h : s.WellFormed) (rest : Bytes) :
    bodies halts ⟨s.octets ++ rest, none⟩ =
      if s.body?.any halts then (s.body?.toList, ⟨rest, none⟩)
      else (s.body?.toList ++ (bodies halts ⟨rest, none⟩).1, (bodies halts ⟨rest, none⟩).2) := by
  cases s with
  | message header body fields => exact bodies_of_frame h.1 h.2.1 rest
  | noise header body => exact bodies_of_frame h.1 h.2.1 rest
  | loose header =>
    have hheader := step_header h.1 rest
    rw [contentLength?_eq_none_iff.2 h.2] at hheader
    have hoctets : (Segment.loose header).octets ++ rest = header ++ (terminator ++ rest) :=
      List.append_assoc _ _ _
    rw [hoctets, bodies_of_header hheader]
    rfl

/-! ## All parts -/

variable {segments : List Segment}

/-- Where no body halts the reader, it reads them all and holds nothing in the end. -/
theorem bodies_segments (h : ∀ s ∈ segments, s.WellFormed)
    (hquiet : ∀ s ∈ segments, s.body?.any halts = false) :
    bodies halts ⟨segments.flatMap Segment.octets, none⟩ =
      (segments.filterMap Segment.body?, {}) := by
  induction segments with
  | nil => exact bodies_of_stuck rfl
  | cons s rest ih =>
    rw [List.flatMap_cons, bodies_segment (h s List.mem_cons_self), hquiet s List.mem_cons_self,
      ih (fun t ht => h t (List.mem_cons_of_mem s ht)) fun t ht =>
        hquiet t (List.mem_cons_of_mem s ht)]
    cases hbody : s.body? with
    | none => rw [List.filterMap_cons_none hbody]; rfl
    | some body => rw [List.filterMap_cons_some hbody]; rfl

/-- A body that halts the reader is the last one that it reads, and what is behind it is held. -/
theorem bodies_segments_of_halting (h : ∀ s ∈ segments, s.WellFormed)
    (hhalts : segments.any fun s => s.body?.any halts) : ∃ found, found.any halts ∧
      bodies halts ⟨segments.flatMap Segment.octets, none⟩ =
        (found, ⟨(Segment.behind halts segments).flatMap Segment.octets, none⟩) := by
  induction segments with
  | nil => exact absurd hhalts Bool.false_ne_true
  | cons s rest ih =>
    rw [List.flatMap_cons, bodies_segment (h s List.mem_cons_self), Segment.behind]
    cases hs : s.body?.any halts with
    | true =>
      obtain ⟨body, hbody, hhalt⟩ := (Option.any_eq_true _ _).1 hs
      refine ⟨[body], by simpa using hhalt, ?_⟩
      rw [if_pos rfl, hbody, List.dropWhile_cons_of_neg (by simp [hs])]
      rfl
    | false =>
      rw [List.any_cons, hs, Bool.false_or] at hhalts
      obtain ⟨found, hfound, hbodies⟩ := ih (fun t ht => h t (List.mem_cons_of_mem s ht)) hhalts
      refine ⟨s.body?.toList ++ found, ?_, ?_⟩
      · rw [List.any_append, hfound, Bool.or_true]
      · rw [if_neg Bool.false_ne_true, hbodies, List.dropWhile_cons_of_pos (by simp [hs])]
        rfl

theorem filterMap_messageOf? (h : ∀ s ∈ segments, s.WellFormed) :
    (segments.filterMap Segment.body?).filterMap messageOf? =
      segments.filterMap Segment.message? := by
  rw [List.filterMap_filterMap]
  exact List.filterMap_congr fun s hs => Segment.body?_bind_messageOf? (h s hs)

/-- A body that is nested too deeply costs the messages before it. -/
theorem feedWithin_of_tooDeep (h : ∀ s ∈ segments, s.WellFormed) {depth : Nat}
    (hdeep : segments.any (Segment.isTooDeep depth)) :
    feedWithin depth {} (segments.flatMap Segment.octets) =
      (none, ⟨(Segment.behind (isTooDeep depth) segments).flatMap Segment.octets, none⟩) := by
  obtain ⟨found, hfound, hbodies⟩ := bodies_segments_of_halting h hdeep
  rw [feedWithin, List.nil_append, hbodies]
  dsimp only
  rw [if_pos hfound]

theorem feedWithin_of_not_tooDeep (h : ∀ s ∈ segments, s.WellFormed) {depth : Nat}
    (hdeep : segments.any (Segment.isTooDeep depth) = false) :
    feedWithin depth {} (segments.flatMap Segment.octets) =
      (some (segments.filterMap Segment.message?), {}) := by
  have hquiet : ∀ s ∈ segments, s.body?.any (isTooDeep depth) = false := by
    simpa [Segment.isTooDeep] using hdeep
  have hnone : (segments.filterMap Segment.body?).any (isTooDeep depth) = false := by
    rw [List.any_eq_false]
    intro body hbody
    obtain ⟨s, hs, hbody⟩ := List.mem_filterMap.1 hbody
    have hs := hquiet s hs
    rw [hbody] at hs
    exact Bool.eq_false_iff.1 hs
  rw [feedWithin_eq_some_iff, extend, List.nil_append, bodies_segments h hquiet]
  exact ⟨hnone, filterMap_messageOf? h, rfl⟩

/-- A reader that holds nothing gives the messages among the parts of what it is fed, in order, and
holds nothing afterwards.  So it does where nesting is bounded, unless a body is nested too deeply:
then the messages are lost, and it holds what is behind the first such body. -/
theorem feed_segments (h : ∀ s ∈ segments, s.WellFormed) :
    let octets := segments.flatMap Segment.octets
    let messages := segments.filterMap Segment.message?
    feed {} octets = (messages, {}) ∧
    ∀ depth, feedWithin depth {} octets =
      if segments.any (Segment.isTooDeep depth) then
        (none, ⟨(Segment.behind (isTooDeep depth) segments).flatMap Segment.octets, none⟩)
      else (some messages, {}) := by
  intro octets messages
  refine ⟨?_, fun depth => ?_⟩
  · have hbodies : bodies (fun _ => false) ⟨octets, none⟩ =
        (segments.filterMap Segment.body?, {}) :=
      bodies_segments h fun s _ => by cases s.body? <;> rfl
    rw [feed_eq, extend, List.nil_append, hbodies, filterMap_messageOf? h]
  · split
    · rename_i hdeep
      exact feedWithin_of_tooDeep h hdeep
    · rename_i hdeep
      exact feedWithin_of_not_tooDeep h (Bool.eq_false_iff.2 hdeep)

/-! ## Parts of all kinds -/

theorem endsOnce_of_splitHeader? {header : Bytes}
    (h : splitHeader? (header ++ (terminator ++ [])) = some (header, [])) : EndsOnce header :=
  (splitHeader?_eq_some_iff.1 h).2

theorem not_isMessage_of_isNone {body : Bytes} (h : (messageOf? body).isNone) (fields : Fields) :
    ¬ IsMessage body fields := fun hmessage => by
  rw [messageOf?_eq_some_iff.2 hmessage] at h
  exact absurd h Bool.false_ne_true

theorem isMessage_print {fields : Fields} (h : (Value.obj fields).IsPlain) :
    IsMessage (Text.encode (Value.print (.obj fields))) fields :=
  ⟨_, Text.decode?_encode _, Value.parse?_print h⟩

theorem isMessage_empty : IsMessage (octets "\x7b\x7d") [] :=
  @isMessage_print [] ⟨List.nodup_nil, trivial⟩

/-- A message under several lines, a body that looks like a header, a header whose number is
negative, and a message without fields. -/
def mixedSegments : List Segment :=
  [.message (octets "X: 1\r\n content-LENGTH : +07\r\nY") (octets "\x7b\"a\":1\x7d")
      [(['a'], .int 1)],
    .noise (octets "Content-Length: 21") (octets "\r\n\r\nContent-Length: 2"),
    .loose (octets "Content-Length: -1"),
    .message (octets "Content-Length: 2") (octets "\x7b\x7d") []]

theorem feed_segments_mixedSegments :
    (∀ s ∈ mixedSegments, s.WellFormed) ∧
      feed {} (mixedSegments.flatMap Segment.octets) = ([[(['a'], .int 1)], []], {}) := by
  have hplain : (Value.obj [(['a'], .int 1)]).IsPlain := by
    simp only [Value.IsPlain, Value.FieldsPlain]
    decide +kernel
  have hfirst : IsMessage (octets "\x7b\"a\":1\x7d") [(['a'], .int 1)] := isMessage_print hplain
  have h : ∀ s ∈ mixedSegments, s.WellFormed := by
    simp only [mixedSegments, List.forall_mem_cons]
    refine ⟨⟨endsOnce_of_splitHeader? (by decide +kernel),
        contentLength?_eq_some_iff.1 (by decide +kernel), hfirst⟩,
      ⟨endsOnce_of_splitHeader? (by decide +kernel),
        contentLength?_eq_some_iff.1 (by decide +kernel),
        not_isMessage_of_isNone (by decide +kernel)⟩,
      ⟨endsOnce_of_splitHeader? (by decide +kernel),
        contentLength?_eq_none_iff.1 (by decide +kernel)⟩,
      ⟨endsOnce_of_splitHeader? (by decide +kernel),
        contentLength?_eq_some_iff.1 (by decide +kernel), isMessage_empty⟩,
      fun _ hs => absurd hs List.not_mem_nil⟩
  exact ⟨h, (feed_segments h).1⟩

/-! ## A body that costs a message -/

/-- A body of brackets and a message, with their headers. -/
def bracketsThenMessage : List Segment :=
  [.noise (octets "Content-Length: 991") (Text.encode (Value.brackets 991)),
    .message (octets "Content-Length: 2") (octets "\x7b\x7d") []]

theorem wellFormed_bracketsThenMessage : ∀ s ∈ bracketsThenMessage, s.WellFormed := by
  have hlength : (Text.encode (Value.brackets 991)).length = 991 := by
    rw [Text.encode_of_ascii fun c hc => by rw [List.eq_of_mem_replicate hc]; decide,
      List.length_map]
    exact List.length_replicate
  have hnone (fields : Fields) : ¬ IsMessage (Text.encode (Value.brackets 991)) fields := by
    rintro ⟨t, hdecode, hparse⟩
    rw [Text.decode?_encode] at hdecode
    obtain rfl := Option.some.inj hdecode
    rw [Value.parse?_brackets] at hparse
    exact absurd hparse.symm (Option.some_ne_none _)
  have htells : TellsLength (octets "Content-Length: 991")
      (Text.encode (Value.brackets 991)).length := by
    rw [hlength]
    exact contentLength?_eq_some_iff.1 (by decide +kernel)
  simp only [bracketsThenMessage, List.forall_mem_cons]
  exact ⟨⟨endsOnce_of_splitHeader? (by decide +kernel), htells, hnone⟩,
    ⟨endsOnce_of_splitHeader? (by decide +kernel),
      contentLength?_eq_some_iff.1 (by decide +kernel), isMessage_empty⟩,
    fun _ hs => absurd hs List.not_mem_nil⟩

theorem isTooDeep_encode_brackets {depth n : Nat} (h : depth < n) :
    Frame.isTooDeep depth (Text.encode (Value.brackets n)) := by
  rw [Frame.isTooDeep, Text.decode?_encode, Option.any_some]
  exact Value.isTooDeep_brackets h

/-- Brackets are no document, but where nesting is bounded they are not passed over. -/
theorem feedWithin_bracketsThenMessage :
    (∀ s ∈ bracketsThenMessage, s.WellFormed) ∧
      bracketsThenMessage.filterMap Segment.message? = [[]] ∧
      (feedWithin 990 {} (bracketsThenMessage.flatMap Segment.octets)).1 = none := by
  refine ⟨wellFormed_bracketsThenMessage, rfl, ?_⟩
  have hdeep : Frame.isTooDeep 990 (Text.encode (Value.brackets 991)) :=
    isTooDeep_encode_brackets (by omega)
  rw [feedWithin_of_tooDeep wellFormed_bracketsThenMessage]
  simp [bracketsThenMessage, Segment.isTooDeep, Segment.body?, hdeep]

end Reader

end Legible.Frame
