import Legible.Proofs.Frame.Chunks
import Legible.Proofs.Frame.Segments

/-!
# Pieces around a body that is refused

Where the nesting of bodies is bounded, a body beyond the bound is refused.  The messages before it
in the same piece are lost, and the octets behind it are held until the next piece comes.  So it
matters where octets are cut: what a reader makes of two pieces at once is known from what it makes
of them one after the other (`feedWithin_append`), and this tells which cuts change nothing
(`feedWithin_pieces`).
-/

namespace Legible.Frame.Reader

variable {depth : Nat} {r s : Reader}

/-- The messages that come of a feed; a feed that is refused gives none. -/
def given (fed : Option (List Fields) × Reader) : List Fields := fed.1.getD []

/-- Takes octets piece by piece, and goes on behind a body that is refused. -/
def feedEach (depth : Nat) : Reader → List Bytes → List (Option (List Fields)) × Reader
  | r, [] => ([], r)
  | r, piece :: rest =>
    let fed := r.feedWithin depth piece
    let more := feedEach depth fed.2 rest
    (fed.1 :: more.1, more.2)

/-- Whether two pieces may as well come at once: none of them is refused, or the second is and the
first gives no message, or the first is and the second completes nothing behind the refused body. -/
def MayJoin (depth : Nat) (r : Reader) (a b : Bytes) : Prop :=
  let first := r.feedWithin depth a
  match first.1, (first.2.feedWithin depth b).1 with
  | some _, some _ => True
  | some ms, none => ms = []
  | none, _ => (first.2.extend b).step = none

/-- Two pieces at once: a refusal in the first stops the reader for both, and one in the second
costs the messages of both. -/
theorem feedWithin_append (depth : Nat) (r : Reader) (a b : Bytes) :
    r.feedWithin depth (a ++ b) =
      match r.feedWithin depth a with
      | (none, s) => (none, s.extend b)
      | (some ms, s) => ((s.feedWithin depth b).1.map (ms ++ ·), (s.feedWithin depth b).2) := by
  rw [feedWithin_eq, feedWithin_eq, extend_append]
  cases ha : (bodies (isTooDeep depth) (r.extend a)).1.any (isTooDeep depth) with
  | true => simp only [bodies_extend_of_halted ha, ha, if_true]
  | false =>
    rw [bodies_extend ha]
    simp only [feedWithin_eq, List.any_append, ha, Bool.false_or, List.filterMap_append,
      Bool.false_eq_true, if_false]
    split <;> rfl

/-- A reader that a feed leaves with all of its octets has made no step. -/
theorem feedWithin_eq_extend_iff {bs : Bytes} :
    (r.feedWithin depth bs).2 = r.extend bs ↔ (r.extend bs).step = none := by
  rw [feedWithin_eq]
  exact bodies_eq_self_iff

theorem given_of_stuck {bs : Bytes} (h : (r.extend bs).step = none) :
    given (r.feedWithin depth bs) = [] := by
  rw [feedWithin_eq, bodies_of_stuck h]
  rfl

/-- A cut changes neither the messages nor what is held just where the pieces may join. -/
theorem feedWithin_append_iff_mayJoin (a b : Bytes) :
    let first := r.feedWithin depth a
    let second := first.2.feedWithin depth b
    given (r.feedWithin depth (a ++ b)) = given first ++ given second ∧
      (r.feedWithin depth (a ++ b)).2 = second.2 ↔ MayJoin depth r a b := by
  dsimp only
  rw [feedWithin_append, MayJoin]
  rcases r.feedWithin depth a with ⟨_ | ms, s⟩
  · dsimp only
    constructor
    · rintro ⟨-, hheld⟩
      exact feedWithin_eq_extend_iff.1 hheld.symm
    · intro hstuck
      exact ⟨(given_of_stuck hstuck).symm, (feedWithin_eq_extend_iff.2 hstuck).symm⟩
  · dsimp only
    rcases s.feedWithin depth b with ⟨_ | ns, t⟩
    · simp [given, eq_comm]
    · simp [given]

theorem feedEach_cons (piece : Bytes) (rest : List Bytes) :
    r.feedEach depth (piece :: rest) =
      ((r.feedWithin depth piece).1 ::
          ((r.feedWithin depth piece).2.feedEach depth rest).1,
        ((r.feedWithin depth piece).2.feedEach depth rest).2) := rfl

/-- All pieces at once are not refused just where none of them is, and then their messages are those
of the pieces, one after the other. -/
theorem feedWithin_flatten_eq_some_iff (piece : Bytes) (rest : List Bytes) (ms : List Fields) :
    r.feedWithin depth (piece :: rest).flatten = (some ms, s) ↔
      ∃ mss : List (List Fields), r.feedEach depth (piece :: rest) = (mss.map some, s) ∧
        ms = mss.flatten := by
  induction rest generalizing r piece ms with
  | nil =>
    rw [List.flatten_singleton, feedEach_cons]
    constructor
    · intro h
      refine ⟨[ms], ?_, List.flatten_singleton.symm⟩
      rw [h]
      rfl
    · rintro ⟨mss, hall, rfl⟩
      obtain ⟨hgiven, hheld⟩ := Prod.mk.inj hall
      obtain ⟨ms, hms, hsome⟩ := List.map_eq_singleton_iff.1 hgiven.symm
      rw [hms, List.flatten_singleton, ← hheld, hsome]
      rfl
  | cons next rest ih =>
    rw [List.flatten_cons, feedWithin_append, feedEach_cons]
    rcases r.feedWithin depth piece with ⟨_ | first, t⟩
    · refine iff_of_false (fun h => nomatch h) ?_
      rintro ⟨mss, hall, -⟩
      obtain ⟨ms, others, -, hms, -⟩ := List.map_eq_cons_iff.1 (Prod.mk.inj hall).1.symm
      exact nomatch hms
    · dsimp only
      constructor
      · intro h
        obtain ⟨hsome, hheld⟩ := Prod.mk.inj h
        obtain ⟨others, hothers, rfl⟩ := Option.map_eq_some_iff.1 hsome
        obtain ⟨mss, heach, rfl⟩ := (ih next others).1 (Prod.ext hothers hheld)
        refine ⟨first :: mss, ?_, List.flatten_cons.symm⟩
        rw [heach]
        rfl
      · rintro ⟨mss, hall, rfl⟩
        obtain ⟨hgiven, hheld⟩ := Prod.mk.inj hall
        obtain ⟨ms, others, rfl, hms, hothers⟩ := List.map_eq_cons_iff.1 hgiven.symm
        obtain rfl : ms = first := Option.some.inj hms
        have hrest := (ih next others.flatten).2 ⟨others, Prod.ext hothers.symm hheld, rfl⟩
        rw [hrest]
        rfl

/-- What a reader gives, and what it holds afterwards, does not depend on where the octets are cut,
unless bodies are refused.  Where nesting is bounded, a cut changes nothing just where the two
pieces may join; all pieces at once are not refused just where none of them is, and then nothing
depends on the cuts. -/
theorem feedWithin_pieces (r : Reader) :
    (∀ a b, r.feed (a ++ b) =
      ((r.feed a).1 ++ ((r.feed a).2.feed b).1, ((r.feed a).2.feed b).2)) ∧
    (∀ piece rest, r.feedAll (piece :: rest) = r.feed (piece :: rest).flatten) ∧
    ∀ depth,
      (∀ a b,
        let first := r.feedWithin depth a
        let second := first.2.feedWithin depth b
        given (r.feedWithin depth (a ++ b)) = given first ++ given second ∧
          (r.feedWithin depth (a ++ b)).2 = second.2 ↔ MayJoin depth r a b) ∧
      ∀ piece rest ms s, r.feedWithin depth (piece :: rest).flatten = (some ms, s) ↔
        ∃ mss : List (List Fields), r.feedEach depth (piece :: rest) = (mss.map some, s) ∧
          ms = mss.flatten := by
  refine ⟨fun a b => feed_append r a b, fun piece rest => feedAll_cons r piece rest,
    fun depth => ⟨fun a b => feedWithin_append_iff_mayJoin a b, fun piece rest ms s => ?_⟩⟩
  exact feedWithin_flatten_eq_some_iff piece rest ms

/-! ## A cut that saves a message -/

/-- Brackets that are nested too deeply and a message behind them: at once they give nothing, and
the frame of the message is held; cut between them, the second piece gives the message. -/
theorem feedWithin_ne_feedEach_brackets :
    let pieces := bracketsThenMessage.map Segment.octets
    feedWithin 990 {} pieces.flatten =
        (none, ⟨octets "Content-Length: 2\r\n\r\n\x7b\x7d", none⟩) ∧
      feedEach 990 {} pieces = ([none, some [[]]], {}) := by
  intro pieces
  let noise : Segment := .noise (octets "Content-Length: 991") (Text.encode (Value.brackets 991))
  let message : Segment := .message (octets "Content-Length: 2") (octets "\x7b\x7d") []
  have hwell : ∀ s ∈ [noise, message], s.WellFormed := wellFormed_bracketsThenMessage
  have hnoise : noise.isTooDeep 990 := isTooDeep_encode_brackets (by omega)
  have hmessage : message.isTooDeep 990 = false := by decide +kernel
  constructor
  · have hdeep : [noise, message].any (Segment.isTooDeep 990) := by simp [hnoise]
    have hall := feedWithin_of_tooDeep hwell hdeep
    rw [Segment.behind_cons_of_halting hnoise, List.flatMap_singleton, List.flatMap_def] at hall
    exact hall
  · have hfirst : feedWithin 990 {} noise.octets = (none, {}) := by
      have hdeep : [noise].any (Segment.isTooDeep 990) := by simp [hnoise]
      have hfed := feedWithin_of_tooDeep (fun s hs => hwell s (by simp_all)) hdeep
      rwa [Segment.behind_cons_of_halting hnoise, List.flatMap_singleton] at hfed
    have hsecond : feedWithin 990 {} message.octets = (some [[]], {}) := by
      have hflat : [message].any (Segment.isTooDeep 990) = false := by simp [hmessage]
      have hfed := feedWithin_of_not_tooDeep (fun s hs => hwell s (by simp_all)) hflat
      rwa [List.flatMap_singleton] at hfed
    have heach : feedEach 990 {} [noise.octets, message.octets] = ([none, some [[]]], {}) := by
      rw [feedEach_cons, hfirst, feedEach_cons, hsecond]
      rfl
    exact heach

end Legible.Frame.Reader
