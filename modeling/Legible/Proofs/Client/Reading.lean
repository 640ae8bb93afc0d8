import Legible.Proofs.Client.Ledger
import Legible.Proofs.Client.Talk
import Legible.Proofs.Frame.Chunks
import Legible.Proofs.Value.Integer

/-!
# Reading the output of a server

Where the listener refuses nothing, a client handles the messages that some octets complete in
order, up to the first that it cannot hear (`read_eq`): an answer whose number is infinite, or,
while there is a process, a request whose refusal cannot be written, since it is nested too deeply
or a unit of a pair stands alone in it.  The messages behind that one are lost, for the reader has gone
past them.  With a body that is nested too deeply all messages are lost.
-/

namespace Legible.Client

variable {l : Listener}

/-- Whether a message can be handled: it has a method, or no number, or one that is not infinite. -/
def isReadable (message : Fields) : Bool :=
  !(methodOf message).isEmpty || !(Fields.get? "id".toList message).any (·.isInfinite)

/-- Whether a message can be heard: it can be handled, and it is not lost. -/
def canHear (c : Client) (m : Frame.Incoming) : Bool := isReadable m.fields && (c.lossOf? m).isNone

/-- The messages before the first that cannot be heard. -/
def heardPrefix (c : Client) (messages : List Frame.Incoming) : List Frame.Incoming :=
  messages.takeWhile c.canHear

/-- Why a message cannot be heard: it is lost, or else its number is infinite. -/
def faultOf (c : Client) (m : Frame.Incoming) : Fault := (c.lossOf? m).getD (.number .infinite)

/-- What comes of some messages: the fault of the first that cannot be heard. -/
def verdict (c : Client) (messages : List Frame.Incoming) : Except Fault Unit :=
  match messages.find? (!c.canHear ·) with
  | none => .ok ()
  | some m => .error (c.faultOf m)

/-- Handles messages one after the other. -/
def dispatchEach (l : Listener) (messages : List Frame.Incoming) (c : Client) : Client :=
  messages.foldl (fun c m => (c.dispatch l m.fields).2) c

theorem dispatch_ok_of_isReadable
    (hcheck : ∀ server method params, l.check server method params = .ok ()) {message : Fields}
    (h : isReadable message) (c : Client) : (c.dispatch l message).1 = .ok () := by
  unfold isReadable at h
  unfold dispatch
  dsimp only
  rw [← methodOf]
  split
  · rename_i id hid
    split
    · rename_i hmethod
      rw [hmethod, hid] at h
      have hfinite : id.toInteger ≠ .error .infinite :=
        fun hint => by simp [id.toInteger_eq_infinite_iff.1 hint] at h
      split
      · rfl
      · rename_i hint
        exact absurd hint hfinite
      · rfl
    · rfl
  · split
    · rfl
    · exact hcheck _ _ _

/-- What cannot be handled is refused, and nothing is done for it. -/
theorem dispatch_of_not_isReadable {message : Fields} (h : isReadable message = false)
    (c : Client) : c.dispatch l message = (.error .infinite, c) := by
  rw [isReadable, Bool.or_eq_false_iff, Bool.not_eq_false', Bool.not_eq_false',
    Option.any_eq_true] at h
  obtain ⟨hmethod, id, hid, hinfinite⟩ := h
  unfold dispatch
  dsimp only
  rw [← methodOf, hid]
  dsimp only
  rw [if_pos hmethod, id.toInteger_eq_infinite_iff.2 hinfinite]

/-- What can be heard is handled. -/
theorem hear_of_canHear (hcheck : ∀ server method params, l.check server method params = .ok ())
    {m : Frame.Incoming} {c : Client} (h : c.canHear m) :
    c.hear l m = (.ok (), (c.dispatch l m.fields).2) := by
  rw [canHear, Bool.and_eq_true, Option.isNone_iff_eq_none] at h
  have hok := dispatch_ok_of_isReadable hcheck h.1 c
  rw [hear, h.2]
  dsimp only
  rw [hok]
  rfl

/-- What cannot be heard is refused, and nothing is done for it. -/
theorem hear_of_not_canHear {m : Frame.Incoming} {c : Client} (h : c.canHear m = false) :
    c.hear l m = (.error (c.faultOf m), c) := by
  rw [hear, faultOf]
  cases hloss : c.lossOf? m with
  | some fault => rfl
  | none =>
    rw [canHear, hloss, Option.isNone_none, Bool.and_true] at h
    dsimp only
    rw [dispatch_of_not_isReadable h]
    rfl

/-- Who talks can hear the same messages as before. -/
theorem Talks.lossOf? {c c' : Client} (h : Talks c c') : c'.lossOf? = c.lossOf? := by
  funext m
  rw [Client.lossOf?, Client.lossOf?, isRunning, isRunning, h.process, h.refusalDepth]

theorem Talks.canHear {c c' : Client} (h : Talks c c') : c'.canHear = c.canHear := by
  funext m
  rw [Client.canHear, Client.canHear, h.lossOf?]

theorem Talks.heardPrefix {c c' : Client} (h : Talks c c') : c'.heardPrefix = c.heardPrefix := by
  funext messages
  rw [Client.heardPrefix, Client.heardPrefix, h.canHear]

theorem Talks.verdict {c c' : Client} (h : Talks c c') : c'.verdict = c.verdict := by
  funext messages
  simp only [Client.verdict, Client.faultOf, h.canHear, h.lossOf?]

theorem hearAll_eq (hcheck : ∀ server method params, l.check server method params = .ok ())
    (messages : List Frame.Incoming) (c : Client) :
    hearAll l messages c =
      (c.verdict messages, dispatchEach l (c.heardPrefix messages) c) := by
  induction messages generalizing c with
  | nil => rfl
  | cons m rest ih =>
    unfold hearAll
    cases hm : c.canHear m with
    | true =>
      -- handling a message leaves the process alone, so the others are lost or heard as before
      have htalks := talks_dispatch l m.fields c
      rw [hear_of_canHear hcheck hm]
      dsimp only
      rw [ih, htalks.verdict, htalks.heardPrefix]
      simp [verdict, heardPrefix, dispatchEach, hm]
    | false =>
      rw [hear_of_not_canHear hm]
      simp [verdict, heardPrefix, dispatchEach, hm]

theorem talks_dispatchEach (l : Listener) (messages : List Frame.Incoming) (c : Client) :
    Talks c (dispatchEach l messages c) := by
  induction messages generalizing c with
  | nil => exact .refl c
  | cons m rest ih => exact (talks_dispatch l m.fields c).trans (ih _)

theorem verdict_eq_ok_iff {c : Client} {messages : List Frame.Incoming} :
    c.verdict messages = .ok () ↔ ∀ m ∈ messages, c.canHear m := by
  unfold verdict
  cases hfind : messages.find? (!c.canHear ·) with
  | none =>
    have hall := List.find?_eq_none.1 hfind
    exact iff_of_true rfl fun m hm => by simpa using hall m hm
  | some m =>
    have hm := List.mem_of_find?_eq_some hfind
    have hdeaf := List.find?_some hfind
    refine iff_of_false (fun h => nomatch h) fun h => ?_
    rw [h m hm] at hdeaf
    exact Bool.false_ne_true hdeaf

section

variable {bs : Bytes} {c : Client} {messages : List Frame.Incoming} {reader : Frame.Reader}

theorem read_of_none (hread : c.reader.read c.bodyDepth bs = (none, reader)) :
    c.read l bs = (.error .bodyTooDeep, { c with reader }) := by
  rw [Client.read, hread]

/-- What comes of the messages that some octets complete. -/
theorem read_of_some (hcheck : ∀ server method params, l.check server method params = .ok ())
    (hread : c.reader.read c.bodyDepth bs = (some messages, reader)) :
    c.read l bs = (c.verdict messages,
      dispatchEach l (c.heardPrefix messages) { c with reader }) := by
  rw [Client.read, hread]
  exact hearAll_eq hcheck _ _

/-- A message that cannot be heard costs those behind it. -/
theorem read_of_not_canHear {m : Frame.Incoming}
    (hread : c.reader.read c.bodyDepth bs = (some (m :: messages), reader))
    (hm : c.canHear m = false) : c.read l bs = (.error (c.faultOf m), { c with reader }) := by
  have hrefused :
      ({ c with reader } : Client).hear l m = (.error (c.faultOf m), { c with reader }) :=
    hear_of_not_canHear hm
  rw [Client.read, hread]
  dsimp only
  rw [hearAll, hrefused]

end

/-- Where the listener refuses nothing, the messages that some octets complete are handled in order
up to the first that cannot be heard, which is refused.  So all are handled, and none is refused,
just where none is an answer with an infinite number and, if there is a process, none is a request
whose refusal is nested too deeply or holds a unit of a pair that stands alone.  Where bodies may
only be nested so deeply, a body beyond the bound costs all messages.  The reader has gone past what
is handled or lost. -/
theorem read_eq (hcheck : ∀ server method params, l.check server method params = .ok ())
    (bs : Bytes) (c : Client) :
    let found := (c.reader.read c.bodyDepth bs).1
    let reader := (c.reader.read c.bodyDepth bs).2
    (found.map (·.map (·.fields)), reader) = (match c.bodyDepth with
      | none => (some (c.reader.feed bs).1, (c.reader.feed bs).2)
      | some bound => c.reader.feedWithin bound bs) ∧
    (found = none → c.read l bs = (.error .bodyTooDeep, { c with reader })) ∧
    (∀ messages, found = some messages →
      c.read l bs = (c.verdict messages,
        dispatchEach l (c.heardPrefix messages) { c with reader }) ∧
      (c.read l bs = (.ok (), dispatchEach l messages { c with reader }) ↔
        ∀ m ∈ messages, c.canHear m)) ∧
    (c.read l bs).2.reader = reader := by
  intro found reader
  refine ⟨Frame.Reader.read_fields _ _ _, fun hnone => read_of_none (Prod.ext hnone rfl),
    fun messages hsome => ?_, ?_⟩
  · have heq : c.read l bs = (c.verdict messages,
        dispatchEach l (c.heardPrefix messages) { c with reader }) :=
      read_of_some hcheck (Prod.ext hsome rfl)
    refine ⟨heq, fun hall => ?_, fun hheard => ?_⟩
    · exact verdict_eq_ok_iff.1 (Prod.mk.inj (heq.symm.trans hall)).1
    · rw [heq, verdict_eq_ok_iff.2 hheard, heardPrefix, List.takeWhile_eq_self_iff.2 hheard]
  · cases hfound : found with
    | none => rw [read_of_none (Prod.ext hfound rfl)]
    | some messages =>
      rw [read_of_some hcheck (Prod.ext hfound rfl)]
      exact (talks_dispatchEach l _ _).reader

/-! ## An answer that costs a notification -/

/-- An answer whose number is too large for a double. -/
def tooLargeAnswer : Bytes := Frame.octets "\x7b\"id\":1e999\x7d"

/-- A notification. -/
def plainNotice : Bytes := Frame.octets "\x7b\"method\":\"m\"\x7d"

/-- A notification with its header. -/
def plainNoticeFrame : Bytes := Frame.octets "Content-Length: 14\r\n\r\n" ++ plainNotice

/-- An answer that cannot be handled, and a notification behind it. -/
def answerThenNotice : Bytes :=
  Frame.octets "Content-Length: 12\r\n\r\n" ++ tooLargeAnswer ++ plainNoticeFrame

open Legible.Frame in
/-- A frame with the notification behind it is read as its message and the notification. -/
theorem exists_notice_of_read {bs body : Bytes} {n : Nat} {m : Incoming}
    (hheader : Reader.step ⟨bs, none⟩ = some (none, ⟨body ++ plainNoticeFrame, some n⟩))
    (hbody : Reader.step ⟨body ++ plainNoticeFrame, some n⟩ =
      some (some body, ⟨plainNoticeFrame, none⟩))
    (hm : incomingOf? body = some m) :
    ∃ notice, Reader.read none {} bs = (some [m, notice], {}) ∧ methodOf notice.fields = ['m'] := by
  have hnext : Reader.step ⟨plainNoticeFrame, none⟩ = some (none, ⟨plainNotice, some 14⟩) := by
    decide +kernel
  have hlast : Reader.step ⟨plainNotice, some 14⟩ = some (some plainNotice, {}) := by
    decide +kernel
  have hbodies : Reader.bodies (isBeyond none) ⟨bs, none⟩ = ([body, plainNotice], {}) := by
    rw [Reader.bodies_of_header hheader, Reader.bodies_of_body hbody rfl,
      Reader.bodies_of_header hnext, Reader.bodies_of_body hlast rfl, Reader.bodies_of_stuck rfl]
  have hnamed : (incomingOf? plainNotice).map (methodOf ·.fields) = some ['m'] := by
    decide +kernel
  obtain ⟨notice, hnotice, hmethod⟩ := Option.map_eq_some_iff.1 hnamed
  refine ⟨notice, ?_, hmethod⟩
  rw [Reader.read, List.nil_append, hbodies]
  dsimp only
  rw [List.filterMap_cons_some hm, List.filterMap_cons_some hnotice, List.filterMap_nil]
  rfl

theorem read_answerThenNotice : ∃ answer notice : Frame.Incoming,
    Frame.Reader.read none {} answerThenNotice = (some [answer, notice], {}) ∧
      isReadable answer.fields = false ∧ methodOf notice.fields = ['m'] := by
  have hinfinite : (Frame.incomingOf? tooLargeAnswer).map (isReadable ·.fields) = some false := by
    decide +kernel
  obtain ⟨answer, hanswer, hunreadable⟩ := Option.map_eq_some_iff.1 hinfinite
  have hheader : Frame.Reader.step ⟨answerThenNotice, none⟩ =
      some (none, ⟨tooLargeAnswer ++ plainNoticeFrame, some 12⟩) := by
    decide +kernel
  obtain ⟨notice, hread, hmethod⟩ := exists_notice_of_read hheader (by decide +kernel) hanswer
  exact ⟨answer, notice, hread, hunreadable, hmethod⟩

theorem read_eq_answerThenNotice :
    (∀ server method params, ({} : Listener).check server method params = .ok ()) ∧
      let c : Client := { processId := 1 }
      c.read {} answerThenNotice = (.error (.number .infinite), c) := by
  refine ⟨fun _ _ _ => rfl, ?_⟩
  intro c
  obtain ⟨answer, notice, hread, hanswer, -⟩ := read_answerThenNotice
  have hfound : c.reader.read c.bodyDepth answerThenNotice = (some [answer, notice], {}) := hread
  have heq := ((read_eq (l := {}) (fun _ _ _ => rfl) answerThenNotice c).2.2.1 [answer, notice]
    (congrArg Prod.fst hfound)).1
  have hdeaf : c.canHear answer = false := by rw [canHear, hanswer, Bool.false_and]
  have hloss : c.lossOf? answer = none := rfl
  have hprefix : c.heardPrefix [answer, notice] = [] := by
    rw [heardPrefix, List.takeWhile_cons_of_neg (by simp [hdeaf])]
  have hverdict : c.verdict [answer, notice] = .error (.number .infinite) := by
    simp [verdict, faultOf, hdeaf, hloss]
  rw [hfound, hprefix, hverdict] at heq
  exact heq

/-- The answer is refused, and of the notification behind it nobody hears. -/
theorem read_answerThenNotice_not_notified :
    let c : Client := { processId := 1 }
    ∃ answer notice,
      c.reader.read c.bodyDepth answerThenNotice = (some [answer, notice], {}) ∧
      methodOf notice.fields = ['m'] ∧
      (c.read {} answerThenNotice).1 = .error (.number .infinite) ∧
      (c.read {} answerThenNotice).2.log = [] := by
  intro c
  obtain ⟨answer, notice, hread, hanswer, hmethod⟩ := read_answerThenNotice
  have hfound : c.reader.read c.bodyDepth answerThenNotice = (some [answer, notice], {}) := hread
  have hdeaf : c.canHear answer = false := by rw [canHear, hanswer, Bool.false_and]
  have hrefused : c.read {} answerThenNotice = (.error (.number .infinite), c) :=
    read_of_not_canHear hfound hdeaf
  refine ⟨answer, notice, hfound, hmethod, ?_, ?_⟩
  · rw [hrefused]
  · rw [hrefused]

end Legible.Client
