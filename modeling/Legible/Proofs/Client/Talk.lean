import Legible.Proofs.Client.Once

/-!
# Talking

Calls and messages of the server make a client talk: it writes, tells others, and keeps its books.
Such a step leaves the process alone, and what was read of the server's output (`Talks`), whatever
it says.
-/

namespace Legible.Client

/-- Whether an event is the end of a process. -/
def Event.isEnd : Event → Bool
  | .ended _ => true
  | _ => false

/-- Whether an event begins or ends the life of a process. -/
def Event.isVital (e : Event) : Bool := e.isLaunch || e.isEnd

/-- The beginnings and ends of processes, in order. -/
def vitals (c : Client) : List Event := c.log.filter (·.isVital)

/-- A step that leaves the process alone, the wish that it ends, and what was read of its output; no
process begins or ends, the timer and the bound of refusals are left alone, and the log grows. -/
structure Talks (c c' : Client) : Prop where
  process : c'.process = c.process
  stopping : c'.stopping = c.stopping
  reader : c'.reader = c.reader
  vitals : c'.vitals = c.vitals
  killTimer : c'.killTimer = c.killTimer
  log : c.log <+: c'.log
  refusalDepth : c'.refusalDepth = c.refusalDepth

variable {c c' c'' : Client}

theorem Talks.refl (c : Client) : Talks c c := ⟨rfl, rfl, rfl, rfl, rfl, List.prefix_rfl, rfl⟩

theorem Talks.trans (h : Talks c c') (h' : Talks c' c'') : Talks c c'' :=
  ⟨h'.process.trans h.process, h'.stopping.trans h.stopping, h'.reader.trans h.reader,
    h'.vitals.trans h.vitals, h'.killTimer.trans h.killTimer, h.log.trans h'.log,
    h'.refusalDepth.trans h.refusalDepth⟩

theorem vitals_emit (e : Event) (c : Client) :
    (c.emit e).vitals = c.vitals ++ [e].filter (·.isVital) := List.filter_append ..

theorem talks_emit {e : Event} (he : e.isVital = false) (c : Client) : Talks c (c.emit e) := by
  refine ⟨rfl, rfl, rfl, ?_, rfl, List.prefix_append .., rfl⟩
  rw [vitals_emit, List.filter_cons_of_neg (by simp [he]), List.filter_nil, List.append_nil]

theorem talks_mapSession (f : Session → Session) (c : Client) : Talks c (c.mapSession f) :=
  ⟨rfl, rfl, rfl, rfl, rfl, List.prefix_rfl, rfl⟩

theorem talks_register (r : Request) (c : Client) : Talks c (c.register r).2 :=
  ⟨rfl, rfl, rfl, rfl, rfl, List.prefix_rfl, rfl⟩

/-! ## Calls -/

theorem talks_write (m : Outgoing) (c : Client) : Talks c (c.write m) := by
  unfold write reportWriteFailure
  split
  · split
    · split
      · exact talks_emit rfl c
      · exact (talks_emit rfl c).trans (talks_emit rfl _)
    · exact talks_emit rfl c
  · exact .refl c

theorem talks_post (m : Outgoing) (c : Client) : Talks c (c.post m) := by
  unfold post
  split
  · split
    · exact talks_write m c
    · exact talks_mapSession _ c
  · exact .refl c

theorem talks_send (d : Document) (c : Client) : Talks c (c.send d).2 := by
  have hversion (v : Nat) : Talks c (c.withVersion d.uri v) := talks_mapSession _ c
  unfold send
  split
  · exact .refl c
  · split
    · exact (hversion 1).trans (talks_post _ _)
    · exact (hversion _).trans (talks_post _ _)

theorem talks_sendAll (ds : List Document) (c : Client) : Talks c (c.sendAll ds) := by
  induction ds generalizing c with
  | nil => exact .refl c
  | cons d ds ih => exact (talks_send d c).trans (ih _)

theorem talks_closeDocument (uri : Text) (c : Client) : Talks c (c.closeDocument uri) := by
  unfold closeDocument
  split
  · exact .refl c
  · have hclosed : Talks c (c.mapSession fun s =>
        { s with versions := s.versions.filter (·.1 ≠ uri) }) := talks_mapSession _ c
    exact hclosed.trans (talks_post _ _)

theorem talks_releaseBacklog (c : Client) : Talks c c.releaseBacklog := by
  have hall (ms : List Outgoing) (c : Client) :
      Talks c (ms.foldl (fun c m => c.write m) c) := by
    induction ms generalizing c with
    | nil => exact .refl c
    | cons m ms ih => exact (talks_write m c).trans (ih _)
  have hreleased : Talks c (c.mapSession fun s => { s with backlog := [] }) := talks_mapSession _ c
  exact hreleased.trans (hall _ _)

theorem talks_request (method : Text) (params : Value) (wantsError : Bool) (c : Client) :
    Talks c (c.request method params wantsError).2 := by
  have hregister := talks_register ⟨method, .caller wantsError⟩ c
  unfold request
  dsimp only
  split
  · exact hregister.trans (talks_write _ _)
  · exact hregister.trans (talks_post _ _)

theorem talks_askShutdown (c : Client) : Talks c c.askShutdown :=
  (talks_register ⟨"shutdown".toList, .shutdown⟩ c).trans (talks_write _ _)

theorem talks_askInitialize (c : Client) : Talks c c.askInitialize :=
  (talks_register ⟨"initialize".toList, .initialization⟩ c).trans (talks_write _ _)

/-! ## Messages of the server -/

theorem talks_serverInitialized (l : Listener) (result : Value) (c : Client) :
    Talks c (c.serverInitialized l result) := by
  obtain ⟨name, capabilities, heq⟩ := serverInitialized_eq l result c
  have hinitialized : Talks c (mapSession
      (fun s => { s with initialized := true, capabilities }) { c with serverName := name }) :=
    ⟨rfl, rfl, rfl, rfl, rfl, List.prefix_rfl, rfl⟩
  rw [heq]
  exact hinitialized.trans ((((talks_write _ _).trans (talks_emit rfl _)).trans
    (talks_sendAll _ _)).trans (talks_releaseBacklog _))

theorem talks_answered (l : Listener) (n : Int) (message : Fields) (c : Client) :
    Talks c (c.answered l n message) := by
  cases n with
  | negSucc n => exact .refl c
  | ofNat id =>
    have htaken : Talks c (c.takeRequest id) := talks_mapSession _ c
    unfold answered
    dsimp only
    split
    · exact .refl c
    · rename_i r _
      split
      · cases r.purpose with
        | initialization => exact htaken.trans (talks_emit rfl _)
        | shutdown => exact htaken.trans (talks_write .exit _)
        | caller wantsError =>
          cases wantsError with
          | true => exact htaken.trans (talks_emit rfl _)
          | false => exact htaken
      · cases r.purpose with
        | initialization => exact htaken.trans (talks_serverInitialized l _ _)
        | shutdown => exact htaken.trans (talks_write .exit _)
        | caller wantsError => exact htaken.trans (talks_emit rfl _)

theorem talks_dispatch (l : Listener) (message : Fields) (c : Client) :
    Talks c (c.dispatch l message).2 := by
  unfold dispatch
  dsimp only
  split
  · split
    · split
      · exact talks_answered l _ message c
      · exact .refl c
      · exact .refl c
    · exact talks_write _ c
  · split
    · exact .refl c
    · exact talks_emit rfl c

end Legible.Client
