import Legible.Proofs.Client.Copies
import Legible.Proofs.Workspace.Documents
import Legible.Proofs.Workspace.Run

/-!
# What the server of a workspace has

The server keeps a copy of each document from what is written to its process (`copy?`), and a process
that has been launched has none.  `Served` relates the copy of a document to the text that the
workspace has of it: it holds of the client between any two operations, and here it is shown what
becomes of it when a text is sent, a document is closed, or a server is launched.
-/

namespace Legible.Workspace

open Client (Outgoing Serves Steady TextAt copyAfter syncs writes written)

/-- The copy of a document after an event; a process that has been launched has no copies. -/
def Event.copied (uri : Text) (copy : Option Text) : Event → Option Text
  | .client (.launched ..) => none
  | .client (.wrote m) => m.copied uri copy
  | _ => copy

/-- The copy that the server has of a document, from what was written to its process. -/
def copy? (path : Text) (w : Workspace) : Option Text :=
  w.log.foldl (Event.copied (Path.toUri path)) none

variable {path p : Text} {w w' : Workspace}

theorem toUri_ne_nil (path : Text) : Path.toUri path ≠ [] :=
  List.append_ne_nil_of_left_ne_nil (by decide) path

theorem toUri_inj : Path.toUri path = Path.toUri p ↔ path = p := List.append_right_inj _

/-- What the listener says when the server has been initialized are the texts of the documents. -/
theorem textAt_listener (h : Distinct w) (path : Text) :
    TextAt w.listener.documents (Path.toUri path) (w.text? path) := by
  constructor
  · intro e he hu
    obtain ⟨d, hd, rfl⟩ := List.mem_map.1 he
    obtain rfl : d.path = path := toUri_inj.1 hu
    rw [text?, h.find? hd]
    rfl
  · intro htext
    obtain ⟨d, hd⟩ := Option.isSome_iff_exists.1 (Option.isSome_map.symm.trans htext)
    exact ⟨d.document, List.mem_map_of_mem (List.mem_of_find?_eq_some hd),
      congrArg Path.toUri (path_of_find? hd)⟩

/-! ## What the server has been told -/

/-- What holds of the client of a workspace at any time, as far as the copy of one document is
concerned. -/
structure Served (path : Text) (latest? : Option Text) (waits stale : Bool) (w : Workspace) :
    Prop where
  steady : Steady w.client.isRunning w.client.session.initialized { w.client with log := [] }
  serves : ∃ pre calls, w.copy? path = copyAfter (Path.toUri path) none pre ∧
    Serves (Path.toUri path) pre 0 calls latest? waits stale { w.client with log := [] }

variable {latest? : Option Text} {waits stale : Bool} {r b : Bool}

/-- Events of the client between two launches. -/
theorem foldl_reactions (uri : Text) (copy : Option Text) (w : Workspace) {es : List Client.Event}
    (hes : ∀ e ∈ es, e.isLaunch = false) :
    (es.flatMap w.reactions).foldl (Event.copied uri) copy = copyAfter uri copy (writes es) := by
  induction es generalizing copy with
  | nil => rfl
  | cons e es ih =>
    have hone : (w.reactions e).foldl (Event.copied uri) copy = copyAfter uri copy (writes [e]) := by
      cases e with
      | launched => exact Bool.noConfusion (hes _ List.mem_cons_self)
      | notified server method params =>
        unfold reactions
        dsimp only
        split <;> rfl
      | _ => rfl
    rw [List.flatMap_cons, List.foldl_append, hone, ih _ fun a ha => hes a (List.mem_cons_of_mem e ha),
      ← Client.copyAfter_append, ← Client.writes_append]
    rfl

/-- The client does something between two launches: what is written then is appended to what the
server has read. -/
theorem Served.askClient {α : Type} {f : Client → α × Client} {pre calls : List Outgoing}
    (hcopy : w.copy? path = copyAfter (Path.toUri path) none pre)
    (hsteady : Steady r b (f { w.client with log := [] }).2)
    (h : Serves (Path.toUri path) pre 0 calls latest? waits stale (f { w.client with log := [] }).2) :
    Served path latest? waits stale (w.askClient f).2 := by
  refine ⟨hsteady.forget, _, calls, ?_, h.forget⟩
  show List.foldl _ none (w.log ++ _) = _
  rw [List.foldl_append, foldl_reactions _ _ w hsteady.launches, written, Client.copyAfter_append,
    ← hcopy]
  rfl

theorem Served.congr (h : Served path latest? waits stale w) (hclient : w'.client = w.client)
    (hlog : w'.log = w.log) : Served path latest? waits stale w' := by
  obtain ⟨hsteady, pre, calls, hcopy, hserves⟩ := h
  have hcopy' : w'.copy? path = w.copy? path := by rw [copy?, hlog, copy?]
  exact ⟨by rw [hclient]; exact hsteady, pre, calls, hcopy'.trans hcopy, by rw [hclient]; exact hserves⟩

theorem Served.emit (h : Served path latest? waits stale w) {e : Event}
    (he : ∀ copy, e.copied (Path.toUri path) copy = copy) :
    Served path latest? waits stale (w.emit e) := by
  obtain ⟨hsteady, pre, calls, hcopy, hserves⟩ := h
  refine ⟨hsteady, pre, calls, ?_, hserves⟩
  show List.foldl _ none (w.log ++ [e]) = _
  rw [List.foldl_append, List.foldl_cons, he]
  exact hcopy

theorem Served.timers (h : Served path latest? waits stale w) (ts : List (Text × Bool)) :
    Served path latest? waits stale { w with timers := ts } := h.congr rfl rfl

theorem Served.dropTimer (h : Served path latest? waits stale w) (p : Text) :
    Served path latest? waits stale (w.dropTimer p) := by
  unfold Workspace.dropTimer
  split
  · exact (h.timers _).emit (e := .timerStopped) fun _ => rfl
  · exact h

/-- A document that is not open is not looked at. -/
theorem Served.closed (h : Served path latest? waits stale w) (waits' stale' : Bool) :
    Served path none waits' stale' w := by
  obtain ⟨hsteady, pre, calls, hcopy, hserves⟩ := h
  exact ⟨hsteady, pre, calls, hcopy, hserves.holds, fun _ _ ht => nomatch ht⟩

/-- A document that is changed: its new text waits. -/
theorem Served.changed (h : Served path latest? waits stale w) (ht : latest?.isSome) (text : Text) :
    Served path (some text) true false w := by
  obtain ⟨old, rfl⟩ := Option.isSome_iff_exists.1 ht
  obtain ⟨hsteady, pre, calls, hcopy, hserves⟩ := h
  refine ⟨hsteady, pre, calls, hcopy, hserves.holds, fun hr _ _ => ?_⟩
  -- while a text waits nothing is asked of the copy but that there is one
  cases hserves.due hr old rfl with
  | sent known fresh => exact .sent known Bool.noConfusion
  | unsent early silent fresh => exact .unsent early silent rfl

/-- What callers say of other documents, and what happens to the process. -/
theorem Served.act (h : Served path latest? waits stale w) {a : Client.Input}
    (hp : w.client.Proper a) (ha : a.isStart = false)
    (hasks : syncs (Path.toUri path) (Client.asks { w.client with log := [] } a) = [])
    (hsteady : Steady w.client.isRunning w.client.session.initialized
      (Client.step { w.client with log := [] } a)) :
    Served path latest? waits stale (w.withClient (·.step a)) := by
  obtain ⟨-, pre, calls, hcopy, hserves⟩ := h
  exact Served.askClient hcopy hsteady (hserves.step (by cases a <;> exact hp) ha hasks hsteady)

/-- What the client does when the document is not open any more. -/
theorem Served.leave (h : Served path latest? waits stale w) {a : Client.Input}
    (hp : w.client.Proper a) (ha : a.isStart = false)
    (hsteady : Steady w.client.isRunning w.client.session.initialized
      (Client.step { w.client with log := [] } a)) (waits' stale' : Bool) :
    Served path none waits' stale' (w.withClient (·.step a)) := by
  obtain ⟨-, pre, calls, hcopy, hserves⟩ := h
  exact Served.askClient hcopy hsteady
    ⟨hserves.holds.step (Client.lasting_known _) (by cases a <;> exact hp) ha,
      fun _ _ ht => nomatch ht⟩

/-- A text of the document is sent. -/
theorem Served.send (h : Served path latest? waits stale w) (language sent : Text) {text : Text}
    {waits' stale' : Bool} (hfresh : waits' = false → (sent = text ↔ stale' = false)) :
    Served path (some text) waits' stale'
      (w.withClient fun c => (c.send ⟨Path.toUri path, language, sent⟩).2) := by
  obtain ⟨hsteady, pre, calls, hcopy, hserves⟩ := h
  have hsteady' := hsteady.send ⟨Path.toUri path, language, sent⟩
  obtain ⟨calls', hsent⟩ := hserves.send (toUri_ne_nil path) rfl hsteady' hfresh
  exact Served.askClient hcopy hsteady' hsent

theorem syncs_asks_send {uri : Text} (c : Client) {d : Document} (hd : d.uri ≠ uri) :
    syncs uri (c.asks (.send d)) = [] := by
  rw [Client.asks]
  split
  · rfl
  · simp [syncs, Client.sync?_updateOf_of_ne _ hd]

/-- A text of another document is sent. -/
theorem Served.sendOther (h : Served path latest? waits stale w) (hp : p ≠ path)
    (language sent : Text) : Served path latest? waits stale
      (w.withClient fun c => (c.send ⟨Path.toUri p, language, sent⟩).2) :=
  h.act (a := .send ⟨Path.toUri p, language, sent⟩) trivial rfl
    (syncs_asks_send _ (mt toUri_inj.1 hp)) (h.steady.send _)

theorem syncs_asks_close {uri u : Text} (c : Client) (hu : u ≠ uri) :
    syncs uri (c.asks (.close u)) = [] := by
  rw [Client.asks]
  split
  · simp [syncs, Outgoing.sync?, hu]
  · rfl

/-- Another document is closed. -/
theorem Served.closeOther (h : Served path latest? waits stale w) (hp : p ≠ path) :
    Served path latest? waits stale (w.withClient (Client.closeDocument (Path.toUri p))) :=
  h.act (a := .close (Path.toUri p)) trivial rfl (syncs_asks_close _ (mt toUri_inj.1 hp))
    (h.steady.closeDocument _)

/-- A server that is launched has been told nothing. -/
theorem Served.launch (h : Served path latest? waits stale w) (hr : w.client.isRunning = false)
    (latest?' : Option Text) (waits' : Bool) : Served path latest?' waits' false w.ensureServer := by
  obtain ⟨-, pre, calls, -, hserves⟩ := h
  have hwrites : w.client.writesFail = false := hserves.holds.kept.writable
  obtain ⟨c', program, hstart, hsteady, hserves'⟩ := Client.serves_start
    (c := { w.client with log := [] }) hr hwrites (Path.toUri path) latest?' waits' w.command
    w.arguments (if w.rootExists then some w.root else none) (Path.toUri w.root)
  rw [ensureServer, if_neg (by simp [hr])]
  refine Served.emit ?_ fun _ => rfl
  rw [withClient, Workspace.askClient]
  dsimp only
  rw [hstart]
  refine ⟨hsteady, [], [], ?_, hserves'⟩
  have hlaunched : (c'.log ++ [Client.Event.launched program w.arguments]).flatMap w.reactions =
      c'.log.flatMap w.reactions ++ [.client (.launched program w.arguments)] := List.flatMap_append
  show List.foldl _ none (w.log ++ (c'.log ++ [Client.Event.launched _ _]).flatMap w.reactions) = _
  rw [hlaunched, ← List.append_assoc, List.foldl_append]
  rfl

theorem Served.ensureServer (h : Served path latest? waits stale w) :
    Served path latest? waits (w.client.isRunning && stale) w.ensureServer := by
  cases hr : w.client.isRunning with
  | true =>
    rw [Workspace.ensureServer, if_pos hr]
    exact h
  | false => exact h.launch hr latest? waits

/-- What the server has of a document when everything has been said. -/
theorem Served.copy? {text : Text} (h : Served path (some text) false stale w)
    (hready : w.client.isReady) :
    (w.copy? path).isSome ∧ (w.copy? path = some text ↔ stale = false) := by
  obtain ⟨-, pre, calls, hcopy, hserves⟩ := h
  obtain ⟨hr, hi⟩ : w.client.isRunning ∧ w.client.session.initialized := by
    simpa [Client.isReady] using hready
  have hall := hserves.holds.kept.filter_isCall hr hi
  have hwritten : written pre 0 { w.client with log := [] } = pre := List.append_nil pre
  rw [hwritten] at hall
  rw [hcopy, ← Client.copyAfter_filter_isCall, hall]
  cases hserves.due hr text rfl with
  | sent known fresh => exact ⟨known, fresh rfl⟩
  | unsent early => exact absurd (hi.symm.trans early) Bool.noConfusion

end Legible.Workspace
