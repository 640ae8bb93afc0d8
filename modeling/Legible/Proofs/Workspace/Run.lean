import Legible.Workspace.Basic
import Legible.Proofs.Client.Overtaking
import Legible.Proofs.Client.Run

/-!
# Runs of a workspace

A run takes a workspace through its operations, its timers, events of the process of its server, and
messages of the server, in any order (`Input`).  The life of a server begins when a document is
opened while no server runs, and lasts until this happens again.

In a life the server hears of a document that it is opened, changed and closed, over and over,
unless one message is overtaken: when the server has been initialized the workspace has its open
documents sent at once, and what was held back about one of them comes later than that
(`Overtakes`).  This is the only thing that can go wrong, and where it happens the server hears of a
change of a document that it does not have, or of the same document being opened twice
(`inCycles_heard_iff`).
-/

namespace Legible.Workspace

open Client (Outgoing Sync syncs writes written)

/-- What can happen to a workspace. -/
inductive Input
  | openDocument (file text : Text)
  | changeDocument (file text : Text)
  | closeDocument (file : Text)
  /-- The timer of a changed document fires. -/
  | timerFired (path : Text)
  | shutdown
  | notification (method : Text) (params : Value)
  | processStarted
  | processFinished
  | processFailed (failedToStart : Bool) (text : Text)
  | killTimerFired
  /-- From now on the process ends as soon as it is asked to, or not. -/
  | exitsAtOnce (b : Bool)
  | receive (bs : Bytes)
  /-- One message of the server, so that something may happen before the next. -/
  | message (m : Fields)

/-- What one input makes of a workspace. -/
def step (w : Workspace) : Input → Workspace
  | .openDocument file text => w.openDocument file text
  | .changeDocument file text => w.changeDocument file text
  | .closeDocument file => w.closeDocument file
  | .timerFired path => w.timerFired path
  | .shutdown => w.shutdown
  | .notification method params => (w.notification method params).2
  | .processStarted => w.withClient Client.processStarted
  | .processFinished => w.withClient Client.finished
  | .processFailed failedToStart text => w.withClient (Client.processFailed failedToStart text)
  | .killTimerFired => w.withClient Client.killTimerFired
  | .exitsAtOnce b => w.withClient fun c => { c with exitsAtOnce := b }
  | .receive bs => (w.receive bs).2
  | .message m => (w.askClient (Client.dispatch w.listener m)).2

/-- What becomes of a workspace. -/
def run (w : Workspace) (is : List Input) : Workspace := is.foldl step w

/-- Whether an input begins the life of a server: a document is opened that needs one, and none
runs. -/
def Launches (w : Workspace) : Input → Prop
  | .openDocument file _ => w.client.isRunning = false ∧ Language.isFamily (w.resolve file)
  | _ => False

/-- What an input may be: a process that has started was starting. -/
def Proper (w : Workspace) : Input → Prop
  | .processStarted => w.client.process = .starting
  | _ => True

/-- Whether a run stays within one life of the server. -/
def OneLife : Workspace → List Input → Prop
  | _, [] => True
  | w, i :: is => w.Proper i ∧ ¬ w.Launches i ∧ OneLife (w.step i) is

/-- Whether an input is said by the server. -/
def Input.isIncoming : Input → Bool
  | receive _ | message _ => true
  | _ => false

/-- Whether something that was held back about a document is overtaken: the server has just been
initialized, and the document is open in the workspace. -/
def Overtakes (uri : Text) (w : Workspace) (i : Input) : Prop :=
  i.isIncoming ∧ Client.Overtaking uri w.listener.documents w.client ∧
    (w.step i).client.session.initialized

/-- Whether something is overtaken in a run. -/
def Overtaken (uri : Text) : Workspace → List Input → Prop
  | _, [] => False
  | w, i :: is => w.Overtakes uri i ∨ Overtaken uri (w.step i) is

instance (uri : Text) (w : Workspace) (i : Input) : Decidable (w.Overtakes uri i) :=
  inferInstanceAs (Decidable (_ ∧ _ ∧ _))

instance decidableOvertaken (uri : Text) :
    (w : Workspace) → (is : List Input) → Decidable (w.Overtaken uri is)
  | _, [] => .isFalse id
  | w, i :: is =>
    have := decidableOvertaken uri (w.step i) is
    inferInstanceAs (Decidable (_ ∨ _))

/-- The message that an event writes. -/
def Event.wrote? : Event → Option Outgoing
  | .client e => e.wrote?
  | _ => none

/-- The messages that a workspace has written from an event on. -/
def heard (n : Nat) (w : Workspace) : List Outgoing := (w.log.drop n).filterMap Event.wrote?

/-- What holds during one life of a server, as far as one document is concerned. -/
structure Sound (uri : Text) (n : Nat) (calls : List Outgoing) (w : Workspace) : Prop where
  begun : n ≤ w.log.length
  client : Client.Sound uri (w.heard n) 0 calls { w.client with log := [] }

variable {uri : Text} {n : Nat} {calls : List Outgoing} {w w' : Workspace} {i : Input}

/-! ## The client of a workspace -/

/-- Only what the client writes is written. -/
theorem filterMap_reactions (w : Workspace) (es : List Client.Event) :
    (es.flatMap w.reactions).filterMap Event.wrote? = writes es := by
  induction es with
  | nil => rfl
  | cons e es ih =>
    have hone : (w.reactions e).filterMap Event.wrote? = writes [e] := by
      cases e with
      | notified server method params =>
        unfold reactions
        dsimp only
        split <;> rfl
      | _ => rfl
    rw [List.flatMap_cons, List.filterMap_append, hone, ih]
    exact (Client.writes_append [e] es).symm

theorem heard_append (hn : n ≤ w.log.length) {es : List Event} (hlog : w'.log = w.log ++ es) :
    w'.heard n = w.heard n ++ es.filterMap Event.wrote? := by
  rw [heard, heard, hlog, List.drop_append_of_le_length hn, List.filterMap_append]

theorem heard_askClient {α : Type} {f : Client → α × Client} (hn : n ≤ w.log.length) :
    (w.askClient f).2.heard n = written (w.heard n) 0 (f { w.client with log := [] }).2 :=
  (heard_append hn rfl).trans (congrArg _ (filterMap_reactions w _))

theorem sound_askClient {α : Type} {f : Client → α × Client} (hn : n ≤ w.log.length)
    (h : Client.Sound uri (w.heard n) 0 calls (f { w.client with log := [] }).2) :
    Sound uri n calls (w.askClient f).2 := by
  refine ⟨Nat.le_trans hn (by simp [askClient]), ?_⟩
  rw [heard_askClient hn]
  exact ⟨h.kept.forget, h.cycles, h.tracks⟩

/-- What callers say to the client, and what happens to its process. -/
theorem Sound.act (h : Sound uri n calls w) {a : Client.Input} (hp : w.client.Proper a)
    (hs : a.isStart = false) : ∃ calls', Sound uri n calls' (w.withClient (·.step a)) :=
  ⟨_, sound_askClient h.begun (h.client.step (i := a) (by cases a <;> exact hp) hs)⟩

/-- The invariant looks only at the client and at what was written. -/
theorem Sound.congr (h : Sound uri n calls w) (hclient : w'.client = w.client)
    (hlog : ∃ es, es.filterMap Event.wrote? = [] ∧ w'.log = w.log ++ es) :
    Sound uri n calls w' := by
  obtain ⟨es, hes, hlog⟩ := hlog
  refine ⟨Nat.le_trans h.begun (by simp [hlog]), ?_⟩
  rw [heard_append h.begun hlog, hes, List.append_nil, hclient]
  exact h.client

theorem Sound.congr_log (h : Sound uri n calls w) (hclient : w'.client = w.client)
    (hlog : w'.log = w.log) : Sound uri n calls w' :=
  h.congr hclient ⟨[], rfl, by rw [hlog, List.append_nil]⟩

theorem Sound.emit (h : Sound uri n calls w) {e : Event} (he : e.wrote? = none) :
    Sound uri n calls (w.emit e) :=
  h.congr rfl ⟨[e], by simp [he], rfl⟩

/-! ## Operations -/

theorem track_frame (path language text : Text) (w : Workspace) :
    (w.track path language text).client = w.client ∧ (w.track path language text).log = w.log := by
  unfold track
  split <;> exact ⟨rfl, rfl⟩

theorem Sound.openDocument (h : Sound uri n calls w) {file text : Text}
    (hl : ¬ w.Launches (.openDocument file text)) :
    ∃ calls', Sound uri n calls' (w.openDocument file text) := by
  unfold Workspace.openDocument
  dsimp only
  split
  · rename_i hfamily
    obtain ⟨hclient, hlog⟩ := track_frame (w.resolve file)
      (Language.ofPath (w.resolve file) Client.usualLanguage) text w
    have hr : w.client.isRunning := by
      by_contra hn
      exact hl ⟨by simpa using hn, hfamily⟩
    rw [ensureServer, hclient, if_pos hr]
    exact (h.congr_log hclient hlog).act (a := .send _) trivial rfl
  · exact ⟨_, h⟩

theorem Sound.modify (h : Sound uri n calls w) (path : Text) (f : Tracked → Tracked) :
    Sound uri n calls (w.modify path f) := h.congr_log rfl rfl

theorem Sound.timers (h : Sound uri n calls w) (ts : List (Text × Bool)) :
    Sound uri n calls { w with timers := ts } := h.congr_log rfl rfl

theorem Sound.changeDocument (h : Sound uri n calls w) (file text : Text) :
    Sound uri n calls (w.changeDocument file text) := by
  unfold Workspace.changeDocument
  dsimp only
  split
  · exact h
  · have hchanged := h.modify (w.resolve file) fun d => { d with text, waiting := some text }
    exact (hchanged.timers _).emit (e := .timerStarted changeDelay) rfl

theorem Sound.flush (h : Sound uri n calls w) (path : Text) :
    ∃ calls', Sound uri n calls' (w.flush path) := by
  unfold Workspace.flush
  split
  · split
    · have hsent := h.modify path fun d => { d with waiting := none }
      exact hsent.act (a := .send _) trivial rfl
    · exact ⟨_, h⟩
  · exact ⟨_, h⟩

theorem Sound.dropTimer (h : Sound uri n calls w) (path : Text) :
    Sound uri n calls (w.dropTimer path) := by
  unfold Workspace.dropTimer
  split
  · exact (h.timers _).emit (e := .timerStopped) rfl
  · exact h

theorem Sound.closeDocument (h : Sound uri n calls w) (file : Text) :
    ∃ calls', Sound uri n calls' (w.closeDocument file) := by
  unfold Workspace.closeDocument
  dsimp only
  split
  · exact ⟨_, h⟩
  · have huntracked : Sound uri n calls (w.untrack (w.resolve file)) := h.congr_log rfl rfl
    obtain ⟨calls', hclosed⟩ := (huntracked.dropTimer (w.resolve file)).act
      (a := .close (Path.toUri (w.resolve file))) trivial rfl
    exact ⟨calls', hclosed.emit rfl⟩

theorem Sound.shutdown (h : Sound uri n calls w) :
    ∃ calls', Sound uri n calls' w.shutdown := by
  have hstopped (ts : List (Text × Bool)) : ∀ w : Workspace, Sound uri n calls w →
      Sound uri n calls (ts.foldl (fun w _ => w.emit .timerStopped) w) := by
    induction ts with
    | nil => exact fun w h => h
    | cons t ts ih => exact fun w h => ih _ (h.emit rfl)
  have hforgotten (w : Workspace) (h : Sound uri n calls w) :
      Sound uri n calls { w with timers := [], documents := [] } := h.congr_log rfl rfl
  exact (hforgotten _ (hstopped w.timers w h)).act (a := .stop) trivial rfl

theorem Sound.notification (h : Sound uri n calls w) (method : Text) (params : Value) :
    Sound uri n calls (w.notification method params).2 := by
  unfold Workspace.notification
  split
  · exact h.emit rfl
  · exact h
  · exact h

/-! ## Messages of the server -/

/-- What the server says disturbs nothing unless something is overtaken. -/
theorem incoming_progress (huri : uri ≠ []) (h : Sound uri n calls w) (hi : i.isIncoming) :
    ∃ c', Client.Progress uri (w.heard n) 0 calls w.listener { w.client with log := [] } c' ∧
      (w.step i).client = { c' with log := [] } ∧
      (w.step i).heard n = written (w.heard n) 0 c' ∧
      (∀ calls', Client.Sound uri (w.heard n) 0 calls' c' → Sound uri n calls' (w.step i)) := by
  cases i with
  | receive bs =>
    exact ⟨_, h.client.receive huri w.listener bs, rfl, heard_askClient h.begun,
      fun _ hs => sound_askClient h.begun hs⟩
  | message m =>
    exact ⟨_, (h.client.progress w.listener).dispatch huri h.client.kept m, rfl,
      heard_askClient h.begun, fun _ hs => sound_askClient h.begun hs⟩
  | _ => simp [Input.isIncoming] at hi

theorem Sound.incoming (huri : uri ≠ []) (h : Sound uri n calls w) (hi : i.isIncoming)
    (ho : ¬ w.Overtakes uri i) : ∃ calls', Sound uri n calls' (w.step i) := by
  obtain ⟨c', hprogress, hclient, -, hsound⟩ := incoming_progress huri h hi
  rcases hprogress.sound with ⟨-, hs⟩ | ⟨hinit, calls', -, -, hgood⟩
  · exact ⟨calls, hsound calls hs⟩
  · refine ⟨calls', hsound calls' (hgood fun hover => ho ⟨hi, hover, ?_⟩)⟩
    rw [hclient]
    exact hinit

/-- Where something is overtaken the server hears nonsense about the document. -/
theorem not_inCycles_of_overtakes (huri : uri ≠ []) (h : Sound uri n calls w)
    (ho : w.Overtakes uri i) : ¬ Sync.InCycles (syncs uri ((w.step i).heard n)) := by
  obtain ⟨hi, hover, hafter⟩ := ho
  obtain ⟨c', hprogress, hclient, hheard, -⟩ := incoming_progress huri h hi
  have hinit : c'.session.initialized := by
    rw [hclient] at hafter
    exact hafter
  have hrun : c'.isRunning := (Client.isRunning_congr hprogress.process).trans hover.1
  rcases hprogress.sound with ⟨hsame, -⟩ | ⟨-, calls', hk, hbad, -⟩
  · have hbefore : c'.session.initialized = false := hsame.trans hover.2.1
    rw [hinit] at hbefore
    exact absurd hbefore Bool.noConfusion
  · rw [hheard, ← Client.syncs_filter_isCall, hk.filter_isCall hrun hinit]
    exact hbad hover

/-! ## Runs -/

theorem Sound.step (huri : uri ≠ []) (h : Sound uri n calls w) (hp : w.Proper i)
    (hl : ¬ w.Launches i) (ho : ¬ w.Overtakes uri i) : ∃ calls', Sound uri n calls' (w.step i) := by
  cases i with
  | openDocument file text => exact h.openDocument hl
  | changeDocument file text => exact ⟨_, h.changeDocument file text⟩
  | closeDocument file => exact h.closeDocument file
  | timerFired path => exact (h.timers _).flush path
  | shutdown => exact h.shutdown
  | notification method params => exact ⟨_, h.notification method params⟩
  | processStarted => exact h.act (a := .processStarted) hp rfl
  | processFinished => exact h.act (a := .processFinished) trivial rfl
  | processFailed failedToStart text =>
    exact h.act (a := .processFailed failedToStart text) trivial rfl
  | killTimerFired => exact h.act (a := .killTimerFired) trivial rfl
  | exitsAtOnce b => exact h.act (a := .exitsAtOnce b) trivial rfl
  | receive bs => exact h.incoming huri rfl ho
  | message m => exact h.incoming huri rfl ho

/-! ## What stays -/

/-- A step that leaves the folder of relative paths and takes back nothing of what was told. -/
structure Continues (w w' : Workspace) : Prop where
  base : w'.base = w.base
  log : w.log <+: w'.log

theorem Continues.refl (w : Workspace) : Continues w w := ⟨rfl, List.prefix_rfl⟩

theorem Continues.trans {w'' : Workspace} (h : Continues w w') (h' : Continues w' w'') :
    Continues w w'' :=
  ⟨h'.base.trans h.base, h.log.trans h'.log⟩

theorem Continues.of_eq (hbase : w'.base = w.base) (hlog : w'.log = w.log) : Continues w w' :=
  ⟨hbase, hlog ▸ List.prefix_rfl⟩

theorem continues_emit (e : Event) (w : Workspace) : Continues w (w.emit e) := ⟨rfl, _, rfl⟩

theorem continues_askClient {α : Type} (f : Client → α × Client) (w : Workspace) :
    Continues w (w.askClient f).2 := ⟨rfl, _, rfl⟩

theorem continues_withClient (f : Client → Client) (w : Workspace) : Continues w (w.withClient f) :=
  continues_askClient _ w

theorem continues_openDocument (file text : Text) (w : Workspace) :
    Continues w (w.openDocument file text) := by
  have htracked (path language : Text) : Continues w (w.track path language text) := by
    unfold track
    split <;> exact .of_eq rfl rfl
  have hserver (w : Workspace) : Continues w w.ensureServer := by
    unfold ensureServer
    split
    · exact .refl w
    · exact (continues_withClient _ w).trans (continues_emit _ _)
  unfold Workspace.openDocument
  dsimp only
  split
  · exact ((htracked _ _).trans (hserver _)).trans (continues_withClient _ _)
  · exact .refl w

theorem continues_closeDocument (file : Text) (w : Workspace) :
    Continues w (w.closeDocument file) := by
  have htimer (path : Text) (w : Workspace) : Continues w (w.dropTimer path) := by
    unfold Workspace.dropTimer
    split
    · exact ⟨rfl, _, rfl⟩
    · exact .refl w
  unfold Workspace.closeDocument
  dsimp only
  split
  · exact .refl w
  · have huntracked : Continues w (w.untrack (w.resolve file)) := .of_eq rfl rfl
    exact ((huntracked.trans (htimer _ _)).trans (continues_withClient _ _)).trans
      (continues_emit _ _)

theorem continues_flush (path : Text) (w : Workspace) : Continues w (w.flush path) := by
  unfold Workspace.flush
  split
  · split
    · have hflushed : Continues w (w.modify path fun d => { d with waiting := none }) :=
        .of_eq rfl rfl
      exact hflushed.trans (continues_withClient _ _)
    · exact .refl w
  · exact .refl w

theorem continues_timerFired (path : Text) (w : Workspace) : Continues w (w.timerFired path) := by
  have hstopped : Continues w
      { w with timers := w.timers.map fun t => if t.1 = path then (path, false) else t } :=
    .of_eq rfl rfl
  exact hstopped.trans (continues_flush path _)

theorem continues_shutdown (w : Workspace) : Continues w w.shutdown := by
  have hstopped (ts : List (Text × Bool)) (w : Workspace) :
      Continues w (ts.foldl (fun w _ => w.emit .timerStopped) w) := by
    induction ts generalizing w with
    | nil => exact .refl w
    | cons t ts ih => exact (continues_emit _ w).trans (ih _)
  exact (hstopped w.timers w).trans ⟨rfl, _, rfl⟩

theorem continues_changeDocument (file text : Text) (w : Workspace) :
    Continues w (w.changeDocument file text) := by
  unfold Workspace.changeDocument
  dsimp only
  split
  · exact .refl w
  · exact ⟨rfl, _, rfl⟩

theorem continues_notification (method : Text) (params : Value) (w : Workspace) :
    Continues w (w.notification method params).2 := by
  unfold Workspace.notification
  split
  · exact continues_emit _ w
  · exact .refl w
  · exact .refl w

theorem continues_step (w : Workspace) (i : Input) : Continues w (w.step i) := by
  cases i with
  | openDocument file text => exact continues_openDocument file text w
  | changeDocument file text => exact continues_changeDocument file text w
  | closeDocument file => exact continues_closeDocument file w
  | timerFired path => exact continues_timerFired path w
  | shutdown => exact continues_shutdown w
  | notification method params => exact continues_notification method params w
  | _ => exact continues_askClient _ w

theorem continues_run (w : Workspace) (is : List Input) : Continues w (w.run is) := by
  induction is generalizing w with
  | nil => exact .refl w
  | cons i is ih => exact (continues_step w i).trans (ih (w.step i))

theorem prefix_heard (hn : n ≤ w.log.length) (h : w.log <+: w'.log) : w.heard n <+: w'.heard n := by
  obtain ⟨es, hes⟩ := h
  exact ⟨_, (heard_append hn hes.symm).symm⟩

/-! ## Lives -/

/-- The life of a server begins with nothing said. -/
theorem sound_launch (hw : w.client.writesFail = false) (hl : w.Launches i) (uri : Text) :
    ∃ calls, Sound uri w.log.length calls (w.step i) := by
  cases i with
  | openDocument file text =>
    obtain ⟨hr, hfamily⟩ := hl
    obtain ⟨w₁, hw₁⟩ : ∃ w₁, w₁ = w.track (w.resolve file)
      (Language.ofPath (w.resolve file) Client.usualLanguage) text := ⟨_, rfl⟩
    obtain ⟨hclient, hlog⟩ := track_frame (w.resolve file)
      (Language.ofPath (w.resolve file) Client.usualLanguage) text w
    rw [← hw₁] at hclient hlog
    have hnothing : w₁.heard w.log.length = [] := by rw [heard, hlog, List.drop_length]; rfl
    have hstart : Sound uri w.log.length [] w₁.ensureServer := by
      rw [ensureServer, hclient, if_neg (by simp [hr])]
      refine Sound.emit (sound_askClient (Nat.le_of_eq (congrArg _ hlog.symm)) ?_) rfl
      rw [hnothing, hclient]
      exact Client.sound_start (c := { w.client with log := [] }) hr hw uri _ _ _ _
    have hopened := hstart.act (a := .send ⟨Path.toUri (w.resolve file),
      Language.ofPath (w.resolve file) Client.usualLanguage, text⟩) trivial rfl
    rw [hw₁] at hopened
    show ∃ calls, Sound uri w.log.length calls (w.openDocument file text)
    rw [Workspace.openDocument]
    dsimp only
    rw [if_pos hfamily]
    exact hopened
  | _ => exact hl.elim

theorem Sound.inCycles (h : Sound uri n calls w) : Sync.InCycles (syncs uri (w.heard n)) := by
  have hw : written (w.heard n) 0 { w.client with log := [] } = w.heard n := List.append_nil _
  exact hw ▸ h.client.inCycles

theorem inCycles_heard_run (huri : uri ≠ []) (h : Sound uri n calls w) {is : List Input}
    (hp : OneLife w is) :
    Sync.InCycles (syncs uri ((w.run is).heard n)) ↔ ¬ w.Overtaken uri is := by
  induction is generalizing w calls with
  | nil => exact iff_of_true h.inCycles id
  | cons i is ih =>
    obtain ⟨hproper, hlaunch, hrest⟩ := hp
    by_cases ho : w.Overtakes uri i
    · -- what the server has heard by now makes no sense, and nothing can be taken back
      have hbad := not_inCycles_of_overtakes huri h ho
      have hn : n ≤ (w.step i).log.length := Nat.le_trans h.begun (continues_step w i).log.length_le
      have hmore := prefix_heard hn (continues_run (w.step i) is).log
      refine iff_of_false (fun hcycles => hbad ?_) (not_not.2 (.inl ho))
      exact hcycles.of_prefix (Client.prefix_syncs uri hmore)
    · obtain ⟨calls', hstep⟩ := h.step huri hproper hlaunch ho
      refine (ih hstep hrest).trans (not_congr ?_)
      exact (or_iff_right ho).symm

/-- In the life of a server that a document launches, the server hears of each document that it is
opened with version one, changed with the versions two, three and so on, closed, and so over and
over, if and only if nothing that was held back about the document was overtaken when the server had
been initialized. -/
theorem inCycles_heard_iff (huri : uri ≠ []) (hw : w.client.writesFail = false)
    (hl : w.Launches i) {is : List Input} (hp : OneLife (w.step i) is) :
    Sync.InCycles (syncs uri (((w.step i).run is).heard w.log.length)) ↔
      ¬ (w.step i).Overtaken uri is := by
  obtain ⟨calls, hsound⟩ := sound_launch hw hl uri
  exact inCycles_heard_run huri hsound hp

/-- A document that is closed before the server has answered is opened and closed then. -/
theorem inCycles_heard_iff_closedEarly :
    let w : Workspace := {
      base := ['/'], root := ['/'], command := ['s'], arguments := [], rewordPublished := false
      interceptor := ⟨⟨[], false, false, []⟩, []⟩, client := { processId := 7 } }
    let path : Text := "/a.ts".toList
    let answer : Fields := [("id".toList, .int 1), ("result".toList, .obj [])]
    let i : Input := .openDocument path ['x']
    let is : List Input := [.processStarted, .closeDocument path, .message answer]
    (Path.toUri path ≠ [] ∧ w.client.writesFail = false ∧ w.Launches i ∧ OneLife (w.step i) is) ∧
      Sync.InCycles (syncs (Path.toUri path) (((w.step i).run is).heard w.log.length)) := by
  intro w path answer i is
  have huri : Path.toUri path ≠ [] := by decide +kernel
  have hl : w.Launches i := ⟨rfl, by decide +kernel⟩
  have hstarting : (w.step i).client.process = .starting := by decide +kernel
  have hp : OneLife (w.step i) is := ⟨hstarting, id, trivial, id, trivial, id, trivial⟩
  exact ⟨⟨huri, rfl, hl, hp⟩, (inCycles_heard_iff huri rfl hl hp).2 (by decide +kernel)⟩

/-- A document that is still open when the server has answered is changed first, and opened then. -/
theorem not_inCycles_heard_openedEarly :
    let w : Workspace := {
      base := ['/'], root := ['/'], command := ['s'], arguments := [], rewordPublished := false
      interceptor := ⟨⟨[], false, false, []⟩, []⟩, client := { processId := 7 } }
    let path : Text := "/a.ts".toList
    let answer : Fields := [("id".toList, .int 1), ("result".toList, .obj [])]
    let said := syncs (Path.toUri path)
      ((w.run [.openDocument path ['x'], .processStarted, .message answer]).heard 0)
    said = [.changed 2, .opened 1] ∧ ¬ Sync.InCycles said := by
  decide +kernel

end Legible.Workspace
