import Legible.Proofs.Client.Opening

/-!
# What happens once

A process is launched only when the client is started, and in a life the server is found to be
initialized at most once: the request for it is made when the process has started, and it is taken
from those that wait when it is answered.  `Steady` is the invariant of everything that happens
between two starts.
-/

namespace Legible.Client

/-- Whether an event launches a process. -/
def Event.isLaunch : Event → Bool
  | .launched .. => true
  | _ => false

/-- How often the server was found to be initialized, or may be. -/
def Session.news (s : Session) : Nat :=
  s.requests.countP (·.2.purpose = .initialization) + s.initialized.toNat

/-- Nothing is launched, and the server is found to be initialized at most once.  There is no
process, and it is not found to be initialized at all, unless `r` and `b` allow for it. -/
structure Steady (r b : Bool) (c : Client) : Prop where
  launches : ∀ e ∈ c.log, e.isLaunch = false
  news : c.session.news ≤ if c.process = .starting then 0 else 1
  running : c.isRunning → r
  initialized : c.session.initialized → b

variable {r b : Bool} {c c' : Client}

theorem Steady.congr (h : Steady r b c) (hlog : c'.log = c.log) (hprocess : c'.process = c.process)
    (hnews : c'.session.news ≤ c.session.news)
    (hinit : c'.session.initialized → c.session.initialized) : Steady r b c' where
  launches := hlog ▸ h.launches
  news := hprocess ▸ Nat.le_trans hnews h.news
  running hr := h.running (isRunning_congr hprocess ▸ hr)
  initialized hi := h.initialized (hinit hi)

theorem Steady.emit (h : Steady r b c) {e : Event} (he : e.isLaunch = false) :
    Steady r b (c.emit e) where
  launches a ha := by
    rcases List.mem_append.1 ha with ha | ha
    · exact h.launches a ha
    · obtain rfl := List.mem_singleton.1 ha
      exact he
  news := h.news
  running := h.running
  initialized := h.initialized

/-- The process is gone. -/
theorem Steady.gone (h : Steady r b c) (hlog : c'.log = c.log) (hprocess : c'.process = .notRunning)
    (hsession : c'.session = c.session) : Steady r b c' where
  launches := hlog ▸ h.launches
  news := by
    rw [hsession, hprocess, if_neg ProcessState.noConfusion]
    exact Nat.le_trans h.news (by split <;> decide)
  running hr := by simp [isRunning, hprocess] at hr
  initialized := hsession ▸ h.initialized

theorem Steady.mono (h : Steady r b c) : Steady r true c :=
  ⟨h.launches, h.news, h.running, fun _ => rfl⟩

/-- Between two steps the bounds are what the client has come to. -/
theorem Steady.forget (h : Steady r b c) :
    Steady c.isRunning c.session.initialized { c with log := [] } :=
  ⟨fun _ he => absurd he List.not_mem_nil, h.news, id, id⟩

/-! ## Writing -/

theorem Steady.write (h : Steady r b c) (m : Outgoing) : Steady r b (c.write m) := by
  unfold Client.write reportWriteFailure
  split
  · split
    · split
      · exact h.emit rfl
      · exact (h.emit rfl).emit rfl
    · exact h.emit rfl
  · exact h

theorem Steady.post (h : Steady r b c) (m : Outgoing) : Steady r b (c.post m) := by
  unfold Client.post
  split
  · split
    · exact h.write m
    · exact h.congr rfl rfl (Nat.le_refl _) id
  · exact h

theorem Steady.withVersion (h : Steady r b c) (uri : Text) (version : Nat) :
    Steady r b (c.withVersion uri version) := h.congr rfl rfl (Nat.le_refl _) id

theorem Steady.send (h : Steady r b c) (d : Document) : Steady r b (c.send d).2 := by
  unfold Client.send
  split
  · exact h
  · split
    · exact (h.withVersion d.uri 1).post _
    · exact (h.withVersion d.uri _).post _

theorem Steady.sendAll (h : Steady r b c) (ds : List Document) : Steady r b (c.sendAll ds) := by
  induction ds generalizing c with
  | nil => exact h
  | cons d ds ih => exact ih (h.send d)

theorem Steady.closeDocument (h : Steady r b c) (uri : Text) : Steady r b (c.closeDocument uri) := by
  unfold Client.closeDocument
  split
  · exact h
  · have hclosed : Steady r b (c.mapSession fun s =>
        { s with versions := s.versions.filter (·.1 ≠ uri) }) := h.congr rfl rfl (Nat.le_refl _) id
    exact hclosed.post _

theorem Steady.releaseBacklog (h : Steady r b c) : Steady r b c.releaseBacklog := by
  have hall (ms : List Outgoing) : ∀ c, Steady r b c → Steady r b (ms.foldl (fun c m => c.write m) c) := by
    induction ms with
    | nil => exact fun c h => h
    | cons m ms ih => exact fun c h => ih _ (h.write m)
  exact hall _ _ (h.congr rfl rfl (Nat.le_refl _) id)

theorem news_register (q : Request) (c : Client) : (c.register q).2.session.news =
    c.session.news + if q.purpose = .initialization then 1 else 0 := by
  simp only [register, mapSession, Session.news, List.countP_append, List.countP_singleton,
    decide_eq_true_eq]
  omega

theorem Steady.askShutdown (h : Steady r b c) : Steady r b c.askShutdown := by
  have hasked : Steady r b (c.register ⟨"shutdown".toList, .shutdown⟩).2 :=
    h.congr rfl rfl (Nat.le_of_eq (news_register _ c)) id
  exact hasked.write _

/-! ## Processes -/

theorem Steady.finished (h : Steady r b c) : Steady r b c.finished := by
  have hstopped : Steady r b { c with process := .notRunning, killTimer := false, stopping := false } :=
    h.gone rfl rfl rfl
  refine Steady.emit (Steady.emit ?_ rfl) rfl
  exact (hstopped.emit (e := .timerStopped) rfl).congr rfl rfl (Nat.zero_le _) Bool.noConfusion

theorem Steady.kill (h : Steady r b c) : Steady r b c.kill := by
  have hterminate : Steady r b c.terminate := by
    unfold Client.terminate
    dsimp only
    split
    · exact (h.emit rfl).finished
    · exact h.emit rfl
  unfold Client.kill
  split
  · dsimp only
    split
    · exact hterminate.emit rfl
    · exact hterminate
  · exact h

theorem Steady.killTimerFired (h : Steady r b c) : Steady r b c.killTimerFired := by
  unfold Client.killTimerFired
  split
  · exact Steady.kill (h.congr rfl rfl (Nat.le_refl _) id)
  · exact h

theorem Steady.stop (h : Steady r b c) : Steady r b c.stop := by
  have hstopping : Steady r b { c with stopping := true } := h.congr rfl rfl (Nat.le_refl _) id
  unfold Client.stop
  split
  · exact h.congr rfl rfl (Nat.zero_le _) Bool.noConfusion
  · exact hstopping.kill
  · dsimp only
    split
    · refine Steady.emit ?_ rfl
      exact hstopping.askShutdown.congr rfl rfl (Nat.le_refl _) id
    · exact hstopping.kill

/-- The server is asked to initialize itself when nobody has asked it. -/
theorem Steady.processStarted (h : Steady r b c) (hstarting : c.process = .starting) :
    Steady r b c.processStarted := by
  -- a server that is starting has not been asked yet
  have hnews : c.session.news = 0 := by
    have hle := h.news
    rw [if_pos hstarting] at hle
    exact Nat.le_zero.1 hle
  obtain ⟨c₁, hc₁⟩ : ∃ c₁, c₁ = { c with process := .running }.emit .started := ⟨_, rfl⟩
  have hasked : Steady r b (c₁.register ⟨"initialize".toList, .initialization⟩).2 := by
    subst hc₁
    have hrun : r := h.running (by simp [isRunning, hstarting])
    refine ⟨(h.emit (e := .started) rfl).launches, ?_, fun _ => hrun, h.initialized⟩
    rw [news_register]
    exact Nat.le_of_eq (congrArg (· + 1) hnews)
  rw [Client.processStarted, ← hc₁]
  exact hasked.write _

theorem Steady.processFailed (h : Steady r b c) (failedToStart : Bool) (text : Text) :
    Steady r b (c.processFailed failedToStart text) := by
  have hsaid (c' : Client) (h : Steady r b c') : Steady r b (if c'.stopping && !failedToStart then c'
      else c'.emit (.status ("LSP process error: ".toList ++ text))) := by
    split
    · exact h
    · exact h.emit rfl
  unfold Client.processFailed
  cases failedToStart with
  | true => exact hsaid _ (h.gone rfl rfl rfl)
  | false => exact hsaid _ (h.congr rfl rfl (Nat.le_refl _) id)

/-! ## Answers -/

theorem Steady.takeRequest (h : Steady r b c) (id : Nat) : Steady r b (c.takeRequest id) :=
  h.congr rfl rfl (Nat.add_le_add_right (List.Sublist.countP_le List.filter_sublist) _) fun hi => hi

/-- Where the server is yet to be found initialized, it has not been, and is asked no more once
the answer has come. -/
theorem Steady.awaited (h : Steady r b c) {id : Nat} {q : Request}
    (hq : (id, q) ∈ c.session.requests) (hp : q.purpose = .initialization) :
    c.process ≠ .starting ∧ c.session.initialized = false ∧
      (c.takeRequest id).session.requests.countP (·.2.purpose = .initialization) = 0 := by
  have hsplit := List.countP_eq_countP_filter_add c.session.requests
    (fun r => r.2.purpose = .initialization) (·.1 ≠ id)
  have htaken : 0 < (c.session.requests.filter fun r => !decide (r.1 ≠ id)).countP
      (·.2.purpose = .initialization) :=
    List.countP_pos_iff.2 ⟨_, List.mem_filter.2 ⟨hq, by simp⟩, by simpa using hp⟩
  have hnews := h.news
  rw [Session.news, hsplit] at hnews
  have hrest : (c.takeRequest id).session.requests = c.session.requests.filter (·.1 ≠ id) := rfl
  rw [hrest]
  split at hnews
  · omega
  · refine ⟨‹_›, ?_, by omega⟩
    cases hi : c.session.initialized with
    | false => rfl
    | true =>
      rw [hi, Bool.toNat_true] at hnews
      omega

theorem Steady.serverInitialized (h : Steady r true c) {id : Nat} {q : Request}
    (hq : (id, q) ∈ c.session.requests) (hp : q.purpose = .initialization) (l : Listener)
    (result : Value) : Steady r true ((c.takeRequest id).serverInitialized l result) := by
  obtain ⟨hstarted, -, hnone⟩ := h.awaited hq hp
  obtain ⟨name, capabilities, heq⟩ := serverInitialized_eq l result (c.takeRequest id)
  rw [heq]
  refine Steady.releaseBacklog (Steady.sendAll (Steady.emit (Steady.write ?_ _) rfl) _)
  refine ⟨h.launches, ?_, h.running, fun _ => rfl⟩
  rw [if_neg (by exact hstarted)]
  exact Nat.le_of_eq (congrArg (· + 1) hnone)

theorem Steady.answered (h : Steady r true c) (l : Listener) (k : Int) (message : Fields) :
    Steady r true (c.answered l k message) := by
  cases k with
  | negSucc k => exact h
  | ofNat id =>
    unfold Client.answered
    dsimp only
    cases hlook : c.session.requests.lookup id with
    | none => exact h
    | some q =>
      obtain ⟨as, bs, hsplit, -⟩ := List.lookup_eq_some_iff.1 hlook
      have hq : (id, q) ∈ c.session.requests := by simp [hsplit]
      have htaken : Steady r true (c.takeRequest id) := h.takeRequest id
      dsimp only
      split
      · cases q.purpose with
        | initialization => exact htaken.emit rfl
        | shutdown => exact htaken.write _
        | caller wantsError =>
          cases wantsError with
          | true => exact htaken.emit rfl
          | false => exact htaken
      · cases hp : q.purpose with
        | initialization => exact h.serverInitialized hq hp l _
        | shutdown => exact htaken.write _
        | caller wantsError => exact htaken.emit rfl

theorem Steady.dispatch (h : Steady r true c) (l : Listener) (message : Fields) :
    Steady r true (c.dispatch l message).2 := by
  unfold Client.dispatch
  dsimp only
  split
  · split
    · split
      · exact h.answered l _ message
      · exact h
      · exact h
    · exact h.write _
  · split
    · exact h
    · exact h.emit rfl

end Legible.Client
