import Legible.Proofs.Client.Holding

/-!
# What keeps the invariant

Most of what happens to a client is `Quiet`: callers did not say anything, so the messages that are
held back or were written on their behalf stay what they were.  That the process ends is quiet too,
since what a life leaves behind is not changed by the sessions after it.
-/

namespace Legible.Client

variable {pre : List Outgoing} {n : Nat} {calls : List Outgoing} {c c' : Client}

/-- A step in which callers say nothing: the invariant stays, versions stay while there is a
process, and no life begins. -/
structure Quiet (c c' : Client) : Prop where
  kept : ∀ {pre n calls}, Kept pre n calls c → Kept pre n calls c'
  versions : ∀ {pre n calls}, Kept pre n calls c → c'.isRunning →
    c.isRunning ∧ c'.session.versions = c.session.versions

theorem Quiet.refl (c : Client) : Quiet c c := ⟨id, fun _ h => ⟨h, rfl⟩⟩

theorem Quiet.trans {c₁ c₂ c₃ : Client} (h : Quiet c₁ c₂) (h' : Quiet c₂ c₃) : Quiet c₁ c₃ where
  kept hk := h'.kept (h.kept hk)
  versions hk hr := by
    obtain ⟨hr₂, hv₂⟩ := h'.versions (h.kept hk) hr
    obtain ⟨hr₁, hv₁⟩ := h.versions hk hr₂
    exact ⟨hr₁, hv₂.trans hv₁⟩

/-- A step that changes neither log, process nor session. -/
theorem Quiet.of_eq (hlog : c'.log = c.log) (hfail : c'.writesFail = c.writesFail)
    (hprocess : c'.process = c.process) (hsession : c'.session = c.session) : Quiet c c' where
  kept hk := hk.congr hlog hfail hprocess (by rw [hsession]) (by rw [hsession])
    fun _ r hr => .inl (hsession ▸ hr)
  versions _ hr := ⟨isRunning_congr hprocess ▸ hr, by rw [hsession]⟩

theorem quiet_emit {e : Event} (he : e.wrote? = none) : Quiet c (c.emit e) :=
  ⟨fun hk => hk.emit he, fun _ hr => ⟨hr, rfl⟩⟩

/-- The process is gone, and its session may be too. -/
theorem Quiet.gone (hlog : c'.log = c.log) (hfail : c'.writesFail = c.writesFail)
    (hrun : c'.isRunning = false) (hsession : c'.session = c.session ∨ c'.session = {}) :
    Quiet c c' where
  kept hk := by
    refine hk.ended hlog hfail hrun ?_
    rcases hsession with hs | hs <;> rw [hs]
    · exact hk.noShutdown
    · intro _ r hr
      simp at hr
  versions _ hr := by simp [hrun] at hr

theorem quiet_takeRequest (id : Nat) : Quiet c (c.takeRequest id) where
  kept hk := hk.congr rfl rfl rfl rfl rfl fun _ _ hr => .inl (List.mem_filter.1 hr).1
  versions _ hr := ⟨hr, rfl⟩

/-- Writing changes neither the process nor the session. -/
theorem write_frame (m : Outgoing) (c : Client) :
    (c.write m).process = c.process ∧ (c.write m).session = c.session := by
  unfold write reportWriteFailure
  split
  · split
    · split <;> exact ⟨rfl, rfl⟩
    · exact ⟨rfl, rfl⟩
  · exact ⟨rfl, rfl⟩

theorem Quiet.write {m : Outgoing} (hq : Quiet c c')
    (h : ∀ {pre n calls}, Kept pre n calls c → Kept pre n calls (c'.write m)) :
    Quiet c (c'.write m) where
  kept := h
  versions hk hr := by
    obtain ⟨hp, hs⟩ := write_frame m c'
    rw [hs]
    exact hq.versions hk (isRunning_congr hp ▸ hr)

theorem quiet_refusal (id : Value) (method : Text) : Quiet c (c.write (.refusal id method)) :=
  (Quiet.refl c).write fun hk => hk.write_refusal id method

/-! ## The end of a process -/

theorem quiet_finished (c : Client) : Quiet c c.finished := by
  have hprocess : Quiet c { c with process := .notRunning, killTimer := false, stopping := false } :=
    .gone rfl rfl rfl (.inl rfl)
  have hsession (c : Client) (hr : c.isRunning = false) : Quiet c c.beginSession :=
    .gone rfl rfl hr (.inr rfl)
  have hended (c : Client) (wanted : Bool) : Quiet c ((c.emit (.ended wanted)).emit .stopped) :=
    (quiet_emit rfl).trans (quiet_emit rfl)
  exact ((hprocess.trans (quiet_emit rfl)).trans (hsession _ rfl)).trans (hended _ _)

theorem quiet_terminate (c : Client) : Quiet c c.terminate := by
  have hemit : Quiet c (c.emit .terminated) := quiet_emit rfl
  unfold terminate
  dsimp only
  split
  · exact hemit.trans (quiet_finished _)
  · exact hemit

theorem kill_of_not_isRunning (hr : c.isRunning = false) : c.kill = c := by
  simp [kill, hr]

theorem kill_of_exitsAtOnce (hr : c.isRunning) (he : c.exitsAtOnce) :
    c.kill = (c.emit .terminated).finished := by
  have hterminate : c.terminate = (c.emit .terminated).finished := if_pos he
  rw [kill, if_pos hr, hterminate]
  rfl

theorem kill_of_lasting (hr : c.isRunning) (he : c.exitsAtOnce = false) :
    c.kill = (c.emit .terminated).emit .killed := by
  have hterminate : c.terminate = c.emit .terminated := if_neg (by simp [emit, he])
  rw [kill, if_pos hr, hterminate]
  exact if_pos hr

theorem quiet_kill (c : Client) : Quiet c c.kill := by
  unfold kill
  split
  · dsimp only
    split
    · exact (quiet_terminate c).trans (quiet_emit rfl)
    · exact quiet_terminate c
  · exact .refl c

theorem quiet_killTimerFired (c : Client) : Quiet c c.killTimerFired := by
  have htimer : Quiet c { c with killTimer := false } := .of_eq rfl rfl rfl rfl
  unfold killTimerFired
  split
  · exact htimer.trans (quiet_kill _)
  · exact .refl c

theorem quiet_processFailed (c : Client) (failedToStart : Bool) (text : Text) :
    Quiet c (c.processFailed failedToStart text) := by
  have hfailed (c' : Client) (h : Quiet c c') : Quiet c (if c'.stopping && !failedToStart then c'
      else c'.emit (.status ("LSP process error: ".toList ++ text))) := by
    split
    · exact h
    · exact h.trans (quiet_emit rfl)
  unfold processFailed
  cases failedToStart with
  | true => exact hfailed _ (.gone rfl rfl rfl (.inl rfl))
  | false => exact hfailed _ (.of_eq rfl rfl rfl rfl)

theorem Kept.processRuns (h : Kept pre n calls c) (hstarting : c.process = .starting) :
    Kept pre n calls { c with process := .running } := by
  have hrun : c.isRunning := by simp [isRunning, hstarting]
  have htold := h.told
  rw [hrun] at htold
  refine ⟨h.begun, h.writable, h.said, h.noShutdown, ?_, htold⟩
  exact Nat.le_trans h.asked (by rw [if_pos hstarting]; exact Nat.zero_le _)

theorem Kept.askInitialize (h : Kept pre n calls c) (hr : c.process = .running)
    (hnone : (written pre n c).countP (·.isInitializeRequest) = 0) :
    Kept pre n calls c.askInitialize :=
  (h.register ⟨"initialize".toList, .initialization⟩ fun _ =>
    Purpose.noConfusion).write_initializeRequest hr hnone _ _ _

theorem quiet_processStarted (hstarting : c.process = .starting) : Quiet c c.processStarted where
  kept {pre n calls} hk := by
    -- nothing was asked while the process was starting, so this is the one request of its kind
    have hruns := hk.processRuns hstarting
    have hasked := hk.asked
    rw [if_pos hstarting] at hasked
    have hw : written pre n ({ c with process := .running }.emit .started) = written pre n c :=
      written_emit_of_none hruns.begun rfl
    refine (hruns.emit rfl).askInitialize rfl ?_
    rw [hw]
    exact Nat.le_zero.1 hasked
  versions _ _ := by
    refine ⟨by simp [isRunning, hstarting], ?_⟩
    exact (congrArg Session.versions (write_frame _ _).2).trans rfl

/-! ## Calls -/

/-- What holds during one life of a server, where what callers said is related to the versions of
the documents; of a life that is over the versions are not known. -/
structure Holds (R : List Outgoing → Versions → Prop) (pre : List Outgoing) (n : Nat)
    (calls : List Outgoing) (c : Client) : Prop where
  kept : Kept pre n calls c
  fits : ∃ vs, R calls vs ∧ (c.isRunning → c.session.versions = vs)

variable {R : List Outgoing → Versions → Prop} {uri : Text} {m : Outgoing}

theorem Holds.related (h : Holds R pre n calls c) (hr : c.isRunning) :
    R calls c.session.versions := by
  obtain ⟨vs, hvs, heq⟩ := h.fits
  exact heq hr ▸ hvs

theorem Holds.quiet (h : Holds R pre n calls c) (hq : Quiet c c') : Holds R pre n calls c' := by
  obtain ⟨vs, hvs, heq⟩ := h.fits
  refine ⟨hq.kept h.kept, vs, hvs, fun hr => ?_⟩
  obtain ⟨hrun, hv⟩ := hq.versions h.kept hr
  exact hv.trans (heq hrun)

theorem post_frame (m : Outgoing) (c : Client) :
    (c.post m).process = c.process ∧ (c.post m).session.versions = c.session.versions := by
  unfold post
  split
  · split
    · obtain ⟨hp, hs⟩ := write_frame m c
      exact ⟨hp, congrArg Session.versions hs⟩
    · exact ⟨rfl, rfl⟩
  · exact ⟨rfl, rfl⟩

/-- A message that is posted once the session has been prepared for it. -/
theorem Holds.post (h : Holds R pre n calls c) (hk : Kept pre n calls c')
    (hprocess : c'.process = c.process) (hm : m.isCall)
    (ht : R calls c.session.versions → R (calls ++ [m]) c'.session.versions) :
    Holds R pre n (calls ++ c.accepted [m]) (c'.post m) := by
  obtain ⟨hp, hv⟩ := post_frame m c'
  have hrun : c'.isRunning = c.isRunning := isRunning_congr hprocess
  have hrun' : (c'.post m).isRunning = c.isRunning := (isRunning_congr hp).trans hrun
  have haccepted : c'.accepted [m] = c.accepted [m] := by rw [accepted, hrun, accepted]
  refine ⟨haccepted ▸ hk.post hm, ?_⟩
  rw [hrun', hv, accepted]
  cases hr : c.isRunning with
  | false =>
    obtain ⟨vs, hvs, -⟩ := h.fits
    exact ⟨vs, (List.append_nil calls).symm ▸ hvs, Bool.noConfusion⟩
  | true => exact ⟨_, ht (h.related hr), fun _ => rfl⟩

theorem Holds.request (hR : Lasting R) (h : Holds R pre n calls c) {method : Text}
    (hm : isUrgent method = false) (params : Value) (wantsError : Bool) :
    Holds R pre n
      (calls ++ c.accepted [.request c.session.nextId method (params.orElse (.obj []))])
      (c.request method params wantsError).2 := by
  have heq : (c.request method params wantsError).2 =
      (c.register ⟨method, .caller wantsError⟩).2.post
        (.request c.session.nextId method (params.orElse (.obj []))) := by
    simp [Client.request, hm, Client.register]
  rw [heq]
  exact h.post (h.kept.register _ fun _ => Purpose.noConfusion) rfl rfl fun ht =>
    hR.other ht fun _ => rfl

theorem Holds.notify (hR : Lasting R) (h : Holds R pre n calls c) (method : Text) (params : Value) :
    Holds R pre n (calls ++ c.accepted [.notify method (params.orElse (.obj []))])
      (c.notify method params) :=
  h.post h.kept rfl rfl fun ht => hR.other ht fun _ => rfl

theorem Holds.send (hR : Lasting R) (h : Holds R pre n calls c) {d : Document} (hd : d.uri ≠ []) :
    Holds R pre n (calls ++ c.accepted [updateOf c.session.versions d]) (c.send d).2 := by
  rw [send_eq c hd]
  exact h.post (h.kept.congr rfl rfl rfl rfl rfl fun _ _ hr => .inl hr) rfl (isCall_updateOf _ d)
    fun ht => hR.update d ht

theorem Holds.close (hR : Lasting R) (h : Holds R pre n calls c) {u : Text} {v : Nat}
    (hv : c.session.versions.lookup u = some v) :
    Holds R pre n (calls ++ c.accepted [.didClose u]) (c.closeDocument u) := by
  rw [closeDocument_eq c hv]
  exact h.post (h.kept.congr rfl rfl rfl rfl rfl fun _ _ hr => .inl hr) rfl rfl fun ht =>
    hR.close ht hv

/-- A server that is initialized is asked to shut down. -/
theorem Holds.askShutdown (hR : Lasting R) (h : Holds R pre n calls c) (hr : c.isRunning)
    (hi : c.session.initialized) :
    Holds R pre n (calls ++ [.request c.session.nextId "shutdown".toList (.obj [])])
      c.askShutdown := by
  have heq : c.askShutdown = (c.register ⟨"shutdown".toList, .shutdown⟩).2.post
      (.request c.session.nextId "shutdown".toList (.obj [])) := by
    have hrun : (c.register ⟨"shutdown".toList, .shutdown⟩).2.isRunning = true := hr
    have hinit : (c.register ⟨"shutdown".toList, .shutdown⟩).2.session.initialized = true := hi
    rw [Client.post, if_pos hrun, if_pos hinit]
    rfl
  have hholds := h.post (m := .request c.session.nextId "shutdown".toList (.obj []))
    (h.kept.register ⟨"shutdown".toList, .shutdown⟩ fun hn => by simp [hi] at hn) rfl rfl
    fun ht => hR.other ht fun _ => rfl
  rwa [accepted, if_pos hr, ← heq] at hholds

/-! ## One document -/

/-- What holds during one life of a server, as far as one document is concerned. -/
structure Sound (uri : Text) (pre : List Outgoing) (n : Nat) (calls : List Outgoing)
    (c : Client) : Prop where
  kept : Kept pre n calls c
  cycles : Sync.InCycles (syncs uri calls)
  tracks : c.isRunning → Tracks uri calls c.session.versions

theorem sound_iff_holds : Sound uri pre n calls c ↔ Holds (Tracks uri) pre n calls c := by
  constructor
  · intro h
    refine ⟨h.kept, ?_⟩
    cases hr : c.isRunning with
    | true => exact ⟨_, h.tracks hr, fun _ => rfl⟩
    | false =>
      -- versions that would fit what was said
      obtain ⟨v, hv⟩ := Option.isSome_iff_exists.1 (Sync.inCycles_iff.1 h.cycles)
      refine ⟨(v.map (uri, ·)).toList, ?_, Bool.noConfusion⟩
      rw [Tracks, hv]
      cases v <;> simp
  · intro h
    obtain ⟨vs, hvs, -⟩ := h.fits
    exact ⟨h.kept, hvs.inCycles, h.related⟩

theorem Sound.quiet (h : Sound uri pre n calls c) (hq : Quiet c c') :
    Sound uri pre n calls c' := sound_iff_holds.2 ((sound_iff_holds.1 h).quiet hq)

end Legible.Client
