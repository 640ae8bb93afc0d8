import Legible.Proofs.Client.Stopping

/-!
# Shutting a server down

A server that has been initialized is asked to shut down when it is to stop (`AsksShutdown`), and
the timer starts after which its process is ended by force.  A run says whether the process that
runs is the one that was asked and still has time (`ShutsDown`).  The timer runs in just these runs
(`killTimer_of_shutsDown`, `shutsDown_of_killTimer`), if only the end of every process that has
started is told.

What carries this is `Timing`: a process that runs is asked to shut down and the timer starts, or
it runs on and so does the timer unless the time is over, or it ends and the timer stops.  What is
counted in the log only grows, so where it is the same again nothing has begun or ended in between.
-/

namespace Legible.Client

variable {c c' c'' : Client} {i : Input} {is : List Input} {id : Nat}

/-! ## What is asked -/

/-- What an input adds to the log. -/
def logged (c : Client) (i : Input) : List Event := (c.step i).log.drop c.log.length

/-- An input at which the server is asked to shut down: it is to stop, it runs and has been
initialized, and the request is written. -/
structure AsksShutdown (c : Client) (i : Input) (id : Nat) : Prop where
  asks : i.asksToStop
  running : c.process = .running
  initialized : c.session.initialized
  wrote : .wrote (.request id "shutdown".toList (.obj [])) ∈ c.logged i

/-- Whether a process runs after a run that was asked to shut down and still has time for it: since
it was asked no process has begun or ended, and the time has not run out. -/
def ShutsDown (c : Client) (is : List Input) : Prop :=
  (c.run is).process = .running ∧ ∃ before i after id, is = before ++ i :: after ∧
    AsksShutdown (c.run before) i id ∧ .killTimerFired ∉ after ∧
    (c.run is).vitals = (c.run before).vitals

/-- Whether the end of every process that has started is told in a run: a process that runs is not
said to have failed to start. -/
def EndsTold (c : Client) (is : List Input) : Prop :=
  ∀ before text after, is = before ++ .processFailed true text :: after →
    (c.run before).process ≠ .running

/-! ## Steps that leave the process alone -/

/-- A step that leaves the process and the timer alone: no process begins or ends, and the log
grows. -/
structure Leaves (c c' : Client) : Prop where
  process : c'.process = c.process
  killTimer : c'.killTimer = c.killTimer
  vitals : c'.vitals = c.vitals
  log : c.log <+: c'.log

theorem Leaves.refl (c : Client) : Leaves c c := ⟨rfl, rfl, rfl, List.prefix_rfl⟩

theorem Leaves.trans (h : Leaves c c') (h' : Leaves c' c'') : Leaves c c'' :=
  ⟨h'.process.trans h.process, h'.killTimer.trans h.killTimer, h'.vitals.trans h.vitals,
    h.log.trans h'.log⟩

theorem Talks.leaves (h : Talks c c') : Leaves c c' := ⟨h.process, h.killTimer, h.vitals, h.log⟩

theorem leaves_emit {e : Event} (he : e.isVital = false) (c : Client) : Leaves c (c.emit e) :=
  (talks_emit he c).leaves

theorem leaves_receive (l : Listener) (bs : Bytes) (c : Client) : Leaves c (c.receive l bs).2 :=
  receive_induction (P := Leaves c) (fun _ _ h => h.trans ⟨rfl, rfl, rfl, List.prefix_rfl⟩)
    (fun _ m h => h.trans (talks_dispatch l m _).leaves) bs (.refl c)

/-- An error of a process; a process that fails to start is gone. -/
theorem leaves_processFailed (failedToStart : Bool) (text : Text) (c : Client) :
    Leaves (if failedToStart then { c with process := .notRunning } else c)
      (c.processFailed failedToStart text) := by
  have hsaid (c' : Client) : Leaves c' (if c'.stopping && !failedToStart then c'
      else c'.emit (.status ("LSP process error: ".toList ++ text))) := by
    split
    · exact .refl c'
    · exact leaves_emit rfl c'
  unfold processFailed
  cases failedToStart with
  | false =>
    have herror : Leaves c { c with errorText := text } := ⟨rfl, rfl, rfl, List.prefix_rfl⟩
    exact herror.trans (hsaid _)
  | true =>
    have herror : Leaves { c with process := .notRunning }
        { c with process := .notRunning, errorText := text } := ⟨rfl, rfl, rfl, List.prefix_rfl⟩
    exact herror.trans (hsaid _)

/-- A process that has started runs; apart from that it is left alone. -/
theorem leaves_processStarted (c : Client) :
    Leaves { c with process := .running } c.processStarted :=
  (leaves_emit (e := .started) rfl _).trans (talks_askInitialize _).leaves

theorem leaves_startKillTimer (c : Client) :
    Leaves { c with killTimer := true } c.startKillTimer := leaves_emit rfl _

theorem log_finished (c : Client) : c.log <+: c.finished.log := by
  refine ⟨[.timerStopped, .ended c.stopping, .stopped], ?_⟩
  simp [finished, emit, beginSession]

/-- A server is started by stopping the one that runs, and a launch. -/
theorem exists_launch_eq_start (program : Text) (arguments : List Text) (folder : Option Text)
    (root : Text) (c : Client) :
    ∃ c₁, Leaves c.stop c₁ ∧ c.start program arguments folder root = c₁.launch arguments := by
  have hbegun : Leaves c.stop { c.stop with
      program := Text.strip program
      root := Text.strip root
      serverName := Path.baseName (Text.strip program) }.beginSession :=
    ⟨rfl, rfl, rfl, List.prefix_rfl⟩
  cases folder with
  | none => exact ⟨_, hbegun, rfl⟩
  | some path => exact ⟨_, hbegun.trans (leaves_emit rfl _), rfl⟩

theorem leaves_launch (hr : c.isRunning) (arguments : List Text) :
    Leaves c (c.launch arguments) := by
  rw [launch, if_pos hr]
  exact leaves_emit rfl c

/-! ## Stopping a server -/

theorem stop_of_initialized (hp : c.process = .running) (hi : c.session.initialized) :
    c.stop = ({ c with stopping := true } : Client).askShutdown.startKillTimer := by
  simp [stop, hp, hi]

/-- A server that cannot be asked to shut down is ended by force. -/
theorem stop_of_not_initialized (hr : c.isRunning)
    (hn : c.process = .running → c.session.initialized = false) :
    c.stop = ({ c with stopping := true } : Client).kill := by
  cases hp : c.process with
  | notRunning => simp [isRunning, hp] at hr
  | starting => simp [stop, hp]
  | running => simp [stop, hp, hn hp]

theorem log_write (hr : c.isRunning) (hw : c.writesFail = false) (m : Outgoing) :
    (c.write m).log = c.log ++ [.wrote m] := by
  simp [write, hr, hw, emit]

theorem log_askShutdown (hr : c.isRunning) (hw : c.writesFail = false) :
    c.askShutdown.log =
      c.log ++ [.wrote (.request c.session.nextId "shutdown".toList (.obj []))] :=
  log_write (c := (c.register ⟨"shutdown".toList, .shutdown⟩).2) hr hw _

/-- A process that is ended by force is asked to end. -/
theorem log_kill_of_isRunning (hr : c.isRunning) : c.log ++ [.terminated] <+: c.kill.log := by
  cases he : c.exitsAtOnce with
  | true =>
    rw [kill_of_exitsAtOnce hr he]
    exact log_finished (c.emit .terminated)
  | false =>
    rw [kill_of_lasting hr he]
    exact List.prefix_append ..

/-- A process that is ended by force is left alone for a while, unless it ends at once. -/
theorem leaves_kill_or_ends (hr : c.isRunning) :
    Leaves c c.kill ∨ (c.kill.killTimer = false ∧ c.kill.vitals ≠ c.vitals) := by
  have hterminated : Leaves c (c.emit .terminated) := leaves_emit rfl c
  cases he : c.exitsAtOnce with
  | true =>
    rw [kill_of_exitsAtOnce hr he]
    refine .inr ⟨rfl, ?_⟩
    rw [vitals_finished, hterminated.vitals]
    simp
  | false =>
    rw [kill_of_lasting hr he]
    exact .inl (hterminated.trans (leaves_emit rfl _))

theorem killTimer_kill (ht : c.killTimer = false) : c.kill.killTimer = false := by
  cases hr : c.isRunning with
  | false => rw [kill_of_not_isRunning hr, ht]
  | true =>
    rcases leaves_kill_or_ends hr with h | ⟨h, -⟩
    · rw [h.killTimer, ht]
    · exact h

/-! ## Inputs -/

theorem log_kill (c : Client) : c.log <+: c.kill.log := by
  cases hr : c.isRunning with
  | false =>
    have hsame : c.kill = c := kill_of_not_isRunning hr
    exact hsame.symm ▸ List.prefix_rfl
  | true => exact (List.prefix_append ..).trans (log_kill_of_isRunning hr)

theorem leaves_stop (hp : c.process = .running) (hi : c.session.initialized) :
    Leaves { c with killTimer := true } c.stop := by
  have hasked := (talks_askShutdown { c with stopping := true }).leaves
  have htimer := leaves_startKillTimer ({ c with stopping := true } : Client).askShutdown
  rw [stop_of_initialized hp hi]
  exact ⟨hasked.process, rfl, htimer.vitals.trans hasked.vitals, hasked.log.trans htimer.log⟩

theorem log_stop (c : Client) : c.log <+: c.stop.log := by
  by_cases hi : c.process = .running ∧ c.session.initialized
  · exact (leaves_stop hi.1 hi.2).log
  · cases hr : c.isRunning with
    | false =>
      have hp : c.process = .notRunning := by simpa [isRunning] using hr
      simp [stop, hp, beginSession]
    | true =>
      rw [stop_of_not_initialized hr (by simpa using hi)]
      exact log_kill { c with stopping := true }

theorem log_launch (arguments : List Text) (c : Client) : c.log <+: (c.launch arguments).log := by
  unfold launch
  split
  · exact (leaves_emit rfl c).log
  · exact List.prefix_append ..

/-- Whoever starts a server stops the one that runs. -/
theorem log_stop_step (hasks : i.asksToStop) : c.stop.log <+: (c.step i).log := by
  cases i with
  | stop => exact List.prefix_rfl
  | start program arguments folder root =>
    obtain ⟨c₁, hc₁, heq⟩ := exists_launch_eq_start program arguments folder root c
    show c.stop.log <+: (c.start program arguments folder root).log
    rw [heq]
    exact hc₁.log.trans (log_launch arguments c₁)
  | _ => cases hasks

/-- Nothing is taken from the log. -/
theorem log_step (c : Client) (i : Input) : c.log <+: (c.step i).log := by
  cases i with
  | start => exact (log_stop c).trans (log_stop_step rfl)
  | stop => exact log_stop c
  | request method params wantsError => exact (talks_request method params wantsError c).log
  | notify method params => exact (talks_post _ c).log
  | send d => exact (talks_send d c).log
  | close uri => exact (talks_closeDocument uri c).log
  | processStarted => exact (leaves_processStarted c).log
  | processFinished => exact log_finished c
  | processFailed failedToStart text =>
    have hfailed := (leaves_processFailed failedToStart text c).log
    cases failedToStart <;> exact hfailed
  | killTimerFired =>
    show c.log <+: c.killTimerFired.log
    unfold killTimerFired
    split
    · exact log_kill { c with killTimer := false }
    · exact List.prefix_rfl
  | exitsAtOnce b => exact List.prefix_rfl
  | receive l bs => exact (leaves_receive l bs c).log
  | message l m => exact (talks_dispatch l m c).log

theorem log_eq_append_logged (c : Client) (i : Input) : (c.step i).log = c.log ++ c.logged i := by
  obtain ⟨es, hes⟩ := log_step c i
  rw [logged, ← hes, List.drop_left]

theorem vitals_prefix_step (c : Client) (i : Input) : c.vitals <+: (c.step i).vitals :=
  (log_step c i).filter _

theorem vitals_prefix_run (c : Client) (is : List Input) : c.vitals <+: (c.run is).vitals := by
  induction is generalizing c with
  | nil => exact List.prefix_rfl
  | cons i is ih => exact (vitals_prefix_step c i).trans (ih (c.step i))

/-- The request to shut down is written. -/
theorem asksShutdown_of_asksToStop (hasks : i.asksToStop) (hp : c.process = .running)
    (hi : c.session.initialized) (hw : c.writesFail = false) :
    AsksShutdown c i c.session.nextId := by
  refine ⟨hasks, hp, hi, ?_⟩
  have hr : c.isRunning := by simp [isRunning, hp]
  have hstop : c.log ++ [.wrote (.request c.session.nextId "shutdown".toList (.obj []))] <+:
      c.stop.log := by
    have htimer := (leaves_startKillTimer ({ c with stopping := true } : Client).askShutdown).log
    rw [stop_of_initialized hp hi]
    exact (log_askShutdown (c := { c with stopping := true }) hr hw) ▸ htimer
  have hlog := hstop.trans (log_stop_step hasks)
  rw [log_eq_append_logged, List.prefix_append_right_inj] at hlog
  exact hlog.subset (List.mem_singleton_self _)

/-! ## The timer -/

/-- What becomes of a process that runs, and of the timer. -/
inductive Timing (c : Client) (i : Input) (c' : Client) : Prop
  /-- The process is asked to shut down. -/
  | asked (asks : i.asksToStop) (initialized : c.session.initialized)
    (left : Leaves { c with killTimer := true } c')
  /-- The process runs on, and so does the timer unless its time has run out. -/
  | spared (running : c'.process = .running)
    (timer : c'.killTimer ↔ c.killTimer ∧ i ≠ .killTimerFired) (vitals : c'.vitals = c.vitals)
  /-- The process ends. -/
  | ended (timer : c'.killTimer = false) (vitals : c'.vitals ≠ c.vitals)

theorem Leaves.timing (h : Leaves c c') (hp : c.process = .running) (hi : i ≠ .killTimerFired) :
    Timing c i c' :=
  .spared (h.process.trans hp) (by simp [h.killTimer, hi]) h.vitals

theorem killTimerFired_of_idle (ht : c.killTimer = false) : c.killTimerFired = c := by
  simp [killTimerFired, ht]

theorem killTimerFired_of_killTimer (ht : c.killTimer) :
    c.killTimerFired = ({ c with killTimer := false } : Client).kill := by
  simp [killTimerFired, ht]

/-- Where the process is not gone when it has been stopped, nothing else happens. -/
theorem leaves_stop_step (hasks : i.asksToStop) (hr : c.stop.isRunning) :
    Leaves c.stop (c.step i) := by
  cases i with
  | stop => exact .refl _
  | start program arguments folder root =>
    obtain ⟨c₁, hc₁, heq⟩ := exists_launch_eq_start program arguments folder root c
    show Leaves c.stop (c.start program arguments folder root)
    rw [heq]
    exact hc₁.trans (leaves_launch (isRunning_congr hc₁.process ▸ hr) arguments)
  | _ => cases hasks

theorem killTimer_step_of_asksToStop (hasks : i.asksToStop) :
    (c.step i).killTimer = c.stop.killTimer := by
  cases i with
  | stop => rfl
  | start program arguments folder root =>
    obtain ⟨c₁, hc₁, heq⟩ := exists_launch_eq_start program arguments folder root c
    show (c.start program arguments folder root).killTimer = c.stop.killTimer
    rw [heq, ← hc₁.killTimer, launch]
    split <;> rfl
  | _ => cases hasks

/-- A server that is asked to shut down is left alone, and the timer starts. -/
theorem leaves_step_of_asksToStop (hasks : i.asksToStop) (hp : c.process = .running)
    (hi : c.session.initialized) : Leaves { c with killTimer := true } (c.step i) := by
  have hstop := leaves_stop hp hi
  have hr : c.stop.isRunning := by simp [isRunning, hstop.process, hp]
  exact hstop.trans (leaves_stop_step hasks hr)

theorem timing_of_asksToStop (hasks : i.asksToStop) (hp : c.process = .running) :
    Timing c i (c.step i) := by
  have hr : c.isRunning := by simp [isRunning, hp]
  have hne : i ≠ .killTimerFired := by
    rintro rfl
    cases hasks
  cases hi : c.session.initialized with
  | true => exact .asked hasks hi (leaves_step_of_asksToStop hasks hp hi)
  | false =>
    have hstop := stop_of_not_initialized hr fun _ => hi
    rcases leaves_kill_or_ends (c := { c with stopping := true }) hr with h | ⟨htimer, hvitals⟩
    · rw [← hstop] at h
      have hleft := leaves_stop_step hasks (isRunning_congr h.process ▸ hr)
      exact .spared (hleft.process.trans (h.process.trans hp))
        (by simp [hleft.killTimer, h.killTimer, hne]) (hleft.vitals.trans h.vitals)
    · rw [← hstop] at htimer hvitals
      refine .ended ((killTimer_step_of_asksToStop hasks).trans htimer) fun heq => hvitals ?_
      -- what is counted only grows, so nothing was counted when the process was stopped
      have hgrows : c.stop.vitals <+: c.vitals := heq ▸ (log_stop_step hasks).filter _
      exact hgrows.eq_of_length_le ((log_stop c).filter _).length_le

theorem timing_step (hp : c.process = .running) (hends : ∀ text, i ≠ .processFailed true text) :
    Timing c i (c.step i) := by
  have htalks {c' : Client} (h : Talks c c') (hi : i ≠ .killTimerFired) : Timing c i c' :=
    h.leaves.timing hp hi
  cases i with
  | start => exact timing_of_asksToStop rfl hp
  | stop => exact timing_of_asksToStop rfl hp
  | request method params wantsError =>
    exact htalks (talks_request method params wantsError c) Input.noConfusion
  | notify method params => exact htalks (talks_post _ c) Input.noConfusion
  | send d => exact htalks (talks_send d c) Input.noConfusion
  | close uri => exact htalks (talks_closeDocument uri c) Input.noConfusion
  | processStarted =>
    have hstarted := leaves_processStarted c
    exact .spared hstarted.process (by simp [step, hstarted.killTimer]) hstarted.vitals
  | processFinished => exact .ended rfl (by simp [step, vitals_finished])
  | processFailed failedToStart text =>
    cases failedToStart with
    | true => exact absurd rfl (hends text)
    | false => exact (leaves_processFailed false text c).timing hp Input.noConfusion
  | killTimerFired =>
    have hr : c.isRunning := by simp [isRunning, hp]
    show Timing c .killTimerFired c.killTimerFired
    cases ht : c.killTimer with
    | false =>
      rw [killTimerFired_of_idle ht]
      exact .spared hp (by simp [ht]) rfl
    | true =>
      rw [killTimerFired_of_killTimer ht]
      rcases leaves_kill_or_ends (c := { c with killTimer := false }) hr with h | ⟨h, hvitals⟩
      · exact .spared (h.process.trans hp) (by simp [h.killTimer]) h.vitals
      · exact .ended h hvitals
  | exitsAtOnce b => exact .spared hp (by simp [step]) rfl
  | receive l bs => exact (leaves_receive l bs c).timing hp Input.noConfusion
  | message l m => exact htalks (talks_dispatch l m c) Input.noConfusion

/-- Only a process that runs is given time. -/
theorem killTimer_step_of_not_running (hp : c.process ≠ .running) (ht : c.killTimer = false) :
    (c.step i).killTimer = false := by
  have htalks {c' : Client} (h : Talks c c') : c'.killTimer = false := h.killTimer.trans ht
  have hstop : c.stop.killTimer = false := by
    cases hr : c.isRunning with
    | false =>
      have hnone : c.process = .notRunning := by simpa [isRunning] using hr
      simp [stop, hnone, beginSession, ht]
    | true =>
      rw [stop_of_not_initialized hr fun hrunning => absurd hrunning hp]
      exact killTimer_kill ht
  cases i with
  | start => exact (killTimer_step_of_asksToStop rfl).trans hstop
  | stop => exact hstop
  | request method params wantsError => exact htalks (talks_request method params wantsError c)
  | notify method params => exact htalks (talks_post _ c)
  | send d => exact htalks (talks_send d c)
  | close uri => exact htalks (talks_closeDocument uri c)
  | processStarted => exact (leaves_processStarted c).killTimer.trans ht
  | processFinished => rfl
  | processFailed failedToStart text =>
    have hfailed := (leaves_processFailed failedToStart text c).killTimer
    cases failedToStart <;> exact hfailed.trans ht
  | killTimerFired => exact (congrArg Client.killTimer (killTimerFired_of_idle ht)).trans ht
  | exitsAtOnce b => exact ht
  | receive l bs => exact (leaves_receive l bs c).killTimer.trans ht
  | message l m => exact htalks (talks_dispatch l m c)

/-! ## The timer in a run -/

theorem EndsTold.of_append {js : List Input} (h : EndsTold c (is ++ js)) : EndsTold c is :=
  fun before text after heq => h before text (after ++ js) (by simp [heq])

theorem EndsTold.after {js : List Input} (h : EndsTold c (is ++ js)) : EndsTold (c.run is) js := by
  intro before text after heq
  rw [← run_append]
  exact h (is ++ before) text after (by simp [heq])

theorem EndsTold.of_cons (h : EndsTold c (i :: is)) : EndsTold (c.step i) is :=
  fun before text after heq => h (i :: before) text after (by simp [heq])

theorem EndsTold.timing (h : EndsTold c (i :: is)) (hp : c.process = .running) :
    Timing c i (c.step i) :=
  timing_step hp fun text heq => h [] text is (by simp [heq]) hp

/-- As long as the process does not end and its time has not run out, the timer runs on. -/
theorem killTimer_run (ht : c.killTimer) (hp : c.process = .running) (hends : EndsTold c is)
    (hfired : .killTimerFired ∉ is) (hvitals : (c.run is).vitals = c.vitals) :
    (c.run is).killTimer ∧ (c.run is).process = .running := by
  induction is generalizing c with
  | nil => exact ⟨ht, hp⟩
  | cons i is ih =>
    have hne : i ≠ .killTimerFired := fun heq => hfired (heq ▸ List.mem_cons_self)
    have hsame : (c.step i).vitals = c.vitals := by
      have hgrows : (c.step i).vitals <+: c.vitals := hvitals ▸ vitals_prefix_run (c.step i) is
      exact hgrows.eq_of_length_le (vitals_prefix_step c i).length_le
    have hlater : (c.run (i :: is)).vitals = (c.step i).vitals := hvitals.trans hsame.symm
    have hafter := fun h => hfired (List.mem_cons_of_mem i h)
    cases hends.timing hp with
    | asked _ _ left =>
      exact ih left.killTimer (left.process.trans hp) hends.of_cons hafter hlater
    | spared running timer => exact ih (timer.2 ⟨ht, hne⟩) running hends.of_cons hafter hlater
    | ended _ vitals => exact absurd hsame vitals

/-- The timer runs where the process was asked to shut down and still has time. -/
theorem killTimer_of_shutsDown (hends : EndsTold c is) (h : ShutsDown c is) :
    (c.run is).killTimer := by
  obtain ⟨-, before, i, after, id, rfl, hasks, hfired, hvitals⟩ := h
  rw [List.append_cons] at hends hvitals ⊢
  have hleft : Leaves { c.run before with killTimer := true } (c.run (before ++ [i])) := by
    rw [run_concat]
    exact leaves_step_of_asksToStop hasks.asks hasks.running hasks.initialized
  rw [run_append] at hvitals ⊢
  exact (killTimer_run hleft.killTimer (hleft.process.trans hasks.running) hends.after hfired
    (hvitals.trans hleft.vitals.symm)).1

theorem shutsDown_of_killTimer (hnew : c.killTimer = false) (hends : EndsTold c is)
    (hwrites : ∀ js, (c.run js).writesFail = false) (ht : (c.run is).killTimer) :
    ShutsDown c is := by
  induction is using List.reverseRecOn with
  | nil => simp [run, hnew] at ht
  | append_singleton is i ih =>
    have hbefore := ih hends.of_append
    rw [run_concat] at ht
    by_cases hp : (c.run is).process = .running
    · have hlast : EndsTold (c.run is) [i] := hends.after
      cases hlast.timing hp with
      | asked asks initialized left =>
        have hasks := asksShutdown_of_asksToStop asks hp initialized (hwrites is)
        refine ⟨?_, is, i, [], _, rfl, hasks, List.not_mem_nil, ?_⟩
        · rw [run_concat]
          exact left.process.trans hp
        · rw [run_concat]
          exact left.vitals
      | spared running timer vitals =>
        obtain ⟨hold, hne⟩ := timer.1 ht
        obtain ⟨-, before, j, after, id, heq, hasks, hfired, hvitals⟩ := hbefore hold
        refine ⟨by rwa [run_concat], before, j, after ++ [i], id, by simp [heq], hasks, ?_, ?_⟩
        · simp [hfired, hne.symm]
        · rw [run_concat, vitals, hvitals]
      | ended timer => simp [timer] at ht
    · have hidle : (c.run is).killTimer = false := by
        rw [← Bool.not_eq_true]
        exact fun hold => hp (hbefore hold).1
      simp [killTimer_step_of_not_running hp hidle] at ht

end Legible.Client
