import Legible.Proofs.Client.Run
import Legible.Proofs.Client.Talk

/-!
# The wish that a process ends

Once a client has asked its process to stop, the end of the process is wanted, and neither the end
nor an error is told as something unexpected.  A run of a client says which process was asked
(`AskedToStop`): the one that was launched last and still runs.

A process that fails to start does not end, and where its end was wanted this wish is left over
(`LeftOver`): it then stands for the processes after it, until one of them ends.
`stopping_iff_askedToStop` says that there is nothing else for which the end of a process is wanted,
and what is told of ends and errors.

Each input takes one of the courses of `Course`, and everything is read off these.
-/

namespace Legible.Client

variable {c c' c'' : Client} {i : Input} {is : List Input}

/-! ## What is asked, and what is left over -/

/-- Whether an input asks the process to stop.  Before a server is started the one that runs is
stopped. -/
def Input.asksToStop : Input → Bool
  | .start .. | .stop => true
  | _ => false

/-- What the process of a client may report: it starts or fails to start while it is starting, and
it ends while there is one. -/
def Plausible (c : Client) : Input → Prop
  | .processStarted => c.process = .starting
  | .processFailed true _ => c.process = .starting
  | .processFinished => c.isRunning
  | _ => True

/-- Whether all reports of a run are plausible. -/
def PlausibleRun : Client → List Input → Prop
  | _, [] => True
  | c, i :: is => c.Plausible i ∧ PlausibleRun (c.step i) is

/-- Whether what an input of a run has brought about stands: no event of some kind came since. -/
def Stands (kind : Event → Bool) (P : Client → Input → Prop) (c : Client) (is : List Input) : Prop :=
  ∃ before i after, is = before ++ i :: after ∧ P (c.run before) i ∧
    (c.run before).vitals.countP kind = (c.run is).vitals.countP kind

/-- Whether the process that runs after a run was asked to stop: it was asked while it ran, and no
other was launched since. -/
def AskedToStop (c : Client) (is : List Input) : Prop :=
  (c.run is).isRunning ∧ Stands (·.isLaunch) (fun c i => c.isRunning ∧ i.asksToStop) c is

/-- Whether a process has failed to start whose end was wanted, and none has ended since. -/
def LeftOver (c : Client) (is : List Input) : Prop :=
  Stands (·.isEnd) (fun c i => c.stopping ∧ ∃ text, i = .processFailed true text) c is

/-! ## Steps that spare the process -/

/-- A step that spares the process: it runs on, or there is none as before, its end is wanted as
before, and no process begins or ends. -/
structure Spares (c c' : Client) : Prop where
  running : c'.isRunning = c.isRunning
  stopping : c'.stopping = c.stopping
  vitals : c'.vitals = c.vitals

theorem Spares.refl (c : Client) : Spares c c := ⟨rfl, rfl, rfl⟩

theorem Spares.trans (h : Spares c c') (h' : Spares c' c'') : Spares c c'' :=
  ⟨h'.running.trans h.running, h'.stopping.trans h.stopping, h'.vitals.trans h.vitals⟩

theorem Talks.spares (h : Talks c c') : Spares c c' :=
  ⟨by rw [isRunning, isRunning, h.process], h.stopping, h.vitals⟩

theorem spares_emit {e : Event} (he : e.isVital = false) (c : Client) : Spares c (c.emit e) :=
  (talks_emit he c).spares

theorem spares_startKillTimer (c : Client) : Spares c c.startKillTimer := by
  have htimer : Spares c { c with killTimer := true } := ⟨rfl, rfl, rfl⟩
  exact htimer.trans (spares_emit (e := .timerStarted graceTime) rfl _)

theorem spares_processStarted (h : c.process = .starting) : Spares c c.processStarted := by
  have hruns : Spares c { c with process := .running } := ⟨by simp [isRunning, h], rfl, rfl⟩
  exact (hruns.trans (spares_emit (e := .started) rfl _)).trans (talks_askInitialize _).spares

theorem spares_receive (l : Listener) (bs : Bytes) (c : Client) : Spares c (c.receive l bs).2 :=
  receive_induction (P := Spares c) (fun _ _ h => h.trans ⟨rfl, rfl, rfl⟩)
    (fun _ m h => h.trans (talks_dispatch l m _).spares) bs (.refl c)

/-! ## The courses of a step -/

/-- What becomes of the process in a step. -/
inductive Course (c : Client) (i : Input) (c' : Client) : Prop
  /-- It is spared, or there is none. -/
  | spared (h : Spares c c') (hasks : c.isRunning → i.asksToStop = false)
  /-- It is asked to stop and runs on. -/
  | asked (hasks : i.asksToStop) (before : c.isRunning) (running : c'.isRunning)
    (stopping : c'.stopping) (vitals : c'.vitals = c.vitals)
  /-- It ends. -/
  | ended (running : c'.isRunning = false) (stopping : c'.stopping = false)
    (vitals : c'.vitals = c.vitals ++ [.ended (c.stopping || i.asksToStop)])
  /-- It fails to start. -/
  | failed (text : Text) (hfails : i = .processFailed true text) (running : c'.isRunning = false)
    (stopping : c'.stopping = c.stopping) (vitals : c'.vitals = c.vitals)
  /-- One is launched where there was none. -/
  | launched (before : c.isRunning = false) (stopping : c'.stopping = c.stopping)
    (program : Text) (arguments : List Text)
    (vitals : c'.vitals = c.vitals ++ [.launched program arguments])
  /-- It is asked to stop and ends at once, and another is launched. -/
  | relaunched (hasks : i.asksToStop) (stopping : c'.stopping = false)
    (program : Text) (arguments : List Text)
    (vitals : c'.vitals = c.vitals ++ [.ended true, .launched program arguments])

theorem vitals_finished (c : Client) : c.finished.vitals = c.vitals ++ [.ended c.stopping] := by
  unfold finished
  rw [vitals_emit, vitals_emit]
  have htimer := vitals_emit .timerStopped
    { c with process := .notRunning, killTimer := false, stopping := false }
  rw [show ∀ c : Client, c.beginSession.vitals = c.vitals from fun _ => rfl, htimer]
  simp [Event.isVital, Event.isLaunch, Event.isEnd, vitals]

/-- A process that is ended by force runs on for a while, unless it ends at once. -/
theorem kill_cases (hr : c.isRunning) : Spares c c.kill ∨
    (c.kill.isRunning = false ∧ c.kill.stopping = false ∧
      c.kill.vitals = c.vitals ++ [.ended c.stopping]) := by
  have hterminated : Spares c (c.emit .terminated) := spares_emit rfl c
  cases he : c.exitsAtOnce with
  | true =>
    rw [kill_of_exitsAtOnce hr he]
    refine .inr ⟨rfl, rfl, ?_⟩
    rw [vitals_finished, hterminated.vitals]
    rfl
  | false =>
    rw [kill_of_lasting hr he]
    exact .inl (hterminated.trans (spares_emit rfl _))

/-- What stopping does to the process: nothing where there is none, else it is asked to stop, and may
end at once. -/
theorem stop_cases (c : Client) :
    (c.isRunning = false ∧ Spares c c.stop) ∨
    (c.isRunning ∧ c.stop.isRunning ∧ c.stop.stopping ∧ c.stop.vitals = c.vitals) ∨
    (c.isRunning ∧ c.stop.isRunning = false ∧ c.stop.stopping = false ∧
      c.stop.vitals = c.vitals ++ [.ended true]) := by
  have hkilled (hr : c.isRunning) (heq : c.stop = ({ c with stopping := true } : Client).kill) :
      (c.isRunning ∧ c.stop.isRunning ∧ c.stop.stopping ∧ c.stop.vitals = c.vitals) ∨
      (c.isRunning ∧ c.stop.isRunning = false ∧ c.stop.stopping = false ∧
        c.stop.vitals = c.vitals ++ [.ended true]) := by
    rw [heq]
    rcases kill_cases (c := { c with stopping := true }) hr with h | h
    · exact .inl ⟨hr, h.running.trans hr, h.stopping, h.vitals⟩
    · exact .inr ⟨hr, h⟩
  cases hp : c.process with
  | notRunning =>
    have heq : c.stop = c.beginSession := by rw [stop, hp]
    rw [heq]
    exact .inl ⟨by simp [isRunning, hp], rfl, rfl, rfl⟩
  | starting => exact .inr (hkilled (by simp [isRunning, hp]) (by rw [stop, hp]))
  | running =>
    have hr : c.isRunning := by simp [isRunning, hp]
    cases hi : c.session.initialized with
    | false => exact .inr (hkilled hr (by simp [stop, hp, hi]))
    | true =>
      have heq : c.stop = ({ c with stopping := true } : Client).askShutdown.startKillTimer := by
        simp [stop, hp, hi]
      have hspared := (talks_askShutdown { c with stopping := true }).spares.trans
        (spares_startKillTimer _)
      rw [heq]
      exact .inr (.inl ⟨hr, hspared.running.trans hr, hspared.stopping, hspared.vitals⟩)

theorem course_stop (c : Client) : Course c .stop c.stop := by
  rcases stop_cases c with ⟨hr, hspared⟩ | ⟨hr, hrun, hstop, hvitals⟩ | ⟨hr, hrun, hstop, hvitals⟩
  · exact .spared hspared fun hrun => absurd (hr.symm.trans hrun) Bool.noConfusion
  · exact .asked rfl hr hrun hstop hvitals
  · exact .ended hrun hstop (by rw [hvitals, Input.asksToStop, Bool.or_true])

/-- A server that is started is launched unless one runs. -/
theorem launch_cases (c : Client) (arguments : List Text) :
    (c.isRunning ∧ Spares c (c.launch arguments)) ∨
      (c.isRunning = false ∧ (c.launch arguments).isRunning ∧
        (c.launch arguments).stopping = c.stopping ∧
        (c.launch arguments).vitals = c.vitals ++ [.launched c.program arguments]) := by
  cases hr : c.isRunning with
  | true =>
    rw [launch, if_pos hr]
    exact .inl ⟨rfl, spares_emit rfl c⟩
  | false =>
    rw [launch_eq hr]
    exact .inr ⟨rfl, rfl, rfl, vitals_emit (.launched c.program arguments) _⟩

theorem course_start (program : Text) (arguments : List Text) (folder : Option Text) (root : Text)
    (c : Client) : Course c (.start program arguments folder root)
      (c.start program arguments folder root) := by
  obtain ⟨c₁, hc₁, heq⟩ : ∃ c₁, Spares c.stop c₁ ∧
      c.start program arguments folder root = c₁.launch arguments := by
    have hbegun : Spares c.stop { c.stop with
        program := Text.strip program
        root := Text.strip root
        serverName := Path.baseName (Text.strip program) }.beginSession := ⟨rfl, rfl, rfl⟩
    cases folder with
    | none => exact ⟨_, hbegun, rfl⟩
    | some path => exact ⟨_, hbegun.trans (spares_emit rfl _), rfl⟩
  rw [heq]
  have hlaunch := launch_cases c₁ arguments
  rw [hc₁.running, hc₁.vitals, hc₁.stopping] at hlaunch
  rcases hlaunch with ⟨hrun₁, hspared⟩ | ⟨hrun₁, hlaunched, hstop₁, hvitals₁⟩
  · -- the process that was asked to stop still runs, so the launch is ignored
    have hafter := hc₁.trans hspared
    rcases stop_cases c with ⟨hr, h⟩ | ⟨hr, hrun, hstop, hvitals⟩ | ⟨-, hrun, -⟩
    · exact absurd ((h.running.trans hr).symm.trans hrun₁) Bool.noConfusion
    · exact .asked rfl hr (hafter.running.trans hrun) (hafter.stopping.trans hstop)
        (hafter.vitals.trans hvitals)
    · exact absurd (hrun.symm.trans hrun₁) Bool.noConfusion
  · rcases stop_cases c with ⟨hr, h⟩ | ⟨-, hrun, -⟩ | ⟨-, -, hstop, hvitals⟩
    · exact .launched hr (hstop₁.trans h.stopping) _ _
        (hvitals₁.trans (congrArg (· ++ _) h.vitals))
    · exact absurd (hrun₁.symm.trans hrun) Bool.noConfusion
    · exact .relaunched rfl (hstop₁.trans hstop) _ _
        (hvitals₁.trans (by rw [hvitals, List.append_assoc]; rfl))

theorem course_processFailed (failedToStart : Bool) (text : Text) (c : Client) :
    Course c (.processFailed failedToStart text) (c.processFailed failedToStart text) := by
  have hsaid (c' : Client) : Spares c' (if c'.stopping && !failedToStart then c'
      else c'.emit (.status ("LSP process error: ".toList ++ text))) := by
    split
    · exact .refl c'
    · exact spares_emit rfl c'
  unfold processFailed
  cases failedToStart with
  | false =>
    have herror : Spares c { c with errorText := text } := ⟨rfl, rfl, rfl⟩
    exact .spared (herror.trans (hsaid _)) fun _ => rfl
  | true =>
    have hfailed := hsaid { c with errorText := text, process := .notRunning }
    exact .failed text rfl hfailed.running hfailed.stopping hfailed.vitals

theorem course_killTimerFired (c : Client) : Course c .killTimerFired c.killTimerFired := by
  unfold killTimerFired
  split
  · cases hr : c.isRunning with
    | false =>
      rw [kill_of_not_isRunning (c := { c with killTimer := false }) hr]
      exact .spared ⟨rfl, rfl, rfl⟩ fun _ => rfl
    | true =>
      rcases kill_cases (c := { c with killTimer := false }) hr with h | ⟨hrun, hstop, hvitals⟩
      · exact .spared ⟨h.running, h.stopping, h.vitals⟩ fun _ => rfl
      · exact .ended hrun hstop (hvitals.trans (by simp [Input.asksToStop, Client.vitals]))
  · exact .spared (.refl c) fun _ => rfl

theorem course_step (hp : c.Plausible i) : Course c i (c.step i) := by
  cases i with
  | start program arguments folder root => exact course_start program arguments folder root c
  | stop => exact course_stop c
  | request method params wantsError =>
    exact .spared (talks_request method params wantsError c).spares fun _ => rfl
  | notify method params => exact .spared (talks_post _ c).spares fun _ => rfl
  | send d => exact .spared (talks_send d c).spares fun _ => rfl
  | close uri => exact .spared (talks_closeDocument uri c).spares fun _ => rfl
  | processStarted => exact .spared (spares_processStarted hp) fun _ => rfl
  | processFinished =>
    exact .ended rfl rfl ((vitals_finished c).trans (by simp [Input.asksToStop]))
  | processFailed failedToStart text => exact course_processFailed failedToStart text c
  | killTimerFired => exact course_killTimerFired c
  | exitsAtOnce b => exact .spared ⟨rfl, rfl, rfl⟩ fun _ => rfl
  | receive l bs => exact .spared (spares_receive l bs c) fun _ => rfl
  | message l m => exact .spared (talks_dispatch l m c).spares fun _ => rfl

/-- The ends that a step tells are as wanted as the end of the process was, or asked for by the
step. -/
theorem Course.wanted (h : Course c i c') : ∃ es, c'.vitals = c.vitals ++ es ∧
    ∀ wanted, .ended wanted ∈ es → wanted = (c.stopping || i.asksToStop) := by
  have hsame (hvitals : c'.vitals = c.vitals) : ∃ es, c'.vitals = c.vitals ++ es ∧
      ∀ wanted, .ended wanted ∈ es → wanted = (c.stopping || i.asksToStop) :=
    ⟨[], by rw [hvitals, List.append_nil], fun _ hmem => absurd hmem List.not_mem_nil⟩
  cases h with
  | spared hspares _ => exact hsame hspares.vitals
  | asked _ _ _ _ hvitals => exact hsame hvitals
  | failed _ _ _ _ hvitals => exact hsame hvitals
  | ended _ _ hvitals => exact ⟨_, hvitals, by simp⟩
  | launched _ _ _ _ hvitals => exact ⟨_, hvitals, by simp⟩
  | relaunched hasks _ _ _ hvitals => exact ⟨_, hvitals, by simp [hasks]⟩

/-! ## Runs -/

theorem plausibleRun_append {js : List Input} :
    PlausibleRun c (is ++ js) ↔ PlausibleRun c is ∧ PlausibleRun (c.run is) js := by
  induction is generalizing c with
  | nil => simp [PlausibleRun, run]
  | cons i is ih =>
    simp only [List.cons_append, PlausibleRun, ih, and_assoc]
    rfl

theorem run_append (c : Client) (is js : List Input) : c.run (is ++ js) = (c.run is).run js :=
  List.foldl_append ..

theorem run_concat (c : Client) (is : List Input) (i : Input) :
    c.run (is ++ [i]) = (c.run is).step i := run_append c is [i]

/-- What is counted in the log grows. -/
theorem vitals_run (h : PlausibleRun c is) : ∃ es, (c.run is).vitals = c.vitals ++ es := by
  induction is generalizing c with
  | nil => exact ⟨[], (List.append_nil _).symm⟩
  | cons i is ih =>
    obtain ⟨es, hes, -⟩ := (course_step h.1).wanted
    obtain ⟨fs, hfs⟩ := ih h.2
    exact ⟨es ++ fs, by rw [← List.append_assoc, ← hes]; exact hfs⟩

/-- What stands after another input stood before, or is brought about by it, and no event of the kind
comes with the input. -/
theorem stands_concat {kind : Event → Bool} {P : Client → Input → Prop}
    (h : PlausibleRun c (is ++ [i])) :
    Stands kind P c (is ++ [i]) ↔
      (c.run is).vitals.countP kind = ((c.run is).step i).vitals.countP kind ∧
        (Stands kind P c is ∨ P (c.run is) i) := by
  obtain ⟨his, hi, -⟩ := plausibleRun_append.1 h
  obtain ⟨es, hes, -⟩ := (course_step hi).wanted
  unfold Stands
  rw [run_concat]
  constructor
  · rintro ⟨before, j, after, heq, hP, hcount⟩
    rcases List.eq_nil_or_concat after with rfl | ⟨after, k, rfl⟩
    · obtain ⟨rfl, hij⟩ := List.append_inj' heq rfl
      obtain rfl := List.singleton_inj.1 hij
      exact ⟨hcount, .inr hP⟩
    · rw [List.concat_eq_append, ← List.cons_append, ← List.append_assoc] at heq
      obtain ⟨rfl, -⟩ := List.append_inj' heq rfl
      obtain ⟨fs, hfs⟩ := vitals_run (plausibleRun_append.1 his).2
      rw [← run_append] at hfs
      -- nothing is uncounted, so where the outer counts agree the one in between does
      have hmid : (c.run before).vitals.countP kind =
          (c.run (before ++ j :: after)).vitals.countP kind := by
        rw [hes, hfs] at hcount
        rw [hfs]
        simp only [List.countP_append] at hcount ⊢
        omega
      exact ⟨hmid.symm.trans hcount, .inl ⟨before, j, after, rfl, hP, hmid⟩⟩
  · rintro ⟨hcount, ⟨before, j, after, rfl, hP, hbefore⟩ | hP⟩
    · exact ⟨before, j, after ++ [i], by simp, hP, hbefore.trans hcount⟩
    · exact ⟨is, i, [], rfl, hP, hcount⟩

theorem stopping_iff_of_plausible {is : List Input} (hnew : c.stopping = false)
    (h : PlausibleRun c is) : (c.run is).stopping ↔ AskedToStop c is ∨ LeftOver c is := by
  have hnil {kind : Event → Bool} {P : Client → Input → Prop} : ¬ Stands kind P c [] :=
    fun ⟨_, _, _, heq, _⟩ => by simp at heq
  induction is using List.reverseRecOn with
  | nil =>
    refine iff_of_false (by simp [run, hnew]) ?_
    rintro (⟨-, hstands⟩ | hstands) <;> exact hnil hstands
  | append_singleton is i ih =>
    obtain ⟨his, hi, -⟩ := plausibleRun_append.1 h
    have hbefore := ih his
    unfold AskedToStop LeftOver at hbefore ⊢
    rw [stands_concat h, stands_concat h, run_concat]
    cases course_step hi with
    | spared hspares hasks =>
      rw [hspares.running, hspares.stopping, hspares.vitals]
      grind
    | asked hasks before running stopping vitals =>
      rw [running, stopping, vitals]
      grind
    | ended running stopping vitals =>
      rw [running, stopping, vitals]
      simp [Event.isEnd]
    | failed text hfails running stopping vitals =>
      rw [running, stopping, vitals]
      grind
    | launched before stopping program arguments vitals =>
      -- the launch ends what was asked before it, and leaves what was left over
      have hends : ((c.run is).vitals ++ [Event.launched program arguments]).countP (·.isEnd) =
          (c.run is).vitals.countP (·.isEnd) := by
        rw [List.countP_append]
        rfl
      have hlaunches : (c.run is).vitals.countP (·.isLaunch) ≠
          ((c.run is).vitals ++ [Event.launched program arguments]).countP (·.isLaunch) := by
        rw [List.countP_append]
        exact Nat.ne_of_lt (Nat.lt_succ_self _)
      rw [before] at hbefore
      rw [stopping, vitals, hends]
      grind
    | relaunched hasks stopping program arguments vitals =>
      rw [stopping, vitals]
      simp [Event.isEnd, Event.isLaunch]

/-! ## What is told -/

theorem log_processFailed (failedToStart : Bool) (text : Text) (c : Client) :
    (c.processFailed failedToStart text).log = c.log ++
      if c.stopping && !failedToStart then []
      else [.status ("LSP process error: ".toList ++ text)] := by
  cases failedToStart <;> cases hs : c.stopping <;> simp [processFailed, hs, emit]

/-- After every run the end of the process is wanted just where the process that runs was asked to
stop, or the wish is left over from one that failed to start.  An end is told as wanted for these
two reasons or because the step itself asks for it, and the error of a process is kept quiet for
these two reasons only, unless it is a failure to start. -/
theorem stopping_iff_askedToStop (hnew : c.stopping = false) (h : PlausibleRun c is) :
    ((c.run is).stopping ↔ AskedToStop c is ∨ LeftOver c is) ∧
      (∀ i, (c.run is).Plausible i → ∃ es, ((c.run is).step i).vitals = (c.run is).vitals ++ es ∧
        ∀ wanted : Bool, .ended wanted ∈ es →
          (wanted ↔ AskedToStop c is ∨ LeftOver c is ∨ i.asksToStop)) ∧
      ∀ failedToStart text,
        ((AskedToStop c is ∨ LeftOver c is) ∧ failedToStart = false →
          ((c.run is).step (.processFailed failedToStart text)).log = (c.run is).log) ∧
        (¬ (AskedToStop c is ∨ LeftOver c is) ∨ failedToStart →
          ((c.run is).step (.processFailed failedToStart text)).log =
            (c.run is).log ++ [.status ("LSP process error: ".toList ++ text)]) := by
  have hwanted := stopping_iff_of_plausible hnew h
  refine ⟨hwanted, fun i hi => ?_, fun failedToStart text => ?_⟩
  · obtain ⟨es, hvitals, htold⟩ := (course_step hi).wanted
    refine ⟨es, hvitals, fun wanted hmem => ?_⟩
    rw [htold wanted hmem, Bool.or_eq_true, hwanted, or_assoc]
  · have hlog := log_processFailed failedToStart text (c.run is)
    rw [← hwanted]
    constructor
    · rintro ⟨hstop, rfl⟩
      exact hlog.trans (by simp [hstop])
    · rintro (hstop | rfl)
      · exact hlog.trans (by simp [hstop])
      · exact hlog.trans (by simp)

/-- A server is stopped while it starts and fails to start, and another is started. -/
def startedAfterFailure : List Input :=
  let start : Input := .start "p".toList [] none []
  [start, .stop, .processFailed true "No such file".toList, start, .processStarted]

theorem plausibleRun_startedAfterFailure :
    PlausibleRun { processId := 1 } startedAfterFailure :=
  ⟨trivial, trivial, rfl, trivial, rfl, trivial⟩

theorem stopping_iff_askedToStop_startedAfterFailure :
    (AskedToStop { processId := 1 } startedAfterFailure ∨
      LeftOver { processId := 1 } startedAfterFailure) ∧
    ¬ (AskedToStop { processId := 1 } (startedAfterFailure ++ [.processFinished]) ∨
      LeftOver { processId := 1 } (startedAfterFailure ++ [.processFinished])) := by
  have hfinished : PlausibleRun { processId := 1 } (startedAfterFailure ++ [.processFinished]) :=
    plausibleRun_append.2 ⟨plausibleRun_startedAfterFailure, rfl, trivial⟩
  constructor
  · exact (stopping_iff_askedToStop rfl plausibleRun_startedAfterFailure).1.1 rfl
  · exact fun hwanted => Bool.noConfusion ((stopping_iff_askedToStop rfl hfinished).1.2 hwanted)

/-- The end of the second process is wanted although nobody asked it to stop: that it crashes is not
told, and its end is told as wanted. -/
theorem stopping_of_startedAfterFailure :
    let c := run { processId := 1 } startedAfterFailure
    c.stopping = true ∧ ¬ AskedToStop { processId := 1 } startedAfterFailure ∧
      (c.step (.processFailed false "boom".toList)).log = c.log ∧
      (c.step .processFinished).vitals = c.vitals ++ [.ended true] := by
  refine ⟨rfl, fun ⟨_, hstands⟩ => ?_, rfl, vitals_finished _⟩
  have hlaunched : PlausibleRun { processId := 1 } (startedAfterFailure.take 3 ++
      [.start "p".toList [] none []]) := ⟨trivial, trivial, rfl, trivial, trivial⟩
  have hstarted : PlausibleRun { processId := 1 } (startedAfterFailure.take 4 ++
      [.processStarted]) := plausibleRun_startedAfterFailure
  rcases ((stands_concat hstarted).1 hstands).2 with hbefore | ⟨-, hasks⟩
  · exact absurd ((stands_concat hlaunched).1 hbefore).1 (by decide)
  · exact Bool.noConfusion hasks

end Legible.Client
