import Legible.Proofs.Client.Requests
import Legible.Proofs.Client.Shutdown

/-!
# Letting a server go

A server that was asked to shut down is let go with `exit`.  This is written exactly where the
answer to such a request is heard, in the session in which the request was made (`HearsShutdown`):
an exit is what becomes of the answer to a request with this purpose, and such a request that was
made since the session began was made by a stop (`exists_stop_of_asked`).  Together with what is
known of the timer this is `run_shutsDown`.
-/

namespace Legible.Client

variable {c : Client} {i : Input} {is : List Input} {id : Nat}

/-- Whether after a run an input has the client hear, while there is a process, the answer to a
request to shut down, be it a result or an error.  The request was written when the server was to
stop, and no session has begun since. -/
def HearsShutdown (c : Client) (is : List Input) (i : Input) : Prop :=
  ∃ earlier message a later,
    (c.run is).happenings i = earlier ++ .heard true message (some a) :: later ∧
    a.IsIn message ∧ a.request = ⟨"shutdown".toList, .shutdown⟩ ∧
    ∃ before after, is = before ++ .stop :: after ∧ AsksShutdown (c.run before) .stop a.id ∧
      ∀ x ∈ history (c.run (before ++ [.stop])) after ++ earlier, x.isBegan = false

/-! ## What happens at an input -/

/-- Whether a message of the server is handled. -/
def Happening.isHeard : Happening → Bool
  | .heard .. => true
  | _ => false

theorem Happening.isBegan_of_isHeard {x : Happening} (hx : x.isHeard) : x.isBegan = false := by
  cases x with
  | heard => rfl
  | _ => cases hx

theorem isHeard_of_mem_hearsAll {l : Listener} {messages : List Frame.Incoming} {x : Happening}
    (hx : x ∈ hearsAll l messages c) : x.isHeard := by
  induction messages generalizing c with
  | nil => cases hx
  | cons m rest ih =>
    unfold hearsAll at hx
    split at hx
    · cases hx
    · rcases List.mem_cons.1 hx with rfl | hx
      · rfl
      · split at hx
        · exact ih hx
        · cases hx

theorem whenKilled_cases (c : Client) : c.whenKilled = [] ∨ c.whenKilled = [.began true] := by
  unfold whenKilled
  split <;> simp

theorem whenStopped_cases (c : Client) :
    c.whenStopped = [] ∨ (∃ ended, c.whenStopped = [.began ended]) ∨
      (c.process = .running ∧ c.session.initialized ∧
        c.whenStopped = [.asked c.session.nextId ⟨"shutdown".toList, .shutdown⟩]) := by
  have hkilled : c.whenKilled = [] ∨ ∃ ended, c.whenKilled = [.began ended] :=
    c.whenKilled_cases.imp_right fun h => ⟨true, h⟩
  unfold whenStopped
  split
  · exact .inr (.inl ⟨false, rfl⟩)
  · exact hkilled.imp_right .inl
  · rename_i hp
    split
    · rename_i hi
      exact .inr (.inr ⟨hp, hi, rfl⟩)
    · exact hkilled.imp_right .inl

/-- At an input messages are heard, if anything, or one request is made, or a session begins at
last.  Among the requests that are made without a session beginning, only that of a stop has the
purpose to shut the server down. -/
theorem happenings_cases (c : Client) (i : Input) :
    (∀ x ∈ c.happenings i, x.isHeard) ∨
    (∃ r, c.happenings i = [.asked c.session.nextId r] ∧ (r.purpose = .shutdown → i = .stop ∧
      c.process = .running ∧ c.session.initialized ∧ r = ⟨"shutdown".toList, .shutdown⟩)) ∨
    ∃ xs ended, c.happenings i = xs ++ [.began ended] ∧ ∀ x ∈ xs, x.isHeard = false := by
  cases i with
  | start =>
    refine .inr (.inr ⟨c.whenStopped, false, rfl, ?_⟩)
    rcases c.whenStopped_cases with h | ⟨ended, h⟩ | ⟨-, -, h⟩ <;> simp [h, Happening.isHeard]
  | stop =>
    rcases c.whenStopped_cases with h | ⟨ended, h⟩ | ⟨hp, hi, h⟩
    · exact .inl (by simp [happenings, h])
    · exact .inr (.inr ⟨[], ended, h, by simp⟩)
    · exact .inr (.inl ⟨_, h, fun _ => ⟨rfl, hp, hi, rfl⟩⟩)
  | request => exact .inr (.inl ⟨_, rfl, fun h => by cases h⟩)
  | processStarted => exact .inr (.inl ⟨_, rfl, fun h => by cases h⟩)
  | processFinished => exact .inr (.inr ⟨[], true, rfl, by simp⟩)
  | killTimerFired =>
    simp only [happenings]
    split
    · rcases c.whenKilled_cases with h | h
      · exact .inl (by simp [h])
      · exact .inr (.inr ⟨[], true, h, by simp⟩)
    · exact .inl (by simp)
  | receive l bs =>
    refine .inl fun x hx => ?_
    rw [happenings] at hx
    split at hx
    · cases hx
    · exact isHeard_of_mem_hearsAll hx
  | _ => exact .inl (by simp [happenings, hears, Happening.isHeard])

/-! ## The request that is answered -/

/-- A request to shut down that was made in the session that lasts was made, and written, when the
server was to stop. -/
theorem exists_stop_of_asked (hwrites : ∀ js, (c.run js).writesFail = false) {r : Request}
    (hr : r.purpose = .shutdown) (h : .asked id r ∈ since (history c is)) :
    r = ⟨"shutdown".toList, .shutdown⟩ ∧ ∃ before after, is = before ++ .stop :: after ∧
      AsksShutdown (c.run before) .stop id ∧
      ∀ x ∈ history (c.run (before ++ [.stop])) after, x.isBegan = false := by
  induction is using List.reverseRecOn with
  | nil => simp [history, since] at h
  | append_singleton is i ih =>
    -- what was made before the last input, in a session that this input lets last
    have hearlier (hnone : ∀ x ∈ (c.run is).happenings i, x.isBegan = false)
        (hold : .asked id r ∈ since (history c is)) : r = ⟨"shutdown".toList, .shutdown⟩ ∧
          ∃ before after, is ++ [i] = before ++ .stop :: after ∧
            AsksShutdown (c.run before) .stop id ∧
            ∀ x ∈ history (c.run (before ++ [.stop])) after, x.isBegan = false := by
      obtain ⟨hrequest, before, after, heq, hasks, hlasts⟩ := ih hold
      refine ⟨hrequest, before, after ++ [i], by simp [heq], hasks, fun x hx => ?_⟩
      rw [history_concat, ← run_append, List.append_assoc, List.singleton_append, ← heq] at hx
      exact (List.mem_append.1 hx).elim (hlasts x) (hnone x)
    rw [history_concat] at h
    rcases happenings_cases (c.run is) i with hheard | ⟨q, hasked, hstop⟩ | ⟨xs, ended, hbegan, -⟩
    · have hnone (x : Happening) (hx : x ∈ (c.run is).happenings i) : x.isBegan = false :=
        Happening.isBegan_of_isHeard (hheard x hx)
      rw [since_append hnone] at h
      rcases List.mem_append.1 h with hold | hnew
      · exact hearlier hnone hold
      · exact Bool.noConfusion (hheard _ hnew)
    · have hnone : ∀ x ∈ (c.run is).happenings i, x.isBegan = false := by
        simp [hasked, Happening.isBegan]
      rw [since_append hnone] at h
      rcases List.mem_append.1 h with hold | hnew
      · exact hearlier hnone hold
      · rw [hasked] at hnew
        obtain ⟨rfl, rfl⟩ := Happening.asked.inj (List.mem_singleton.1 hnew)
        obtain ⟨rfl, hp, hi, hrequest⟩ := hstop hr
        refine ⟨hrequest, is, [], rfl, ?_, by simp [history]⟩
        exact asksShutdown_of_asksToStop rfl hp hi (hwrites is)
    · rw [hbegan, ← List.append_assoc, since_concat_began] at h
      cases h

/-! ## The exit -/

theorem exit_mem_outcomes {x : Happening} : .wrote .exit ∈ x.outcomes ↔
    ∃ message a, x = .heard true message (some a) ∧ a.request.purpose = .shutdown := by
  constructor
  · intro h
    cases x with
    | began ended => cases ended <;> simp [Happening.outcomes] at h
    | asked => simp [Happening.outcomes] at h
    | heard running message answer =>
      cases answer with
      | none =>
        simp only [Happening.outcomes] at h
        split at h
        · split at h <;> simp at h
        · simp at h
      | some a =>
        refine ⟨message, a, ?_⟩
        obtain ⟨id, ⟨method, purpose⟩, failed, value⟩ := a
        cases purpose with
        | initialization => cases failed <;> simp [Happening.outcomes, Answer.outcomes] at h
        | shutdown => cases running <;> simp [Happening.outcomes, Answer.outcomes] at h ⊢
        | caller wantsError =>
          cases failed <;> cases wantsError <;> simp [Happening.outcomes, Answer.outcomes] at h
  · rintro ⟨message, a, rfl, hpurpose⟩
    simp [Happening.outcomes, Answer.outcomes, hpurpose]

/-- What is shown of an input is what becomes of what it makes happen. -/
theorem filter_logged {b : Ledger} {shown : List Event} (h : Booked b shown c) (i : Input) :
    (c.logged i).filter (·.isOutcome) = (c.happenings i).flatMap (·.outcomes) := by
  have hlog := ((accounted_step c i).booked h).log
  rw [log_eq_append_logged, List.filter_append, h.log] at hlog
  exact List.append_cancel_left hlog

theorem exit_mem_logged {b : Ledger} {shown : List Event} (h : Booked b shown c) (i : Input) :
    .wrote .exit ∈ c.logged i ↔ ∃ message a, .heard true message (some a) ∈ c.happenings i ∧
      a.request.purpose = .shutdown := by
  have hfilter : .wrote .exit ∈ c.logged i ↔ .wrote .exit ∈ (c.logged i).filter (·.isOutcome) := by
    simp [Event.isOutcome, Outgoing.isOutcome]
  rw [hfilter, filter_logged h, List.mem_flatMap]
  constructor
  · rintro ⟨x, hx, hexit⟩
    obtain ⟨message, a, rfl, hpurpose⟩ := exit_mem_outcomes.1 hexit
    exact ⟨message, a, hx, hpurpose⟩
  · rintro ⟨message, a, hx, hpurpose⟩
    exact ⟨_, hx, exit_mem_outcomes.2 ⟨message, a, rfl, hpurpose⟩⟩

theorem booked_new (processId : Nat) : Booked {} [] { processId } :=
  ⟨rfl, fun _ hm => absurd hm List.not_mem_nil, rfl, rfl⟩

theorem writesFail_run (processId : Nat) (is : List Input) :
    (run { processId } is).writesFail = false :=
  ((accounted_run { processId } is).booked (booked_new processId)).writable

theorem matched_history (processId : Nat) (is : List Input) :
    Matched (history { processId } is) :=
  matched_of_driven ((accounted_run { processId } is).driven (booked_new processId))

/-- The exit is written just where the answer to a request to shut down is heard. -/
theorem exit_mem_logged_iff_hearsShutdown (processId : Nat) (is : List Input) (i : Input) :
    .wrote .exit ∈ (run { processId } is).logged i ↔ HearsShutdown { processId } is i := by
  rw [exit_mem_logged ((accounted_run { processId } is).booked (booked_new processId))]
  constructor
  · rintro ⟨message, a, hmem, hpurpose⟩
    obtain ⟨earlier, later, hsplit⟩ := List.append_of_mem hmem
    have hhistory : history { processId } (is ++ [i]) =
        (history { processId } is ++ earlier) ++ .heard true message (some a) :: later := by
      rw [history_concat, hsplit, List.append_assoc]
    obtain ⟨hin, hasked, -⟩ := ((matched_history processId (is ++ [i])).heard hhistory a).1 rfl
    -- where a message is heard only messages are, so the session lasts up to the answer
    have hheard : ∀ x ∈ (run { processId } is).happenings i, x.isHeard := by
      rcases happenings_cases (run { processId } is) i with h | ⟨r, h, -⟩ | ⟨xs, ended, h, hnot⟩
      · exact h
      · simp [h] at hmem
      · rw [h] at hmem
        rcases List.mem_append.1 hmem with hxs | hlast
        · exact Bool.noConfusion (hnot _ hxs)
        · simp at hlast
    have hearlier (x : Happening) (hx : x ∈ earlier) : x.isHeard :=
      hheard x (by simp [hsplit, hx])
    have hnone (x : Happening) (hx : x ∈ earlier) : x.isBegan = false :=
      Happening.isBegan_of_isHeard (hearlier x hx)
    rw [since_append hnone] at hasked
    rcases List.mem_append.1 hasked with hasked | hasked
    · obtain ⟨hrequest, before, after, heq, hasks, hlasts⟩ :=
        exists_stop_of_asked (writesFail_run processId) hpurpose hasked
      refine ⟨earlier, message, a, later, hsplit, hin, hrequest, before, after, heq, hasks, ?_⟩
      exact fun x hx => (List.mem_append.1 hx).elim (hlasts x) (hnone x)
    · exact Bool.noConfusion (hearlier _ hasked)
  · rintro ⟨earlier, message, a, later, hsplit, -, hrequest, -⟩
    exact ⟨message, a, by simp [hsplit], by rw [hrequest]⟩

/-- After every run in which the end of every process that has started is told, the timer runs just
where the process that runs was asked to shut down and still has time.  When the time runs out this
process is asked to end; where there is none, nothing is done.  The exit is written just where an
answer, be it a result or an error, is heard to a request to shut down that was made in the same
session. -/
theorem run_shutsDown (processId : Nat) {is : List Input} (hends : EndsTold { processId } is) :
    let c₀ : Client := { processId }
    let c := c₀.run is
    (c.killTimer ↔ ShutsDown c₀ is) ∧
    (ShutsDown c₀ is → .terminated ∈ c.logged .killTimerFired) ∧
    (¬ ShutsDown c₀ is → c.step .killTimerFired = c) ∧
    ∀ i, .wrote .exit ∈ c.logged i ↔ HearsShutdown c₀ is i := by
  intro c₀ c
  have htimer : c.killTimer ↔ ShutsDown c₀ is :=
    ⟨shutsDown_of_killTimer rfl hends (writesFail_run processId), killTimer_of_shutsDown hends⟩
  refine ⟨htimer, fun h => ?_, fun h => ?_, exit_mem_logged_iff_hearsShutdown processId is⟩
  · have hr : c.isRunning := by
      have hp : c.process = .running := h.1
      simp [isRunning, hp]
    have hlog : c.log ++ [.terminated] <+: (c.step .killTimerFired).log := by
      show _ <+: c.killTimerFired.log
      rw [killTimerFired_of_killTimer (htimer.2 h)]
      exact log_kill_of_isRunning (c := { c with killTimer := false }) hr
    rw [log_eq_append_logged, List.prefix_append_right_inj] at hlog
    exact hlog.subset (List.mem_singleton_self _)
  · exact killTimerFired_of_idle (by simpa using mt htimer.1 h)

theorem endsTold_of_forall (h : ∀ text, .processFailed true text ∉ is) : EndsTold c is :=
  fun before text after heq => absurd (by simp [heq]) (h text)

/-- A server is asked to shut down and is let go when it answers.  Once its process has ended and
another server has been started, the time that was given to the first is not counted. -/
theorem run_shutsDown_restarted :
    let c₀ : Client := { processId := 7 }
    let start : Input := .start ['p'] [] none []
    let answer (id : Int) : Input :=
      .message {} [("id".toList, .int id), ("result".toList, .obj [])]
    let first := [start, .processStarted, answer 1, .stop]
    let second := first ++ [answer 2, .processFinished, start, .processStarted]
    EndsTold c₀ first ∧ ShutsDown c₀ first ∧ HearsShutdown c₀ first (answer 2) ∧
      EndsTold c₀ second ∧ ¬ ShutsDown c₀ second ∧
      (c₀.run second).step .killTimerFired = c₀.run second := by
  intro c₀ start answer first second
  have hfirst : EndsTold c₀ first := endsTold_of_forall (by simp [first, start, answer])
  have hsecond : EndsTold c₀ second := endsTold_of_forall (by simp [second, first, start, answer])
  obtain ⟨htimer, -, -, hexit⟩ := run_shutsDown 7 hfirst
  obtain ⟨htimer', -, hidle, -⟩ := run_shutsDown 7 hsecond
  have hwrote : (c₀.run first).logged (answer 2) = [.wrote .exit] := by rfl
  have hruns : (c₀.run first).killTimer = true := by decide +kernel
  have hover : (c₀.run second).killTimer = false := by decide +kernel
  have hnot : ¬ ShutsDown c₀ second := fun h => Bool.noConfusion (hover.symm.trans (htimer'.2 h))
  exact ⟨hfirst, htimer.1 hruns, (hexit _).1 (hwrote ▸ List.mem_singleton_self _), hsecond, hnot,
    hidle hnot⟩

end Legible.Client
