import Legible.Client.Incoming
import Legible.Proofs.Client.Versions

/-!
# What is held back

While a server is not initialized the messages of callers wait in the backlog, and the server hears
only what opens the session.  Once it is initialized it is told so, and then it hears what callers
say, in order.  `Kept` is this invariant: it relates the messages `written pre n c` of one life of
the server to the messages `issued` that callers wanted to be written in that life.

What was written is counted from an event `n` of the log on, after some messages `pre` that the log
does not show.
-/

namespace Legible.Client

/-- The message that an event writes. -/
def Event.wrote? : Event → Option Outgoing
  | .wrote m => some m
  | _ => none

/-- The messages that some events write. -/
def writes (es : List Event) : List Outgoing := es.filterMap Event.wrote?

@[simp] theorem writes_append (as bs : List Event) : writes (as ++ bs) = writes as ++ writes bs :=
  List.filterMap_append ..

@[simp] theorem writes_map_wrote (ms : List Outgoing) : writes (ms.map .wrote) = ms := by
  induction ms with
  | nil => rfl
  | cons m ms ih => exact congrArg (m :: ·) ih

/-- The messages that were written: some of old, and those of the log from an event on. -/
def written (pre : List Outgoing) (n : Nat) (c : Client) : List Outgoing :=
  pre ++ writes (c.log.drop n)

/-- Only messages that open a session. -/
def Unopened (ms : List Outgoing) : Prop := ∀ m ∈ ms, m.isOpening

/-- Messages that open a session, the news that the server is initialized, and then, among others,
the messages of callers. -/
def Opened (ms calls : List Outgoing) : Prop :=
  ∃ opening rest, ms = opening ++ .initialized :: rest ∧ Unopened opening ∧
    rest.filter (·.isCall) = calls

/-- What a server has been told, by whether there is a process and whether it is initialized, where
some messages are held back. -/
def Told (held ms calls : List Outgoing) : (running initialized : Bool) → Prop
  | true, false => Unopened ms ∧ held = calls
  | true, true => Opened ms calls ∧ held = []
  | false, _ => Unopened ms ∨ Opened ms calls

/-- What a client keeps during one life of its server. -/
structure Kept (pre : List Outgoing) (n : Nat) (calls : List Outgoing) (c : Client) : Prop where
  begun : n ≤ c.log.length
  writable : c.writesFail = false
  said : ∀ m ∈ calls, m.isCall
  /-- A server that is not initialized is not asked to shut down. -/
  noShutdown : c.session.initialized = false → ∀ r ∈ c.session.requests, r.2.purpose ≠ .shutdown
  /-- The server is asked once to initialize itself, when its process has started. -/
  asked : (written pre n c).countP (·.isInitializeRequest) ≤
    if c.process = .starting then 0 else 1
  told : Told c.session.backlog (written pre n c) calls c.isRunning c.session.initialized

variable {pre : List Outgoing} {n : Nat} {held ms calls : List Outgoing} {m : Outgoing}
  {c c' : Client}

/-! ## Lists of messages -/

theorem Unopened.concat (h : Unopened ms) (hm : m.isOpening) : Unopened (ms ++ [m]) := by
  intro a ha
  rcases List.mem_append.1 ha with ha | ha
  · exact h a ha
  · obtain rfl := List.mem_singleton.1 ha
    exact hm

theorem Opened.append (h : Opened ms calls) (more : List Outgoing) :
    Opened (ms ++ more) (calls ++ more.filter (·.isCall)) := by
  obtain ⟨opening, rest, rfl, ho, rfl⟩ := h
  exact ⟨opening, rest ++ more, by simp, ho, List.filter_append ..⟩

theorem said_append {as bs : List Outgoing} (ha : ∀ m ∈ as, m.isCall) (hb : ∀ m ∈ bs, m.isCall) :
    ∀ m ∈ as ++ bs, m.isCall := fun m hm => (List.mem_append.1 hm).elim (ha m) (hb m)

theorem Told.isOver {running initialized : Bool} (h : Told held ms calls running initialized) :
    Unopened ms ∨ Opened ms calls := by
  cases running with
  | false => exact h
  | true =>
    cases initialized with
    | false => exact .inl h.1
    | true => exact .inr h.1

/-- What may be told at any time. -/
theorem Told.opening {initialized : Bool} (h : Told held ms calls true initialized)
    (hm : m.isOpening) : Told held (ms ++ [m]) calls true initialized := by
  cases initialized with
  | false => exact ⟨h.1.concat hm, h.2⟩
  | true =>
    have ho := h.1.append [m]
    rw [List.filter_cons_of_neg (by simp [Outgoing.isCall_of_isOpening hm]), List.filter_nil,
      List.append_nil] at ho
    exact ⟨ho, h.2⟩

/-! ## What the invariant looks at -/

theorem written_congr (h : c'.log = c.log) : written pre n c' = written pre n c := by
  rw [written, h]
  rfl

theorem isRunning_congr (h : c'.process = c.process) : c'.isRunning = c.isRunning := by
  rw [isRunning, h]
  rfl

/-- The invariant looks neither at timers, names and versions nor at whether the end of the process
is wanted. -/
theorem Kept.congr (h : Kept pre n calls c) (hlog : c'.log = c.log)
    (hfail : c'.writesFail = c.writesFail) (hprocess : c'.process = c.process)
    (hinit : c'.session.initialized = c.session.initialized)
    (hbacklog : c'.session.backlog = c.session.backlog)
    (hrequests : c.session.initialized = false → ∀ r ∈ c'.session.requests,
      r ∈ c.session.requests ∨ r.2.purpose ≠ .shutdown) :
    Kept pre n calls c' where
  begun := hlog ▸ h.begun
  writable := hfail.trans h.writable
  said := h.said
  noShutdown hi r hr :=
    (hrequests (hinit ▸ hi) r hr).elim (h.noShutdown (hinit ▸ hi) r) id
  asked := by
    rw [written_congr hlog, hprocess]
    exact h.asked
  told := by
    rw [written_congr hlog, isRunning_congr hprocess, hinit, hbacklog]
    exact h.told

/-- Nothing more is written in a life that is over, whatever becomes of the session. -/
theorem Kept.ended (h : Kept pre n calls c) (hlog : c'.log = c.log)
    (hfail : c'.writesFail = c.writesFail) (hprocess : c'.isRunning = false)
    (hrequests : c'.session.initialized = false →
      ∀ r ∈ c'.session.requests, r.2.purpose ≠ .shutdown) :
    Kept pre n calls c' where
  begun := hlog ▸ h.begun
  writable := hfail.trans h.writable
  said := h.said
  noShutdown := hrequests
  asked := by
    -- a process that never ran was not asked, so the bound is no smaller than before
    have hle : (written pre n c).countP (·.isInitializeRequest) ≤ 1 :=
      Nat.le_trans h.asked (by split <;> decide)
    have hne : c'.process ≠ .starting := by
      intro hs
      simp [isRunning, hs] at hprocess
    rw [written_congr hlog, if_neg hne]
    exact hle
  told := by
    rw [written_congr hlog, hprocess]
    exact h.told.isOver

/-- What has been written may be counted among what was written of old. -/
theorem Kept.forget (h : Kept pre 0 calls c) :
    Kept (written pre 0 c) 0 calls { c with log := [] } := by
  have hw : written (written pre 0 c) 0 { c with log := [] } = written pre 0 c :=
    List.append_nil _
  refine ⟨Nat.zero_le _, h.writable, h.said, h.noShutdown, ?_, ?_⟩
  · rw [hw]
    exact h.asked
  · rw [hw]
    exact h.told

/-- A session begins with nothing said. -/
theorem kept_fresh (hlog : c.log = []) (hfail : c.writesFail = false) (hsession : c.session = {}) :
    Kept [] 0 [] c := by
  have hw : written [] 0 c = [] := by rw [written, hlog]; rfl
  refine ⟨Nat.zero_le _, hfail, fun _ hm => absurd hm List.not_mem_nil, fun _ r hr => ?_, ?_, ?_⟩
  · rw [hsession] at hr
    exact absurd hr List.not_mem_nil
  · rw [hw]
    exact Nat.zero_le _
  · have hu : Unopened [] := fun _ hm => absurd hm List.not_mem_nil
    rw [hw, hsession]
    cases c.isRunning with
    | false => exact .inl hu
    | true => exact ⟨hu, rfl⟩

/-! ## Events and messages -/

theorem written_emit (h : n ≤ c.log.length) (e : Event) :
    written pre n (c.emit e) = written pre n c ++ writes [e] := by
  rw [written, emit, List.drop_append_of_le_length h, writes_append, ← List.append_assoc]
  rfl

theorem le_length_emit (h : n ≤ c.log.length) (e : Event) : n ≤ (c.emit e).log.length :=
  Nat.le_trans h (by simp [emit])

theorem written_emit_of_none (h : n ≤ c.log.length) {e : Event} (he : e.wrote? = none) :
    written pre n (c.emit e) = written pre n c := by
  simp [written_emit h, writes, he]

theorem Kept.emit (h : Kept pre n calls c) {e : Event} (he : e.wrote? = none) :
    Kept pre n calls (c.emit e) := by
  have hw : written pre n (c.emit e) = written pre n c := written_emit_of_none h.begun he
  exact ⟨le_length_emit h.begun e, h.writable, h.said, h.noShutdown, hw ▸ h.asked, hw ▸ h.told⟩

/-- A message that is written, where it may be told. -/
theorem Kept.wrote (h : Kept pre n calls c) {calls' : List Outgoing}
    (hsaid : ∀ a ∈ calls', a.isCall)
    (hask : (written pre n c ++ [m]).countP (·.isInitializeRequest) ≤
      if c.process = .starting then 0 else 1)
    (htold : Told c.session.backlog (written pre n c ++ [m]) calls' c.isRunning
      c.session.initialized) :
    Kept pre n calls' (c.emit (.wrote m)) := by
  have hw : written pre n (c.emit (.wrote m)) = written pre n c ++ [m] := written_emit h.begun _
  exact ⟨le_length_emit h.begun _, h.writable, hsaid, h.noShutdown, hw ▸ hask, hw ▸ htold⟩

theorem Kept.write_eq (h : Kept pre n calls c) (m : Outgoing) :
    c.write m = if c.isRunning then c.emit (.wrote m) else c := by
  simp [write, h.writable]

theorem countP_concat (ms : List Outgoing) (hm : m.isInitializeRequest = false) :
    (ms ++ [m]).countP (·.isInitializeRequest) = ms.countP (·.isInitializeRequest) := by
  rw [List.countP_append, List.countP_singleton, hm]
  rfl

theorem Kept.write_refusal (h : Kept pre n calls c) (id : Value) (method : Text) :
    Kept pre n calls (c.write (.refusal id method)) := by
  rw [h.write_eq]
  cases hr : c.isRunning with
  | false => exact h
  | true =>
    have htold := h.told
    rw [hr] at htold
    have hask := countP_concat (m := .refusal id method) (written pre n c) rfl
    exact h.wrote h.said (hask.symm ▸ h.asked) (hr ▸ htold.opening rfl)

/-- The server is asked to initialize itself, where it has not been asked. -/
theorem Kept.write_initializeRequest (h : Kept pre n calls c) (hr : c.process = .running)
    (hnone : (written pre n c).countP (·.isInitializeRequest) = 0) (id processId : Nat)
    (root : Text) : Kept pre n calls (c.write (.initializeRequest id processId root)) := by
  have hrun : c.isRunning := by simp [isRunning, hr]
  have htold := h.told
  rw [hrun] at htold
  rw [h.write_eq, if_pos hrun]
  refine h.wrote h.said ?_ (hrun ▸ htold.opening rfl)
  rw [List.countP_append, hnone, if_neg (by simp [hr])]
  exact Nat.le_refl 1

/-- The messages that are taken from callers: without a process they are lost. -/
def accepted (c : Client) (ms : List Outgoing) : List Outgoing := if c.isRunning then ms else []

@[simp] theorem accepted_nil (c : Client) : c.accepted [] = [] := by simp [accepted]

/-- A message that a server hears only when it is initialized. -/
theorem Kept.write (h : Kept pre n calls c) (hm : m.isInitializeRequest = false)
    (hi : c.session.initialized) :
    Kept pre n (calls ++ c.accepted ([m].filter (·.isCall))) (c.write m) := by
  rw [h.write_eq, accepted]
  cases hr : c.isRunning with
  | false => exact (List.append_nil calls).symm ▸ h
  | true =>
    have htold := h.told
    rw [hr, hi] at htold
    refine h.wrote (said_append h.said fun _ ha => (List.mem_filter.1 ha).2)
      ((countP_concat _ hm).symm ▸ h.asked) ?_
    rw [hr, hi]
    exact ⟨htold.1.append [m], htold.2⟩

theorem Kept.hold (h : Kept pre n calls c) (hr : c.isRunning)
    (hi : c.session.initialized = false) (hm : m.isCall) :
    Kept pre n (calls ++ [m]) (c.hold m) := by
  have htold := h.told
  rw [hr, hi] at htold
  refine ⟨h.begun, h.writable, said_append h.said (by simpa using hm), h.noShutdown, h.asked, ?_⟩
  rw [show (c.hold m).isRunning = true from hr,
    show (c.hold m).session.initialized = false from hi]
  exact ⟨htold.1, congrArg (· ++ [m]) htold.2⟩

theorem Kept.post (h : Kept pre n calls c) (hm : m.isCall) :
    Kept pre n (calls ++ c.accepted [m]) (c.post m) := by
  unfold Client.post
  cases hr : c.isRunning with
  | false =>
    rw [accepted, hr]
    exact (List.append_nil calls).symm ▸ h
  | true =>
    cases hi : c.session.initialized with
    | true =>
      have hcalls : [m].filter (·.isCall) = [m] := by simp [hm]
      exact hcalls ▸ h.write (Outgoing.isInitializeRequest_of_isCall hm) hi
    | false =>
      rw [accepted, hr]
      exact h.hold hr hi hm

/-- A request that waits for its answer; a server that is not initialized is not asked to shut
down. -/
theorem Kept.register (h : Kept pre n calls c) (r : Request)
    (hr : c.session.initialized = false → r.purpose ≠ .shutdown) :
    Kept pre n calls (c.register r).2 :=
  h.congr rfl rfl rfl rfl rfl fun hi a ha => (List.mem_append.1 ha).imp_right fun ha => by
    obtain rfl := List.mem_singleton.1 ha
    exact hr hi

end Legible.Client
