import Legible.Proofs.Client.Reading
import Legible.Proofs.Client.Run

/-!
# Requests of a client and their answers

What happens to the requests of a client in a run is read off its inputs (`history`).  The ledger of
these happenings is the one that the client keeps, and what they come to is what its log shows: the
results and failures that callers are given, the news that the server is ready or has failed to
initialize itself, the exit that is sent after a shutdown, the refusals of requests of the server,
and the ends of processes.  So requests and answers match in every run (`run_matched`).

A request whose refusal cannot be written is lost with the messages behind it, and the server waits
for an answer that does not come (`run_requestThenNotice`).
-/

namespace Legible.Client

/-! ## What happens -/

/-- What becomes of an answer, while there is a process or not. -/
def Answer.outcomes (running : Bool) (a : Answer) : List Event :=
  match a.request.purpose, a.failed with
  | .initialization, false => [.ready]
  | .initialization, true => [.status ("LSP initialize failed: ".toList ++ a.value.display)]
  | .shutdown, _ => if running then [.wrote .exit] else []
  | .caller _, false => [.result a.id a.value]
  | .caller true, true => [.failure a.id a.value]
  | .caller false, true => []

/-- What becomes of what happens: of a message that is no answer, the refusal of a request. -/
def Happening.outcomes : Happening → List Event
  | .began ended => if ended then [.stopped] else []
  | .asked .. => []
  | .heard running _ (some a) => a.outcomes running
  | .heard running message none =>
    match Fields.get? "id".toList message with
    | some id =>
      if running && !(methodOf message).isEmpty then [.wrote (.refusal id (methodOf message))]
      else []
    | none => []

/-- Whether a message is written for a message of the server. -/
def Outgoing.isOutcome : Outgoing → Bool
  | .refusal .. | .exit => true
  | _ => false

/-- Whether an event shows what has become of a message of the server, or the end of a process. -/
def Event.isOutcome : Event → Bool
  | .result .. | .failure .. | .ready | .stopped => true
  | .wrote m => m.isOutcome
  | .status text => "LSP initialize failed: ".toList.isPrefixOf text
  | _ => false

/-- A process that is ended by force may end at once. -/
def whenKilled (c : Client) : List Happening :=
  if c.isRunning && c.exitsAtOnce then [.began true] else []

/-- A server that is stopped is asked to shut down, or its process is ended by force; without a
process a session begins. -/
def whenStopped (c : Client) : List Happening :=
  match c.process with
  | .notRunning => [.began false]
  | .starting => c.whenKilled
  | .running =>
    if c.session.initialized then
      [.asked c.session.nextId ⟨"shutdown".toList, .shutdown⟩]
    else c.whenKilled

/-- A message that is handled. -/
def hears (message : Fields) (c : Client) : Happening :=
  .heard c.isRunning message (c.session.ledger.answer? message)

/-- The messages that are handled, until one is lost or refused by the client. -/
def hearsAll (l : Listener) : List Frame.Incoming → Client → List Happening
  | [], _ => []
  | m :: rest, c =>
    if (c.lossOf? m).isSome then []
    else c.hears m.fields :: match c.dispatch l m.fields with
      | (.ok (), c) => hearsAll l rest c
      | _ => []

/-- What an input makes happen. -/
def happenings (c : Client) : Input → List Happening
  | .start .. => c.whenStopped ++ [.began false]
  | .stop => c.whenStopped
  | .request method _ wantsError => [.asked c.session.nextId ⟨method, .caller wantsError⟩]
  | .processStarted => [.asked c.session.nextId ⟨"initialize".toList, .initialization⟩]
  | .processFinished => [.began true]
  | .killTimerFired => if c.killTimer then c.whenKilled else []
  | .receive l bs =>
    match c.reader.read c.bodyDepth bs with
    | (none, _) => []
    | (some messages, reader) => hearsAll l messages { c with reader }
  | .message _ m => [c.hears m]
  | _ => []

/-- What happens in a run. -/
def history : Client → List Input → List Happening
  | _, [] => []
  | c, i :: is => c.happenings i ++ history (c.step i) is

theorem history_concat (c : Client) (is : List Input) (i : Input) :
    history c (is ++ [i]) = history c is ++ (c.run is).happenings i := by
  induction is generalizing c with
  | nil => simp [history, run]
  | cons j is ih => simp [history, ih, run]

/-! ## What the client keeps -/

/-- A client that keeps a ledger and has shown some outcomes.  Nothing that is held back is one, so
writing it later shows none. -/
structure Booked (b : Ledger) (shown : List Event) (c : Client) : Prop where
  writable : c.writesFail = false
  backlog : ∀ m ∈ c.session.backlog, m.isOutcome = false
  ledger : c.session.ledger = b
  log : c.log.filter (·.isOutcome) = shown

variable {b : Ledger} {shown : List Event} {c c' : Client}

theorem Booked.congr (h : Booked b shown c) {b' : Ledger} (hfail : c'.writesFail = c.writesFail)
    (hlog : c'.log = c.log) (hbacklog : c'.session.backlog ⊆ c.session.backlog)
    (hledger : c'.session.ledger = b') : Booked b' shown c' :=
  ⟨hfail.trans h.writable, fun m hm => h.backlog m (hbacklog hm), hledger, hlog ▸ h.log⟩

/-- A step that changes neither log, backlog nor ledger. -/
theorem Booked.of_eq (h : Booked b shown c) (hfail : c'.writesFail = c.writesFail)
    (hlog : c'.log = c.log) (hbacklog : c'.session.backlog = c.session.backlog)
    (hledger : c'.session.ledger = c.session.ledger) : Booked b shown c' :=
  h.congr hfail hlog (hbacklog ▸ List.Subset.refl _) (hledger.trans h.ledger)

theorem Booked.emit (h : Booked b shown c) (e : Event) :
    Booked b (shown ++ [e].filter (·.isOutcome)) (c.emit e) where
  writable := h.writable
  backlog := h.backlog
  ledger := h.ledger
  log := (List.filter_append ..).trans (congrArg (· ++ _) h.log)

theorem Booked.emit_of_not (h : Booked b shown c) {e : Event} (he : e.isOutcome = false) :
    Booked b shown (c.emit e) := by
  have hsaid := h.emit e
  rwa [List.filter_cons_of_neg (by simp [he]), List.filter_nil, List.append_nil] at hsaid

theorem Booked.write (h : Booked b shown c) (m : Outgoing) :
    Booked b (shown ++ if c.isRunning && m.isOutcome then [.wrote m] else []) (c.write m) := by
  cases hr : c.isRunning with
  | false => simpa [Client.write, hr] using h
  | true =>
    have heq : c.write m = c.emit (.wrote m) := by simp [Client.write, hr, h.writable]
    rw [heq]
    cases hm : m.isOutcome with
    | false => simpa using h.emit_of_not (e := .wrote m) hm
    | true => simpa [Event.isOutcome, hm] using h.emit (.wrote m)

theorem Booked.write_of_not (h : Booked b shown c) {m : Outgoing} (hm : m.isOutcome = false) :
    Booked b shown (c.write m) := by
  have hwritten := h.write m
  rwa [hm, Bool.and_false, if_neg Bool.false_ne_true, List.append_nil] at hwritten

theorem Booked.post (h : Booked b shown c) {m : Outgoing} (hm : m.isOutcome = false) :
    Booked b shown (c.post m) := by
  unfold Client.post
  split
  · split
    · exact h.write_of_not hm
    · refine ⟨h.writable, fun m' hm' => ?_, h.ledger, h.log⟩
      rcases List.mem_append.1 hm' with hold | hnew
      · exact h.backlog m' hold
      · rwa [List.mem_singleton.1 hnew]
  · exact h

theorem Booked.withVersion (h : Booked b shown c) (uri : Text) (version : Nat) :
    Booked b shown (c.withVersion uri version) := h.of_eq rfl rfl rfl rfl

theorem Booked.send (h : Booked b shown c) (d : Document) : Booked b shown (c.send d).2 := by
  unfold Client.send
  split
  · exact h
  · split
    · exact (h.withVersion d.uri 1).post rfl
    · exact (h.withVersion d.uri _).post rfl

theorem Booked.sendAll (h : Booked b shown c) (ds : List Document) :
    Booked b shown (c.sendAll ds) := by
  induction ds generalizing c with
  | nil => exact h
  | cons d ds ih => exact ih (h.send d)

theorem Booked.closeDocument (h : Booked b shown c) (uri : Text) :
    Booked b shown (c.closeDocument uri) := by
  unfold Client.closeDocument
  split
  · exact h
  · have hclosed : Booked b shown (c.mapSession fun s =>
        { s with versions := s.versions.filter (·.1 ≠ uri) }) :=
      h.of_eq rfl rfl rfl rfl
    exact hclosed.post rfl

theorem Booked.releaseBacklog (h : Booked b shown c) : Booked b shown c.releaseBacklog := by
  have hall (ms : List Outgoing) (hms : ∀ m ∈ ms, m.isOutcome = false) :
      ∀ c, Booked b shown c → Booked b shown (ms.foldl (fun c m => c.write m) c) := by
    induction ms with
    | nil => exact fun c h => h
    | cons m ms ih =>
      exact fun c h => ih (fun m' hm' => hms m' (List.mem_cons_of_mem m hm')) _
        (h.write_of_not (hms m List.mem_cons_self))
  exact hall _ h.backlog _ (h.congr rfl rfl (List.nil_subset _) h.ledger)

theorem Booked.register (h : Booked b shown c) (r : Request) :
    Booked (b.after (.asked b.nextId r)) shown (c.register r).2 := by
  obtain rfl := h.ledger
  exact h.congr rfl rfl (List.Subset.refl _) rfl

theorem Booked.beginSession (h : Booked b shown c) : Booked {} shown c.beginSession :=
  h.congr rfl rfl (List.nil_subset _) rfl

/-! ## What a step comes to -/

/-- A step from one client to another in which just these things happen. -/
structure Accounted (c : Client) (xs : List Happening) (c' : Client) : Prop where
  driven : ∀ {b shown}, Booked b shown c → b.Driven xs
  booked : ∀ {b shown}, Booked b shown c →
    Booked (xs.foldl Ledger.after b) (shown ++ xs.flatMap (·.outcomes)) c'

/-- A step in which nothing happens. -/
theorem Accounted.silent (h : ∀ {b shown}, Booked b shown c → Booked b shown c') :
    Accounted c [] c' := ⟨fun _ => trivial, fun hb => (List.append_nil _).symm ▸ h hb⟩

theorem Accounted.refl (c : Client) : Accounted c [] c := .silent id

/-- A step in which one thing happens. -/
theorem Accounted.one {x : Happening} (hfits : ∀ {b shown}, Booked b shown c → b.Fits x)
    (h : ∀ {b shown}, Booked b shown c → Booked (b.after x) (shown ++ x.outcomes) c') :
    Accounted c [x] c' :=
  ⟨fun hb => ⟨hfits hb, trivial⟩, fun hb => by
    rw [List.flatMap_cons, List.flatMap_nil, List.append_nil]
    exact h hb⟩

theorem Accounted.trans {c₁ c₂ c₃ : Client} {xs ys : List Happening} (h : Accounted c₁ xs c₂)
    (h' : Accounted c₂ ys c₃) : Accounted c₁ (xs ++ ys) c₃ where
  driven hb := Ledger.driven_append.2 ⟨h.driven hb, h'.driven (h.booked hb)⟩
  booked hb := by
    rw [List.foldl_append, List.flatMap_append, ← List.append_assoc]
    exact h'.booked (h.booked hb)

/-- A step before which nothing happens. -/
theorem Accounted.after {c₀ : Client} {xs : List Happening} (h : Accounted c xs c')
    (h₀ : ∀ {b shown}, Booked b shown c₀ → Booked b shown c) : Accounted c₀ xs c' :=
  ⟨fun hb => h.driven (h₀ hb), fun hb => h.booked (h₀ hb)⟩

theorem accounted_beginSession (c : Client) : Accounted c [.began false] c.beginSession :=
  .one (fun _ => trivial) fun hb => (List.append_nil _).symm ▸ hb.beginSession

/-- A request takes the next number, whatever is done with its message. -/
theorem accounted_register (r : Request)
    (h : ∀ {b shown}, Booked b shown (c.register r).2 → Booked b shown c') :
    Accounted c [.asked c.session.nextId r] c' := by
  refine .one (fun hb => hb.ledger ▸ rfl) fun {b shown} hb => ?_
  obtain rfl := hb.ledger
  exact (List.append_nil shown).symm ▸ h (hb.register r)

/-! ## Processes -/

theorem accounted_finished (c : Client) : Accounted c [.began true] c.finished :=
  .one (fun _ => trivial) fun hb => by
    have hstopped : Booked _ _
        { c with process := .notRunning, killTimer := false, stopping := false } :=
      hb.of_eq rfl rfl rfl rfl
    have hbegun := (hstopped.emit_of_not (e := .timerStopped) rfl).beginSession
    exact (hbegun.emit_of_not (e := .ended c.stopping) rfl).emit .stopped

theorem accounted_kill (c : Client) : Accounted c c.whenKilled c.kill := by
  have hterminated : Accounted c [] (c.emit .terminated) :=
    .silent fun hb => hb.emit_of_not rfl
  unfold whenKilled
  cases hr : c.isRunning with
  | false =>
    rw [kill_of_not_isRunning hr]
    exact .refl c
  | true =>
    cases he : c.exitsAtOnce with
    | true =>
      rw [kill_of_exitsAtOnce hr he]
      exact hterminated.trans (accounted_finished _)
    | false =>
      rw [kill_of_lasting hr he]
      exact hterminated.trans (.silent fun hb => hb.emit_of_not rfl)

theorem accounted_stop (c : Client) : Accounted c c.whenStopped c.stop := by
  have hstopping {b : Ledger} {shown : List Event} (hb : Booked b shown c) :
      Booked b shown { c with stopping := true } :=
    hb.of_eq rfl rfl rfl rfl
  have hkill : Accounted c c.whenKilled { c with stopping := true }.kill :=
    (accounted_kill { c with stopping := true }).after hstopping
  unfold whenStopped
  split
  · rename_i hp
    have hstop : c.stop = c.beginSession := by rw [stop, hp]
    rw [hstop]
    exact accounted_beginSession c
  · rename_i hp
    have hstop : c.stop = { c with stopping := true }.kill := by rw [stop, hp]
    rw [hstop]
    exact hkill
  · rename_i hp
    have hstop : c.stop = if c.session.initialized then
        ({ c with stopping := true } : Client).askShutdown.startKillTimer
      else { c with stopping := true }.kill := by rw [stop, hp]
    rw [hstop]
    split
    · refine accounted_register _ fun {b shown} hb => ?_
      have hregistered : Booked b shown
          (({ c with stopping := true } : Client).register ⟨"shutdown".toList, .shutdown⟩).2 :=
        hb.of_eq rfl rfl rfl rfl
      have hasked : Booked b shown ({ c with stopping := true } : Client).askShutdown :=
        hregistered.write_of_not rfl
      have htimer : Booked b shown
          { ({ c with stopping := true } : Client).askShutdown with killTimer := true } :=
        hasked.of_eq rfl rfl rfl rfl
      exact htimer.emit_of_not (e := .timerStarted graceTime) rfl
    · exact hkill

theorem accounted_start (c : Client) (program : Text) (arguments : List Text)
    (folder : Option Text) (root : Text) :
    Accounted c (c.whenStopped ++ [.began false]) (c.start program arguments folder root) := by
  refine (accounted_stop c).trans (.one (fun _ => trivial) fun {b shown} hb => ?_)
  rw [Happening.outcomes, if_neg Bool.false_ne_true, List.append_nil]
  have hnew : Booked {} shown ({ c.stop with
      program := Text.strip program
      root := Text.strip root
      serverName := Path.baseName (Text.strip program) }.beginSession) :=
    hb.congr rfl rfl (List.nil_subset _) rfl
  have hlaunch {c' : Client} (h : Booked {} shown c') : Booked {} shown (c'.launch arguments) := by
    unfold launch
    split
    · exact h.emit_of_not rfl
    · have hstarting : Booked {} shown { c' with process := .starting } :=
        h.of_eq rfl rfl rfl rfl
      exact hstarting.emit_of_not (e := .launched c'.program arguments) rfl
  unfold Client.start
  cases folder with
  | none => exact hlaunch hnew
  | some path => exact hlaunch (hnew.emit_of_not rfl)

theorem accounted_processFailed (c : Client) (failedToStart : Bool) (text : Text) :
    Accounted c [] (c.processFailed failedToStart text) := .silent fun {b shown} hb => by
  have hsaid {c' : Client} (h : Booked b shown c') :
      Booked b shown (if c'.stopping && !failedToStart then c'
        else c'.emit (.status ("LSP process error: ".toList ++ text))) := by
    split
    · exact h
    · exact h.emit_of_not rfl
  unfold Client.processFailed
  cases failedToStart with
  | true => exact hsaid (hb.of_eq rfl rfl rfl rfl)
  | false => exact hsaid (hb.of_eq rfl rfl rfl rfl)

/-! ## Messages of the server -/

/-- What the client does with an answer. -/
def handle (l : Listener) (a : Answer) (c : Client) : Client :=
  if a.failed then c.handleFailure a.id a.value a.request.purpose
  else c.handleResult l a.id a.value a.request.purpose

/-- The client handles an answer and does not wait for it any more. -/
theorem dispatch_of_answer {l : Listener} {message : Fields} {a : Answer}
    (h : c.session.ledger.answer? message = some a) :
    (c.dispatch l message).2 = (c.takeRequest a.id).handle l a := by
  unfold Ledger.answer? at h
  split at h
  · rename_i hmethod
    split at h
    · rename_i id hid
      obtain ⟨v, hv, hint⟩ := Option.map_eq_some_iff.1 hid
      obtain ⟨r, hr, rfl⟩ := Option.map_eq_some_iff.1 h
      have hanswered : (c.dispatch l message).2 = c.answered l (.ofNat id) message := by
        unfold dispatch
        rw [hv]
        dsimp only
        rw [← methodOf, hmethod, if_pos List.isEmpty_nil, hint]
      have hlookup : c.session.requests.lookup id = some r := hr
      rw [hanswered, answered]
      dsimp only
      rw [hlookup]
      unfold Answer.ofMessage handle
      cases Fields.get? "error".toList message <;> rfl
    · cases h
  · cases h

/-- A message that is no answer is refused, told to the listener, or ignored. -/
theorem dispatch_of_none {l : Listener} {message : Fields}
    (h : c.session.ledger.answer? message = none) :
    (∃ id, Fields.get? "id".toList message = some id ∧ methodOf message ≠ [] ∧
      (c.dispatch l message).2 = c.write (.refusal id (methodOf message))) ∨
    ((Fields.get? "id".toList message = none ∨ methodOf message = []) ∧
      ((c.dispatch l message).2 = c ∨ ∃ server params,
        (c.dispatch l message).2 = c.emit (.notified server (methodOf message) params))) := by
  unfold Ledger.answer? at h
  unfold dispatch
  dsimp only
  rw [← methodOf]
  by_cases hmethod : methodOf message = []
  · refine .inr ⟨.inr hmethod, .inl ?_⟩
    rw [if_pos hmethod] at h
    rw [hmethod]
    cases hid : Fields.get? "id".toList message with
    | none => rfl
    | some id =>
      dsimp only
      rw [if_pos List.isEmpty_nil]
      split
      · rename_i n hint
        cases n with
        | negSucc n => rfl
        | ofNat n =>
          rw [hid, Option.map_some, hint] at h
          have hlookup : c.session.requests.lookup n = none := Option.map_eq_none_iff.1 h
          unfold answered
          dsimp only
          rw [hlookup]
      · rfl
      · rfl
  · have hfull : ¬ (methodOf message).isEmpty := mt List.isEmpty_iff.1 hmethod
    cases hid : Fields.get? "id".toList message with
    | none =>
      refine .inr ⟨.inl rfl, .inr ⟨c.serverName, Fields.getD "params".toList message, ?_⟩⟩
      dsimp only
      rw [if_neg hfull]
    | some id =>
      refine .inl ⟨id, rfl, hmethod, ?_⟩
      dsimp only
      rw [if_neg hfull]

theorem Booked.serverInitialized (h : Booked b shown c) (l : Listener) (result : Value) :
    Booked b (shown ++ [.ready]) (c.serverInitialized l result) := by
  obtain ⟨name, capabilities, heq⟩ := serverInitialized_eq l result c
  have hnamed : Booked b shown (mapSession (fun s => { s with initialized := true, capabilities })
      { c with serverName := name }) := h.of_eq rfl rfl rfl rfl
  rw [heq]
  exact ((((hnamed.write_of_not rfl).emit .ready).sendAll _).releaseBacklog)

/-- What the client does with an answer is what becomes of it. -/
theorem Booked.handle (h : Booked b shown c) (l : Listener) (a : Answer) :
    Booked b (shown ++ a.outcomes c.isRunning) (c.handle l a) := by
  obtain ⟨id, ⟨method, purpose⟩, failed, value⟩ := a
  cases purpose with
  | initialization =>
    cases failed with
    | false => exact h.serverInitialized l value
    | true => exact h.emit (.status ("LSP initialize failed: ".toList ++ value.display))
  | shutdown =>
    have hexit := h.write .exit
    rw [show Outgoing.isOutcome .exit = true from rfl, Bool.and_true] at hexit
    cases failed <;> exact hexit
  | caller wantsError =>
    cases failed with
    | false => exact h.emit (.result id value)
    | true =>
      cases wantsError with
      | true => exact h.emit (.failure id value)
      | false => exact (List.append_nil shown).symm ▸ h

theorem accounted_dispatch (l : Listener) (message : Fields) (c : Client) :
    Accounted c [c.hears message] (c.dispatch l message).2 := by
  refine .one (fun hb => hb.ledger ▸ rfl) fun {b shown} hb => ?_
  unfold hears
  cases hanswer : c.session.ledger.answer? message with
  | some a =>
    obtain rfl := hb.ledger
    rw [dispatch_of_answer hanswer]
    have htaken : Booked (c.session.ledger.after (.heard c.isRunning message (some a))) shown
        (c.takeRequest a.id) := hb.congr rfl rfl (List.Subset.refl _) rfl
    exact htaken.handle l a
  | none =>
    show Booked b _ _
    rcases dispatch_of_none (l := l) hanswer with ⟨id, hid, hmethod, heq⟩ | ⟨hnone, hrest⟩
    · have hfull : (methodOf message).isEmpty = false := by
        rw [Bool.eq_false_iff]
        exact mt List.isEmpty_iff.1 hmethod
      rw [heq, Happening.outcomes, hid]
      dsimp only
      rw [hfull]
      exact hb.write (.refusal id (methodOf message))
    · have houtcomes : (Happening.heard c.isRunning message none).outcomes = [] := by
        rw [Happening.outcomes]
        rcases hnone with hid | hmethod
        · rw [hid]
        · rw [hmethod, List.isEmpty_nil, Bool.not_true, Bool.and_false]
          split <;> rfl
      rw [houtcomes, List.append_nil]
      rcases hrest with heq | ⟨server, params, heq⟩
      · rw [heq]
        exact hb
      · rw [heq]
        exact hb.emit_of_not rfl

theorem accounted_hearAll (l : Listener) (messages : List Frame.Incoming) (c : Client) :
    Accounted c (hearsAll l messages c) (hearAll l messages c).2 := by
  induction messages generalizing c with
  | nil => exact .refl c
  | cons m rest ih =>
    unfold hearsAll hearAll hear
    cases hloss : c.lossOf? m with
    | some fault =>
      -- nothing is written and no request is answered, and the messages behind it are not heard
      exact .refl c
    | none =>
      have hfirst := accounted_dispatch l m.fields c
      rw [if_neg (by simp)]
      rcases hm : c.dispatch l m.fields with ⟨result, c₁⟩
      rw [hm] at hfirst
      cases result with
      | ok => exact hfirst.trans (ih c₁)
      | error e => exact hfirst

/-! ## Runs -/

theorem accounted_step (c : Client) (i : Input) : Accounted c (c.happenings i) (c.step i) := by
  cases i with
  | start program arguments folder root => exact accounted_start c program arguments folder root
  | stop => exact accounted_stop c
  | request method params wantsError =>
    refine accounted_register _ fun hb => ?_
    unfold Client.step request
    dsimp only
    split
    · exact hb.write_of_not rfl
    · exact hb.post rfl
  | notify method params => exact .silent fun hb => hb.post rfl
  | send d => exact .silent fun hb => hb.send d
  | close uri => exact .silent fun hb => hb.closeDocument uri
  | processStarted =>
    refine accounted_register _ fun {b shown} hb => ?_
    have hregistered : Booked b shown (({ c with process := .running }.emit .started).register
        ⟨"initialize".toList, .initialization⟩).2 :=
      (hb.emit_of_not (e := .started) rfl).of_eq rfl rfl rfl rfl
    exact hregistered.write_of_not rfl
  | processFinished => exact accounted_finished c
  | processFailed failedToStart text => exact accounted_processFailed c failedToStart text
  | killTimerFired =>
    unfold happenings Client.step killTimerFired
    dsimp only
    split
    · have hkill : Accounted { c with killTimer := false } c.whenKilled
          { c with killTimer := false }.kill := accounted_kill { c with killTimer := false }
      exact hkill.after fun hb => hb.of_eq rfl rfl rfl rfl
    · exact .refl c
  | exitsAtOnce b' =>
    exact .silent fun hb => hb.of_eq rfl rfl rfl rfl
  | receive l bs =>
    show Accounted c _ (c.receive l bs).2
    rw [receive_snd, happenings, read]
    rcases c.reader.read c.bodyDepth bs with ⟨_ | messages, reader⟩
    · exact .silent fun hb => hb.of_eq rfl rfl rfl rfl
    · exact (accounted_hearAll l messages { c with reader }).after
        fun hb => hb.of_eq rfl rfl rfl rfl
  | message l m => exact accounted_dispatch l m c

theorem accounted_run (c : Client) (is : List Input) : Accounted c (c.history is) (c.run is) := by
  induction is generalizing c with
  | nil => exact .refl c
  | cons i is ih => exact (accounted_step c i).trans (ih (c.step i))

/-- The message of the server that is handled. -/
def Happening.message? : Happening → Option Fields
  | .heard _ message _ => some message
  | _ => none

/-- Whether the number of a message is none that the client refuses to read. -/
def HasReadableId (message : Fields) : Prop :=
  ∀ v, Fields.get? "id".toList message = some v → v.toInteger ≠ .error .infinite

theorem hasReadableId_iff {message : Fields} :
    HasReadableId message ↔ (Fields.get? "id".toList message).any (·.isInfinite) = false := by
  rw [HasReadableId]
  cases hid : Fields.get? "id".toList message with
  | none => simp
  | some id => simp [id.toInteger_eq_infinite_iff]

theorem HasReadableId.isReadable {message : Fields} (h : HasReadableId message) :
    isReadable message := by
  rw [Client.isReadable, hasReadableId_iff.1 h, Bool.not_false, Bool.or_true]

/-- Where none is refused by the client, the messages are handled up to the first that is lost. -/
theorem filterMap_message?_hearsAll
    (hcheck : ∀ server method params, l.check server method params = .ok ())
    {messages : List Frame.Incoming} (hread : ∀ m ∈ messages, HasReadableId m.fields)
    (c : Client) :
    (hearsAll l messages c).filterMap (·.message?) =
      (messages.takeWhile fun m => (c.lossOf? m).isNone).map (·.fields) := by
  induction messages generalizing c with
  | nil => rfl
  | cons m rest ih =>
    unfold hearsAll
    cases hloss : c.lossOf? m with
    | some fault => simp [hloss]
    | none =>
      have hok := dispatch_ok_of_isReadable hcheck (hread m List.mem_cons_self).isReadable c
      have htalks := talks_dispatch l m.fields c
      rcases hm : c.dispatch l m.fields with ⟨result, c₁⟩
      rw [hm] at hok htalks
      obtain rfl : result = .ok () := hok
      have hrest := ih (fun m' hm' => hread m' (List.mem_cons_of_mem m hm')) c₁
      rw [htalks.lossOf?] at hrest
      rw [List.takeWhile_cons_of_pos (by rw [hloss]; rfl)]
      exact congrArg (m.fields :: ·) hrest

/-- Where none is refused by the client, it can hear just the messages that are not lost. -/
theorem HasReadableId.canHear {m : Frame.Incoming} (h : HasReadableId m.fields) (c : Client) :
    c.canHear m = (c.lossOf? m).isNone := by
  rw [Client.canHear, h.isReadable, Bool.true_and]

/-- With a body that is nested too deeply no message is handled.  Otherwise, where the listener
refuses nothing and no number is infinite, the messages that arrive are handled up to the first that
is lost, and all of them if none is. -/
theorem happenings_receive (hcheck : ∀ server method params, l.check server method params = .ok ())
    (bs : Bytes) (c : Client) :
    let found := (c.reader.read c.bodyDepth bs).1
    (found = none →
      c.happenings (.receive l bs) = [] ∧ (c.read l bs).1 = .error .bodyTooDeep) ∧
    ∀ messages, found = some messages → (∀ m ∈ messages, HasReadableId m.fields) →
      (c.happenings (.receive l bs)).filterMap (·.message?) =
        (messages.takeWhile fun m => (c.lossOf? m).isNone).map (·.fields) ∧
      ((c.read l bs).1 = .ok () ↔ ∀ m ∈ messages, c.lossOf? m = none) := by
  intro found
  rcases hread : c.reader.read c.bodyDepth bs with ⟨_ | messages, reader⟩
  · refine ⟨fun _ => ⟨?_, ?_⟩, fun messages hsome => ?_⟩
    · rw [happenings, hread]
    · rw [read_of_none hread]
    · exact absurd (hsome.symm.trans (congrArg Prod.fst hread)) (Option.some_ne_none _)
  · have hfound : found = some messages := congrArg Prod.fst hread
    refine ⟨fun hnone => absurd (hfound.symm.trans hnone) (Option.some_ne_none _),
      fun messages' hsome hreadable => ?_⟩
    obtain rfl : messages' = messages := Option.some.inj (hsome.symm.trans hfound)
    constructor
    · rw [happenings, hread]
      exact filterMap_message?_hearsAll hcheck hreadable _
    · rw [read_of_some hcheck hread, verdict_eq_ok_iff]
      exact forall₂_congr fun m hm => by
        rw [(hreadable m hm).canHear c, Option.isNone_iff_eq_none]

/-- A refusal carries the number of the request, whatever it is, and says that there is no such
method. -/
theorem refusal_toValue (id : Value) (method : Text) :
    (Outgoing.refusal id method).toValue.field "id".toList = id ∧
      ((Outgoing.refusal id method).toValue.field "error".toList).field "code".toList =
        .int (-32601) := by
  constructor <;> simp [Outgoing.toValue, Outgoing.message, Outgoing.methodNotFound, Value.record,
    Value.field, Value.field?, Value.fields, Fields.get?]

/-- In every run the ledger that the client keeps is the one that its history leaves, which has just
the requests of the session that wait for an answer, and what it shows is what becomes of what
happens.  Requests and answers match.  Where the listener refuses nothing and no number is infinite,
the messages that arrive are handled up to the first that is lost: there is a process, and it is a
request whose refusal is nested too deeply or holds a unit of a pair that stands alone.  If there is
none, all are handled, but with a body that is nested too deeply no message is.  A refusal carries
the number of the request, whatever it is, and says that there is no such method. -/
theorem run_matched (processId : Nat) (bodyDepth refusalDepth : Option Nat) (is : List Input) :
    let c : Client := run { processId, bodyDepth, refusalDepth } is
    let h := history { processId, bodyDepth, refusalDepth } is
    (c.session.ledger = ledgerOf h ∧ Accounts (since h) (ledgerOf h) ∧
      c.log.filter (·.isOutcome) = h.flatMap (·.outcomes)) ∧
    Matched h ∧
    (∀ (l : Listener) bs, (∀ server method params, l.check server method params = .ok ()) →
      let found := (c.reader.read c.bodyDepth bs).1
      (found = none →
        c.happenings (.receive l bs) = [] ∧ (c.read l bs).1 = .error .bodyTooDeep) ∧
      ∀ messages, found = some messages → (∀ m ∈ messages, HasReadableId m.fields) →
        (c.happenings (.receive l bs)).filterMap (·.message?) =
          (messages.takeWhile fun m => (c.lossOf? m).isNone).map (·.fields) ∧
        ((c.read l bs).1 = .ok () ↔ ∀ m ∈ messages, c.lossOf? m = none)) ∧
    ∀ id method, (Outgoing.refusal id method).toValue.field "id".toList = id ∧
      ((Outgoing.refusal id method).toValue.field "error".toList).field "code".toList =
        .int (-32601) := by
  intro c h
  have hnew : Booked {} [] { processId, bodyDepth, refusalDepth } :=
    ⟨rfl, fun _ hm => absurd hm List.not_mem_nil, rfl, rfl⟩
  have hrun := accounted_run { processId, bodyDepth, refusalDepth } is
  have hdriven : Ledger.Driven {} h := hrun.driven hnew
  have hbooked : Booked (ledgerOf h) (h.flatMap (·.outcomes)) c := hrun.booked hnew
  exact ⟨⟨hbooked.ledger, accounts_of_driven h hdriven, hbooked.log⟩, matched_of_driven hdriven,
    fun l bs hcheck => happenings_receive hcheck bs c, refusal_toValue⟩

/-- An answer counts once, whatever its number is written as; a second one, one to a number that
was not used, and one that comes after the process has ended do not count, and a request of the
server is refused. -/
theorem run_matched_lateAnswers :
    let answer (id : Value) : Input := .message {} [("id".toList, id), ("result".toList, .int 5)]
    let is : List Input := [.start ['p'] [] none [], .processStarted, answer (.int 1),
      .request ['m'] .null true, answer (.str ['2']), answer (.int 2), answer (.int 9),
      .message {} [("id".toList, .arr []), ("method".toList, .str ['q'])], .processFinished,
      answer (.int 2)]
    let c : Client := run { processId := 7 } is
    c.log.filter (·.isOutcome) =
        [.ready, .result 2 (.int 5), .wrote (.refusal (.arr []) ['q']), .stopped] ∧
      c.session.ledger = {} := by
  intro answer is c
  obtain ⟨⟨hledger, -, hlog⟩, -⟩ := run_matched 7 none none is
  exact ⟨hlog.trans rfl, hledger.trans rfl⟩

/-- A request whose id is one unit of a pair. -/
def tornRequest : Bytes := Frame.octets "\x7b\"id\":\"\\ud800\",\"method\":\"m\"\x7d"

/-- A request that cannot be answered, and a notification behind it. -/
def requestThenNotice : Bytes :=
  Frame.octets "Content-Length: 28\r\n\r\n" ++ tornRequest ++ plainNoticeFrame

/-- A running process gets no answer to its request, and nobody hears of the notification. -/
theorem run_requestThenNotice :
    let c : Client := run { processId := 7 } [.start ['p'] [] none [], .processStarted]
    ∃ request notice,
      c.reader.read c.bodyDepth requestThenNotice = (some [request, notice], {}) ∧
      isRequest request.fields ∧ HasReadableId request.fields ∧ methodOf notice.fields = ['m'] ∧
      c.isRunning ∧ (c.read {} requestThenNotice).1 = .error .torn ∧
      (c.step (.receive {} requestThenNotice)).log = c.log := by
  intro c
  have htorn : (Frame.incomingOf? tornRequest).map (fun m =>
      (isRequest m.fields, isTornRefusal m,
        (Fields.get? "id".toList m.fields).any (·.isInfinite))) = some (true, true, false) := by
    decide +kernel
  obtain ⟨request, hcame, hrequest⟩ := Option.map_eq_some_iff.1 htorn
  obtain ⟨hasked, hrest⟩ := Prod.mk.inj hrequest
  obtain ⟨hrefusal, hfinite⟩ := Prod.mk.inj hrest
  have hheader : Frame.Reader.step ⟨requestThenNotice, none⟩ =
      some (none, ⟨tornRequest ++ plainNoticeFrame, some 28⟩) := by
    decide +kernel
  obtain ⟨notice, hread, hmethod⟩ := exists_notice_of_read hheader (by decide +kernel) hcame
  have hfound : c.reader.read c.bodyDepth requestThenNotice = (some [request, notice], {}) := hread
  have hrunning : c.isRunning = true := rfl
  have hunbounded : c.refusalDepth = none := rfl
  have hloss : c.lossOf? request = some .torn := by
    rw [lossOf?, hrunning, hasked, hunbounded, hrefusal]
    rfl
  have hrefused : c.read {} requestThenNotice = (.error .torn, c) := by
    have hdeaf : c.canHear request = false := by
      rw [canHear, hloss, Option.isNone_some, Bool.and_false]
    rw [read_of_not_canHear hfound hdeaf, faultOf, hloss]
    rfl
  refine ⟨request, notice, hfound, hasked, hasReadableId_iff.2 hfinite, hmethod, rfl, ?_, ?_⟩
  · rw [hrefused]
  · show (c.receive {} requestThenNotice).2.log = c.log
    rw [receive_snd, hrefused]

end Legible.Client
