import Legible.Proofs.Client.Opening
import Mathlib.Data.List.Basic

/-!
# Runs of a client

A run takes a client through calls, events of its process, and messages of the server, in any order
(`Input`).  One life of a server begins when the client starts it and lasts until it is started
again.  In each life the server hears first what opens the session, then that it is initialized, and
then what callers said, in their order and nothing twice; of each document it hears that it is
opened, changed and closed, over and over (`run_life`).
-/

namespace Legible.Client

/-- What can happen to a client. -/
inductive Input
  | start (program : Text) (arguments : List Text) (folder : Option Text) (root : Text)
  | stop
  | request (method : Text) (params : Value) (wantsError : Bool)
  | notify (method : Text) (params : Value)
  /-- A document is opened or changed. -/
  | send (d : Document)
  | close (uri : Text)
  | processStarted
  | processFinished
  | processFailed (failedToStart : Bool) (text : Text)
  | killTimerFired
  /-- From now on the process ends as soon as it is asked to, or not. -/
  | exitsAtOnce (b : Bool)
  | receive (l : Listener) (bs : Bytes)
  /-- One message of the server that is not lost, so that callers may say something before the
  next. -/
  | message (l : Listener) (m : Fields)

/-- Whether something begins the life of a server. -/
def Input.isStart : Input → Bool
  | start .. => true
  | _ => false

/-- What one input makes of a client. -/
def step (c : Client) : Input → Client
  | .start program arguments folder root => c.start program arguments folder root
  | .stop => c.stop
  | .request method params wantsError => (c.request method params wantsError).2
  | .notify method params => c.notify method params
  | .send d => (c.send d).2
  | .close uri => c.closeDocument uri
  | .processStarted => c.processStarted
  | .processFinished => c.finished
  | .processFailed failedToStart text => c.processFailed failedToStart text
  | .killTimerFired => c.killTimerFired
  | .exitsAtOnce b => { c with exitsAtOnce := b }
  | .receive l bs => (c.receive l bs).2
  | .message l m => (c.dispatch l m).2

/-- What becomes of a client. -/
def run (c : Client) (is : List Input) : Client := is.foldl step c

/-- What an input may be: a start needs that no process runs, callers leave the requests that begin
and end a session to the client, a process that has started was starting, and a listener has the
client say nothing when the server is ready. -/
def Proper (c : Client) : Input → Prop
  | .start .. => c.isRunning = false
  | .request method _ _ => isUrgent method = false
  | .processStarted => c.process = .starting
  | .receive l _ | .message l _ => l.documents = []
  | _ => True

/-- Whether all inputs of a run are proper. -/
def ProperRun : Client → List Input → Prop
  | _, [] => True
  | c, i :: is => c.Proper i ∧ ProperRun (c.step i) is

/-- The messages that an input asks the client to write. -/
def asks (c : Client) : Input → List Outgoing
  | .stop =>
    if c.process = .running ∧ c.session.initialized then
      [.request c.session.nextId "shutdown".toList (.obj [])]
    else []
  | .request method params _ => [.request c.session.nextId method (params.orElse (.obj []))]
  | .notify method params => [.notify method (params.orElse (.obj []))]
  | .send d => if d.uri = [] then [] else [updateOf c.session.versions d]
  | .close uri => if (c.version? uri).isSome then [.didClose uri] else []
  | _ => []

/-- The messages that the inputs of a run ask the client to write while there is a process. -/
def issued : Client → List Input → List Outgoing
  | _, [] => []
  | c, i :: is => c.accepted (c.asks i) ++ issued (c.step i) is

variable {R : List Outgoing → Versions → Prop} {uri : Text} {pre : List Outgoing} {n : Nat}
  {calls : List Outgoing} {c : Client}

/-! ## One step -/

theorem quiet_startKillTimer (c : Client) : Quiet c c.startKillTimer := by
  have htimer : Quiet c { c with killTimer := true } := .of_eq rfl rfl rfl rfl
  exact htimer.trans (quiet_emit (e := .timerStarted graceTime) rfl)

theorem asks_stop_eq_nil (h : c.process = .running → c.session.initialized = false) :
    c.asks .stop = [] := by
  refine if_neg ?_
  rintro ⟨hp, hi⟩
  rw [h hp] at hi
  exact Bool.noConfusion hi

theorem Holds.stop (hR : Lasting R) (h : Holds R pre n calls c) :
    Holds R pre n (calls ++ c.accepted (c.asks .stop)) c.stop := by
  have hstopping : Quiet c { c with stopping := true } := .of_eq rfl rfl rfl rfl
  have hquiet {c' : Client} (hn : c.process = .running → c.session.initialized = false)
      (hq : Quiet c c') : Holds R pre n (calls ++ c.accepted (c.asks .stop)) c' := by
    rw [asks_stop_eq_nil hn, accepted_nil, List.append_nil]
    exact h.quiet hq
  unfold Client.stop
  split
  · rename_i hp
    have hr : c.isRunning = false := by simp [isRunning, hp]
    exact hquiet (by simp [hp]) (.gone rfl rfl hr (.inr rfl))
  · rename_i hp
    exact hquiet (by simp [hp]) (hstopping.trans (quiet_kill _))
  · rename_i hp
    have hr : c.isRunning := by simp [isRunning, hp]
    dsimp only
    split
    · rename_i hi
      have hasks : c.asks .stop = [.request c.session.nextId "shutdown".toList (.obj [])] :=
        if_pos ⟨hp, hi⟩
      rw [hasks, accepted, if_pos hr]
      exact ((h.quiet hstopping).askShutdown hR hr hi).quiet (quiet_startKillTimer _)
    · rename_i hi
      exact hquiet (fun _ => by simpa using hi) (hstopping.trans (quiet_kill _))

theorem quiet_dispatch {l : Listener} (hl : l.documents = []) (m : Fields) (c : Client) :
    Quiet c (c.dispatch l m).2 := by
  rcases dispatch_cases l m c with hidle | ⟨id, -, result, -, -, heq⟩
  · exact hidle.toQuiet
  · rw [heq]
    exact (quiet_takeRequest id).trans (quiet_serverInitialized hl result)

theorem quiet_receive {l : Listener} (hl : l.documents = []) (bs : Bytes) (c : Client) :
    Quiet c (c.receive l bs).2 :=
  receive_induction (P := Quiet c) (fun _ _ h => h.trans (.of_eq rfl rfl rfl rfl))
    (fun _ m h => h.trans (quiet_dispatch hl m _)) bs (.refl c)

theorem Holds.step (hR : Lasting R) (h : Holds R pre n calls c) {i : Input} (hp : c.Proper i)
    (hs : i.isStart = false) :
    Holds R pre n (calls ++ c.accepted (c.asks i)) (c.step i) := by
  have hquiet {c' : Client} (hq : Quiet c c') :
      Holds R pre n (calls ++ c.accepted []) c' := by
    rw [accepted_nil, List.append_nil]
    exact h.quiet hq
  cases i with
  | start => simp [Input.isStart] at hs
  | stop => exact h.stop hR
  | request method params wantsError => exact h.request hR hp params wantsError
  | notify method params => exact h.notify hR method params
  | send d =>
    simp only [asks, Client.step]
    by_cases hd : d.uri = []
    · have hsend : (c.send d).2 = c := by rw [Client.send, if_pos (by simpa using hd)]
      rw [if_pos hd, hsend]
      exact hquiet (.refl c)
    · rw [if_neg hd]
      exact h.send hR hd
  | close uri =>
    simp only [asks, Client.step]
    cases hv : c.version? uri with
    | none =>
      rw [closeDocument, hv]
      exact hquiet (.refl c)
    | some v => exact h.close hR hv
  | processStarted => exact hquiet (quiet_processStarted hp)
  | processFinished => exact hquiet (quiet_finished c)
  | processFailed failedToStart text => exact hquiet (quiet_processFailed c failedToStart text)
  | killTimerFired => exact hquiet (quiet_killTimerFired c)
  | exitsAtOnce b => exact hquiet (.of_eq rfl rfl rfl rfl)
  | receive l bs => exact hquiet (quiet_receive hp bs c)
  | message l m => exact hquiet (quiet_dispatch hp m c)

theorem Sound.step (h : Sound uri pre n calls c) {i : Input} (hp : c.Proper i)
    (hs : i.isStart = false) : Sound uri pre n (calls ++ c.accepted (c.asks i)) (c.step i) :=
  sound_iff_holds.2 ((sound_iff_holds.1 h).step (lasting_tracks uri) hp hs)

/-! ## One life -/

theorem Sound.run {is : List Input} (h : Sound uri pre n calls c) (hp : ProperRun c is)
    (hs : ∀ i ∈ is, i.isStart = false) :
    Sound uri pre n (calls ++ issued c is) (c.run is) := by
  induction is generalizing c calls with
  | nil => exact (List.append_nil calls).symm ▸ h
  | cons i is ih =>
    have hstep := h.step hp.1 (hs i List.mem_cons_self)
    have hrest := ih hstep hp.2 fun j hj => hs j (List.mem_cons_of_mem i hj)
    rwa [List.append_assoc] at hrest

theorem launch_eq (hr : c.isRunning = false) (arguments : List Text) :
    c.launch arguments =
      { c with process := .starting }.emit (.launched c.program arguments) := by
  rw [launch, if_neg (by simp [hr])]

/-- A process is launched in a new session, and nothing is written. -/
theorem start_spec (hr : c.isRunning = false) (program : Text) (arguments : List Text)
    (folder : Option Text) (root : Text) :
    ∃ c₀ : Client, c.start program arguments folder root =
        { c₀ with process := .starting }.emit (.launched c₀.program arguments) ∧
      c₀.session = {} ∧ c₀.writesFail = c.writesFail ∧
      ∃ es, writes es = [] ∧ c₀.log = c.log ++ es := by
  have hstop : c.stop = c.beginSession := by
    have hp : c.process = .notRunning := by simpa [isRunning] using hr
    unfold Client.stop
    split <;> simp_all
  let c₀ := { c with
    program := Text.strip program
    root := Text.strip root
    serverName := Path.baseName (Text.strip program) }.beginSession
  unfold Client.start
  rw [hstop]
  cases folder with
  | none =>
    exact ⟨c₀, launch_eq (c := c₀) hr arguments, rfl, rfl, [], rfl, (List.append_nil _).symm⟩
  | some path =>
    exact ⟨c₀.emit (.workingFolder path), launch_eq (c := c₀.emit (.workingFolder path)) hr arguments,
      rfl, rfl, [.workingFolder path], rfl, rfl⟩

/-- A life begins with nothing said. -/
theorem sound_start (hr : c.isRunning = false) (hw : c.writesFail = false) (uri : Text)
    (program : Text) (arguments : List Text) (folder : Option Text) (root : Text) :
    Sound uri [] c.log.length [] (c.start program arguments folder root) := by
  obtain ⟨c₀, hstart, hsession, hfail, es, hes, hlog⟩ :=
    start_spec hr program arguments folder root
  rw [hstart]
  have hbegun : c.log.length ≤ c₀.log.length := by simp [hlog]
  have hnothing : written [] c.log.length
      ({ c₀ with process := .starting }.emit (.launched c₀.program arguments)) = [] := by
    refine (written_emit_of_none (c := { c₀ with process := .starting }) hbegun rfl).trans ?_
    simp [written, hlog, hes]
  refine ⟨⟨le_length_emit hbegun _, hfail.trans hw, by simp, ?_, ?_, ?_⟩, ⟨[], List.nil_prefix⟩, ?_⟩
  · intro _ r hmem
    have hnil : c₀.session.requests = [] := by rw [hsession]
    exact absurd (hnil ▸ hmem : r ∈ []) List.not_mem_nil
  · rw [hnothing]
    exact Nat.zero_le _
  · rw [hnothing]
    show Told c₀.session.backlog [] [] true c₀.session.initialized
    rw [hsession]
    exact ⟨fun m hm => absurd hm List.not_mem_nil, rfl⟩
  · intro _
    show Tracks uri [] c₀.session.versions
    rw [hsession]
    rfl

/-- Whatever a client has been through, what was said in the last life is sound. -/
theorem exists_sound (uri : Text) {is : List Input} (h : Sound uri pre n calls c)
    (hp : ProperRun c is) : ∃ pre n calls, Sound uri pre n calls (c.run is) := by
  induction is generalizing c pre n calls with
  | nil => exact ⟨pre, n, calls, h⟩
  | cons i is ih =>
    cases hs : i.isStart with
    | false => exact ih (h.step hp.1 hs) hp.2
    | true =>
      cases i with
      | start program arguments folder root =>
        -- a new life begins, and what was said before is not counted in it
        exact ih (sound_start hp.1 h.kept.writable uri program arguments folder root) hp.2
      | _ => simp [Input.isStart] at hs

theorem sound_new (uri : Text) (processId : Nat) : Sound uri [] 0 [] { processId } :=
  ⟨kept_fresh rfl rfl rfl, ⟨[], List.nil_prefix⟩, fun _ => rfl⟩

theorem properRun_append {is js : List Input} :
    ProperRun c (is ++ js) ↔ ProperRun c is ∧ ProperRun (c.run is) js := by
  induction is generalizing c with
  | nil => simp [ProperRun, run]
  | cons i is ih =>
    simp only [List.cons_append, ProperRun, ih, and_assoc]
    rfl

/-! ## What a life says -/

variable {ms : List Outgoing}

theorem takeWhile_of_opened {opening rest : List Outgoing} (h : Unopened opening) :
    (opening ++ .initialized :: rest).takeWhile (!·.isInitialized) = opening := by
  rw [List.takeWhile_append_of_pos fun m hm => by
    rw [Outgoing.isInitialized_of_isOpening (h m hm)]
    rfl]
  rw [List.takeWhile_cons_of_neg (by simp [Outgoing.isInitialized]), List.append_nil]

/-- Before the news the server hears only what opens the session. -/
theorem unopened_takeWhile (h : Unopened ms ∨ Opened ms calls) :
    Unopened (ms.takeWhile (!·.isInitialized)) := by
  rcases h with hu | ⟨opening, rest, rfl, ho, -⟩
  · exact fun m hm => hu m (List.takeWhile_subset _ hm)
  · rw [takeWhile_of_opened ho]
    exact ho

theorem Unopened.filter_isCall (h : Unopened ms) : ms.filter (·.isCall) = [] := by
  rw [List.filter_eq_nil_iff]
  intro m hm
  rw [Outgoing.isCall_of_isOpening (h m hm)]
  exact Bool.false_ne_true

theorem Opened.filter_isCall (h : Opened ms calls) : ms.filter (·.isCall) = calls := by
  obtain ⟨opening, rest, rfl, ho, rfl⟩ := h
  rw [List.filter_append, ho.filter_isCall, List.nil_append,
    List.filter_cons_of_neg (by simp [Outgoing.isCall])]

theorem prefix_filter_isCall (h : Unopened ms ∨ Opened ms calls) :
    ms.filter (·.isCall) <+: calls := by
  rcases h with hu | ho
  · exact hu.filter_isCall ▸ List.nil_prefix
  · exact ho.filter_isCall ▸ List.prefix_rfl

/-- Only calls tell of documents. -/
theorem syncs_filter_isCall (uri : Text) (ms : List Outgoing) :
    syncs uri (ms.filter (·.isCall)) = syncs uri ms := by
  rw [syncs, syncs, List.filterMap_filter]
  congr 1
  funext m
  cases m <;> rfl

/-- A client that is ready has written what callers said. -/
theorem Kept.filter_isCall (h : Kept pre n calls c) (hr : c.isRunning)
    (hi : c.session.initialized) : (written pre n c).filter (·.isCall) = calls := by
  have htold := h.told
  rw [hr, hi] at htold
  exact htold.1.filter_isCall

theorem Sound.inCycles (h : Sound uri pre n calls c) :
    Sync.InCycles (syncs uri (written pre n c)) := by
  rw [← syncs_filter_isCall]
  exact h.cycles.of_prefix (prefix_syncs uri (prefix_filter_isCall h.kept.told.isOver))

theorem eq_notify_of_mem_asks {method : Text} {params : Value} {i : Input}
    (h : .notify method params ∈ c.asks i) : ∃ params, i = .notify method params := by
  have hnone {m : Outgoing} {p : Prop} [Decidable p] (hm : .notify method params ≠ m) :
      .notify method params ∉ (if p then [m] else []) := by
    split
    · exact fun hmem => hm (List.mem_singleton.1 hmem)
    · exact List.not_mem_nil
  unfold asks at h
  split at h
  · exact absurd h (hnone Outgoing.noConfusion)
  · exact absurd (List.mem_singleton.1 h) Outgoing.noConfusion
  · rename_i method' params'
    obtain ⟨rfl, -⟩ := Outgoing.notify.inj (List.mem_singleton.1 h)
    exact ⟨params', rfl⟩
  · rename_i d
    rw [← ite_not] at h
    refine absurd h (hnone ?_)
    unfold updateOf
    split <;> exact Outgoing.noConfusion
  · exact absurd h (hnone Outgoing.noConfusion)
  · exact absurd h List.not_mem_nil

theorem notify_mem_of_mem_issued {method : Text} {params : Value} {is : List Input}
    (h : .notify method params ∈ issued c is) : ∃ params, .notify method params ∈ is := by
  induction is generalizing c with
  | nil => exact absurd h List.not_mem_nil
  | cons i is ih =>
    rcases List.mem_append.1 h with h | h
    · unfold accepted at h
      split at h
      · obtain ⟨params, rfl⟩ := eq_notify_of_mem_asks h
        exact ⟨params, List.mem_cons_self⟩
      · exact absurd h List.not_mem_nil
    · obtain ⟨params, hmem⟩ := ih h
      exact ⟨params, List.mem_cons_of_mem i hmem⟩

/-- A server reads in what was written just what the client tells, unless a caller has used the
methods of the client. -/
theorem ofValue?_toValue_of_prefix {is : List Input} (uri : Text)
    (h : ms.filter (·.isCall) <+: issued c is)
    (hmethods : ∀ method params, .notify method params ∈ is → method ∉ syncMethods) :
    (ms.map (·.toValue)).filterMap (Sync.ofValue? uri) = syncs uri ms := by
  rw [syncs, List.filterMap_map]
  refine List.filterMap_congr fun m hm => ?_
  refine Sync.ofValue?_toValue uri fun method params heq => ?_
  subst heq
  obtain ⟨params, hmem⟩ :=
    notify_mem_of_mem_issued (h.subset (List.mem_filter.2 ⟨hm, rfl⟩))
  exact hmethods method params hmem

/-- The version in a message that opens or changes a document. -/
def Outgoing.version? : Outgoing → Option Nat
  | .didOpen _ _ version _ => some version
  | .didChange _ version _ => some version
  | _ => none

theorem asks_send (c : Client) {d : Document} (hd : d.uri ≠ []) :
    ∃ m, c.asks (.send d) = [m] ∧ m.version? = some (c.send d).1 := by
  refine ⟨updateOf c.session.versions d, if_neg hd, ?_⟩
  rw [send_eq c hd, nextVersion, updateOf]
  cases c.session.versions.lookup d.uri <;> rfl

/-- What one life of a server says, whatever was before.  Until the server is told that it is
initialized it hears only that it is asked to initialize itself, at most once, and refusals of its
requests.  What callers ask for while there is a process is written afterwards, in their order and
nothing twice, and nothing is missing when the client is ready.  Of each document the server hears
that it is opened, changed and closed, over and over, and it reads so unless a caller uses the
methods of the client; who opens or changes a document is told its version in the message. -/
theorem run_life (processId : Nat) {before life : List Input} {program root : Text}
    {arguments : List Text} {folder : Option Text}
    (hp : ProperRun { processId } (before ++ .start program arguments folder root :: life))
    (hs : ∀ i ∈ life, i.isStart = false) :
    let c : Client := run { processId } before
    let now := c.run (.start program arguments folder root :: life)
    let ms := writes (now.log.drop c.log.length)
    let calls := c.issued (.start program arguments folder root :: life)
    (Unopened (ms.takeWhile (!·.isInitialized)) ∧ ms.countP (·.isInitializeRequest) ≤ 1) ∧
    (ms.filter (·.isCall) <+: calls ∧ (now.isReady → ms.filter (·.isCall) = calls)) ∧
    (∀ uri, Sync.InCycles (syncs uri ms)) ∧
    ((∀ method params, .notify method params ∈ life → method ∉ syncMethods) →
      ∀ uri, (ms.map (·.toValue)).filterMap (Sync.ofValue? uri) = syncs uri ms) ∧
    ∀ d, d.uri ≠ [] → ∃ m, now.asks (.send d) = [m] ∧ m.version? = some (now.send d).1 := by
  intro c now ms calls
  obtain ⟨hbefore, hstart, hlife⟩ := properRun_append.1 hp
  have hsound (uri : Text) : Sound uri [] c.log.length calls now := by
    obtain ⟨_, _, _, h⟩ := exists_sound uri (sound_new uri processId) hbefore
    have hrun := (sound_start hstart h.kept.writable uri program arguments folder root).run hlife hs
    have hcalls : calls = [] ++ issued (c.start program arguments folder root) life := by
      show c.accepted [] ++ _ = _
      rw [accepted_nil]
      rfl
    exact hcalls ▸ hrun
  have hkept := (hsound []).kept
  have hfirst := prefix_filter_isCall hkept.told.isOver
  refine ⟨⟨unopened_takeWhile hkept.told.isOver, ?_⟩, ⟨hfirst, fun hready => ?_⟩,
    fun uri => (hsound uri).inCycles, fun hmethods uri => ?_, fun d hd => asks_send now hd⟩
  · exact Nat.le_trans hkept.asked (by split <;> decide)
  · obtain ⟨hr, hi⟩ := (Bool.and_eq_true _ _).mp hready
    exact hkept.filter_isCall hr hi
  · refine ofValue?_toValue_of_prefix uri hfirst fun method params hmem => ?_
    rcases List.mem_cons.1 hmem with heq | hmem
    · exact Input.noConfusion heq
    · exact hmethods method params hmem

/-- A document that is opened while the process starts is opened on the server as soon as the
server has answered. -/
theorem run_life_heldDocument :
    let d : Document := ⟨['a'], ['b'], ['c']⟩
    let answer : Fields := [("id".toList, .int 1), ("result".toList, .obj [])]
    let life : List Input := [.send d, .processStarted, .message {} answer]
    let now := run { processId := 7 } (.start ['p'] [] none [] :: life)
    ProperRun { processId := 7 } ([] ++ .start ['p'] [] none [] :: life) ∧
      (∀ i ∈ life, i.isStart = false) ∧ now.isReady ∧
      (writes now.log).filter (·.isCall) = [.didOpen ['a'] ['b'] 1 ['c']] := by
  intro d answer life now
  have hp : ProperRun { processId := 7 } ([] ++ .start ['p'] [] none [] :: life) :=
    ⟨rfl, trivial, rfl, rfl, trivial⟩
  have hs : ∀ i ∈ life, i.isStart = false := by simp [life, Input.isStart]
  have hready : now.isReady := by decide +kernel
  obtain ⟨-, ⟨-, hall⟩, -⟩ := @run_life 7 [] _ _ _ _ _ hp hs
  exact ⟨hp, hs, hready, hall hready⟩

end Legible.Client
