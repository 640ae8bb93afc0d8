import Legible.Proofs.Client.Life

/-!
# When the server has been initialized

A server that has been initialized is told so first.  Then the documents of the listener are opened
or changed, and then what was held back is written (`serverInitialized_eq`).  So what the listener
has the client say goes *before* what callers said earlier (`Kept.serverInitialized`): the order of
calls is the order of writing only for a listener without documents.

Every other message of the server is quiet (`dispatch_cases`).
-/

namespace Legible.Client

variable {pre : List Outgoing} {n : Nat} {calls : List Outgoing} {c c' : Client}

/-! ## Writing several messages -/

theorem accepted_append (c : Client) (as bs : List Outgoing) :
    c.accepted (as ++ bs) = c.accepted as ++ c.accepted bs := by
  unfold accepted
  split <;> rfl

theorem accepted_congr (h : c'.process = c.process) (ms : List Outgoing) :
    c'.accepted ms = c.accepted ms := by
  rw [accepted, isRunning_congr h, accepted]

/-- The client with some messages written. -/
def writeAll (ms : List Outgoing) (c : Client) : Client :=
  { c with log := c.log ++ (c.accepted ms).map .wrote }

theorem writeAll_nil (c : Client) : c.writeAll [] = c := by
  simp [writeAll]

theorem writeAll_append (as bs : List Outgoing) (c : Client) :
    c.writeAll (as ++ bs) = (c.writeAll as).writeAll bs := by
  simp only [writeAll, accepted_append, List.map_append, List.append_assoc]
  rfl

theorem write_eq (hw : c.writesFail = false) (m : Outgoing) : c.write m = c.writeAll [m] := by
  cases hr : c.isRunning with
  | true => simp [write, hw, hr, writeAll, accepted, emit]
  | false => simp [write, hr, writeAll, accepted]

theorem foldl_write (hw : c.writesFail = false) (ms : List Outgoing) :
    ms.foldl (fun c m => c.write m) c = c.writeAll ms := by
  induction ms generalizing c with
  | nil => exact (writeAll_nil c).symm
  | cons m ms ih =>
    have hw' : (c.writeAll [m]).writesFail = false := hw
    rw [List.foldl_cons, write_eq hw, ih hw', ← writeAll_append]
    rfl

theorem post_eq (hw : c.writesFail = false) (hi : c.session.initialized) (m : Outgoing) :
    c.post m = c.writeAll [m] := by
  rw [← write_eq hw, post, if_pos hi]
  split
  · rfl
  · rename_i hr
    rw [write, if_neg hr]

theorem sendAll_eq (hw : c.writesFail = false) (hi : c.session.initialized) (ds : List Document) :
    c.sendAll ds =
      (c.mapSession fun s => { s with versions := versionsAfter s.versions ds }).writeAll
        (updatesOf c.session.versions ds) := by
  induction ds generalizing c with
  | nil => exact (writeAll_nil c).symm
  | cons d ds ih =>
    rw [sendAll, List.foldl_cons, ← sendAll]
    by_cases hd : d.uri = []
    · have hsend : (c.send d).2 = c := by rw [send, if_pos (by simpa using hd)]
      rw [hsend, ih hw hi]
      rw [updatesOf, if_pos hd]
      simp only [versionsAfter, if_pos hd]
    · obtain ⟨c₁, hc₁⟩ : ∃ c₁ : Client,
          c₁ = c.withVersion d.uri (nextVersion c.session.versions d.uri) := ⟨_, rfl⟩
      have hw₁ : c₁.writesFail = false := hc₁ ▸ hw
      have hi₁ : c₁.session.initialized := hc₁ ▸ hi
      have hsend : (c.send d).2 = c₁.writeAll [updateOf c.session.versions d] := by
        rw [send_eq c hd, ← hc₁]
        exact post_eq hw₁ hi₁ _
      have hrest := ih (c := c₁.writeAll [updateOf c.session.versions d]) hw₁ hi₁
      rw [hsend, hrest, updatesOf_cons _ hd, writeAll_append, hc₁]
      simp only [versionsAfter_cons _ hd]
      rfl

theorem releaseBacklog_eq (hw : c.writesFail = false) :
    c.releaseBacklog =
      (c.mapSession fun s => { s with backlog := [] }).writeAll c.session.backlog :=
  foldl_write (c := c.mapSession fun s => { s with backlog := [] }) hw _

/-! ## The news -/

/-- What is written when the server has been initialized, in order, and what becomes of the
session. -/
structure Opens (l : Listener) (c c' : Client) : Prop where
  process : c'.process = c.process
  writable : c'.writesFail = c.writesFail
  initialized : c'.session.initialized
  backlog : c'.session.backlog = []
  versions : c'.session.versions = versionsAfter c.session.versions l.documents
  log : c'.log = c.log ++ (c.accepted [.initialized]).map .wrote ++ [.ready] ++
    (c.accepted (updatesOf c.session.versions l.documents ++ c.session.backlog)).map .wrote

/-- What is said once the session is known to be initialized. -/
theorem opens_of_initialized (hw : c.writesFail = false) (hi : c.session.initialized)
    (l : Listener) :
    Opens l c (((c.write .initialized).emit .ready).sendAll l.documents).releaseBacklog := by
  -- of each stage only what the next one reads is stated
  obtain ⟨c₁, hc₁⟩ : ∃ c₁, c₁ = (c.writeAll [.initialized]).emit .ready := ⟨_, rfl⟩
  have hp₁ : c₁.process = c.process := hc₁ ▸ rfl
  have hs₁ : c₁.session = c.session := hc₁ ▸ rfl
  have hw₁ : c₁.writesFail = c.writesFail := hc₁ ▸ rfl
  obtain ⟨c₂, hc₂⟩ : ∃ c₂, c₂ = c₁.sendAll l.documents := ⟨_, rfl⟩
  have hsend := hc₂.trans (sendAll_eq (hw₁.trans hw) (hs₁ ▸ hi) l.documents)
  have hp₂ : c₂.process = c₁.process := hsend ▸ rfl
  have hs₂ : c₂.session =
      { c₁.session with versions := versionsAfter c₁.session.versions l.documents } := hsend ▸ rfl
  have hw₂ : c₂.writesFail = c₁.writesFail := hsend ▸ rfl
  rw [write_eq hw, ← hc₁, ← hc₂, releaseBacklog_eq (hw₂.trans (hw₁.trans hw))]
  constructor
  case process => exact hp₂.trans hp₁
  case writable => exact hw₂.trans hw₁
  case initialized =>
    show c₂.session.initialized
    rw [hs₂]
    exact hs₁ ▸ hi
  case backlog => rfl
  case versions =>
    show c₂.session.versions = _
    rw [hs₂, hs₁]
  case log =>
    have hlog₁ : c₁.log = c.log ++ (c.accepted [.initialized]).map .wrote ++ [.ready] := hc₁ ▸ rfl
    have hlog₂ : c₂.log =
        c₁.log ++ (c₁.accepted (updatesOf c₁.session.versions l.documents)).map .wrote :=
      hsend ▸ rfl
    have hbacklog : c₂.session.backlog = c.session.backlog := by rw [hs₂, hs₁]
    show c₂.log ++ (c₂.accepted c₂.session.backlog).map .wrote = _
    rw [hlog₂, hlog₁, hbacklog, hs₁, accepted_congr (hp₂.trans hp₁), accepted_congr hp₁,
      accepted_append, List.map_append, List.append_assoc]

/-- Before anything is said the session is known to be initialized, and the server may have told
its name. -/
theorem serverInitialized_eq (l : Listener) (result : Value) (c : Client) :
    ∃ name capabilities, c.serverInitialized l result =
      ((((mapSession (fun s => { s with initialized := true, capabilities })
        { c with serverName := name }).write .initialized).emit .ready).sendAll
          l.documents).releaseBacklog := by
  unfold serverInitialized
  dsimp only
  split
  · exact ⟨c.serverName, _, rfl⟩
  · exact ⟨_, _, rfl⟩

theorem serverInitialized_opens (hw : c.writesFail = false) (l : Listener) (result : Value) :
    Opens l c (c.serverInitialized l result) := by
  obtain ⟨name, capabilities, heq⟩ := serverInitialized_eq l result c
  obtain ⟨process, writable, initialized, backlog, versions, log⟩ :=
    opens_of_initialized (c := mapSession (fun s => { s with initialized := true, capabilities })
      { c with serverName := name }) hw rfl l
  rw [heq]
  exact ⟨process, writable, initialized, backlog, versions, log⟩

/-- The messages of callers once the server has been initialized, where the listener has some
messages said. -/
def reopened (c : Client) (ms calls : List Outgoing) : List Outgoing :=
  if c.session.initialized then calls ++ c.accepted ms else c.accepted ms ++ calls

theorem reopened_nil (c : Client) (calls : List Outgoing) : c.reopened [] calls = calls := by
  simp [reopened]

variable {held ms more : List Outgoing}

theorem filter_isCall (h : ∀ m ∈ ms, m.isCall) : ms.filter (·.isCall) = ms :=
  List.filter_eq_self.2 h

theorem Told.held_isCall {initialized : Bool} (h : Told held ms calls true initialized)
    (hs : ∀ m ∈ calls, m.isCall) : ∀ m ∈ held, m.isCall := by
  cases initialized with
  | false => exact h.2 ▸ hs
  | true =>
    rw [h.2]
    intro m hm
    simp at hm

/-- What has been told after the news, the messages of the listener, and what was held back. -/
theorem Told.opens {running initialized : Bool} (h : Told held ms calls running initialized)
    (hs : ∀ m ∈ calls, m.isCall) (hmore : ∀ m ∈ more, m.isCall) :
    Told [] (ms ++ if running then .initialized :: (more ++ held) else [])
      (if initialized then calls ++ (if running then more else [])
        else (if running then more else []) ++ calls) running true := by
  have hfilter := filter_isCall hmore
  cases running with
  | false =>
    have hover := h.isOver
    cases initialized <;> simpa [Told] using hover
  | true =>
    cases initialized with
    | false =>
      obtain ⟨hu, rfl⟩ := h
      refine ⟨⟨ms, _, rfl, hu, ?_⟩, rfl⟩
      rw [List.filter_append, hfilter, filter_isCall hs]
      rfl
    | true =>
      obtain ⟨ho, rfl⟩ := h
      have hafter := ho.append (.initialized :: more)
      rw [List.filter_cons_of_neg (by simp [Outgoing.isCall]), hfilter] at hafter
      exact ⟨(List.append_nil more).symm ▸ hafter, rfl⟩

theorem isCall_of_mem_accepted (c : Client) (h : ∀ m ∈ ms, m.isCall) :
    ∀ m ∈ c.accepted ms, m.isCall := by
  unfold accepted
  split
  · exact h
  · exact fun _ hm => absurd hm List.not_mem_nil

/-- The server is not asked once more to initialize itself. -/
theorem Kept.countP_news (h : Kept pre n calls c) (hmore : ∀ m ∈ more, m.isCall) :
    (c.accepted (.initialized :: (more ++ c.session.backlog))).countP
      (·.isInitializeRequest) = 0 := by
  have htold := h.told
  rw [List.countP_eq_zero]
  intro m hm
  unfold accepted at hm
  split at hm
  · rename_i hr
    rw [hr] at htold
    rcases List.mem_cons.1 hm with rfl | hm
    · exact Bool.false_ne_true
    · have hcall := said_append hmore (htold.held_isCall h.said) m hm
      rw [Outgoing.isInitializeRequest_of_isCall hcall]
      exact Bool.false_ne_true
  · exact absurd hm List.not_mem_nil

/-- The messages that are written with the news. -/
theorem Opens.written {l : Listener} (h : Opens l c c') (hn : n ≤ c.log.length) :
    written pre n c' = written pre n c ++ c.accepted
      (.initialized :: (updatesOf c.session.versions l.documents ++ c.session.backlog)) := by
  have hnews (ms : List Outgoing) :
      c.accepted (.initialized :: ms) = c.accepted [.initialized] ++ c.accepted ms :=
    accepted_append c [.initialized] ms
  rw [hnews, Client.written, h.log, List.append_assoc, List.append_assoc,
    List.drop_append_of_le_length hn]
  simp only [writes_append, writes_map_wrote]
  rw [← List.append_assoc]
  rfl

theorem Kept.opens (h : Kept pre n calls c) {l : Listener} (ho : Opens l c c') :
    Kept pre n (c.reopened (updatesOf c.session.versions l.documents) calls) c' := by
  have hbegun : n ≤ c'.log.length := by
    rw [ho.log, List.append_assoc, List.append_assoc, List.length_append]
    exact Nat.le_add_right_of_le h.begun
  have hshutdown : c'.session.initialized = false → ∀ r ∈ c'.session.requests,
      r.2.purpose ≠ .shutdown := by
    rw [ho.initialized]
    exact Bool.noConfusion
  have hw := @Opens.written pre n c c' l ho h.begun
  obtain ⟨more, hdef⟩ : ∃ more, more = updatesOf c.session.versions l.documents := ⟨_, rfl⟩
  have hmore : ∀ m ∈ more, m.isCall := hdef ▸ isCall_of_mem_updatesOf _ _
  rw [← hdef] at hw ⊢
  have hnone := h.countP_news hmore
  refine ⟨hbegun, ho.writable.trans h.writable, ?_, hshutdown, ?_, ?_⟩
  · unfold reopened
    split
    · exact said_append h.said (isCall_of_mem_accepted c hmore)
    · exact said_append (isCall_of_mem_accepted c hmore) h.said
  · rw [hw, ho.process, List.countP_append, hnone]
    exact h.asked
  · rw [hw, isRunning_congr ho.process, ho.initialized, ho.backlog]
    exact h.told.opens h.said hmore

/-- For a listener without documents nothing is said with the news. -/
theorem quiet_serverInitialized {l : Listener} (hl : l.documents = []) (result : Value) :
    Quiet c (c.serverInitialized l result) where
  kept hk := by
    have hopens := hk.opens (serverInitialized_opens hk.writable l result)
    rwa [hl, updatesOf, reopened_nil] at hopens
  versions hk hr := by
    have ho := serverInitialized_opens hk.writable l result
    refine ⟨isRunning_congr ho.process ▸ hr, ?_⟩
    rw [ho.versions, hl, versionsAfter]

/-! ## Messages of the server -/

/-- A quiet step that changes neither the process nor whether the server is initialized. -/
structure Idle (c c' : Client) : Prop extends Quiet c c' where
  process : c'.process = c.process
  initialized : c'.session.initialized = c.session.initialized

theorem Idle.refl (c : Client) : Idle c c := ⟨.refl c, rfl, rfl⟩

theorem idle_emit {e : Event} (he : e.wrote? = none) : Idle c (c.emit e) :=
  ⟨quiet_emit he, rfl, rfl⟩

theorem idle_takeRequest (id : Nat) : Idle c (c.takeRequest id) := ⟨quiet_takeRequest id, rfl, rfl⟩

theorem Idle.trans {c₁ c₂ c₃ : Client} (h : Idle c₁ c₂) (h' : Idle c₂ c₃) : Idle c₁ c₃ :=
  ⟨h.toQuiet.trans h'.toQuiet, h'.process.trans h.process, h'.initialized.trans h.initialized⟩

theorem Idle.write {m : Outgoing} (hi : Idle c c') (hq : Quiet c (c'.write m)) :
    Idle c (c'.write m) := by
  obtain ⟨hp, hs⟩ := write_frame m c'
  exact ⟨hq, hp.trans hi.process, (congrArg Session.initialized hs).trans hi.initialized⟩

/-- The server is told to exit where it was asked to shut down, so it has been initialized. -/
theorem idle_sendExit {id : Nat} {r : Request} (hr : (id, r) ∈ c.session.requests)
    (hp : r.purpose = .shutdown) : Idle c (c.takeRequest id).sendExit := by
  refine (idle_takeRequest id).write ((quiet_takeRequest id).write fun hk => ?_)
  have hi : c.session.initialized := by
    cases hi : c.session.initialized with
    | true => rfl
    | false => exact absurd hp (hk.noShutdown hi _ hr)
  have hkept := ((quiet_takeRequest id).kept hk).write (m := .exit) rfl hi
  rwa [List.filter_cons_of_neg Bool.false_ne_true, List.filter_nil, accepted_nil,
    List.append_nil] at hkept

theorem answered_cases (l : Listener) (k : Int) (message : Fields) (c : Client) :
    Idle c (c.answered l k message) ∨ ∃ id r result, (id, r) ∈ c.session.requests ∧
      r.purpose = .initialization ∧
      c.answered l k message = (c.takeRequest id).serverInitialized l result := by
  cases k with
  | negSucc k => exact .inl (.refl c)
  | ofNat id =>
    unfold answered
    dsimp only
    cases hlook : c.session.requests.lookup id with
    | none => exact .inl (.refl c)
    | some r =>
      obtain ⟨as, bs, hsplit, -⟩ := List.lookup_eq_some_iff.1 hlook
      have hr : (id, r) ∈ c.session.requests := by simp [hsplit]
      have htaken : Idle c (c.takeRequest id) := idle_takeRequest id
      have hsaid {e : Event} (he : e.wrote? = none) : Idle c ((c.takeRequest id).emit e) :=
        htaken.trans (idle_emit he)
      dsimp only
      split
      · refine .inl ?_
        cases hp : r.purpose with
        | initialization => exact hsaid rfl
        | shutdown => exact idle_sendExit hr hp
        | caller wantsError =>
          cases wantsError with
          | true => exact hsaid rfl
          | false => exact htaken
      · cases hp : r.purpose with
        | initialization => exact .inr ⟨id, r, _, hr, hp, rfl⟩
        | shutdown => exact .inl (idle_sendExit hr hp)
        | caller wantsError => exact .inl (hsaid rfl)

/-- The client makes little of a message unless it is the answer that the server has been
initialized. -/
theorem dispatch_cases (l : Listener) (message : Fields) (c : Client) :
    Idle c (c.dispatch l message).2 ∨ ∃ id r result, (id, r) ∈ c.session.requests ∧
      r.purpose = .initialization ∧
      (c.dispatch l message).2 = (c.takeRequest id).serverInitialized l result := by
  unfold dispatch
  dsimp only
  split
  · split
    · split
      · exact answered_cases l _ message c
      · exact .inl (.refl c)
      · exact .inl (.refl c)
    · exact .inl ((Idle.refl c).write (quiet_refusal _ _))
  · split
    · exact .inl (.refl c)
    · exact .inl (idle_emit rfl)

/-! ## Messages one after the other -/

theorem receive_snd (l : Listener) (bs : Bytes) (c : Client) :
    (c.receive l bs).2 = (c.read l bs).2 := by
  unfold receive
  rcases c.read l bs with ⟨⟨_ | _ | _ | _⟩ | _, c'⟩ <;> rfl

theorem hear_snd (l : Listener) (m : Frame.Incoming) (c : Client) :
    (c.hear l m).2 = if (c.lossOf? m).isSome then c else (c.dispatch l m.fields).2 := by
  unfold hear
  cases c.lossOf? m <;> rfl

/-- What a property that messages keep says of a client that has received octets. -/
theorem receive_induction {P : Client → Prop} {l : Listener}
    (hreader : ∀ c reader, P c → P { c with reader })
    (hdispatch : ∀ c message, P c → P (c.dispatch l message).2) (bs : Bytes) (h : P c) :
    P (c.receive l bs).2 := by
  have hhear (m : Frame.Incoming) (c : Client) (h : P c) : P (c.hear l m).2 := by
    rw [hear_snd]
    split
    · exact h
    · exact hdispatch c m.fields h
  have hall (ms : List Frame.Incoming) : ∀ c, P c → P (hearAll l ms c).2 := by
    induction ms with
    | nil => exact fun c h => h
    | cons m ms ih =>
      intro c h
      have hstep := hhear m c h
      unfold hearAll
      split
      · rename_i heq
        rw [heq] at hstep
        exact ih _ hstep
      · exact hstep
  rw [receive_snd, read]
  rcases c.reader.read c.bodyDepth bs with ⟨_ | messages, reader⟩
  · exact hreader c reader h
  · exact hall messages _ (hreader c reader h)

end Legible.Client
