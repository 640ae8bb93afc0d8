import Legible.Proofs.Workspace.Serving

/-!
# Texts on the server

A workspace holds the latest text of each open document.  The server keeps a copy of it from what is
written to its process (`copy?`): the text is sent when the document is opened, when the timer of the
document fires after a change, and when a new server has been initialized.

When the client is ready and no timer runs, the server has a copy of each open document, and it is
the text that the document was given last, with one exception.  Where a changed document is opened
once more before its timer fires, the text of the change still waits, and it is sent after the newer
one (`outdates`).  The server then has the older text until the document is given another, or
another server is launched (`copy?_eq_given_iff`).
-/

namespace Legible.Workspace

open Client (Steady)

/-- The text that an input gives a document. -/
def gives (path : Text) (w : Workspace) : Input → Option Text
  | .openDocument file text | .changeDocument file text =>
    if w.resolve file = path then some text else none
  | _ => none

instance (w : Workspace) : (i : Input) → Decidable (w.Launches i)
  | .openDocument .. => inferInstanceAs (Decidable (_ ∧ _))
  | .changeDocument .. | .closeDocument .. | .timerFired .. | .shutdown | .notification ..
  | .processStarted | .processFinished | .processFailed .. | .killTimerFired | .exitsAtOnce ..
  | .receive .. | .message .. => .isFalse id

/-- Whether an input leaves the server with an old text of a document, if it matters for that: the
timer of the document fires while another text waits than its latest.  A new text makes up for it,
and so does another server. -/
def outdates (path : Text) (w : Workspace) : Input → Option Bool
  | .timerFired p =>
    if p = path then (w.waiting? path).map fun text => w.text? path ≠ some text else none
  | i => if (w.gives path i).isSome ∨ w.Launches i then some false else none

/-- What is seen last of the inputs of a run. -/
def lastSeen {α : Type} (see : Workspace → Input → Option α) : Workspace → List Input → Option α
  | _, [] => none
  | w, i :: is => (lastSeen see (w.step i) is).or (see w i)

/-- The text that a document was given last. -/
def given (path : Text) (w : Workspace) (is : List Input) : Option Text :=
  lastSeen (gives path) w is

/-- Whether the server was left with an old text of a document, and nothing has made up for it. -/
def Outdated (path : Text) (w : Workspace) (is : List Input) : Prop :=
  lastSeen (outdates path) w is = some true

instance (path : Text) (w : Workspace) (is : List Input) : Decidable (Outdated path w is) :=
  inferInstanceAs (Decidable (_ = _))

/-- Whether nothing has happened to a workspace so far. -/
structure New (w : Workspace) : Prop where
  client : w.client = { processId := w.client.processId }
  documents : w.documents = []
  log : w.log = []

theorem new_create (c : Config) (r : Message.Reworder) (base root : Text) (processId : Nat)
    (rootExists : Bool) : New { create c r base root processId with rootExists } := ⟨rfl, rfl, rfl⟩

/-- Whether all inputs of a run are proper. -/
def ProperRun : Workspace → List Input → Prop
  | _, [] => True
  | w, i :: is => w.Proper i ∧ ProperRun (w.step i) is

instance (w : Workspace) : (i : Input) → Decidable (w.Proper i)
  | .processStarted => inferInstanceAs (Decidable (_ = _))
  | .openDocument .. | .changeDocument .. | .closeDocument .. | .timerFired .. | .shutdown
  | .notification .. | .processFinished | .processFailed .. | .killTimerFired | .exitsAtOnce ..
  | .receive .. | .message .. => .isTrue trivial

instance decidableProperRun : (w : Workspace) → (is : List Input) → Decidable (ProperRun w is)
  | _, [] => .isTrue trivial
  | w, i :: is =>
    have := decidableProperRun (w.step i) is
    inferInstanceAs (Decidable (_ ∧ _))

variable {path p : Text} {w w' : Workspace} {latest? : Option Text} {waits stale : Bool}

/-! ## One step -/

/-- What holds of a workspace at any time, as far as one document is concerned: what it was given
last, and whether the server was left with an old text of it. -/
structure Follows (path : Text) (given? : Option Text) (stale : Bool) (w : Workspace) : Prop where
  distinct : Distinct w
  latest : ∀ text, w.text? path = some text → given? = some text
  family : (w.text? path).isSome → Language.isFamily path
  timed : (w.waiting? path).isSome → (path, true) ∈ w.timers
  served : Served path (w.text? path) (w.waiting? path).isSome stale w

variable {given? : Option Text}

/-- The client does something, or something is told. -/
theorem Follows.told (h : Follows path given? stale w) (hdocuments : w'.documents = w.documents)
    (htimers : w'.timers = w.timers)
    (hserved : Served path (w.text? path) (w.waiting? path).isSome stale w') :
    Follows path given? stale w' := by
  have hfind : w'.find? path = w.find? path := by rw [find?, hdocuments, find?]
  have htext : w'.text? path = w.text? path := by rw [text?, hfind, text?]
  have hwaiting : w'.waiting? path = w.waiting? path := by rw [waiting?, hfind, waiting?]
  refine ⟨?_, htext ▸ h.latest, htext ▸ h.family, fun hw => ?_, ?_⟩
  · rw [Distinct, hdocuments]
    exact h.distinct
  · exact htimers ▸ h.timed (hwaiting ▸ hw)
  · rw [htext, hwaiting]
    exact hserved

/-- Another document is edited. -/
theorem Follows.other (h : Follows path given? stale w) {stale' : Bool} (he : Edits p w w')
    (hp : path ≠ p)
    (hserved : Served path (w.text? path) (w.waiting? path).isSome stale' w') :
    Follows path given? stale' w' where
  distinct := he.distinct h.distinct
  latest := he.text? hp ▸ h.latest
  family := he.text? hp ▸ h.family
  timed hw := he.timers hp (h.timed (he.waiting? hp ▸ hw))
  served := by
    rw [he.text? hp, he.waiting? hp]
    exact hserved

/-- The document is not open. -/
theorem follows_of_closed (hdistinct : Distinct w) (htext : w.text? path = none)
    (h : Served path latest? waits stale w) (given? : Option Text) (stale' : Bool) :
    Follows path given? stale' w where
  distinct := hdistinct
  latest _ ht := absurd (ht.symm.trans htext) (Option.some_ne_none _)
  family ht := by simp [htext] at ht
  timed hw := by
    have hnone : w.find? path = none := Option.map_eq_none_iff.1 htext
    rw [waiting?, hnone] at hw
    exact Bool.noConfusion hw
  served := htext ▸ h.closed _ _

/-! ## Operations -/

variable {i : Input} {file : Text}

theorem outdates_of_gives (h : (w.gives path i).isSome) : w.outdates path i = some false := by
  cases i with
  | openDocument | changeDocument => exact if_pos (.inl h)
  | _ => cases h

theorem outdates_of_not_gives (h : w.gives path i = none) (ht : i ≠ .timerFired path) :
    w.outdates path i = if w.Launches i then some false else none := by
  have hiff : (w.gives path i).isSome ∨ w.Launches i ↔ w.Launches i := by simp [h]
  cases i with
  | timerFired p =>
    rw [outdates, if_neg fun hp => ht (congrArg _ hp)]
    exact (if_neg id).symm
  | _ => exact if_congr hiff rfl rfl

/-- The document itself is opened: its text is sent, to a new server perhaps. -/
theorem Follows.openSelf (h : Follows (w.resolve file) given? stale w) (text : Text) :
    Follows (w.resolve file) (some text) false (w.openDocument file text) := by
  have hdistinct := (edits_openDocument file text w).distinct h.distinct
  by_cases hfamily : Language.isFamily (w.resolve file)
  · obtain ⟨htext, hwaiting, htimers⟩ := openDocument_spec hfamily text
    obtain ⟨language, heq⟩ := openDocument_eq hfamily text
    obtain ⟨hclient, hlog⟩ := track_frame (w.resolve file) language text w
    refine ⟨hdistinct, fun t ht => htext.symm.trans ht, fun _ => hfamily, fun hw => ?_, ?_⟩
    · rw [htimers]
      exact h.timed (hwaiting ▸ hw)
    · rw [htext, heq]
      exact (h.served.congr hclient hlog).ensureServer.send language text fun _ =>
        iff_of_true rfl rfl
  · rw [openDocument_of_not_isFamily hfamily]
    refine follows_of_closed h.distinct ?_ h.served _ _
    by_contra hne
    exact hfamily (h.family (Option.isSome_iff_ne_none.2 hne))

/-- Another document is opened: this one is not touched, but a server that is launched for the other
has no old text. -/
theorem Follows.openOther (h : Follows path given? stale w) (hp : path ≠ w.resolve file)
    (text : Text) : Follows path given?
      ((w.outdates path (.openDocument file text)).getD stale) (w.openDocument file text) := by
  have houtdates : w.outdates path (.openDocument file text) =
      if w.Launches (.openDocument file text) then some false else none :=
    outdates_of_not_gives (if_neg (Ne.symm hp)) Input.noConfusion
  by_cases hfamily : Language.isFamily (w.resolve file)
  · obtain ⟨language, heq⟩ := openDocument_eq hfamily text
    obtain ⟨hclient, hlog⟩ := track_frame (w.resolve file) language text w
    have hstale : (w.outdates path (.openDocument file text)).getD stale =
        (w.client.isRunning && stale) := by
      rw [houtdates]
      cases hr : w.client.isRunning with
      | true => rw [if_neg fun hl => by simp [hl.1] at hr]; rfl
      | false => rw [if_pos ⟨hr, hfamily⟩]; rfl
    refine h.other (edits_openDocument file text w) hp ?_
    -- a server that runs goes on with what it was told, one that is launched has no old text
    have hserved := (h.served.congr hclient hlog).ensureServer
    rw [hclient] at hserved
    rw [hstale, heq]
    exact hserved.sendOther (Ne.symm hp) language text
  · rw [openDocument_of_not_isFamily hfamily, houtdates, if_neg fun hl => hfamily hl.2]
    exact h

theorem Follows.openDocument (h : Follows path given? stale w) (file text : Text) :
    Follows path ((w.gives path (.openDocument file text)).or given?)
      ((w.outdates path (.openDocument file text)).getD stale) (w.openDocument file text) := by
  by_cases hp : w.resolve file = path
  · subst hp
    have hgives : w.gives (w.resolve file) (.openDocument file text) = some text := if_pos rfl
    rw [outdates_of_gives (by rw [hgives]; rfl), hgives]
    exact h.openSelf text
  · have hgives : w.gives path (.openDocument file text) = none := if_neg hp
    rw [hgives]
    exact h.openOther (Ne.symm hp) text

/-- Nothing is said when a document is changed. -/
theorem Served.changeDocument (h : Served path latest? waits stale w) (file text : Text) :
    Served path latest? waits stale (w.changeDocument file text) := by
  cases hd : w.find? (w.resolve file) with
  | none =>
    rw [changeDocument_of_none hd]
    exact h
  | some d =>
    have hmodified : Served path latest? waits stale
        (w.modify (w.resolve file) fun d => { d with text, waiting := some text }) := h.congr rfl rfl
    rw [changeDocument_eq hd]
    exact (hmodified.timers _).emit (e := .timerStarted changeDelay) fun _ => rfl

/-- The document itself is changed, if it is open: its new text waits. -/
theorem Follows.changeSelf (h : Follows (w.resolve file) given? stale w) (text : Text) :
    Follows (w.resolve file) (some text) false (w.changeDocument file text) := by
  have hdistinct := (edits_changeDocument file text w).distinct h.distinct
  cases hd : w.find? (w.resolve file) with
  | none =>
    have hclosed : w.text? (w.resolve file) = none := by rw [text?, hd]; rfl
    rw [changeDocument_of_none hd]
    exact follows_of_closed h.distinct hclosed h.served _ _
  | some d =>
    obtain ⟨htext, hwaiting, htimer⟩ := changeDocument_spec hd text
    have hopen : (w.text? (w.resolve file)).isSome := by rw [text?, hd]; rfl
    refine ⟨hdistinct, fun t ht => htext.symm.trans ht, fun _ => h.family hopen, fun _ => htimer, ?_⟩
    rw [htext, hwaiting]
    exact (h.served.changed hopen text).changeDocument file text

theorem Follows.changeDocument (h : Follows path given? stale w) (file text : Text) :
    Follows path ((w.gives path (.changeDocument file text)).or given?)
      ((w.outdates path (.changeDocument file text)).getD stale) (w.changeDocument file text) := by
  by_cases hp : w.resolve file = path
  · subst hp
    have hgives : w.gives (w.resolve file) (.changeDocument file text) = some text := if_pos rfl
    rw [outdates_of_gives (by rw [hgives]; rfl), hgives]
    exact h.changeSelf text
  · have hgives : w.gives path (.changeDocument file text) = none := if_neg hp
    rw [hgives, outdates_of_not_gives hgives Input.noConfusion]
    exact h.other (edits_changeDocument file text w) (Ne.symm hp) (h.served.changeDocument file text)

/-- The timer of the document fires while a text waits, which may be older than its latest. -/
theorem Follows.fireSelf (h : Follows path given? stale w) {text : Text}
    (hw : w.waiting? path = some text) :
    Follows path given? (decide (w.text? path ≠ some text)) (w.timerFired path) := by
  obtain ⟨htext, hwaiting⟩ := timerFired_spec path w
  obtain ⟨language, heq⟩ := timerFired_of_some hw
  obtain ⟨d, hd, -⟩ := Option.bind_eq_some_iff.1 hw
  have hlatest : w.text? path = some d.text := by rw [text?, hd]; rfl
  have hserved : Served path (w.text? path) (w.waiting? path).isSome stale
      ((w.stopTimer path).modify path fun d => { d with waiting := none }) := h.served.congr rfl rfl
  refine ⟨(edits_timerFired path w).distinct h.distinct, htext ▸ h.latest, htext ▸ h.family,
    fun hwaits => ?_, ?_⟩
  · rw [hwaiting] at hwaits
    exact Bool.noConfusion hwaits
  · rw [htext, hwaiting, hlatest, heq]
    -- nothing waits any more, so what was sent has to be the latest text, or the server is outdated
    refine hserved.send language text fun _ => ?_
    rw [decide_eq_false_iff_not, not_not, Option.some.injEq]
    exact eq_comm

theorem Follows.timerFired (h : Follows path given? stale w) (p : Text) :
    Follows path given? ((w.outdates path (.timerFired p)).getD stale) (w.timerFired p) := by
  by_cases hp : p = path
  · subst hp
    rw [outdates, if_pos rfl]
    cases hw : w.waiting? p with
    | none =>
      refine ⟨(edits_timerFired p w).distinct h.distinct, ?_, ?_, ?_, ?_⟩ <;>
        rw [timerFired_of_none hw]
      · exact h.latest
      · exact h.family
      · exact fun hwaits => absurd (hw ▸ hwaits : (none : Option Text).isSome) Bool.noConfusion
      · exact h.served.congr rfl rfl
    | some text => exact h.fireSelf hw
  · rw [outdates, if_neg hp]
    refine h.other (edits_timerFired p w) (Ne.symm hp) ?_
    cases hw : w.waiting? p with
    | none =>
      rw [timerFired_of_none hw]
      exact h.served.congr rfl rfl
    | some text =>
      obtain ⟨language, heq⟩ := timerFired_of_some hw
      have hserved : Served path (w.text? path) (w.waiting? path).isSome stale
          ((w.stopTimer p).modify p fun d => { d with waiting := none }) := h.served.congr rfl rfl
      rw [heq]
      exact hserved.sendOther hp language text

theorem Follows.closeDocument (h : Follows path given? stale w) (file : Text) :
    Follows path given? stale (w.closeDocument file) := by
  cases hd : w.find? (w.resolve file) with
  | none =>
    rw [closeDocument_of_none hd]
    exact h
  | some d =>
    have huntracked : Served path (w.text? path) (w.waiting? path).isSome stale
        (w.untrack (w.resolve file)) := h.served.congr rfl rfl
    have hserved := huntracked.dropTimer (w.resolve file)
    by_cases hp : path = w.resolve file
    · subst hp
      have hclosed := hserved.leave (a := .close (Path.toUri (w.resolve file))) trivial rfl
        (hserved.steady.closeDocument _) false false
      have htold : Served (w.resolve file) none false false (w.closeDocument file) := by
        rw [closeDocument_eq hd]
        exact hclosed.emit fun _ => rfl
      exact follows_of_closed ((edits_closeDocument file w).distinct h.distinct)
        (text?_closeDocument file w) htold _ _
    · refine h.other (edits_closeDocument file w) hp ?_
      rw [closeDocument_eq hd]
      exact (hserved.closeOther (Ne.symm hp)).emit fun _ => rfl

theorem Follows.shutdown (h : Follows path given? stale w) : Follows path given? stale w.shutdown := by
  have hstopped (ts : List (Text × Bool)) : ∀ w : Workspace,
      Served path (w.text? path) (w.waiting? path).isSome stale w →
      ∃ latest? waits, Served path latest? waits stale
        (ts.foldl (fun w _ => w.emit .timerStopped) w) := by
    induction ts with
    | nil => exact fun w h => ⟨_, _, h⟩
    | cons t ts ih => exact fun w h => ih _ (h.emit fun _ => rfl)
  obtain ⟨latest?, waits, hserved⟩ := hstopped w.timers w h.served
  have hforgotten : Served path latest? waits stale
      { w.timers.foldl (fun w _ => w.emit .timerStopped) w with timers := [], documents := [] } :=
    hserved.congr rfl rfl
  have hdistinct : Distinct w.shutdown := List.nodup_nil
  exact follows_of_closed hdistinct rfl
    (hforgotten.leave (a := .stop) trivial rfl hforgotten.steady.stop false false) _ _

theorem Follows.notification (h : Follows path given? stale w) (method : Text) (params : Value) :
    Follows path given? stale (w.notification method params).2 := by
  unfold Workspace.notification
  split
  · exact h.told rfl rfl (h.served.emit fun _ => rfl)
  · exact h
  · exact h

/-! ## The process and its messages -/

/-- What happens to the process. -/
theorem Follows.act (h : Follows path given? stale w) {a : Client.Input} (hp : w.client.Proper a)
    (ha : a.isStart = false) (hasks : Client.asks { w.client with log := [] } a = [])
    (hsteady : Steady w.client.isRunning w.client.session.initialized
      (Client.step { w.client with log := [] } a)) :
    Follows path given? stale (w.withClient (·.step a)) :=
  h.told rfl rfl (h.served.act hp ha (by rw [hasks]; rfl) hsteady)

theorem Follows.receive (h : Follows path given? stale w) (bs : Bytes) :
    Follows path given? stale (w.receive bs).2 := by
  refine h.told rfl rfl ?_
  obtain ⟨hsteady, pre, calls, hcopy, hserves⟩ := h.served
  obtain ⟨calls', hreceived, hsteady'⟩ := hserves.receive (toUri_ne_nil path) hsteady.mono
    (textAt_listener h.distinct path) bs
  exact Served.askClient hcopy hsteady' hreceived

theorem Follows.message (h : Follows path given? stale w) (m : Fields) :
    Follows path given? stale (w.askClient (Client.dispatch w.listener m)).2 := by
  refine h.told rfl rfl ?_
  obtain ⟨hsteady, pre, calls, hcopy, hserves⟩ := h.served
  obtain ⟨calls', hdispatched⟩ := hserves.dispatch (toUri_ne_nil path) hsteady.mono
    (textAt_listener h.distinct path) m
  exact Served.askClient hcopy (hsteady.mono.dispatch w.listener m) hdispatched

/-! ## Runs -/

theorem Follows.step (h : Follows path given? stale w) (hp : w.Proper i) :
    Follows path ((w.gives path i).or given?) ((w.outdates path i).getD stale) (w.step i) := by
  have hother (hgives : w.gives path i = none) (houtdates : w.outdates path i = none)
      (h' : Follows path given? stale (w.step i)) :
      Follows path ((w.gives path i).or given?) ((w.outdates path i).getD stale) (w.step i) := by
    rw [hgives, houtdates]
    exact h'
  cases i with
  | openDocument file text => exact h.openDocument file text
  | changeDocument file text => exact h.changeDocument file text
  | timerFired p => exact h.timerFired p
  | closeDocument file => exact hother rfl rfl (h.closeDocument file)
  | shutdown => exact hother rfl rfl h.shutdown
  | notification method params => exact hother rfl rfl (h.notification method params)
  | processStarted =>
    exact hother rfl rfl
      (h.act (a := .processStarted) hp rfl rfl (h.served.steady.processStarted hp))
  | processFinished =>
    exact hother rfl rfl (h.act (a := .processFinished) trivial rfl rfl h.served.steady.finished)
  | processFailed failedToStart text =>
    exact hother rfl rfl (h.act (a := .processFailed failedToStart text) trivial rfl rfl
      (h.served.steady.processFailed failedToStart text))
  | killTimerFired =>
    exact hother rfl rfl (h.act (a := .killTimerFired) trivial rfl rfl h.served.steady.killTimerFired)
  | exitsAtOnce b =>
    exact hother rfl rfl (h.act (a := .exitsAtOnce b) trivial rfl rfl
      (h.served.steady.congr rfl rfl (Nat.le_refl _) id))
  | receive bs => exact hother rfl rfl (h.receive bs)
  | message m => exact hother rfl rfl (h.message m)

theorem Follows.run {is : List Input} (h : Follows path given? stale w) (hp : ProperRun w is) :
    Follows path ((lastSeen (gives path) w is).or given?)
      ((lastSeen (outdates path) w is).getD stale) (w.run is) := by
  induction is generalizing w given? stale with
  | nil => exact h
  | cons i is ih =>
    have hrest := ih (h.step hp.1) hp.2
    rw [lastSeen, lastSeen, Option.or_assoc, Option.getD_or]
    exact hrest

theorem follows_of_new (h : New w) (path : Text) : Follows path none false w := by
  obtain ⟨hclient, hdocuments, hlog⟩ := h
  have hdistinct : Distinct w := by
    rw [Distinct, hdocuments]
    exact List.nodup_nil
  have htext : w.text? path = none := by rw [text?, find?, hdocuments]; rfl
  have hcopy : w.copy? path = none := by rw [copy?, hlog]; rfl
  have hserved : Served path none false false w := by
    refine ⟨?_, [], [], hcopy, ⟨?_, [], rfl, ?_⟩,
      fun _ _ ht => absurd ht.symm (Option.some_ne_none _)⟩ <;> rw [hclient]
    · exact ⟨fun _ he => absurd he List.not_mem_nil, Nat.zero_le _, id, id⟩
    · exact Client.kept_fresh rfl rfl rfl
    · exact fun _ => rfl
  exact follows_of_closed hdistinct htext hserved none false

/-- Whatever a workspace has been through, when its client is ready and no timer runs the server has
a copy of each open document, and this is the text that the document was given last, if and only if
the last that mattered was not that an older text was sent when the timer of the document fired. -/
theorem copy?_eq_given_iff (hw : w.New) {is : List Input} (hp : ProperRun w is)
    (hready : (w.run is).client.isReady) (hidle : ∀ t ∈ (w.run is).timers, t.2 = false)
    {d : Tracked} (hd : d ∈ (w.run is).documents) :
    given d.path w is = some d.text ∧ ((w.run is).copy? d.path).isSome ∧
      ((w.run is).copy? d.path = given d.path w is ↔ ¬ Outdated d.path w is) := by
  have h := (follows_of_new hw d.path).run hp
  rw [Option.or_none] at h
  have htext : (w.run is).text? d.path = some d.text := by
    rw [text?, h.distinct.find? hd]
    rfl
  have hgiven : given d.path w is = some d.text := h.latest d.text htext
  have hwaits : ((w.run is).waiting? d.path).isSome = false := by
    by_contra hwaits
    exact Bool.noConfusion (hidle _ (h.timed ((Bool.not_eq_false _).mp hwaits)))
  have hserved := h.served
  rw [htext, hwaits] at hserved
  obtain ⟨hsome, hiff⟩ := hserved.copy? hready
  refine ⟨hgiven, hsome, ?_⟩
  rw [hgiven, hiff, Outdated]
  cases lastSeen (outdates d.path) w is with
  | none => simp
  | some stale => cases stale <;> simp

/-- A server that is launched after another has crashed gets the latest texts. -/
theorem copy?_eq_given_iff_crashed :
    let w : Workspace := {
      base := ['/'], root := ['/'], command := ['s'], arguments := [], rewordPublished := false
      interceptor := ⟨⟨[], false, false, []⟩, []⟩, client := { processId := 7 } }
    let a : Text := "/a.ts".toList
    let b : Text := "/b.ts".toList
    let answer : Fields := [("id".toList, .int 1), ("result".toList, .obj [])]
    let is : List Input := [.openDocument a ['x'], .processStarted, .message answer,
      .changeDocument a ['y'], .timerFired a, .processFinished, .openDocument b ['z'],
      .processStarted, .message answer]
    let d : Tracked := ⟨a, Client.usualLanguage, ['y'], none⟩
    (w.New ∧ ProperRun w is ∧ (w.run is).client.isReady ∧ (∀ t ∈ (w.run is).timers, t.2 = false) ∧
      d ∈ (w.run is).documents) ∧ (w.run is).copy? a = some ['y'] := by
  intro w a b answer is d
  have hw : w.New := ⟨rfl, rfl, rfl⟩
  have hp : ProperRun w is := by decide +kernel
  have hready : (w.run is).client.isReady := by decide +kernel
  have hidle : ∀ t ∈ (w.run is).timers, t.2 = false := by decide +kernel
  have hd : d ∈ (w.run is).documents := by decide +kernel
  obtain ⟨hgiven, -, hcopy⟩ := copy?_eq_given_iff hw hp hready hidle hd
  exact ⟨⟨hw, hp, hready, hidle, hd⟩, (hcopy.2 (by decide +kernel)).trans hgiven⟩

/-- A changed document is opened once more before its timer fires: the server ends up with the text
of the change. -/
theorem copy?_ne_given_openedAgain :
    let w : Workspace := {
      base := ['/'], root := ['/'], command := ['s'], arguments := [], rewordPublished := false
      interceptor := ⟨⟨[], false, false, []⟩, []⟩, client := { processId := 7 } }
    let a : Text := "/a.ts".toList
    let answer : Fields := [("id".toList, .int 1), ("result".toList, .obj [])]
    let is : List Input := [.openDocument a ['x'], .processStarted, .message answer,
      .changeDocument a ['y'], .openDocument a ['z'], .timerFired a]
    (w.New ∧ ProperRun w is ∧ (w.run is).client.isReady ∧ (w.run is).timers = [(a, false)] ∧
      (w.run is).documents.map (·.path) = [a]) ∧
      given a w is = some ['z'] ∧ (w.run is).copy? a = some ['y'] := by
  intro w a answer is
  have hw : w.New := ⟨rfl, rfl, rfl⟩
  exact ⟨⟨hw, by decide +kernel⟩, by decide +kernel⟩

end Legible.Workspace
