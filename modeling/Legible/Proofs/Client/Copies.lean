import Legible.Proofs.Client.Once
import Legible.Proofs.Client.Run

/-!
# The server's copies of documents

A server can keep a copy of each document from what it hears of it (`copyAfter`).  When it has heard
all that callers said, it has copies of just the documents that have a version (`lasting_known`).

Where the listener has a document opened, the copy is either what was sent in this life, or it will
be what is sent when the server has been initialized (`Due`).  What is sent then goes before what
was held back, but for a document that was opened before it does not count: a change of a document
that the server does not have yet is lost (`updates_before`).
-/

namespace Legible.Client

/-- The copy of a document after a message; what is not open cannot be changed. -/
def Outgoing.copied (uri : Text) (copy : Option Text) : Outgoing → Option Text
  | .didOpen u _ _ text => if u = uri then some text else copy
  | .didChange u _ text => if u = uri then copy.map fun _ => text else copy
  | .didClose u => if u = uri then none else copy
  | _ => copy

/-- The copy of a document after some messages. -/
def copyAfter (uri : Text) (copy : Option Text) (ms : List Outgoing) : Option Text :=
  ms.foldl (Outgoing.copied uri) copy

/-- Whether a server that has heard what callers said has a copy of a document just if the document
has a version. -/
def Known (uri : Text) (calls : List Outgoing) (vs : Versions) : Prop :=
  (copyAfter uri none calls).isSome = (vs.lookup uri).isSome

variable {uri : Text} {calls ms : List Outgoing} {vs : Versions} {copy : Option Text}

/-! ## Copies -/

theorem copyAfter_append (uri : Text) (copy : Option Text) (as bs : List Outgoing) :
    copyAfter uri copy (as ++ bs) = copyAfter uri (copyAfter uri copy as) bs := List.foldl_append

theorem copied_of_sync?_eq_none {m : Outgoing} (h : m.sync? uri = none) (copy : Option Text) :
    m.copied uri copy = copy := by
  cases m with
  | didOpen u _ v _ | didChange u v _ | didClose u =>
    refine if_neg fun hu => ?_
    rw [Outgoing.sync?, if_pos hu] at h
    cases h
  | _ => rfl

theorem copyAfter_of_syncs_eq_nil (h : syncs uri ms = []) (copy : Option Text) :
    copyAfter uri copy ms = copy := by
  induction ms with
  | nil => rfl
  | cons m ms ih =>
    have hm : m.sync? uri = none := List.filterMap_eq_nil_iff.1 h m List.mem_cons_self
    rw [copyAfter, List.foldl_cons, copied_of_sync?_eq_none hm]
    refine ih (List.filterMap_eq_nil_iff.2 fun a ha => ?_)
    exact List.filterMap_eq_nil_iff.1 h a (List.mem_cons_of_mem m ha)

/-- Only calls tell of documents. -/
theorem copyAfter_filter_isCall (uri : Text) (copy : Option Text) (ms : List Outgoing) :
    copyAfter uri copy (ms.filter (·.isCall)) = copyAfter uri copy ms := by
  induction ms generalizing copy with
  | nil => rfl
  | cons m ms ih =>
    cases hm : m.isCall with
    | true =>
      rw [List.filter_cons_of_pos hm]
      exact ih _
    | false =>
      have hnone : m.sync? uri = none := by
        cases m <;> first | rfl | exact Bool.noConfusion hm
      rw [List.filter_cons_of_neg (by simp [hm]), ih, copyAfter, copyAfter, List.foldl_cons,
        copied_of_sync?_eq_none hnone]

theorem copied_updateOf {d : Document} (h : copy.isSome = (vs.lookup d.uri).isSome) :
    (updateOf vs d).copied d.uri copy = some d.text := by
  unfold updateOf
  cases hv : vs.lookup d.uri with
  | none => exact if_pos rfl
  | some v =>
    rw [hv] at h
    obtain ⟨text, rfl⟩ := Option.isSome_iff_exists.1 h
    exact if_pos rfl

theorem lasting_known (uri : Text) : Lasting (Known uri) where
  other {calls vs m} h hm := by
    rw [Known, copyAfter_append]
    exact (congrArg _ (copied_of_sync?_eq_none (hm uri) _)).trans h
  update {calls vs} d h := by
    rw [Known, copyAfter_append, lookup_setVersion]
    by_cases hu : uri = d.uri
    · subst hu
      rw [if_pos rfl]
      exact congrArg Option.isSome (copied_updateOf h)
    · rw [if_neg hu]
      exact (congrArg _ (copied_of_sync?_eq_none (sync?_updateOf_of_ne vs (Ne.symm hu)) _)).trans h
  close {calls vs u v} h _ := by
    rw [Known, copyAfter_append, lookup_closed]
    by_cases hu : u = uri
    · rw [if_pos hu.symm]
      exact congrArg Option.isSome (if_pos hu)
    · rw [if_neg (Ne.symm hu)]
      exact (congrArg Option.isSome (if_neg hu)).trans h

/-! ## Documents of the listener -/

/-- Some documents have one text at an address, or there is none. -/
def TextAt (ds : List Document) (uri : Text) (text? : Option Text) : Prop :=
  (∀ d ∈ ds, d.uri = uri → text? = some d.text) ∧ (text?.isSome → ∃ d ∈ ds, d.uri = uri)

/-- Documents that are changed before they are opened give no copy. -/
theorem copyAfter_updatesOf_of_isSome (h : (vs.lookup uri).isSome) (ds : List Document) :
    copyAfter uri none (updatesOf vs ds) = none := by
  induction ds generalizing vs with
  | nil => rfl
  | cons d ds ih =>
    by_cases hd : d.uri = []
    · rw [updatesOf, if_pos hd]
      exact ih h
    · have hone : (updateOf vs d).copied uri none = none := by
        by_cases hu : d.uri = uri
        · obtain ⟨v, hv⟩ := Option.isSome_iff_exists.1 h
          rw [updateOf, hu, hv]
          exact if_pos rfl
        · exact copied_of_sync?_eq_none (sync?_updateOf_of_ne vs hu) none
      rw [updatesOf_cons vs hd, copyAfter_append]
      refine (congrArg (copyAfter uri · _) hone).trans (ih ?_)
      rw [lookup_setVersion]
      split
      · rfl
      · exact h

/-- Documents of one text give a copy of it, if there is one. -/
theorem copyAfter_updatesOf (huri : uri ≠ []) {text : Text} {ds : List Document}
    (hds : ∀ d ∈ ds, d.uri = uri → d.text = text) (h : copy.isSome = (vs.lookup uri).isSome)
    (hd : copy = some text ∨ ∃ d ∈ ds, d.uri = uri) :
    copyAfter uri copy (updatesOf vs ds) = some text := by
  induction ds generalizing vs copy with
  | nil => exact hd.resolve_right (by simp)
  | cons d ds ih =>
    have hrest : ∀ e ∈ ds, e.uri = uri → e.text = text := fun e he =>
      hds e (List.mem_cons_of_mem d he)
    by_cases hu : d.uri = uri
    · have htext := hds d List.mem_cons_self hu
      subst hu
      rw [updatesOf_cons vs huri, copyAfter_append]
      refine ih hrest ?_ (.inl ((copied_updateOf h).trans (congrArg some htext)))
      rw [lookup_setVersion, if_pos rfl]
      exact congrArg Option.isSome (copied_updateOf h)
    · have hd' : copy = some text ∨ ∃ e ∈ ds, e.uri = uri :=
        hd.imp_right fun ⟨e, he, heq⟩ => by
          rcases List.mem_cons.1 he with rfl | he
          · exact absurd heq hu
          · exact ⟨e, he, heq⟩
      by_cases he : d.uri = []
      · rw [updatesOf, if_pos he]
        exact ih hrest h hd'
      · have hone : copyAfter uri copy [updateOf vs d] = copy :=
          copied_of_sync?_eq_none (sync?_updateOf_of_ne vs hu) copy
        rw [updatesOf_cons vs he, copyAfter_append, hone]
        refine ih hrest ?_ hd'
        rw [lookup_setVersion, if_neg (Ne.symm hu)]
        exact h

/-! ## What the server is to have -/

/-- How the server comes to a copy of a document: it was sent, and unless something waits the copy
is the text of the document just if it is not `stale`; or nothing was said of it so far, and it will
be sent when the server has been initialized. -/
inductive Due (uri : Text) (calls : List Outgoing) (initialized waits stale : Bool) (text : Text) :
    Prop
  | sent (known : (copyAfter uri none calls).isSome)
      (fresh : waits = false → (copyAfter uri none calls = some text ↔ stale = false))
  | unsent (early : initialized = false) (silent : syncs uri calls = []) (fresh : stale = false)

variable {text : Text} {text? : Option Text} {initialized waits stale : Bool}

theorem Due.of_copy (h : copyAfter uri none calls = some text) :
    Due uri calls initialized waits false text :=
  .sent (by rw [h]; rfl) fun _ => iff_of_true h rfl

theorem Due.early {initialized' : Bool} (h : Due uri calls initialized waits stale text)
    (hi : initialized' → initialized) : Due uri calls initialized' waits stale text := by
  cases h with
  | sent known fresh => exact .sent known fresh
  | unsent early silent fresh =>
    refine .unsent ?_ silent fresh
    rw [early] at hi
    simpa using hi

theorem Due.other (h : Due uri calls initialized waits stale text) (hms : syncs uri ms = []) :
    Due uri (calls ++ ms) initialized waits stale text := by
  have hcopy : copyAfter uri none (calls ++ ms) = copyAfter uri none calls := by
    rw [copyAfter_append, copyAfter_of_syncs_eq_nil hms]
  cases h with
  | sent known fresh => exact .sent (hcopy ▸ known) (hcopy ▸ fresh)
  | unsent early silent fresh =>
    exact .unsent early (by rw [syncs_append, silent, hms]; rfl) fresh

/-- What the listener has said when the server has been initialized goes before what was held
back. -/
theorem updates_before (huri : uri ≠ []) (hk : Known uri calls vs) {ds : List Document}
    (hds : TextAt ds uri text?)
    (hdue : ∀ text, text? = some text → Due uri calls false waits stale text) :
    Known uri (updatesOf vs ds ++ calls) (versionsAfter vs ds) ∧
      ∀ text, text? = some text → Due uri (updatesOf vs ds ++ calls) true waits stale text := by
  obtain ⟨htext, hmem⟩ := hds
  cases text? with
  | none =>
    have hother : ∀ d ∈ ds, d.uri ≠ uri := fun d hd hu => nomatch htext d hd hu
    obtain ⟨hsyncs, hlook⟩ := syncs_updatesOf_of_not_mem vs hother
    refine ⟨?_, fun _ ht => nomatch ht⟩
    rw [Known, copyAfter_append, copyAfter_of_syncs_eq_nil hsyncs, hlook]
    exact hk
  | some text =>
    obtain ⟨d, hd, hu⟩ := hmem rfl
    have hafter := (syncs_updatesOf_of_mem vs huri ⟨d, hd, hu⟩).2
    cases hdue text rfl with
    | sent known fresh =>
      -- the document is changed before it is opened
      have hcopy : copyAfter uri none (updatesOf vs ds ++ calls) = copyAfter uri none calls := by
        rw [copyAfter_append, copyAfter_updatesOf_of_isSome (hk ▸ known)]
      refine ⟨?_, fun _ ht => ?_⟩
      · rw [Known, hcopy, known, hafter]
      · obtain rfl := Option.some.inj ht
        exact .sent (hcopy ▸ known) (hcopy ▸ fresh)
    | unsent early silent fresh =>
      -- nothing was said of the document, so it is opened here
      have hnew : (none : Option Text).isSome = (vs.lookup uri).isSome :=
        (congrArg _ (copyAfter_of_syncs_eq_nil silent none)).symm.trans hk
      have hcopy : copyAfter uri none (updatesOf vs ds ++ calls) = some text := by
        rw [copyAfter_append, copyAfter_updatesOf huri
          (fun e he heq => (Option.some.inj (htext e he heq)).symm) hnew (.inr ⟨d, hd, hu⟩)]
        exact copyAfter_of_syncs_eq_nil silent _
      refine ⟨?_, fun _ ht => ?_⟩
      · rw [Known, hcopy, hafter]
        rfl
      · obtain rfl := Option.some.inj ht
        exact fresh ▸ .of_copy hcopy

/-! ## Clients -/

/-- What holds during one life of a server, as far as the copy of one document is concerned, where
the listener has a text of it. -/
structure Serves (uri : Text) (pre : List Outgoing) (n : Nat) (calls : List Outgoing)
    (text? : Option Text) (waits stale : Bool) (c : Client) : Prop where
  holds : Holds (Known uri) pre n calls c
  due : c.isRunning → ∀ text, text? = some text →
    Due uri calls c.session.initialized waits stale text

variable {pre : List Outgoing} {n : Nat} {c c' : Client} {l : Listener} {r : Bool}

theorem Serves.quiet (h : Serves uri pre n calls text? waits stale c) (hq : Quiet c c')
    (hi : c'.session.initialized → c.session.initialized) :
    Serves uri pre n calls text? waits stale c' := by
  refine ⟨h.holds.quiet hq, fun hr text ht => ?_⟩
  exact (h.due (hq.versions h.holds.kept hr).1 text ht).early hi

theorem Serves.forget (h : Serves uri pre 0 calls text? waits stale c) :
    Serves uri (written pre 0 c) 0 calls text? waits stale { c with log := [] } :=
  ⟨⟨h.holds.kept.forget, h.holds.fits⟩, h.due⟩

/-- An input that says nothing of the document. -/
theorem Serves.step (h : Serves uri pre n calls text? waits stale c) {a : Input}
    (hp : c.Proper a) (ha : a.isStart = false) (hasks : syncs uri (c.asks a) = [])
    (hs : Steady c.isRunning c.session.initialized (c.step a)) :
    Serves uri pre n (calls ++ c.accepted (c.asks a)) text? waits stale (c.step a) := by
  refine ⟨h.holds.step (lasting_known uri) hp ha, fun hr text ht => ?_⟩
  have haccepted : syncs uri (c.accepted (c.asks a)) = [] := by
    unfold accepted
    split
    · exact hasks
    · rfl
  exact ((h.due (hs.running hr) text ht).early hs.initialized).other haccepted

/-- A text of the document is sent. -/
theorem Serves.send (huri : uri ≠ []) (h : Serves uri pre n calls text? waits stale c)
    {d : Document} (hd : d.uri = uri) (hs : Steady c.isRunning c.session.initialized (c.send d).2)
    {waits' stale' : Bool} (hfresh : waits' = false → (d.text = text ↔ stale' = false)) :
    ∃ calls', Serves uri pre n calls' (some text) waits' stale' (c.send d).2 := by
  subst hd
  refine ⟨_, h.holds.send (lasting_known d.uri) huri, fun hr _ ht => ?_⟩
  obtain rfl := Option.some.inj ht
  have hsaid : copyAfter d.uri none (calls ++ c.accepted [updateOf c.session.versions d]) =
      some d.text := by
    rw [accepted, if_pos (hs.running hr), copyAfter_append]
    exact copied_updateOf (h.holds.related (hs.running hr))
  refine .sent (by rw [hsaid]; rfl) fun hw => ?_
  rw [hsaid, Option.some.injEq]
  exact hfresh hw

/-- The life of a server begins with nothing said. -/
theorem serves_start (hr : c.isRunning = false) (hw : c.writesFail = false) (uri : Text)
    (text? : Option Text) (waits : Bool) (program : Text) (arguments : List Text)
    (folder : Option Text) (root : Text) :
    ∃ (c' : Client) (program' : Text),
      c.start program arguments folder root = c'.emit (.launched program' arguments) ∧
      Steady c'.isRunning c'.session.initialized { c' with log := [] } ∧
      Serves uri [] 0 [] text? waits false { c' with log := [] } := by
  obtain ⟨c₀, hstart, hsession, hfail, -⟩ := start_spec hr program arguments folder root
  refine ⟨{ c₀ with process := .starting }, c₀.program, hstart, ?_, ?_⟩
  · refine ⟨fun _ he => absurd he List.not_mem_nil, ?_, id, id⟩
    show c₀.session.news ≤ 0
    rw [hsession]
    exact Nat.le_refl 0
  · refine ⟨⟨kept_fresh rfl (hfail.trans hw) hsession, [], rfl, fun _ => ?_⟩, fun _ text _ => ?_⟩
    · show c₀.session.versions = []
      rw [hsession]
    · exact .unsent (by show c₀.session.initialized = false; rw [hsession]) rfl rfl

theorem Serves.opens (huri : uri ≠ []) (h : Serves uri pre n calls text? waits stale c)
    (hl : TextAt l.documents uri text?) (hi : c.session.initialized = false) (ho : Opens l c c') :
    Serves uri pre n (c.reopened (updatesOf c.session.versions l.documents) calls) text? waits stale
      c' := by
  have hrun : c'.isRunning = c.isRunning := isRunning_congr ho.process
  have hkept := h.holds.kept.opens ho
  cases hr : c.isRunning with
  | false =>
    obtain ⟨vs, hvs, -⟩ := h.holds.fits
    have hcalls : c.reopened (updatesOf c.session.versions l.documents) calls = calls := by
      simp [reopened, accepted, hr]
    rw [hcalls] at hkept ⊢
    rw [hr] at hrun
    exact ⟨⟨hkept, vs, hvs, by simp [hrun]⟩, by simp [hrun]⟩
  | true =>
    obtain ⟨hknown, hdue⟩ := updates_before huri (h.holds.related hr) hl
      fun text ht => hi ▸ h.due hr text ht
    have hcalls : c.reopened (updatesOf c.session.versions l.documents) calls =
        updatesOf c.session.versions l.documents ++ calls := by
      rw [reopened, if_neg (by simp [hi]), accepted, if_pos hr]
    rw [hcalls] at hkept ⊢
    refine ⟨⟨hkept, _, hknown, fun _ => ho.versions⟩, fun _ text ht => ?_⟩
    rw [ho.initialized]
    exact hdue text ht

/-- Messages of the server. -/
theorem Serves.dispatch (huri : uri ≠ []) (h : Serves uri pre n calls text? waits stale c)
    (hs : Steady r true c) (hl : TextAt l.documents uri text?) (m : Fields) :
    ∃ calls', Serves uri pre n calls' text? waits stale (c.dispatch l m).2 := by
  rcases dispatch_cases l m c with hidle | ⟨id, q, result, hq, hp, heq⟩
  · exact ⟨calls, h.quiet hidle.toQuiet fun hi => hidle.initialized ▸ hi⟩
  · have htaken : Idle c (c.takeRequest id) := idle_takeRequest id
    have hserves := h.quiet htaken.toQuiet fun hi => htaken.initialized ▸ hi
    rw [heq]
    exact ⟨_, hserves.opens huri hl (hs.awaited hq hp).2.1
      (serverInitialized_opens hserves.holds.kept.writable l result)⟩

theorem Serves.receive (huri : uri ≠ []) (h : Serves uri pre n calls text? waits stale c)
    (hs : Steady r true c) (hl : TextAt l.documents uri text?) (bs : Bytes) :
    ∃ calls', Serves uri pre n calls' text? waits stale (c.receive l bs).2 ∧
      Steady r true (c.receive l bs).2 := by
  refine receive_induction
    (P := fun c => ∃ calls', Serves uri pre n calls' text? waits stale c ∧ Steady r true c)
    (fun c reader ⟨calls', hserves, hs⟩ => ?_) (fun c m ⟨calls', hserves, hs⟩ => ?_) bs ⟨calls, h, hs⟩
  · exact ⟨calls', hserves.quiet (.of_eq rfl rfl rfl rfl) id, hs.congr rfl rfl (Nat.le_refl _) id⟩
  · obtain ⟨calls'', hdispatched⟩ := hserves.dispatch huri hs hl m
    exact ⟨calls'', hdispatched, hs.dispatch l m⟩

end Legible.Client
