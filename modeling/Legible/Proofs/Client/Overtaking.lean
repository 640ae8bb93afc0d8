import Legible.Proofs.Client.Opening

/-!
# Documents of the listener

When the server has been initialized, the listener has its documents opened or changed before what
was held back is written.  Where something about one of these documents was held back, the server
hears the later message first (`Overtaking`), and what it hears of that document makes no sense any
more (`not_inCycles_of_tracks`); nothing else disturbs what it hears of a document
(`Progress`).
-/

namespace Legible.Client

variable {uri : Text} {pre : List Outgoing} {n : Nat} {calls : List Outgoing} {vs : Versions}
  {c c' : Client} {l : Listener} {ds : List Document}

/-- Whether messages of a listener go before messages that were held back, if the server is
initialized now. -/
def Overtaking (uri : Text) (ds : List Document) (c : Client) : Prop :=
  c.isRunning ∧ c.session.initialized = false ∧ (∃ d ∈ ds, d.uri = uri) ∧
    syncs uri c.session.backlog ≠ []

instance (uri : Text) (ds : List Document) (c : Client) : Decidable (Overtaking uri ds c) :=
  inferInstanceAs (Decidable (_ ∧ _ ∧ _ ∧ _))

/-- Messages of a document that go before earlier ones. -/
theorem not_inCycles_of_tracks (huri : uri ≠ []) (h : Tracks uri calls vs)
    (hd : ∃ d ∈ ds, d.uri = uri) (hcalls : syncs uri calls ≠ []) :
    ¬ Sync.InCycles (syncs uri (updatesOf vs ds ++ calls)) := by
  obtain ⟨hne, hsome⟩ := syncs_updatesOf_of_mem vs huri hd
  have hafter := h.updates ds
  rw [Tracks] at h
  rw [Tracks, syncs_append, Sync.replay_append, h, Option.bind_some] at hafter
  rw [Sync.inCycles_iff, syncs_append, Sync.replay_append]
  intro hcycles
  obtain ⟨v, hv⟩ := Option.isSome_iff_exists.1 hcycles
  obtain ⟨s, hs, hrest⟩ := Option.bind_eq_some_iff.1 hv
  cases hlook : vs.lookup uri with
  | some u =>
    -- the document was open, so it is changed first on a server that does not have it
    have hnone := Sync.replay_exclusive hne (Option.isSome_of_eq_some hs) u
    rw [hlook, hnone] at hafter
    exact absurd hafter (by simp)
  | none =>
    -- the document was closed, so it is opened by the listener and then once more
    rw [hlook, hs, Option.some.injEq] at hafter
    obtain ⟨u, hu⟩ := Option.isSome_iff_exists.1 hsome
    have hnone := Sync.replay_exclusive hcalls (Option.isSome_of_eq_some h) u
    rw [hafter, hu, hnone] at hrest
    exact absurd hrest (by simp)

theorem Kept.overtaking_iff (h : Kept pre n calls c) :
    Overtaking uri ds c ↔ c.isRunning ∧ c.session.initialized = false ∧
      (∃ d ∈ ds, d.uri = uri) ∧ syncs uri calls ≠ [] := by
  refine and_congr_right fun hr => and_congr_right fun hi => ?_
  have htold := h.told
  rw [hr, hi] at htold
  rw [htold.2]

theorem Tracks.congr {calls' : List Outgoing} {vs' : Versions} (h : Tracks uri calls vs)
    (hcalls : syncs uri calls' = syncs uri calls) (hvs : vs'.lookup uri = vs.lookup uri) :
    Tracks uri calls' vs' := by
  rw [Tracks, hcalls, hvs]
  exact h

/-- Messages of the listener that go before others which are about other documents. -/
theorem Tracks.updates_before (h : Tracks uri calls vs)
    (hd : ¬ ((∃ d ∈ ds, d.uri = uri) ∧ syncs uri calls ≠ [])) :
    Tracks uri (updatesOf vs ds ++ calls) (versionsAfter vs ds) := by
  by_cases hmem : ∃ d ∈ ds, d.uri = uri
  · have hnone : syncs uri calls = [] := by
      by_contra hne
      exact hd ⟨hmem, hne⟩
    have hempty : Tracks uri [] vs := h.congr hnone.symm rfl
    refine (hempty.updates ds).congr ?_ rfl
    rw [syncs_append, hnone, List.append_nil, List.nil_append]
  · have hother : ∀ d ∈ ds, d.uri ≠ uri := fun d hds heq => hmem ⟨d, hds, heq⟩
    obtain ⟨hsyncs, hlook⟩ := syncs_updatesOf_of_not_mem vs hother
    exact h.congr (by rw [syncs_append, hsyncs, List.nil_append]) hlook

/-- The news disturbs nothing but what was held back about a document of the listener. -/
theorem Sound.opens (h : Sound uri pre n calls c) (ho : Opens l c c')
    (hn : ¬ Overtaking uri l.documents c) :
    Sound uri pre n (c.reopened (updatesOf c.session.versions l.documents) calls) c' := by
  have hkept := h.kept.opens ho
  have hrun : c'.isRunning = c.isRunning := isRunning_congr ho.process
  cases hr : c.isRunning with
  | false =>
    have hcalls : c.reopened (updatesOf c.session.versions l.documents) calls = calls := by
      simp [reopened, accepted, hr]
    rw [hcalls] at hkept ⊢
    refine ⟨hkept, h.cycles, fun hr' => ?_⟩
    rw [hrun, hr] at hr'
    exact absurd hr' Bool.false_ne_true
  | true =>
    have htracks : Tracks uri (c.reopened (updatesOf c.session.versions l.documents) calls)
        (versionsAfter c.session.versions l.documents) := by
      unfold reopened accepted
      rw [if_pos hr]
      split
      · exact (h.tracks hr).updates _
      · rename_i hi
        refine (h.tracks hr).updates_before fun hboth => ?_
        exact hn (h.kept.overtaking_iff.2 ⟨hr, by simpa using hi, hboth⟩)
    exact ⟨hkept, htracks.inCycles, fun _ => ho.versions ▸ htracks⟩

/-! ## Messages of the server -/

/-- What messages of the server make of a client: unless they say that the server has been
initialized callers have said what they had, and otherwise what the server hears of a document is in
order just if nothing was overtaken. -/
structure Progress (uri : Text) (pre : List Outgoing) (n : Nat) (calls : List Outgoing)
    (l : Listener) (c c' : Client) : Prop where
  process : c'.process = c.process
  sound : (c'.session.initialized = c.session.initialized ∧ Sound uri pre n calls c') ∨
    (c'.session.initialized ∧ ∃ calls', Kept pre n calls' c' ∧
      (Overtaking uri l.documents c → ¬ Sync.InCycles (syncs uri calls')) ∧
      (¬ Overtaking uri l.documents c → Sound uri pre n calls' c'))

variable {c'' : Client}

theorem Progress.idle (h : Progress uri pre n calls l c c') (hidle : Idle c' c'') :
    Progress uri pre n calls l c c'' := by
  refine ⟨hidle.process.trans h.process, ?_⟩
  rcases h.sound with ⟨hi, hs⟩ | ⟨hi, calls', hk, hbad, hgood⟩
  · exact .inl ⟨hidle.initialized.trans hi, hs.quiet hidle.toQuiet⟩
  · exact .inr ⟨hidle.initialized.trans hi, calls', hidle.kept hk, hbad,
      fun hn => (hgood hn).quiet hidle.toQuiet⟩

theorem Progress.opens (huri : uri ≠ []) (hc : Kept pre n calls c)
    (h : Progress uri pre n calls l c c') (ho : Opens l c' c'') :
    Progress uri pre n calls l c c'' := by
  have hrun : c'.isRunning = c.isRunning := isRunning_congr h.process
  refine ⟨ho.process.trans h.process, .inr ⟨ho.initialized, ?_⟩⟩
  rcases h.sound with ⟨hi, hs⟩ | ⟨hi, calls', hk, hbad, hgood⟩
  · -- nobody said anything since, so what is held back now was held back before
    have hiff : Overtaking uri l.documents c ↔ Overtaking uri l.documents c' := by
      rw [hc.overtaking_iff, hs.kept.overtaking_iff, hrun, hi]
    refine ⟨_, hs.kept.opens ho, fun hover => ?_, fun hn => hs.opens ho (hiff.not.1 hn)⟩
    obtain ⟨hr, hinit, hd, hcalls⟩ := hs.kept.overtaking_iff.1 (hiff.1 hover)
    rw [reopened, accepted, if_pos hr, if_neg (by simp [hinit])]
    exact not_inCycles_of_tracks huri (hs.tracks hr) hd hcalls
  · have hmore : c'.reopened (updatesOf c'.session.versions l.documents) calls' =
        calls' ++ c'.accepted (updatesOf c'.session.versions l.documents) := if_pos hi
    refine ⟨_, hk.opens ho, fun hover hcycles => ?_, fun hn => (hgood hn).opens ho ?_⟩
    · rw [hmore, syncs_append] at hcycles
      exact hbad hover (hcycles.of_prefix (List.prefix_append _ _))
    · rintro ⟨-, hinit, -⟩
      rw [hi] at hinit
      exact Bool.noConfusion hinit

theorem Progress.dispatch (huri : uri ≠ []) (hc : Kept pre n calls c)
    (h : Progress uri pre n calls l c c') (m : Fields) :
    Progress uri pre n calls l c (c'.dispatch l m).2 := by
  rcases dispatch_cases l m c' with hidle | ⟨id, -, result, -, -, heq⟩
  · exact h.idle hidle
  · have htaken := h.idle (idle_takeRequest id)
    have hw : (c'.takeRequest id).writesFail = false := by
      rcases htaken.sound with ⟨-, hs⟩ | ⟨-, _, hk, -⟩
      · exact hs.kept.writable
      · exact hk.writable
    rw [heq]
    exact htaken.opens huri hc (serverInitialized_opens hw l result)

theorem Sound.progress (h : Sound uri pre n calls c) (l : Listener) :
    Progress uri pre n calls l c c := ⟨rfl, .inl ⟨rfl, h⟩⟩

theorem Sound.receive (huri : uri ≠ []) (h : Sound uri pre n calls c) (l : Listener) (bs : Bytes) :
    Progress uri pre n calls l c (c.receive l bs).2 :=
  receive_induction (P := Progress uri pre n calls l c)
    (fun _ _ hp => hp.idle ⟨.of_eq rfl rfl rfl rfl, rfl, rfl⟩)
    (fun _ m hp => hp.dispatch huri h.kept m) bs (h.progress l)

end Legible.Client
