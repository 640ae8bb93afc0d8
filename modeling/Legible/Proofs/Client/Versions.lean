import Legible.Client.Documents
import Legible.Proofs.Client.Sync

/-!
# Versions of documents

The client keeps the versions of the open documents.  What it says of a document is what these
versions ask for: a document without a version is opened, and one with a version gets the next one
(`updateOf`).  So replaying what was said of a document gives the version that the client keeps
(`Tracks`).
-/

namespace Legible.Client

/-- The versions of the open documents, by address. -/
abbrev Versions := List (Text × Nat)

/-! ## Looking versions up -/

theorem lookup_setVersion (uri : Text) (version : Nat) (vs : Versions) (u : Text) :
    (setVersion uri version vs).lookup u = if u = uri then some version else vs.lookup u := by
  induction vs with
  | nil =>
    rw [setVersion, List.lookup_cons]
    by_cases hu : u = uri
    · simp [hu]
    · simp [hu, beq_false_of_ne hu]
  | cons p rest ih =>
    obtain ⟨w, v⟩ := p
    rw [setVersion]
    by_cases hw : w = uri
    · subst hw
      rw [if_pos rfl, List.lookup_cons, List.lookup_cons]
      by_cases hu : u = w
      · simp [hu]
      · simp [hu, beq_false_of_ne hu]
    · rw [if_neg hw, List.lookup_cons, List.lookup_cons, ih]
      by_cases hu : u = w
      · simp [hu, hw]
      · simp [beq_false_of_ne hu]

theorem lookup_closed (uri : Text) (vs : Versions) (u : Text) :
    (vs.filter (·.1 ≠ uri)).lookup u = if u = uri then none else vs.lookup u := by
  induction vs with
  | nil => simp
  | cons p rest ih =>
    obtain ⟨w, v⟩ := p
    by_cases hw : w = uri
    · subst hw
      rw [List.filter_cons_of_neg (by simp), ih, List.lookup_cons]
      by_cases hu : u = w
      · simp [hu]
      · simp [hu, beq_false_of_ne hu]
    · rw [List.filter_cons_of_pos (by simpa using hw), List.lookup_cons, List.lookup_cons, ih]
      by_cases hu : u = w
      · simp [hu, hw]
      · simp [beq_false_of_ne hu]

/-! ## Messages about documents -/

/-- The version that a document gets when it is opened or changed. -/
def nextVersion (vs : Versions) (uri : Text) : Nat :=
  match vs.lookup uri with
  | none => 1
  | some v => v + 1

/-- The message by which a document is opened or changed, whichever it needs. -/
def updateOf (vs : Versions) (d : Document) : Outgoing :=
  match vs.lookup d.uri with
  | none => .didOpen d.uri (if d.language.isEmpty then usualLanguage else d.language) 1 d.text
  | some v => .didChange d.uri (v + 1) d.text

theorem isCall_updateOf (vs : Versions) (d : Document) : (updateOf vs d).isCall := by
  unfold updateOf
  split <;> rfl

theorem send_eq (c : Client) {d : Document} (hd : d.uri ≠ []) :
    c.send d = (nextVersion c.session.versions d.uri,
      (c.withVersion d.uri (nextVersion c.session.versions d.uri)).post
        (updateOf c.session.versions d)) := by
  rw [send, if_neg (by simpa using hd), nextVersion, updateOf, version?]
  cases c.session.versions.lookup d.uri <;> rfl

theorem closeDocument_eq (c : Client) {uri : Text} {v : Nat}
    (hv : c.session.versions.lookup uri = some v) :
    c.closeDocument uri =
      (c.mapSession fun s => { s with versions := s.versions.filter (·.1 ≠ uri) }).post
        (.didClose uri) := by
  rw [closeDocument, version?, hv]

/-! ## Versions and messages -/

/-- Whether what was said of a document gives it the version that it has. -/
def Tracks (uri : Text) (calls : List Outgoing) (vs : Versions) : Prop :=
  Sync.replay none (syncs uri calls) = some (vs.lookup uri)

variable {uri : Text} {calls : List Outgoing} {vs : Versions}

theorem Tracks.inCycles (h : Tracks uri calls vs) : Sync.InCycles (syncs uri calls) :=
  Sync.inCycles_iff.2 (Option.isSome_of_eq_some h)

theorem Tracks.other (h : Tracks uri calls vs) {m : Outgoing} (hm : m.sync? uri = none) :
    Tracks uri (calls ++ [m]) vs := by
  have hs : syncs uri [m] = [] := by simp [syncs, hm]
  rw [Tracks, syncs_append, hs, List.append_nil]
  exact h

theorem Tracks.say (h : Tracks uri calls vs) {vs' : Versions} {m : Outgoing} {s : Sync}
    (hm : m.sync? uri = some s) (hs : Sync.next (vs.lookup uri) s = some (vs'.lookup uri)) :
    Tracks uri (calls ++ [m]) vs' := by
  have hm' : syncs uri [m] = [s] := by simp [syncs, hm]
  rw [Tracks, syncs_append, hm', Sync.replay_concat, h]
  exact hs

theorem sync?_updateOf_of_ne (vs : Versions) {d : Document} (hu : d.uri ≠ uri) :
    (updateOf vs d).sync? uri = none := by
  unfold updateOf
  split <;> exact if_neg hu

theorem sync?_updateOf_self (vs : Versions) (d : Document) :
    (updateOf vs d).sync? d.uri = some (match vs.lookup d.uri with
      | none => .opened 1
      | some v => .changed (v + 1)) := by
  unfold updateOf
  cases vs.lookup d.uri <;> exact if_pos rfl

theorem Tracks.update (h : Tracks uri calls vs) (d : Document) :
    Tracks uri (calls ++ [updateOf vs d]) (setVersion d.uri (nextVersion vs d.uri) vs) := by
  have hlook := lookup_setVersion d.uri (nextVersion vs d.uri) vs uri
  by_cases hu : d.uri = uri
  · subst hu
    rw [if_pos rfl] at hlook
    refine h.say (sync?_updateOf_self vs d) ?_
    rw [hlook, nextVersion]
    cases vs.lookup d.uri with
    | none => rfl
    | some v => simp [Sync.next]
  · rw [if_neg (Ne.symm hu)] at hlook
    have hrest := h.other (sync?_updateOf_of_ne vs hu)
    rw [Tracks] at hrest ⊢
    rw [hrest, hlook]

theorem Tracks.close (h : Tracks uri calls vs) {u : Text} {v : Nat} (hv : vs.lookup u = some v) :
    Tracks uri (calls ++ [.didClose u]) (vs.filter (·.1 ≠ u)) := by
  have hlook := lookup_closed u vs uri
  by_cases hu : u = uri
  · subst hu
    rw [if_pos rfl] at hlook
    exact h.say (s := .closed) (if_pos rfl) (by rw [hv, hlook]; rfl)
  · rw [if_neg (Ne.symm hu)] at hlook
    have hrest := h.other (m := .didClose u) (if_neg hu)
    rw [Tracks] at hrest ⊢
    rw [hrest, hlook]

/-- A relation between what callers said and the versions of the documents, whichever they say
next. -/
structure Lasting (R : List Outgoing → Versions → Prop) : Prop where
  other {calls : List Outgoing} {vs : Versions} {m : Outgoing} (h : R calls vs)
    (hm : ∀ uri, m.sync? uri = none) : R (calls ++ [m]) vs
  update {calls : List Outgoing} {vs : Versions} (d : Document) (h : R calls vs) :
    R (calls ++ [updateOf vs d]) (setVersion d.uri (nextVersion vs d.uri) vs)
  close {calls : List Outgoing} {vs : Versions} {u : Text} {v : Nat} (h : R calls vs)
    (hv : vs.lookup u = some v) : R (calls ++ [.didClose u]) (vs.filter (·.1 ≠ u))

theorem lasting_tracks (uri : Text) : Lasting (Tracks uri) :=
  ⟨fun h hm => h.other (hm uri), fun d h => h.update d, fun h hv => h.close hv⟩

/-! ## Several documents -/

/-- The messages by which some documents are opened or changed. -/
def updatesOf : Versions → List Document → List Outgoing
  | _, [] => []
  | vs, d :: ds =>
    if d.uri = [] then updatesOf vs ds
    else updateOf vs d :: updatesOf (setVersion d.uri (nextVersion vs d.uri) vs) ds

/-- The versions after some documents have been opened or changed. -/
def versionsAfter : Versions → List Document → Versions
  | vs, [] => vs
  | vs, d :: ds =>
    if d.uri = [] then versionsAfter vs ds
    else versionsAfter (setVersion d.uri (nextVersion vs d.uri) vs) ds

theorem updatesOf_cons (vs : Versions) {d : Document} (hd : d.uri ≠ []) (ds : List Document) :
    updatesOf vs (d :: ds) =
      [updateOf vs d] ++ updatesOf (setVersion d.uri (nextVersion vs d.uri) vs) ds := by
  rw [updatesOf, if_neg hd]
  rfl

theorem versionsAfter_cons (vs : Versions) {d : Document} (hd : d.uri ≠ [])
    (ds : List Document) :
    versionsAfter vs (d :: ds) =
      versionsAfter (setVersion d.uri (nextVersion vs d.uri) vs) ds := by
  rw [versionsAfter, if_neg hd]

theorem isCall_of_mem_updatesOf (vs : Versions) (ds : List Document) :
    ∀ m ∈ updatesOf vs ds, m.isCall := by
  induction ds generalizing vs with
  | nil =>
    intro m hm
    simp [updatesOf] at hm
  | cons d ds ih =>
    by_cases hd : d.uri = []
    · rw [updatesOf, if_pos hd]
      exact ih vs
    · rw [updatesOf_cons vs hd]
      intro m hm
      rcases List.mem_append.1 hm with hm | hm
      · obtain rfl := List.mem_singleton.1 hm
        exact isCall_updateOf vs d
      · exact ih _ m hm

theorem Lasting.updates {R : List Outgoing → Versions → Prop} (hR : Lasting R) (h : R calls vs)
    (ds : List Document) : R (calls ++ updatesOf vs ds) (versionsAfter vs ds) := by
  induction ds generalizing calls vs with
  | nil => exact (List.append_nil calls).symm ▸ h
  | cons d ds ih =>
    by_cases hd : d.uri = []
    · rw [updatesOf, versionsAfter, if_pos hd, if_pos hd]
      exact ih h
    · rw [updatesOf_cons vs hd, versionsAfter_cons vs hd, ← List.append_assoc]
      exact ih (hR.update d h)

theorem Tracks.updates (h : Tracks uri calls vs) (ds : List Document) :
    Tracks uri (calls ++ updatesOf vs ds) (versionsAfter vs ds) := (lasting_tracks uri).updates h ds

/-- Nothing is said of a document that is not among those opened or changed. -/
theorem syncs_updatesOf_of_not_mem (vs : Versions) {ds : List Document}
    (hd : ∀ d ∈ ds, d.uri ≠ uri) :
    syncs uri (updatesOf vs ds) = [] ∧ (versionsAfter vs ds).lookup uri = vs.lookup uri := by
  induction ds generalizing vs with
  | nil => exact ⟨rfl, rfl⟩
  | cons d ds ih =>
    have hrest (vs : Versions) := ih vs fun e he => hd e (List.mem_cons_of_mem d he)
    by_cases he : d.uri = []
    · rw [updatesOf, versionsAfter, if_pos he, if_pos he]
      exact hrest vs
    · have hu := hd d List.mem_cons_self
      have hone : syncs uri [updateOf vs d] = [] := by
        simp [syncs, sync?_updateOf_of_ne vs hu]
      obtain ⟨hsyncs, hlook⟩ := hrest (setVersion d.uri (nextVersion vs d.uri) vs)
      rw [updatesOf_cons vs he, versionsAfter_cons vs he, syncs_append, hone, hsyncs, hlook,
        lookup_setVersion, if_neg (Ne.symm hu)]
      exact ⟨rfl, rfl⟩

/-- A document that is open stays open while documents are opened or changed. -/
theorem isSome_lookup_versionsAfter {vs : Versions} (h : (vs.lookup uri).isSome)
    (ds : List Document) : ((versionsAfter vs ds).lookup uri).isSome := by
  induction ds generalizing vs with
  | nil => exact h
  | cons d ds ih =>
    by_cases he : d.uri = []
    · rw [versionsAfter, if_pos he]
      exact ih h
    · rw [versionsAfter_cons vs he]
      refine ih ?_
      rw [lookup_setVersion]
      split
      · rfl
      · exact h

/-- Something is said of a document that is opened or changed, and it is open afterwards. -/
theorem syncs_updatesOf_of_mem (vs : Versions) {ds : List Document} (huri : uri ≠ [])
    (hd : ∃ d ∈ ds, d.uri = uri) :
    syncs uri (updatesOf vs ds) ≠ [] ∧ ((versionsAfter vs ds).lookup uri).isSome := by
  induction ds generalizing vs with
  | nil => simp at hd
  | cons d ds ih =>
    by_cases he : d.uri = []
    · obtain ⟨e, hmem, heq⟩ := hd
      rw [updatesOf, versionsAfter, if_pos he, if_pos he]
      rcases List.mem_cons.1 hmem with rfl | hmem
      · exact absurd (heq.symm.trans he) huri
      · exact ih vs ⟨e, hmem, heq⟩
    · rw [updatesOf_cons vs he, versionsAfter_cons vs he, syncs_append]
      by_cases hu : d.uri = uri
      · subst hu
        refine ⟨by simp [syncs, sync?_updateOf_self vs d], isSome_lookup_versionsAfter ?_ ds⟩
        rw [lookup_setVersion, if_pos rfl]
        rfl
      · obtain ⟨e, hmem, heq⟩ := hd
        obtain rfl | hmem := List.mem_cons.1 hmem
        · exact absurd heq hu
        · obtain ⟨hne, hsome⟩ := ih (setVersion d.uri (nextVersion vs d.uri) vs) ⟨e, hmem, heq⟩
          exact ⟨List.append_ne_nil_of_right_ne_nil _ hne, hsome⟩

end Legible.Client
