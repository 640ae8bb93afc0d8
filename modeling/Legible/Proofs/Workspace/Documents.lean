import Legible.Workspace.Basic
import Mathlib.Data.List.Nodup

/-!
# Open documents of a workspace

Each path has one open document at most (`Distinct`), and it is found by its path.  An operation on
the document of one path leaves those of other paths alone, and their timers (`Edits`).
-/

namespace Legible.Workspace

/-- Whether each path has one open document at most. -/
def Distinct (w : Workspace) : Prop := (w.documents.map (·.path)).Nodup

/-- The latest text of an open document. -/
def text? (path : Text) (w : Workspace) : Option Text := (w.find? path).map (·.text)

/-- The text of an open document that waits to be sent. -/
def waiting? (path : Text) (w : Workspace) : Option Text := (w.find? path).bind (·.waiting)

variable {path p : Text} {d : Tracked} {w w' w'' : Workspace}

theorem path_of_find? (h : w.find? path = some d) : d.path = path := by
  simpa using List.find?_some h

theorem Distinct.find? (h : Distinct w) (hd : d ∈ w.documents) : w.find? d.path = some d := by
  obtain ⟨e, he⟩ : ∃ e, w.find? d.path = some e :=
    Option.isSome_iff_exists.1 (List.find?_isSome.2 ⟨d, hd, decide_eq_true rfl⟩)
  have heq : e = d := List.inj_on_of_nodup_map h (List.mem_of_find?_eq_some he) hd (path_of_find? he)
  rw [← heq] at he ⊢
  exact he

/-! ## Finding documents -/

theorem find?_modify {f : Tracked → Tracked} (hf : ∀ d, (f d).path = d.path) (path p : Text)
    (w : Workspace) : (w.modify p f).find? path =
      if path = p then (w.find? path).map f else w.find? path := by
  have hfind : (w.modify p f).find? path =
      (w.find? path).map fun d => if d.path = p then f d else d := by
    rw [find?, modify, List.find?_map, find?]
    congr 2
    funext d
    dsimp only [Function.comp]
    split
    · rw [hf]
    · rfl
  rw [hfind]
  cases hd : w.find? path with
  | none => simp
  | some d =>
    rw [Option.map_some, path_of_find? hd]
    split <;> rfl

theorem distinct_modify (h : Distinct w) {f : Tracked → Tracked} (hf : ∀ d, (f d).path = d.path)
    (p : Text) : Distinct (w.modify p f) := by
  have hpaths : (w.modify p f).documents.map (·.path) = w.documents.map (·.path) := by
    rw [modify, List.map_map]
    refine List.map_congr_left fun d _ => ?_
    dsimp only [Function.comp]
    split
    · exact hf d
    · rfl
  rw [Distinct, hpaths]
  exact h

theorem find?_track (path p language text : Text) (w : Workspace) :
    (w.track p language text).find? path =
      if path = p then some ⟨p, language, text, w.waiting? p⟩ else w.find? path := by
  unfold track
  cases hd : w.find? p with
  | some d =>
    refine (find?_modify (f := fun d => { d with language, text }) (fun _ => rfl) path p w).trans ?_
    split
    · rename_i hp
      rw [hp, waiting?, hd, ← path_of_find? hd]
      rfl
    · rfl
  | none =>
    have hone : [Tracked.mk p language text none].find? (·.path = path) =
        if path = p then some (Tracked.mk p language text none) else none := by
      by_cases hp : path = p
      · simp [hp]
      · simp [hp, Ne.symm hp]
    have hnew : (w.documents ++ [Tracked.mk p language text none]).find? (·.path = path) =
        (w.find? path).or (if path = p then some (Tracked.mk p language text none) else none) := by
      rw [List.find?_append, hone]
      rfl
    refine hnew.trans ?_
    split
    · rename_i hp
      rw [hp, waiting?, hd]
      rfl
    · exact Option.or_none

theorem distinct_track (h : Distinct w) (p language text : Text) :
    Distinct (w.track p language text) := by
  unfold track
  cases hd : w.find? p with
  | some d => exact distinct_modify (f := fun d => { d with language, text }) h (fun _ => rfl) p
  | none =>
    have hp : p ∉ w.documents.map (·.path) := by
      intro hmem
      obtain ⟨d, hin, rfl⟩ := List.mem_map.1 hmem
      exact List.find?_eq_none.1 hd d hin (decide_eq_true rfl)
    show (List.map _ (_ ++ _)).Nodup
    rw [List.map_append]
    exact List.nodup_append.2 ⟨h, List.nodup_singleton p, fun a ha b hb => by
      obtain rfl := List.mem_singleton.1 hb
      exact fun heq => hp (heq ▸ ha)⟩

theorem find?_untrack (path p : Text) (w : Workspace) :
    (w.untrack p).find? path = if path = p then none else w.find? path := by
  rw [find?, untrack, List.find?_filter]
  split
  · rename_i hp
    subst hp
    simp
  · rename_i hp
    rw [find?]
    congr 1
    funext d
    by_cases hd : d.path = path
    · simp [hd, hp]
    · simp [hd]

/-! ## Timers -/

theorem mem_runTimer_self (p : Text) (ts : List (Text × Bool)) : (p, true) ∈ runTimer p ts := by
  induction ts with
  | nil => exact List.mem_singleton.2 rfl
  | cons t ts ih =>
    unfold runTimer
    split
    · rename_i hp
      exact hp ▸ List.mem_cons_self
    · exact List.mem_cons_of_mem _ ih

theorem mem_runTimer {ts : List (Text × Bool)} (h : (path, true) ∈ ts) (p : Text) :
    (path, true) ∈ runTimer p ts := by
  induction ts with
  | nil => exact absurd h List.not_mem_nil
  | cons t ts ih =>
    unfold runTimer
    rcases List.mem_cons.1 h with rfl | h
    · split <;> exact List.mem_cons_self
    · split
      · exact List.mem_cons_of_mem _ h
      · exact List.mem_cons_of_mem _ (ih h)

/-! ## Edits -/

/-- What is done to the document of one path: others stay as they are, and their timers go on
running. -/
structure Edits (p : Text) (w w' : Workspace) : Prop where
  distinct : Distinct w → Distinct w'
  find? {path : Text} (hp : path ≠ p) : w'.find? path = w.find? path
  timers {path : Text} (hp : path ≠ p) (h : (path, true) ∈ w.timers) : (path, true) ∈ w'.timers

theorem Edits.text? (h : Edits p w w') (hp : path ≠ p) : w'.text? path = w.text? path := by
  rw [Workspace.text?, h.find? hp, Workspace.text?]

theorem Edits.waiting? (h : Edits p w w') (hp : path ≠ p) : w'.waiting? path = w.waiting? path := by
  rw [Workspace.waiting?, h.find? hp, Workspace.waiting?]

theorem Edits.trans (h : Edits p w w') (h' : Edits p w' w'') : Edits p w w'' :=
  ⟨h'.distinct ∘ h.distinct, fun hp => (h'.find? hp).trans (h.find? hp),
    fun hp ht => h'.timers hp (h.timers hp ht)⟩

/-- Whatever the client does. -/
theorem Edits.of_eq (hdocuments : w'.documents = w.documents) (htimers : w'.timers = w.timers) :
    Edits p w w' where
  distinct h := by
    rw [Distinct, hdocuments]
    exact h
  find? _ := by rw [Workspace.find?, hdocuments, Workspace.find?]
  timers _ ht := htimers ▸ ht

theorem edits_modify {f : Tracked → Tracked} (hf : ∀ d, (f d).path = d.path) (p : Text)
    (w : Workspace) : Edits p w (w.modify p f) where
  distinct h := distinct_modify h hf p
  find? hp := (find?_modify hf _ p w).trans (if_neg hp)
  timers _ ht := ht

theorem edits_track (p language text : Text) (w : Workspace) :
    Edits p w (w.track p language text) where
  distinct h := distinct_track h p language text
  find? hp := (find?_track _ p language text w).trans (if_neg hp)
  timers _ ht := by
    unfold track
    split <;> exact ht

theorem edits_untrack (p : Text) (w : Workspace) : Edits p w (w.untrack p) where
  distinct h := h.sublist (List.filter_sublist.map _)
  find? hp := (find?_untrack _ p w).trans (if_neg hp)
  timers _ ht := ht

theorem edits_dropTimer (p : Text) (w : Workspace) : Edits p w (w.dropTimer p) := by
  unfold dropTimer
  split
  · exact ⟨id, fun _ => rfl, fun hp ht => List.mem_filter.2 ⟨ht, by simpa using hp⟩⟩
  · exact .of_eq rfl rfl

/-! ## Operations -/

variable {file : Text}

theorem ensureServer_frame (w : Workspace) :
    w.ensureServer.documents = w.documents ∧ w.ensureServer.timers = w.timers := by
  unfold ensureServer
  split <;> exact ⟨rfl, rfl⟩

/-- A document of the family is held, a server runs then, and the document is sent. -/
theorem openDocument_eq (h : Language.isFamily (w.resolve file)) (text : Text) :
    ∃ language, w.openDocument file text =
      (w.track (w.resolve file) language text).ensureServer.withClient fun c =>
        (c.send ⟨Path.toUri (w.resolve file), language, text⟩).2 := by
  rw [openDocument]
  exact ⟨_, if_pos h⟩

theorem openDocument_of_not_isFamily (h : ¬ Language.isFamily (w.resolve file)) (text : Text) :
    w.openDocument file text = w := if_neg h

theorem edits_openDocument (file text : Text) (w : Workspace) :
    Edits (w.resolve file) w (w.openDocument file text) := by
  by_cases h : Language.isFamily (w.resolve file)
  · obtain ⟨language, heq⟩ := openDocument_eq h text
    obtain ⟨hdocuments, htimers⟩ := ensureServer_frame (w.track (w.resolve file) language text)
    rw [heq]
    exact (edits_track _ language text w).trans (.of_eq hdocuments htimers)
  · rw [openDocument_of_not_isFamily h]
    exact .of_eq rfl rfl

/-- The new text of the document does not make up for one that waits. -/
theorem openDocument_spec (h : Language.isFamily (w.resolve file)) (text : Text) :
    (w.openDocument file text).text? (w.resolve file) = some text ∧
      (w.openDocument file text).waiting? (w.resolve file) = w.waiting? (w.resolve file) ∧
      (w.openDocument file text).timers = w.timers := by
  obtain ⟨language, heq⟩ := openDocument_eq h text
  obtain ⟨hdocuments, htimers⟩ := ensureServer_frame (w.track (w.resolve file) language text)
  have hfind : (w.openDocument file text).find? (w.resolve file) =
      some ⟨w.resolve file, language, text, w.waiting? (w.resolve file)⟩ := by
    have htracked := find?_track (w.resolve file) (w.resolve file) language text w
    rw [heq]
    show (w.track _ _ _).ensureServer.find? _ = _
    rw [find?, hdocuments, ← find?, htracked, if_pos rfl]
  have htrack : (w.track (w.resolve file) language text).timers = w.timers := by
    unfold track
    split <;> rfl
  rw [text?, waiting?, hfind]
  refine ⟨rfl, rfl, ?_⟩
  rw [heq]
  exact htimers.trans htrack

theorem changeDocument_eq (h : w.find? (w.resolve file) = some d) (text : Text) :
    w.changeDocument file text = (w.modify (w.resolve file) fun d =>
      { d with text, waiting := some text }).startTimer (w.resolve file) := by
  rw [changeDocument, h]

theorem changeDocument_of_none (h : w.find? (w.resolve file) = none) (text : Text) :
    w.changeDocument file text = w := by
  rw [changeDocument, h]

theorem edits_changeDocument (file text : Text) (w : Workspace) :
    Edits (w.resolve file) w (w.changeDocument file text) := by
  cases hd : w.find? (w.resolve file) with
  | none =>
    rw [changeDocument_of_none hd]
    exact .of_eq rfl rfl
  | some d =>
    have htimer (w : Workspace) (p : Text) : Edits p w (w.startTimer p) :=
      ⟨id, fun _ => rfl, fun _ ht => mem_runTimer ht p⟩
    rw [changeDocument_eq hd]
    exact (edits_modify (f := fun d => { d with text, waiting := some text }) (fun _ => rfl)
      _ w).trans (htimer _ _)

theorem changeDocument_spec (h : w.find? (w.resolve file) = some d) (text : Text) :
    (w.changeDocument file text).text? (w.resolve file) = some text ∧
      (w.changeDocument file text).waiting? (w.resolve file) = some text ∧
      (w.resolve file, true) ∈ (w.changeDocument file text).timers := by
  have hfind : (w.changeDocument file text).find? (w.resolve file) =
      some { d with text, waiting := some text } := by
    have hmodified := find?_modify (f := fun d => { d with text, waiting := some text })
      (fun _ => rfl) (w.resolve file) (w.resolve file) w
    rw [if_pos rfl, h] at hmodified
    rw [changeDocument_eq h]
    exact hmodified
  rw [text?, waiting?, hfind]
  refine ⟨rfl, rfl, ?_⟩
  rw [changeDocument_eq h]
  exact mem_runTimer_self _ _

/-- The workspace once a timer does not run any more, before the text is sent. -/
def stopTimer (p : Text) (w : Workspace) : Workspace :=
  { w with timers := w.timers.map fun t => if t.1 = p then (p, false) else t }

theorem timerFired_of_none (h : w.waiting? p = none) : w.timerFired p = w.stopTimer p := by
  unfold timerFired flush
  have hfind : (w.stopTimer p).find? p = w.find? p := rfl
  rw [waiting?] at h
  rw [← stopTimer, hfind]
  cases hd : w.find? p with
  | none => rfl
  | some d =>
    have hw : d.waiting = none := by rwa [hd] at h
    dsimp only
    rw [hw]

theorem timerFired_of_some {text : Text} (h : w.waiting? p = some text) :
    ∃ language, w.timerFired p =
      ((w.stopTimer p).modify p fun d => { d with waiting := none }).withClient fun c =>
        (c.send ⟨Path.toUri p, language, text⟩).2 := by
  obtain ⟨d, hd, hw⟩ := Option.bind_eq_some_iff.1 h
  have hfind : (w.stopTimer p).find? p = some d := hd
  unfold timerFired flush
  rw [← stopTimer, hfind]
  dsimp only
  rw [hw]
  exact ⟨_, rfl⟩

theorem edits_timerFired (p : Text) (w : Workspace) : Edits p w (w.timerFired p) := by
  have hstopped : Edits p w (w.stopTimer p) :=
    ⟨id, fun _ => rfl, fun hp ht => List.mem_map.2 ⟨_, ht, if_neg hp⟩⟩
  cases h : w.waiting? p with
  | none =>
    rw [timerFired_of_none h]
    exact hstopped
  | some text =>
    obtain ⟨language, heq⟩ := timerFired_of_some h
    have hflushed := edits_modify (f := fun d => { d with waiting := none }) (fun _ => rfl) p
      (w.stopTimer p)
    rw [heq]
    exact (hstopped.trans hflushed).trans (.of_eq rfl rfl)

theorem timerFired_spec (p : Text) (w : Workspace) :
    (w.timerFired p).text? p = w.text? p ∧ (w.timerFired p).waiting? p = none := by
  cases h : w.waiting? p with
  | none =>
    rw [timerFired_of_none h]
    exact ⟨rfl, h⟩
  | some text =>
    obtain ⟨language, heq⟩ := timerFired_of_some h
    have hfind : (w.timerFired p).find? p =
        (w.find? p).map fun d => { d with waiting := none } := by
      rw [heq]
      exact (find?_modify (f := fun d => { d with waiting := none }) (fun _ => rfl) p p _).trans
        (if_pos rfl)
    rw [text?, waiting?, hfind, text?]
    cases w.find? p <;> exact ⟨rfl, rfl⟩

theorem closeDocument_eq (h : w.find? (w.resolve file) = some d) :
    w.closeDocument file = (((w.untrack (w.resolve file)).dropTimer (w.resolve file)).withClient
      (Client.closeDocument (Path.toUri (w.resolve file)))).emit
        (.diagnostics (w.resolve file) []) := by
  rw [closeDocument, h]

theorem closeDocument_of_none (h : w.find? (w.resolve file) = none) : w.closeDocument file = w := by
  rw [closeDocument, h]

theorem edits_closeDocument (file : Text) (w : Workspace) :
    Edits (w.resolve file) w (w.closeDocument file) := by
  cases hd : w.find? (w.resolve file) with
  | none =>
    rw [closeDocument_of_none hd]
    exact .of_eq rfl rfl
  | some d =>
    rw [closeDocument_eq hd]
    exact ((edits_untrack _ w).trans (edits_dropTimer _ _)).trans (.of_eq rfl rfl)

theorem text?_closeDocument (file : Text) (w : Workspace) :
    (w.closeDocument file).text? (w.resolve file) = none := by
  cases hd : w.find? (w.resolve file) with
  | none =>
    rw [closeDocument_of_none hd, text?, hd]
    rfl
  | some d =>
    have hdocuments : (w.closeDocument file).documents = (w.untrack (w.resolve file)).documents := by
      rw [closeDocument_eq hd]
      show ((w.untrack _).dropTimer _).documents = _
      unfold dropTimer
      split <;> rfl
    rw [text?, find?, hdocuments, ← find?, find?_untrack, if_pos rfl]
    rfl

end Legible.Workspace
