import Legible.Proofs.Window.Run
import Mathlib.Data.List.DropRight

/-!
# Whose diagnostics the window shows

The editor holds the file that was opened last, and of its diagnostics those that were told last
since then; where none were told, it has none (`diagnostics_after`).  So nothing that is told of
another file counts, nor what was told of this file before it was opened again: the empty
diagnostics that closing the old document tells come before the new one is opened.

A file that cannot be opened changes nothing.
-/

namespace Legible.Window

open Client (Outgoing)

/-- The file that an event opens. -/
def Event.opened? : Event → Option Text
  | .opened path => some path
  | _ => none

/-- The diagnostics that an event tells of a file. -/
def news? (w : Window) (file : Text) : Event → Option (List Diagnostic)
  | .workspace (.diagnostics path ds) =>
    if w.workspace.resolve file = w.workspace.resolve path then some ds else none
  | _ => none

/-- The file that was opened last. -/
def opened? (w : Window) : Option Text := (w.log.filterMap (·.opened?)).getLast?

/-- What has happened since a file was opened. -/
def sinceOpened (w : Window) : List Event := w.log.rtakeWhile fun e => e.opened?.isNone

/-- The diagnostics of a file that were told last since a file was opened. -/
def lastNews? (w : Window) (file : Text) : Option (List Diagnostic) :=
  (w.sinceOpened.filterMap (w.news? file)).getLast?

/-- The messages that have been written to the server. -/
def written (w : Window) : List Outgoing :=
  w.log.filterMap fun
    | .workspace e => e.wrote?
    | _ => none

/-- A window whose editor holds what was opened last, with the diagnostics that were told last. -/
structure Owns (w : Window) : Prop where
  named : ∀ file, w.editor.file = some file → file ≠ []
  file : w.editor.file = w.opened?
  diagnostics : w.editor.diagnostics = (w.editor.file.bind w.lastNews?).getD []

variable {w w' : Window}

/-! ## What a longer log tells -/

theorem opened?_emit (e : Event) (w : Window) :
    (w.emit e).opened? = e.opened?.or w.opened? := by
  rw [opened?, emit, List.filterMap_append, List.getLast?_append]
  cases h : e.opened? with
  | none => simp [h, opened?]
  | some path => simp [h]

theorem lastNews?_emit {e : Event} (h : e.opened? = none) (file : Text) (w : Window) :
    (w.emit e).lastNews? file = (w.news? file e).or (w.lastNews? file) := by
  have hsince : (w.emit e).sinceOpened = w.sinceOpened ++ [e] :=
    List.rtakeWhile_concat_pos _ _ _ (by rw [h]; rfl)
  have hlast : (w.emit e).lastNews? file =
      ([e].filterMap (w.news? file)).getLast?.or (w.lastNews? file) := by
    rw [lastNews?, hsince, List.filterMap_append, List.getLast?_append]
    rfl
  rw [hlast]
  cases hnews : w.news? file e with
  | none => rw [List.filterMap_cons_none hnews]; rfl
  | some ds => rw [List.filterMap_cons_some hnews]; rfl

theorem lastNews?_opened (path file : Text) (w : Window) :
    (w.emit (.opened path)).lastNews? file = none := by
  have hsince : (w.emit (.opened path)).sinceOpened = [] :=
    List.rtakeWhile_concat_neg _ _ _ (by simp [Event.opened?])
  rw [lastNews?, hsince]
  rfl

theorem news?_of_not_isNews {e : Event} (h : e.isNews = false) (file : Text) (w : Window) :
    e.opened? = none ∧ w.news? file e = none := by
  cases e with
  | opened path => exact Bool.noConfusion h
  | workspace e =>
    cases e with
    | diagnostics path ds => exact Bool.noConfusion h
    | _ => exact ⟨rfl, rfl⟩
  | _ => exact ⟨rfl, rfl⟩

/-! ## What the changes keep -/

/-- Neither the editor's file and diagnostics nor what was told depends on the rest. -/
theorem Owns.congr (h : Owns w) (hfile : w'.editor.file = w.editor.file)
    (hds : w'.editor.diagnostics = w.editor.diagnostics)
    (hbase : w'.workspace.base = w.workspace.base) (hlog : w'.log = w.log) : Owns w' := by
  have hresolve : w'.workspace.resolve = w.workspace.resolve := by
    funext file
    rw [Workspace.resolve, hbase, Workspace.resolve]
  have hnews : w'.lastNews? = w.lastNews? := by
    have hone : w'.news? = w.news? := by
      funext file e
      unfold news?
      rw [hresolve]
    funext file
    rw [lastNews?, lastNews?, sinceOpened, sinceOpened, hlog, hone]
  refine ⟨hfile ▸ h.named, ?_, ?_⟩
  · rw [hfile, opened?, hlog, ← opened?]
    exact h.file
  · rw [hds, hfile, hnews]
    exact h.diagnostics

theorem Owns.emit (h : Owns w) {e : Event} (he : e.isNews = false) : Owns (w.emit e) := by
  have hopened (w : Window) : e.opened? = none := (news?_of_not_isNews he [] w).1
  have hnews : (w.emit e).lastNews? = w.lastNews? := by
    funext file
    rw [lastNews?_emit (hopened w), (news?_of_not_isNews he file w).2, Option.none_or]
  refine ⟨h.named, ?_, ?_⟩
  · rw [opened?_emit, hopened w, Option.none_or]
    exact h.file
  · rw [hnews]
    exact h.diagnostics

theorem Owns.withPopup (h : Owns w) (popup : Popup Popup.Overlay) : Owns { w with popup } :=
  h.congr rfl rfl rfl rfl

theorem Owns.withDebouncer_fire (h : Owns w) : Owns (w.withDebouncer Debouncer.fire) := by
  unfold withDebouncer Debouncer.fire
  cases w.debouncer.active with
  | false => exact h.congr rfl rfl rfl rfl
  | true => cases w.debouncer.callback <;> exact h.congr rfl rfl rfl rfl

theorem Owns.change (h : Owns w) (hc : Change w w') : Owns w' := by
  cases hc with
  | said e he => exact h.emit he
  | processed => exact h.withPopup _
  | shown => exact h.withPopup _
  | popupClosed => exact h.withPopup _
  | toggled => exact h.withPopup _
  | putOff _ =>
    have hcalled (debouncer : Debouncer Unit) : Owns { w with debouncer } :=
      h.congr rfl rfl rfl rfl
    exact (hcalled _).emit (e := .debouncer (.timerStart _)) rfl
  | debouncerFired => exact h.withDebouncer_fire
  | debouncerCancelled =>
    have hcancelled (debouncer : Debouncer Unit) : Owns { w with debouncer } :=
      h.congr rfl rfl rfl rfl
    exact (hcancelled _).emit (e := .debouncer .timerStop) rfl
  | edited editor hfile hds => exact h.congr hfile hds rfl rfl
  | worked workspace hbase => exact h.congr rfl rfl hbase rfl
  | filesChanged files => exact h.congr rfl rfl rfl rfl
  | hostChanged host => exact h.withPopup _
  | @told path ds hopen =>
    obtain ⟨file, hfile, -, hpath⟩ := hopen
    refine ⟨h.named, ?_, ?_⟩
    · exact h.file.trans (opened?_emit (.workspace (.diagnostics path ds)) w).symm
    · show ds = (w.editor.file.bind (w.emit (.workspace (.diagnostics path ds))).lastNews?).getD []
      rw [hfile, Option.bind_some, lastNews?_emit rfl, news?, if_pos hpath]
      rfl
  | @toldOther path ds hother =>
    refine ⟨h.named, ?_, ?_⟩
    · exact h.file.trans (opened?_emit (.workspace (.diagnostics path ds)) w).symm
    · refine h.diagnostics.trans ?_
      show _ = (w.editor.file.bind (w.emit (.workspace (.diagnostics path ds))).lastNews?).getD []
      cases hfile : w.editor.file with
      | none => rfl
      | some file =>
        -- the file has a name, so it is not open under the path only if the paths differ
        have hpath : w.workspace.resolve file ≠ w.workspace.resolve path :=
          fun hpath => hother ⟨file, hfile, h.named file hfile, hpath⟩
        rw [Option.bind_some, Option.bind_some, lastNews?_emit rfl, news?, if_neg hpath,
          Option.none_or]
  | @opened path text hpath =>
    refine ⟨?_, ?_, ?_⟩
    · rintro file ⟨⟩
      exact hpath
    · exact (opened?_emit (.opened path) w).symm
    · exact (congrArg (·.getD []) (lastNews?_opened path path w)).symm

theorem owns_create (config : Config) (reworder : Message.Reworder) (files : Files)
    (workspace : Workspace) : Owns (create config reworder files workspace) :=
  ⟨fun _ hfile => (nomatch hfile), rfl, rfl⟩

theorem Owns.changes (h : Owns w) (hcs : Changes w w') : Owns w' := by
  induction hcs with
  | refl => exact h
  | tail _ hc ih => exact ih.change hc

theorem openFile_of_error {file : Text} {e : OpenError}
    (h : w.files.readText (w.workspace.resolve file) = .error e) :
    ∃ text, w.openFile file = (false, w.emit (.status text)) := by
  rw [openFile, h]
  exact ⟨_, rfl⟩

theorem openFile_of_ok {file text : Text}
    (h : w.files.readText (w.workspace.resolve file) = .ok text) :
    w.openFile file = (true, w.showFile (w.workspace.resolve file) text) := by
  rw [openFile, h]

theorem openFile_eq_false_iff (file : Text) (w : Window) : (w.openFile file).1 = false ↔
    ∃ e, w.files.readText (w.workspace.resolve file) = .error e := by
  constructor
  · intro hfalse
    cases h : w.files.readText (w.workspace.resolve file) with
    | error e => exact ⟨e, rfl⟩
    | ok text => exact Bool.noConfusion ((congrArg Prod.fst (openFile_of_ok h)).symm.trans hfalse)
  · rintro ⟨e, h⟩
    obtain ⟨text, heq⟩ := openFile_of_error h
    rw [heq]

/-- In every run the editor holds the file that was opened last, and the diagnostics of it that were
told last since then.  A file without a text is not opened, and then the editor, the popup, the
workspace and what was written to the server stay as they were. -/
theorem diagnostics_after (config : Config) (reworder : Message.Reworder) (files : Files)
    (workspace : Workspace) (is : List Input) :
    let w := (create config reworder files workspace).after is
    w.editor.file = w.opened? ∧
    w.editor.diagnostics = (w.editor.file.bind w.lastNews?).getD [] ∧
    ∀ file,
      ((w.openFile file).1 = false ↔
        ∃ e, w.files.readText (w.workspace.resolve file) = .error e) ∧
      ((w.openFile file).1 = false →
        (w.openFile file).2.editor = w.editor ∧ (w.openFile file).2.popup = w.popup ∧
        (w.openFile file).2.workspace = w.workspace ∧
        (w.openFile file).2.written = w.written) := by
  intro w
  have howns : Owns w := (owns_create config reworder files workspace).changes (changes_after _ is)
  refine ⟨howns.file, howns.diagnostics, fun file => ⟨openFile_eq_false_iff file w, ?_⟩⟩
  intro hfalse
  obtain ⟨e, h⟩ := (openFile_eq_false_iff file w).1 hfalse
  obtain ⟨text, heq⟩ := openFile_of_error h
  have hwritten : (w.emit (.status text)).written = w.written := by
    rw [written, emit, List.filterMap_append]
    exact List.append_nil _
  rw [heq]
  exact ⟨rfl, rfl, rfl, hwritten⟩

/-- Diagnostics of another file do not count, and a file that is missing is not opened. -/
theorem diagnostics_after_otherFile :
    let at? (message : String) : Diagnostic :=
      { message := message.toList, line := 0, column := 0, endLine := 0, endColumn := 1 }
    let reworder : Message.Reworder := ⟨[], false, false, []⟩
    let files := Files.ofEntries [("/a".toList, .file [120]), ("/b".toList, .file [121])]
    let is : List Input := [.openFile "/b".toList, .openFile "/a".toList,
      .updated "/a".toList [at? "1"], .updated "/b".toList [at? "2"]]
    let w := (create {} reworder files (.create {} reworder ['/'] ['/'] 1)).after is
    w.editor.file = some "/a".toList ∧ w.editor.diagnostics = [at? "1"] ∧
      (w.openFile "/c".toList).1 = false ∧ (w.openFile "/c".toList).2.editor = w.editor := by
  intro at? reworder files is w
  have hopened : w.opened? = some "/a".toList := by decide +kernel
  have hnews : (w.editor.file.bind w.lastNews?).getD [] = [at? "1"] := by decide +kernel
  have hfalse : (w.openFile "/c".toList).1 = false := by decide +kernel
  have hw : w = (create {} reworder files (.create {} reworder ['/'] ['/'] 1)).after is := rfl
  clear_value w
  obtain ⟨hfile, hds, hopen⟩ :=
    diagnostics_after {} reworder files (.create {} reworder ['/'] ['/'] 1) is
  rw [← hw] at hfile hds hopen
  exact ⟨hfile.trans hopened, hds.trans hnews, hfalse, ((hopen _).2 hfalse).1⟩

end Legible.Window
