import Legible.Proofs.Workspace.Run
import Legible.Window.Basic
import Mathlib.Logic.Relation

/-!
# Runs of the window

A run takes the window through what its user does, through events of its editor and its timers, and
through whatever happens in its workspace, in any order (`Input`).  The files that can be read, and
the host of the popup, may change at any time.

What an input does is a chain of changes of a few kinds (`Change`), each of which is one call of the
controller, one call of the debouncer, or a change of the editor or of the workspace alone
(`changes_step`).  What these keep is kept in every run.
-/

namespace Legible.Window

/-- What can happen to the window. -/
inductive Input
  | openFile (file : Text)
  /-- An item of a menu is chosen; the answer is for the dialog that it may open. -/
  | choose (answer : Text) (item : MenuItem)
  | command (c : Command)
  | press (key : Editor.Key) (typed : Text)
  | setText (text : Text)
  | goTo (line column : Int)
  | hover (position : Int)
  | focusOut
  | scroll
  | idleFired
  | debouncerFired
  | workspace (i : Workspace.Input)
  /-- New diagnostics of a file are told. -/
  | updated (path : Text) (ds : List Diagnostic)
  | close
  | filesChanged (files : Files)
  | hostChanged (host : Popup.Overlay)

/-- What one input makes of a window. -/
def step (w : Window) : Input → Window
  | .openFile file => (w.openFile file).2
  | .choose answer item => w.choose answer item
  | .command c => w.run c
  | .press key typed => w.withEditor (Editor.press key typed)
  | .setText text => w.withEditor (Editor.setText text)
  | .goTo line column => w.withEditor (Editor.goTo line column)
  | .hover position => w.withEditor fun e => (e, e.hover position)
  | .focusOut => w.withEditor Editor.focusOut
  | .scroll => w.closePopup
  | .idleFired => w.withEditor Editor.idleFired
  | .debouncerFired => w.withDebouncer Debouncer.fire
  | .workspace i => w.withWorkspace (·.step i)
  | .updated path ds => w.onWorkspace (.diagnostics path ds)
  | .close => w.close
  | .filesChanged files => { w with files }
  | .hostChanged host => { w with popup.host := host }

/-- What becomes of a window. -/
def after (w : Window) (is : List Input) : Window := is.foldl step w

/-! ## Changes -/

/-- Whether an event tells diagnostics or that a file was opened. -/
def Event.isNews : Event → Bool
  | .workspace (.diagnostics ..) | .opened _ => true
  | _ => false

/-- Whether a path is that of the file in the editor. -/
def IsOpen (w : Window) (path : Text) : Prop :=
  ∃ file, w.editor.file = some file ∧ file ≠ [] ∧
    w.workspace.resolve file = w.workspace.resolve path

/-- The editor with the text of a file that was opened. -/
def holding (path text : Text) (e : Editor) : Editor :=
  ({ e.setDiagnostics [] with file := some path }).load text

/-- One change of the window. -/
inductive Change : Window → Window → Prop
  | said {w : Window} (e : Event) (he : e.isNews = false) : Change w (w.emit e)
  | processed (w : Window) : Change w w.process
  | shown (w : Window) : Change w w.showAtCursor
  | popupClosed (w : Window) : Change w w.closePopup
  | toggled (w : Window) :
      Change w { w with popup := Controller.toggle w.config w.reworder w.view w.popup }
  | putOff {w : Window} (h : w.popup.enabled) :
      Change w (w.withDebouncer (·.call w.config.debounceMs ()))
  | debouncerFired (w : Window) : Change w (w.withDebouncer Debouncer.fire)
  | debouncerCancelled (w : Window) : Change w (w.withDebouncer Debouncer.cancel)
  | edited {w : Window} (editor : Editor) (hfile : editor.file = w.editor.file)
      (hds : editor.diagnostics = w.editor.diagnostics) : Change w { w with editor }
  /-- The workspace has done something; what it tells comes after. -/
  | worked {w : Window} (workspace : Workspace) (hbase : workspace.base = w.workspace.base) :
      Change w { w with workspace }
  /-- Diagnostics of the file in the editor are told. -/
  | told {w : Window} {path : Text} (ds : List Diagnostic) (h : w.IsOpen path) :
      Change w { w.emit (.workspace (.diagnostics path ds)) with
        editor := w.editor.setDiagnostics ds }
  /-- Diagnostics of another file are told. -/
  | toldOther {w : Window} {path : Text} (ds : List Diagnostic) (h : ¬ w.IsOpen path) :
      Change w (w.emit (.workspace (.diagnostics path ds)))
  | opened {w : Window} {path : Text} (text : Text) (hpath : path ≠ []) :
      Change w ({ w with
        editor := holding path text w.editor, title := titleFor path }.emit (.opened path))
  | filesChanged {w : Window} (files : Files) : Change w { w with files }
  | hostChanged {w : Window} (host : Popup.Overlay) : Change w { w with popup.host := host }

/-- A chain of changes. -/
abbrev Changes : Window → Window → Prop := Relation.ReflTransGen Change

variable {w : Window}

/-! ## The workspace -/

theorem diagnosticsUpdated_of_isOpen {path : Text} (h : w.IsOpen path) (ds : List Diagnostic) :
    w.diagnosticsUpdated path ds =
      { w with editor := w.editor.setDiagnostics ds }.diagnosticsChanged := by
  obtain ⟨file, hfile, hne, hpath⟩ := h
  have hname : (!file.isEmpty && decide (w.workspace.resolve file = w.workspace.resolve path)) :=
    by simp [hne, hpath]
  rw [diagnosticsUpdated, hfile]
  exact if_pos hname

theorem diagnosticsUpdated_of_not_isOpen {path : Text} (h : ¬ w.IsOpen path)
    (ds : List Diagnostic) : w.diagnosticsUpdated path ds = w := by
  unfold diagnosticsUpdated
  split
  · rfl
  · rename_i file hfile
    refine if_neg fun hname => h ?_
    obtain ⟨hne, hpath⟩ := (Bool.and_eq_true _ _).mp hname
    exact ⟨file, hfile, by simpa using hne, of_decide_eq_true hpath⟩

theorem changes_foldl {α : Type} {f : Window → α → Window} (h : ∀ w a, Changes w (f w a))
    (as : List α) (w : Window) : Changes w (as.foldl f w) := by
  induction as generalizing w with
  | nil => exact .refl
  | cons a as ih => exact (h w a).trans (ih (f w a))

theorem changes_diagnosticsChanged (w : Window) : Changes w w.diagnosticsChanged := by
  unfold diagnosticsChanged
  split
  · rename_i henabled
    exact .single (.putOff henabled)
  · exact .refl

theorem changes_onWorkspace (w : Window) (e : Workspace.Event) : Changes w (w.onWorkspace e) := by
  cases e with
  | diagnostics path ds =>
    by_cases h : w.IsOpen path
    · have htold : Changes w { w.emit (.workspace (.diagnostics path ds)) with
          editor := w.editor.setDiagnostics ds } := .single (.told ds h)
      have hupdated := diagnosticsUpdated_of_isOpen
        (w := w.emit (.workspace (.diagnostics path ds))) h ds
      rw [onWorkspace, hupdated]
      exact htold.trans (changes_diagnosticsChanged _)
    · have hupdated := diagnosticsUpdated_of_not_isOpen
        (w := w.emit (.workspace (.diagnostics path ds))) h ds
      rw [onWorkspace, hupdated]
      exact .single (.toldOther ds h)
  | _ => exact .single (.said _ rfl)

theorem changes_askWorkspace {α : Type} {f : Workspace → α × Workspace}
    (hbase : ∀ ws, (f ws).2.base = ws.base) (w : Window) : Changes w (w.askWorkspace f).2 := by
  have hworked : Changes w
      { w with workspace := { (f { w.workspace with log := [] }).2 with log := [] } } :=
    .single (.worked _ (hbase { w.workspace with log := [] }))
  exact hworked.trans (changes_foldl changes_onWorkspace _ _)

theorem changes_withWorkspace {f : Workspace → Workspace} (hbase : ∀ ws, (f ws).base = ws.base)
    (w : Window) : Changes w (w.withWorkspace f) := changes_askWorkspace hbase w

/-! ## The editor -/

/-- An operation of the editor that leaves its file and its diagnostics alone. -/
def KeepsFile (f : Editor → Editor × List Editor.Event) : Prop :=
  ∀ e, (f e).1.file = e.file ∧ (f e).1.diagnostics = e.diagnostics

theorem keepsFile_moveTo (position : Nat) (editing : Bool) :
    KeepsFile (Editor.moveTo position editing) := by
  intro e
  unfold Editor.moveTo
  split <;> exact ⟨rfl, rfl⟩

theorem keepsFile_goTo (line column : Int) : KeepsFile (Editor.goTo line column) := by
  intro e
  unfold Editor.goTo
  split
  · exact keepsFile_moveTo _ _ e
  · exact ⟨rfl, rfl⟩

theorem keepsFile_press (key : Editor.Key) (typed : Text) : KeepsFile (Editor.press key typed) :=
  fun e => keepsFile_moveTo _ _ { e with text := (Editor.edit key typed e.text e.cursor).1 }

theorem keepsFile_idleFired : KeepsFile Editor.idleFired := by
  intro e
  unfold Editor.idleFired
  split <;> exact ⟨rfl, rfl⟩

theorem changes_textChanged (w : Window) : Changes w w.textChanged := by
  unfold textChanged
  split
  · exact .refl
  · split
    · exact .refl
    · exact changes_withWorkspace (fun ws => (Workspace.continues_changeDocument _ _ ws).base) w

theorem changes_onEditor (w : Window) (e : Editor.Event) : Changes w (w.onEditor e) := by
  cases e with
  | cursorMoved => exact .single (.processed w)
  | cursorIdle => exact .single (.processed w)
  | focusLost => exact .single (.popupClosed w)
  | editingStarted => exact .single (.popupClosed w)
  | textChanged => exact changes_textChanged w
  | _ => exact .single (.said _ rfl)

theorem changes_withEditor {f : Editor → Editor × List Editor.Event} (h : KeepsFile f)
    (w : Window) : Changes w (w.withEditor f) := by
  have hedited : Changes w { w with editor := (f w.editor).1 } :=
    .single (.edited _ (h w.editor).1 (h w.editor).2)
  exact hedited.trans (changes_foldl changes_onEditor _ _)

/-! ## Commands and documents -/

theorem changes_jump (forward : Bool) (w : Window) : Changes w (w.jump forward) := by
  unfold jump
  split
  · exact .refl
  · exact (changes_withEditor (keepsFile_goTo _ _) w).tail (.shown _)

theorem changes_run (w : Window) (c : Command) : Changes w (w.run c) := by
  cases c with
  | toggle => exact (Relation.ReflTransGen.single (.toggled w)).tail (.said _ rfl)
  | showAtCursor => exact .single (.shown w)
  | nextError => exact changes_jump true w
  | prevError => exact changes_jump false w

theorem changes_showFile {path : Text} (hpath : path ≠ []) (text : Text) (w : Window) :
    Changes w (w.showFile path text) := by
  -- the old document is closed while the editor still holds it, so its diagnostics count until then
  have hclosed : ∃ w₁, Changes w w₁ ∧ w.showFile path text =
      ({ w₁.closePopup with
        editor := holding path text w₁.editor, title := titleFor path }.emit
          (.opened path)).withWorkspace (Workspace.openDocument path text) := by
    unfold showFile
    cases w.editor.file with
    | none => exact ⟨w, .refl, rfl⟩
    | some file =>
      dsimp only
      split
      · exact ⟨w, .refl, rfl⟩
      · exact ⟨_, changes_withWorkspace
          (fun ws => (Workspace.continues_closeDocument file ws).base) w, rfl⟩
  obtain ⟨w₁, hw₁, heq⟩ := hclosed
  rw [heq]
  exact ((hw₁.tail (.popupClosed w₁)).tail (.opened text hpath)).trans
    (changes_withWorkspace (fun ws => (Workspace.continues_openDocument path text ws).base) _)

theorem resolve_ne_nil (ws : Workspace) (file : Text) : ws.resolve file ≠ [] := by
  have hroot (p : Text) : Path.rootOf p ≠ [] := by
    unfold Path.rootOf
    split <;> exact List.cons_ne_nil _ _
  exact List.append_ne_nil_of_left_ne_nil (hroot _) _

theorem changes_openFile (file : Text) (w : Window) : Changes w (w.openFile file).2 := by
  unfold openFile
  dsimp only
  split
  · exact .single (.said _ rfl)
  · rename_i text _
    have hshown : Changes w (w.showFile (w.workspace.resolve file) text) :=
      changes_showFile (resolve_ne_nil _ file) text w
    exact hshown

theorem changes_close (w : Window) : Changes w w.close := by
  have hclosed : Changes w (w.withDebouncer Debouncer.cancel).closePopup :=
    (Relation.ReflTransGen.single (.debouncerCancelled w)).tail (.popupClosed _)
  exact (hclosed.trans (changes_withWorkspace
    (fun ws => (Workspace.continues_shutdown ws).base) _)).tail (.said _ rfl)

theorem changes_choose (answer : Text) (item : MenuItem) (w : Window) :
    Changes w (w.choose answer item) := by
  cases item with
  | openFile =>
    have hasked : Changes w (w.emit (.dialog "Open File".toList w.workspace.root fileFilters)) :=
      .single (.said _ rfl)
    show Changes w (w.askForFile answer)
    unfold askForFile
    dsimp only
    split
    · exact hasked
    · exact hasked.trans (changes_openFile answer _)
  | separator => exact .refl
  | quit => exact changes_close w
  | command c => exact changes_run w c

/-! ## Runs -/

theorem changes_step (w : Window) (i : Input) : Changes w (w.step i) := by
  cases i with
  | openFile file => exact changes_openFile file w
  | choose answer item => exact changes_choose answer item w
  | command c => exact changes_run w c
  | press key typed => exact changes_withEditor (keepsFile_press key typed) w
  | setText text => exact changes_withEditor (f := Editor.setText text) (fun _ => ⟨rfl, rfl⟩) w
  | goTo line column => exact changes_withEditor (keepsFile_goTo line column) w
  | hover position =>
    exact changes_withEditor (f := fun e => (e, e.hover position)) (fun _ => ⟨rfl, rfl⟩) w
  | focusOut => exact changes_withEditor (f := Editor.focusOut) (fun _ => ⟨rfl, rfl⟩) w
  | scroll => exact .single (.popupClosed w)
  | idleFired => exact changes_withEditor keepsFile_idleFired w
  | debouncerFired => exact .single (.debouncerFired w)
  | workspace i => exact changes_withWorkspace (fun ws => (Workspace.continues_step ws i).base) w
  | updated path ds => exact changes_onWorkspace w (.diagnostics path ds)
  | close => exact changes_close w
  | filesChanged files => exact .single (.filesChanged files)
  | hostChanged host => exact .single (.hostChanged host)

theorem changes_after (w : Window) (is : List Input) : Changes w (w.after is) :=
  changes_foldl changes_step is w

end Legible.Window
