import Legible.Controller.Session
import Legible.Proofs.Message.Ink
import Legible.Proofs.Popup.Content

/-!
# The popup follows the cursor

Whenever the controller shows what stands at the cursor (`Shows`), the popup ends up open just if a
diagnostic begins on the line of the cursor and covers it, and it holds the reworded messages of
these diagnostics with their highlights, and nothing else.  What it held before does not matter, nor
which handles were lost, so two sessions whose editors look alike show the same
(`shown_of_shows`).
-/

namespace Legible.Controller

open Popup (BufferContent Recorder)

variable {c : Config} {r : Message.Reworder} {v : View}

/-- What is to be read at the cursor, if a diagnostic begins on its line and covers it. -/
def textAt? (r : Message.Reworder) (v : View) : Option BufferContent :=
  let here := v.diagnostics.filter fun d => d.line = v.cursor.1 && d.covers v.cursor.1 v.cursor.2
  let lines := here.flatMap fun d => r.rewordLines d.message
  if here.isEmpty then none else some ⟨lines, Popup.highlights lines⟩

/-! ## One look at the cursor -/

theorem current_eq (v : View) : current v =
    v.diagnostics.filter fun d => d.line = v.cursor.1 && d.covers v.cursor.1 v.cursor.2 := by
  rw [current, Diagnostic.select, Diagnostic.onLine, List.filter_filter]
  exact List.filter_congr fun d _ => Bool.and_comm ..

theorem prepareLines_contentFor (r : Message.Reworder) (ds : List Diagnostic) :
    Popup.prepareLines (contentFor r ds) = contentFor r ds :=
  Popup.prepareLines_of_forall fun line hline => by
    obtain ⟨d, -, hd⟩ := List.mem_flatMap.1 hline
    exact Message.Reworder.not_mem_of_mem_rewordLines hd

theorem contentFor_ne_nil {ds : List Diagnostic} (h : ds ≠ []) : contentFor r ds ≠ [] := by
  obtain ⟨d, rest, rfl⟩ := List.exists_cons_of_ne_nil h
  exact List.append_ne_nil_of_left_ne_nil (r.rewordLines_ne_nil d.message) _

/-- Where no diagnostic is at the cursor the popup is closed; any that are there are displayed, with
content that is kept as it is. -/
theorem evaluate_cases {σ : Type} [SurfaceHost σ] (hkind : Language.isSupported v.kind)
    (p : Popup σ) :
    (current v = [] ∧ (evaluate c r v p).2 = p.close) ∨
    (current v ≠ [] ∧ Popup.prepareLines (contentFor r (current v)) ≠ [] ∧
      (evaluate c r v p).2 =
        p.display c (contentFor r (current v)) (some (worstSeverity (current v)))) := by
  rw [evaluate, if_pos hkind, prepareLines_contentFor]
  cases hcurrent : current v with
  | nil => exact .inl ⟨rfl, rfl⟩
  | cons d ds =>
    have hne := List.cons_ne_nil d ds
    exact .inr ⟨hne, contentFor_ne_nil hne, rfl⟩

theorem shown?_evaluate (hkind : Language.isSupported v.kind) (p : Popup Recorder) :
    (evaluate c r v p).2.shown? = textAt? r v := by
  rw [textAt?, ← current_eq]
  rcases evaluate_cases hkind p with ⟨hnone, heq⟩ | ⟨hsome, hne, heq⟩
  · rw [heq, hnone, Popup.shown?, Popup.isOpen_close]
    rfl
  · rw [heq, if_neg (by simpa using hsome), Popup.shown?_display hne, prepareLines_contentFor]
    rfl

/-- An open popup over a host that keeps a record can be read. -/
theorem isSome_shown? (p : Popup Recorder) : p.shown?.isSome = p.isOpen := by
  rw [Popup.shown?]
  split
  · rename_i hopen
    rw [Popup.isSome_content?, hopen]
    exact ((Bool.and_eq_true _ _).mp hopen).2
  · rename_i hclosed
    simpa using hclosed

theorem isSome_textAt?_iff : (textAt? r v).isSome ↔
    ∃ d ∈ v.diagnostics, d.line = v.cursor.1 ∧ d.covers v.cursor.1 v.cursor.2 := by
  rw [textAt?, ← current_eq]
  have hmem : current v ≠ [] ↔
      ∃ d ∈ v.diagnostics, d.line = v.cursor.1 ∧ d.covers v.cursor.1 v.cursor.2 := by
    rw [current_eq, ne_eq, List.filter_eq_nil_iff]
    simp
  rw [← hmem]
  cases current v with
  | nil => simp
  | cons d ds => simp

/-! ## Sessions -/

namespace Session

variable {s : Session} {e : Event}

/-- What becomes of a session. -/
def run (s : Session) (es : List Event) : Session := es.foldl (fun s e => (s.step e).2) s

/-- Whether an event has the controller show what stands at the cursor: the popup is switched on,
by this event perhaps, or the controller is asked for it or goes to another diagnostic. -/
def Shows (s : Session) : Event → Prop
  | .cursorMoved | .cursorIdle | .process => s.popup.enabled
  | .flush => s.popup.enabled ∧ s.pending
  | .diagnosticsChanged => s.popup.enabled ∧ s.defers = false
  | .toggle => s.popup.enabled = false
  | .showAtCursor => True
  | .nextError => (target? s.view true).isSome
  | .prevError => (target? s.view false).isSome
  | _ => False

theorem reworder_jump (s : Session) (forward : Bool) : (s.jump forward).2.reworder = s.reworder := by
  unfold jump
  split <;> rfl

theorem reworder_step (s : Session) (e : Event) : (s.step e).2.reworder = s.reworder := by
  cases e with
  | nextError => exact s.reworder_jump true
  | prevError => exact s.reworder_jump false
  | flush => rw [step]; split <;> rfl
  | diagnosticsChanged =>
    rw [step, putOff]
    split
    · split <;> rfl
    · rfl
  | _ => rfl

theorem reworder_run (s : Session) (es : List Event) : (s.run es).reworder = s.reworder := by
  induction es generalizing s with
  | nil => rfl
  | cons e es ih => exact (ih _).trans (reworder_step s e)

theorem shown?_process (hkind : Language.isSupported s.view.kind) (h : s.popup.enabled) :
    s.process.popup.shown? = textAt? s.reworder s.view := by
  show (Controller.process s.config s.reworder s.view s.popup).shown? = _
  rw [Controller.process, if_pos h]
  exact shown?_evaluate hkind s.popup

theorem shown?_jump (hkind : Language.isSupported s.view.kind) {forward : Bool}
    (h : (target? s.view forward).isSome) :
    (s.jump forward).2.popup.shown? = textAt? s.reworder (s.jump forward).2.view := by
  obtain ⟨d, hd⟩ := Option.isSome_iff_exists.1 h
  simp only [jump, hd]
  exact shown?_evaluate (v := { s.view with cursor := d.start }) hkind s.popup

theorem shown?_step (hkind : Language.isSupported s.view.kind) (h : s.Shows e) :
    (s.step e).2.popup.shown? = textAt? s.reworder (s.step e).2.view := by
  cases e with
  | cursorMoved => exact shown?_process hkind h
  | cursorIdle => exact shown?_process hkind h
  | process => exact shown?_process hkind h
  | flush =>
    rw [step, if_pos h.2]
    exact shown?_process (s := { s with pending := false }) hkind h.1
  | diagnosticsChanged =>
    rw [step, if_pos h.1, putOff, if_neg (by simp [h.2])]
    exact shown?_process hkind h.1
  | toggle =>
    -- the popup is switched on first, and what follows is as if it had been on
    have henabled : (!s.popup.enabled) = true := by rw [h]; rfl
    show (Controller.toggle s.config s.reworder s.view s.popup).shown? = _
    rw [Controller.toggle]
    dsimp only
    rw [if_pos henabled]
    exact shown?_process (s := { s with popup.enabled := !s.popup.enabled }) hkind henabled
  | showAtCursor => exact shown?_evaluate hkind s.popup
  | nextError => exact shown?_jump hkind h
  | prevError => exact shown?_jump hkind h
  | _ => exact h.elim

/-- Whatever a session has been through, when the controller shows what stands at the cursor of a
document that the popup serves, the popup is open just if a diagnostic begins on the line of the
cursor and covers it.  An open popup holds the reworded messages of these diagnostics in their order,
with their highlights, and nothing else.  So it does not matter what was before: another session
whose editor looks the same shows the same.  Every rule is taken to be applicable to the messages, as
`canApply` says. -/
theorem shown_of_shows (s : Session) (es : List Event) {e : Event}
    (hkind : Language.isSupported (s.run es).view.kind) (h : (s.run es).Shows e) :
    let now := ((s.run es).step e).2
    let here := now.view.diagnostics.filter fun d =>
      d.line = now.view.cursor.1 && d.covers now.view.cursor.1 now.view.cursor.2
    let lines := here.flatMap fun d => s.reworder.rewordLines d.message
    (now.popup.isOpen ↔ ∃ d ∈ now.view.diagnostics,
      d.line = now.view.cursor.1 ∧ d.covers now.view.cursor.1 now.view.cursor.2) ∧
    (now.popup.isOpen → now.popup.content? = some ⟨lines, Popup.highlights lines⟩) ∧
    ∀ (s' : Session) (es' : List Event) (e' : Event),
      Language.isSupported (s'.run es').view.kind → (s'.run es').Shows e' →
      s'.reworder = s.reworder → ((s'.run es').step e').2.view = now.view →
      ((s'.run es').step e').2.popup.shown? = now.popup.shown? := by
  intro now here lines
  have hshown : now.popup.shown? = textAt? s.reworder now.view :=
    s.reworder_run es ▸ shown?_step hkind h
  have hopen : now.popup.isOpen ↔ ∃ d ∈ now.view.diagnostics,
      d.line = now.view.cursor.1 ∧ d.covers now.view.cursor.1 now.view.cursor.2 := by
    rw [← isSome_shown?, hshown, isSome_textAt?_iff]
  refine ⟨hopen, fun ho => ?_, fun s' es' e' hkind' h' hreworder hview => ?_⟩
  · have hne : ¬ here.isEmpty := by
      obtain ⟨d, hd, hat⟩ := hopen.1 ho
      have hmem : d ∈ here := List.mem_filter.2 ⟨hd, by simpa using hat⟩
      simpa using List.ne_nil_of_mem hmem
    rw [Popup.shown?, if_pos ho, textAt?, if_neg hne] at hshown
    exact hshown
  · rw [shown?_step hkind' h', reworder_run, hreworder, hview, hshown]

/-- The cursor goes from one diagnostic to two others after the buffer of the open popup was lost. -/
theorem shown_of_shows_lostBuffer :
    let at? (message : String) (column : Int) : Diagnostic :=
      { message := message.toList, line := 0, column, endLine := 0, endColumn := column + 4 }
    let s : Session :=
      { config := {}, reworder := ⟨[], false, false, []⟩, popup := { enabled := true, host := {} },
        view := ⟨"typescript".toList, (0, 0), [at? "a" 0, at? "b" 7, at? "c" 8]⟩ }
    let es := [Event.cursorMoved, .loseBuffer, .setCursor 0 9]
    let now := ((s.run es).step .cursorMoved).2
    Language.isSupported (s.run es).view.kind ∧ (s.run es).Shows .cursorMoved ∧
      (s.run es).popup.isOpen = false ∧ now.popup.isOpen ∧
      now.popup.content? = some ⟨[['b'], ['c']], Popup.highlights [['b'], ['c']]⟩ := by
  intro at? s es now
  have hkind : Language.isSupported (s.run es).view.kind := by decide +kernel
  have h : (s.run es).Shows .cursorMoved := show (s.run es).popup.enabled by decide +kernel
  obtain ⟨hopen, hcontent, -⟩ := shown_of_shows s es hkind h
  have hnow : now.popup.isOpen := hopen.2 (by decide +kernel)
  exact ⟨hkind, h, by decide +kernel, hnow, (hcontent hnow).trans (by decide +kernel)⟩

end Session

end Legible.Controller
