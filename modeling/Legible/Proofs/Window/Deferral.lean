import Legible.Proofs.Controller.Deferral
import Legible.Proofs.Window.Run

/-!
# The controller of the window

What the window does with its popup and its debouncer is a run of its controller over its debouncer
(`run_of_window`): every change of the window is one event of such a run, or none.  So what holds of
all evaluations that are put off holds of those of the window.
-/

namespace Legible.Window

open Controller (Deferral)

variable {w w' : Window} {d : Deferral Popup.Overlay}

/-- A controller that stands where that of a window stands.  The window does not number what it puts
off. -/
structure Stands (d : Deferral Popup.Overlay) (w : Window) : Prop where
  config : d.config = w.config
  reworder : d.reworder = w.reworder
  view : d.view = w.view
  popup : d.popup = w.popup
  active : d.debouncer.active = w.debouncer.active
  callback : d.debouncer.callback.isSome = w.debouncer.callback.isSome

/-- The controller of a window that has not put anything off. -/
def deferral (w : Window) : Deferral Popup.Overlay :=
  { config := w.config, reworder := w.reworder, view := w.view, popup := w.popup }

theorem view_congr (h : w'.editor = w.editor) : w'.view = w.view := by
  rw [view, h, ← view]

theorem Stands.expired (h : Stands d w) :
    Stands (d.step .expired) (w.withDebouncer Debouncer.fire) := by
  obtain ⟨config, reworder, view, popup, ⟨callback, active⟩, asked, ran⟩ := d
  obtain ⟨rfl, rfl, rfl, rfl, hactive, hcallback⟩ := h
  dsimp only at hactive hcallback
  subst hactive
  rw [Deferral.step, Deferral.withDebouncer, Window.withDebouncer, Debouncer.fire, Debouncer.fire]
  cases hrunning : w.debouncer.active with
  | false => exact ⟨rfl, rfl, rfl, rfl, hrunning.symm, hcallback⟩
  | true =>
    cases hput : w.debouncer.callback with
    | none =>
      rw [hput, Option.isSome_none, Option.isSome_eq_false_iff, Option.isNone_iff_eq_none]
        at hcallback
      subst hcallback
      exact ⟨rfl, rfl, rfl, rfl, rfl, rfl⟩
    | some _ =>
      rw [hput, Option.isSome_some] at hcallback
      obtain ⟨n, rfl⟩ := Option.isSome_iff_exists.1 hcallback
      exact ⟨rfl, rfl, rfl, rfl, rfl, rfl⟩

theorem Stands.withPopup (h : Stands d w) {p q : Popup Popup.Overlay} (hp : p = q) :
    Stands { d with popup := p } { w with popup := q } :=
  ⟨h.config, h.reworder, h.view.trans (view_congr rfl).symm, hp, h.active, h.callback⟩

theorem Stands.viewChanged (h : Stands d w) (hconfig : w'.config = w.config)
    (hreworder : w'.reworder = w.reworder) (hpopup : w'.popup = w.popup)
    (hdebouncer : w'.debouncer = w.debouncer) : Stands (d.run [.viewChanged w'.view]) w' :=
  ⟨hconfig ▸ h.config, hreworder ▸ h.reworder, rfl, hpopup ▸ h.popup, hdebouncer ▸ h.active,
    hdebouncer ▸ h.callback⟩

theorem Stands.congr (h : Stands d w) (hconfig : w'.config = w.config)
    (hreworder : w'.reworder = w.reworder) (heditor : w'.editor = w.editor)
    (hpopup : w'.popup = w.popup) (hdebouncer : w'.debouncer = w.debouncer) : Stands d w' :=
  ⟨hconfig ▸ h.config, hreworder ▸ h.reworder, h.view.trans (view_congr heditor).symm,
    hpopup ▸ h.popup, hdebouncer ▸ h.active, hdebouncer ▸ h.callback⟩

theorem Stands.change (h : Stands d w) (hc : Change w w') : ∃ es, Stands (d.run es) w' := by
  have hprocess : Controller.process d.config d.reworder d.view d.popup =
      Controller.process w.config w.reworder w.view w.popup := by
    rw [h.config, h.reworder, h.view, h.popup]
  have hevaluate : Controller.evaluate d.config d.reworder d.view d.popup =
      Controller.evaluate w.config w.reworder w.view w.popup := by
    rw [h.config, h.reworder, h.view, h.popup]
  have htoggle : Controller.toggle d.config d.reworder d.view d.popup =
      Controller.toggle w.config w.reworder w.view w.popup := by
    rw [h.config, h.reworder, h.view, h.popup]
  cases hc with
  | said e _ => exact ⟨[], h.congr rfl rfl rfl rfl rfl⟩
  | worked workspace _ => exact ⟨[], h.congr rfl rfl rfl rfl rfl⟩
  | toldOther ds _ => exact ⟨[], h.congr rfl rfl rfl rfl rfl⟩
  | filesChanged files => exact ⟨[], h.congr rfl rfl rfl rfl rfl⟩
  | processed => exact ⟨[.cursorMoved], h.withPopup hprocess⟩
  | shown => exact ⟨[.showAtCursor], h.withPopup (congrArg Prod.snd hevaluate)⟩
  | popupClosed => exact ⟨[.bufferLeft], h.withPopup (congrArg Popup.close h.popup)⟩
  | toggled => exact ⟨[.toggle], h.withPopup htoggle⟩
  | hostChanged host =>
    have hhost : ({ d.popup with host } : Popup Popup.Overlay) = { w.popup with host } := by
      rw [h.popup]
    exact ⟨[.hostChanged host], h.withPopup hhost⟩
  | putOff henabled =>
    have hput : d.run [.diagnosticsChanged] = d.putOff := if_pos (h.popup ▸ henabled)
    refine ⟨[.diagnosticsChanged], ?_⟩
    rw [hput]
    exact ⟨h.config, h.reworder, h.view.trans (view_congr rfl).symm, h.popup, rfl, rfl⟩
  | debouncerFired => exact ⟨[.expired], h.expired⟩
  | debouncerCancelled =>
    exact ⟨[.cancelled], h.config, h.reworder, h.view.trans (view_congr rfl).symm, h.popup, rfl,
      rfl⟩
  | edited editor _ _ => exact ⟨[.viewChanged _], h.viewChanged rfl rfl rfl rfl⟩
  | told ds _ => exact ⟨[.viewChanged _], h.viewChanged rfl rfl rfl rfl⟩
  | opened text _ => exact ⟨[.viewChanged _], h.viewChanged rfl rfl rfl rfl⟩

theorem Stands.changes (h : Stands d w) (hcs : Changes w w') : ∃ es, Stands (d.run es) w' := by
  induction hcs with
  | refl => exact ⟨[], h⟩
  | tail _ hc ih =>
    obtain ⟨es, hes⟩ := ih
    obtain ⟨es', hes'⟩ := hes.change hc
    exact ⟨es ++ es', (d.run_append es es').symm ▸ hes'⟩

/-- In every run of a window its popup and its debouncer go through a run of its controller. -/
theorem run_of_window (config : Config) (reworder : Message.Reworder) (files : Files)
    (workspace : Workspace) (is : List Input) :
    let w := create config reworder files workspace
    ∃ es, Stands (w.deferral.run es) (w.after is) := by
  intro w
  have hnew : Stands w.deferral w := ⟨rfl, rfl, rfl, rfl, rfl, rfl⟩
  exact hnew.changes (changes_after w is)

end Legible.Window
