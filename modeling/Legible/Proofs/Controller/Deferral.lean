import Legible.Controller
import Legible.Debounce
import Legible.Proofs.Popup.Content
import Mathlib.Data.List.Induction

/-!
# Evaluations that are put off

A `Deferral` is the controller over a debouncer: when the diagnostics change, the evaluation at the
cursor is put off until the time of the debouncer is over.  Evaluations that are put off are
numbered, and those that run are recorded.

At any time one evaluation at most is due, and every step says which one (`due_step`).  It is the
last one that was put off, unless the time was over or the debouncer was cancelled since, and it
runs when the time is over and at no other time (`ran_step`).  Whatever was put off before, it does
nothing while the popup is switched off (`popup_run_of_disabled`).
-/

namespace Legible.Controller

/-- The controller with its popup, over a debouncer. -/
structure Deferral (σ : Type) where
  config : Config
  reworder : Message.Reworder
  view : View
  popup : Popup σ
  debouncer : Debouncer Nat := {}
  /-- How many evaluations have been put off. -/
  asked : Nat := 0
  /-- The numbers of those that have run, in order. -/
  ran : List Nat := []

namespace Deferral

variable {σ : Type} [SurfaceHost σ]

/-- What can happen. -/
inductive Event (σ : Type)
  | cursorMoved
  | cursorIdle
  | bufferLeft
  | insertEntered
  | diagnosticsChanged
  | toggle
  | showAtCursor
  /-- The controller goes to another diagnostic, after which the editor has some look; it may tell
  that its cursor has moved. -/
  | jump (forward told : Bool) (view : View)
  /-- The time of the debouncer is over. -/
  | expired
  | cancelled
  | viewChanged (view : View)
  | hostChanged (host : σ)

/-- Shows the diagnostics at the cursor if the popup is switched on. -/
def process (d : Deferral σ) : Deferral σ :=
  { d with popup := Controller.process d.config d.reworder d.view d.popup }

/-- Shows the diagnostics at the cursor. -/
def evaluate (d : Deferral σ) : Deferral σ :=
  { d with popup := (Controller.evaluate d.config d.reworder d.view d.popup).2 }

/-- Does something with the debouncer; what it runs is recorded. -/
def withDebouncer (f : Debouncer Nat → Debouncer Nat × List (DebounceEvent Nat))
    (d : Deferral σ) : Deferral σ :=
  let (debouncer, events) := f d.debouncer
  events.foldl (fun d e =>
    match e with
    | .ran n => { d.process with ran := d.ran ++ [n] }
    | _ => d) { d with debouncer }

/-- Puts an evaluation off. -/
def putOff (d : Deferral σ) : Deferral σ :=
  { d.withDebouncer (·.call d.config.debounceMs d.asked) with asked := d.asked + 1 }

/-- What an event does. -/
def step (d : Deferral σ) : Event σ → Deferral σ
  | .cursorMoved | .cursorIdle => d.process
  | .bufferLeft | .insertEntered => { d with popup := d.popup.close }
  | .diagnosticsChanged => if d.popup.enabled then d.putOff else d
  | .toggle => { d with popup := Controller.toggle d.config d.reworder d.view d.popup }
  | .showAtCursor => d.evaluate
  | .jump forward told view =>
    match target? d.view forward with
    | none => d
    | some _ =>
      let d := { d with view }
      (if told then d.process else d).evaluate
  | .expired => d.withDebouncer Debouncer.fire
  | .cancelled => d.withDebouncer Debouncer.cancel
  | .viewChanged view => { d with view }
  | .hostChanged host => { d with popup.host := host }

/-- What becomes of a controller. -/
def run (d : Deferral σ) (es : List (Event σ)) : Deferral σ := es.foldl step d

/-- Whether an event is not asked for by the user. -/
def Event.isAutomatic : Event σ → Bool
  | .cursorMoved | .cursorIdle | .diagnosticsChanged | .expired => true
  | _ => false

def Event.isExpiry : Event σ → Bool
  | .expired => true
  | _ => false

def Event.isCancellation : Event σ → Bool
  | .cancelled => true
  | _ => false

def Event.isChange : Event σ → Bool
  | .diagnosticsChanged => true
  | _ => false

/-- The evaluation that runs when the time is over. -/
def due (d : Deferral σ) : Option Nat := if d.debouncer.active then d.debouncer.callback else none

variable {d : Deferral σ} {e : Event σ} {es : List (Event σ)}

/-! ## One step -/

theorem expired_eq (d : Deferral σ) : d.step .expired = match d.due with
    | some n => { d with
        debouncer := {}
        popup := Controller.process d.config d.reworder d.view d.popup
        ran := d.ran ++ [n] }
    | none => { d with debouncer := if d.debouncer.active then {} else d.debouncer } := by
  rw [step, withDebouncer, Debouncer.fire, due]
  cases d.debouncer.active with
  | false => rfl
  | true => cases d.debouncer.callback <;> rfl

theorem jump_frame (forward told : Bool) (view : View) (d : Deferral σ) :
    (d.step (.jump forward told view)).debouncer = d.debouncer ∧
      (d.step (.jump forward told view)).asked = d.asked ∧
      (d.step (.jump forward told view)).ran = d.ran := by
  rw [step]
  split
  · exact ⟨rfl, rfl, rfl⟩
  · cases told <;> exact ⟨rfl, rfl, rfl⟩

theorem ran_step (d : Deferral σ) (e : Event σ) :
    (d.step e).ran = d.ran ++ if e.isExpiry then d.due.toList else [] := by
  cases e with
  | expired =>
    rw [expired_eq]
    cases d.due with
    | none => exact (List.append_nil _).symm
    | some n => rfl
  | jump forward told view =>
    exact (d.jump_frame forward told view).2.2.trans (List.append_nil _).symm
  | diagnosticsChanged =>
    rw [step]
    split <;> exact (List.append_nil _).symm
  | _ => exact (List.append_nil _).symm

theorem asked_step (d : Deferral σ) (e : Event σ) :
    (d.step e).asked = d.asked + if e.isChange && d.popup.enabled then 1 else 0 := by
  cases e with
  | expired =>
    rw [expired_eq]
    cases d.due <;> rfl
  | jump forward told view => exact (d.jump_frame forward told view).2.1
  | diagnosticsChanged =>
    rw [step]
    cases d.popup.enabled <;> rfl
  | _ => rfl

theorem due_step (d : Deferral σ) (e : Event σ) : (d.step e).due =
    if e.isChange && d.popup.enabled then some d.asked
    else if e.isExpiry || e.isCancellation then none
    else d.due := by
  cases e with
  | expired =>
    rw [expired_eq]
    cases hdue : d.due with
    | some n => rfl
    | none =>
      -- the timer may run without a callback, and stops then
      cases hactive : d.debouncer.active <;> simp [due, hactive, Event.isExpiry, Event.isChange]
  | jump forward told view =>
    have hsame := (d.jump_frame forward told view).1
    rw [due, hsame]
    rfl
  | diagnosticsChanged =>
    rw [step]
    cases d.popup.enabled <;> rfl
  | _ => rfl

/-- While the popup is switched off nothing happens to it that the user did not ask for. -/
theorem popup_step_of_disabled (hd : d.popup.enabled = false) (he : e.isAutomatic) :
    (d.step e).popup = d.popup := by
  have hprocess : Controller.process d.config d.reworder d.view d.popup = d.popup :=
    if_neg (by simp [hd])
  cases e with
  | cursorMoved => exact hprocess
  | cursorIdle => exact hprocess
  | diagnosticsChanged => rw [step, if_neg (by simp [hd])]
  | expired =>
    rw [expired_eq]
    cases d.due with
    | none => rfl
    | some n => exact hprocess
  | _ => exact Bool.noConfusion he

theorem popup_expired (d : Deferral σ) : (d.step .expired).popup =
    if d.due.isSome then Controller.process d.config d.reworder d.view d.popup else d.popup := by
  rw [expired_eq]
  cases d.due <;> rfl

/-- Switching the popup off closes it. -/
theorem popup_step_toggle (hd : d.popup.enabled) :
    (d.step .toggle).popup.enabled = false ∧ (d.step .toggle).popup.surface = none ∧
      (d.step .toggle).popup.buffer = none ∧ (d.step .toggle).popup.isOpen = false := by
  have hclosed : (d.step .toggle).popup = ({ d.popup with enabled := false } : Popup σ).close := by
    rw [step, Controller.toggle]
    dsimp only
    rw [hd]
    rfl
  rw [hclosed]
  exact ⟨Popup.enabled_close _, Popup.surface_close _, rfl, Popup.isOpen_close _⟩

/-! ## Runs -/

theorem run_append (d : Deferral σ) (es es' : List (Event σ)) :
    d.run (es ++ es') = (d.run es).run es' := List.foldl_append ..

theorem run_concat (d : Deferral σ) (es : List (Event σ)) (e : Event σ) :
    d.run (es ++ [e]) = (d.run es).step e := d.run_append es [e]

theorem popup_run_of_disabled (hd : d.popup.enabled = false) (hes : ∀ e ∈ es, e.isAutomatic) :
    (d.run es).popup = d.popup := by
  induction es generalizing d with
  | nil => rfl
  | cons e es ih =>
    have hstep := popup_step_of_disabled hd (hes e List.mem_cons_self)
    have hrest := ih (d := d.step e) (hstep ▸ hd) fun e' he' => hes e' (List.mem_cons_of_mem e he')
    exact hrest.trans hstep

/-- Nothing runs before the time is over. -/
theorem ran_run_of_no_expiry (hes : ∀ e ∈ es, e.isExpiry = false) : (d.run es).ran = d.ran := by
  induction es generalizing d with
  | nil => rfl
  | cons e es ih =>
    have hstep := d.ran_step e
    rw [hes e List.mem_cons_self] at hstep
    have hrest := ih (d := d.step e) fun e' he' => hes e' (List.mem_cons_of_mem e he')
    exact hrest.trans (hstep.trans (List.append_nil _))

/-- Where nothing is due and the diagnostics do not change, nothing runs. -/
theorem ran_run_of_no_change (hdue : d.due = none) (hes : ∀ e ∈ es, e.isChange = false) :
    (d.run es).ran = d.ran := by
  induction es generalizing d with
  | nil => rfl
  | cons e es ih =>
    have hran := d.ran_step e
    have hnone := d.due_step e
    rw [hes e List.mem_cons_self, hdue] at hnone
    rw [hdue, Option.toList_none, ite_self, List.append_nil] at hran
    have hrest := ih (d := d.step e) (hnone.trans (by simp)) fun e' he' =>
      hes e' (List.mem_cons_of_mem e he')
    exact hrest.trans hran

/-- Of what is put off before the time is over the last is due. -/
theorem due_run (hes : ∀ e ∈ es, e.isExpiry = false ∧ e.isCancellation = false) :
    ((d.run es).asked = d.asked ∧ (d.run es).due = d.due) ∨
      (d.asked < (d.run es).asked ∧ (d.run es).due = some ((d.run es).asked - 1)) := by
  -- from the right: the last event alone decides what is due
  induction es using List.reverseRecOn with
  | nil => exact .inl ⟨rfl, rfl⟩
  | append_singleton es e ih =>
    have hbefore := ih fun e' he' => hes e' (List.mem_append_left _ he')
    obtain ⟨hexpiry, hcancel⟩ := hes e (List.mem_append_right _ (List.mem_singleton_self e))
    have hasked := (d.run es).asked_step e
    have hdue := (d.run es).due_step e
    rw [hexpiry, hcancel] at hdue
    rw [run_concat]
    cases hoff : e.isChange && (d.run es).popup.enabled with
    | true =>
      rw [hoff, if_pos rfl] at hasked hdue
      refine .inr ⟨by omega, ?_⟩
      rw [hdue, hasked, Nat.add_sub_cancel]
    | false =>
      rw [hoff, if_neg Bool.false_ne_true] at hasked
      rw [hoff, if_neg Bool.false_ne_true, Bool.or_self, if_neg Bool.false_ne_true] at hdue
      rw [hasked, hdue]
      exact hbefore

/-- What has run was put off before what is due. -/
structure Ordered (d : Deferral σ) : Prop where
  ran : d.ran.Pairwise (· < ·)
  ran_lt : ∀ n ∈ d.ran, n < d.asked
  due : ∀ m, d.due = some m → m < d.asked ∧ ∀ n ∈ d.ran, n < m

theorem Ordered.expired (h : Ordered d) : Ordered (d.step .expired) := by
  have hran : (d.step .expired).ran = d.ran ++ d.due.toList := d.ran_step .expired
  have hasked : (d.step .expired).asked = d.asked := d.asked_step .expired
  have hdue : (d.step .expired).due = none := d.due_step .expired
  have hlast (n : Nat) (hn : n ∈ d.due.toList) : n < d.asked ∧ ∀ m ∈ d.ran, m < n :=
    h.due n (Option.mem_toList.1 hn)
  refine ⟨?_, ?_, ?_⟩
  · rw [hran, List.pairwise_append]
    refine ⟨h.ran, ?_, fun m hm n hn => (hlast n hn).2 m hm⟩
    cases d.due with
    | none => exact .nil
    | some n => exact List.pairwise_singleton _ n
  · intro n hn
    rw [hran] at hn
    rw [hasked]
    rcases List.mem_append.1 hn with hold | hnew
    · exact h.ran_lt n hold
    · exact (hlast n hnew).1
  · intro m hm
    rw [hdue] at hm
    cases hm

theorem Ordered.step (h : Ordered d) (e : Event σ) : Ordered (d.step e) := by
  cases hexpiry : e.isExpiry with
  | true =>
    cases e with
    | expired => exact h.expired
    | _ => exact Bool.noConfusion hexpiry
  | false =>
    have hran := d.ran_step e
    have hasked := d.asked_step e
    have hdue := d.due_step e
    rw [hexpiry, if_neg Bool.false_ne_true, List.append_nil] at hran
    refine ⟨hran ▸ h.ran, ?_, ?_⟩
    · intro n hn
      rw [hran] at hn
      have hlt := h.ran_lt n hn
      omega
    · intro m hm
      rw [hran]
      rw [hdue] at hm
      split at hm
      · rename_i hoff
        obtain rfl := Option.some.inj hm
        rw [hoff, if_pos rfl] at hasked
        exact ⟨by omega, h.ran_lt⟩
      · split at hm
        · cases hm
        · obtain ⟨hlt, hlast⟩ := h.due m hm
          exact ⟨by omega, hlast⟩

theorem Ordered.run (h : Ordered d) (es : List (Event σ)) : Ordered (d.run es) := by
  induction es generalizing d with
  | nil => exact h
  | cons e es ih => exact ih (h.step e)

/-- In every run, while the popup is switched off, nothing happens to it or to its host that the user
did not ask for, whatever was put off before, and switching it off closes it.  Until the time is
over nothing that was put off runs; then the one that is due runs, if any, and of those that were put
off since, unless they were cancelled, it is the last.  So each runs once at most.  After the
debouncer was cancelled nothing runs until the diagnostics change. -/
theorem evaluations_run (config : Config) (reworder : Message.Reworder) (view : View)
    (popup : Popup σ) (es : List (Event σ)) :
    let d := run { config, reworder, view, popup } es
    (d.popup.enabled = false → ∀ es', (∀ e ∈ es', e.isAutomatic) → (d.run es').popup = d.popup) ∧
    (d.popup.enabled → (d.step .toggle).popup.enabled = false ∧
      (d.step .toggle).popup.surface = none ∧ (d.step .toggle).popup.buffer = none ∧
      (d.step .toggle).popup.isOpen = false) ∧
    (∀ es', (∀ e ∈ es', e.isExpiry = false) →
      let d' := d.run es'
      d'.ran = d.ran ∧ (d'.step .expired).ran = d.ran ++ d'.due.toList ∧
      (d'.step .expired).popup =
        (if d'.due.isSome then Controller.process d'.config d'.reworder d'.view d'.popup
          else d'.popup) ∧
      ((∀ e ∈ es', e.isCancellation = false) → d.asked < d'.asked →
        d'.due = some (d'.asked - 1))) ∧
    (d.ran.Pairwise (· < ·) ∧ ∀ n ∈ d.ran, n < d.asked) ∧
    ∀ es', (∀ e ∈ es', e.isChange = false) → ((d.step .cancelled).run es').ran = d.ran := by
  intro d
  have hnew : Ordered ({ config, reworder, view, popup } : Deferral σ) :=
    ⟨.nil, fun _ hn => absurd hn List.not_mem_nil, fun _ hm => nomatch hm⟩
  have hordered : Ordered d := hnew.run es
  clear_value d
  refine ⟨fun hoff es' hes' => popup_run_of_disabled hoff hes', popup_step_toggle,
    fun es' hes' => ?_, ⟨hordered.ran, hordered.ran_lt⟩, fun es' hes' => ?_⟩
  · intro d'
    have hran : d'.ran = d.ran := ran_run_of_no_expiry hes'
    have hexpired : (d'.step .expired).ran = d'.ran ++ d'.due.toList := d'.ran_step .expired
    rw [hran] at hexpired
    refine ⟨hran, hexpired, popup_expired d', fun hcancel hasked => ?_⟩
    rcases due_run fun e he => ⟨hes' e he, hcancel e he⟩ with ⟨hsame, -⟩ | ⟨-, hlast⟩
    · exact absurd hsame (Nat.ne_of_gt hasked)
    · exact hlast
  · exact (ran_run_of_no_change (d.due_step .cancelled) hes').trans
      ((d.ran_step .cancelled).trans (List.append_nil _))

/-- Two evaluations are put off, then the popup is switched off: when the time is over the second
runs, and the popup stays as it is. -/
theorem evaluations_run_switchedOff :
    let reworder : Message.Reworder := ⟨[], false, false, []⟩
    let view : View := ⟨"typescript".toList, (0, 0), [{
      message := "a".toList, line := 0, column := 0, endLine := 0, endColumn := 4 }]⟩
    let popup : Popup Popup.Recorder := { enabled := true, host := {} }
    let es : List (Event Popup.Recorder) :=
      [.cursorMoved, .diagnosticsChanged, .diagnosticsChanged, .toggle]
    let off := run { config := {}, reworder, view, popup } es
    off.popup.enabled = false ∧ off.due = some 1 ∧ (off.step .expired).ran = [1] ∧
      (off.run [.expired]).popup = off.popup := by
  intro reworder view popup es off
  have hoff : off.popup.enabled = false := by decide +kernel
  have hdue : off.due = some 1 := by decide +kernel
  have hran : off.ran = [] := by decide +kernel
  have heq : off = run { config := {}, reworder, view, popup } es := rfl
  clear_value off
  obtain ⟨hquiet, -, hburst, -⟩ := evaluations_run {} reworder view popup es
  rw [← heq] at hquiet hburst
  obtain ⟨-, hexpired, -⟩ := hburst [] fun _ he => absurd he List.not_mem_nil
  have hone : (off.step .expired).ran = off.ran ++ off.due.toList := hexpired
  rw [hran, hdue] at hone
  exact ⟨hoff, hdue, hone, hquiet hoff [.expired] (by simp [Event.isAutomatic])⟩

end Deferral

end Legible.Controller
