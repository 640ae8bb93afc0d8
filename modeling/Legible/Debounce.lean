/-!
# Debouncing

A debouncer puts off a callback until a time has passed without another call: every call starts
the timer anew and takes the place of the one before it, so that only the last one runs.
-/

namespace Legible

/-- What a debouncer does to its timer, and the callbacks that it runs. -/
inductive DebounceEvent (α : Type)
  | timerStart (ms : Nat)
  | timerStop
  | ran (callback : α)
  deriving DecidableEq, Repr

/-- A callback that is put off, and whether the timer runs. -/
structure Debouncer (α : Type) where
  callback : Option α := none
  active : Bool := false
  deriving DecidableEq, Repr

namespace Debouncer

variable {α : Type}

/-- Puts off a callback; a negative delay is none. -/
def call (_d : Debouncer α) (ms : Int) (callback : α) : Debouncer α × List (DebounceEvent α) :=
  (⟨some callback, true⟩, [.timerStart ms.toNat])

/-- Puts another callback in the place of the one before, with the timer as it is. -/
def replace (d : Debouncer α) (callback : α) : Debouncer α := { d with callback := some callback }

/-- Drops the callback. -/
def cancel (_d : Debouncer α) : Debouncer α × List (DebounceEvent α) :=
  (⟨none, false⟩, [.timerStop])

/-- The time has passed: the callback runs, once. -/
def fire (d : Debouncer α) : Debouncer α × List (DebounceEvent α) :=
  if d.active then (⟨none, false⟩, d.callback.toList.map .ran) else (d, [])

end Debouncer

end Legible
