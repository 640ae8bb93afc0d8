import Legible.Diagnostic.Basic
import Legible.Language
import Legible.Popup.Basic

/-!
# The controller of the popup

The controller decides what the popup shows: the diagnostics that begin on the line of the cursor
and cover it, reworded, in the order in which they were reported.  It looks at the editor through
a `View`.  While the popup is switched off only an explicit request shows it.
-/

namespace Legible

/-- What the controller sees of the editor. -/
structure View where
  kind : Text
  cursor : Int × Int
  diagnostics : List Diagnostic
  deriving Repr

namespace Controller

variable {σ : Type} [SurfaceHost σ]

/-- The severity of a diagnostic in lower case; a missing one counts as an error. -/
def severityOf (d : Diagnostic) : Text :=
  Text.lower (if d.severity.isEmpty then "error".toList else d.severity)

/-- The rank of the severity that is held while the worst is looked for: a name that is not known
has the lowest one. -/
def heldRank (worst : Text) : Nat := (Diagnostic.rank? worst).getD 0

/-- Another severity if its rank is higher than that of the held one, which stays otherwise. -/
def worse (worst severity : Text) : Text :=
  if heldRank worst < Diagnostic.rankOf severity then severity else worst

/-- The severity of some diagnostics, found from the first to the last. -/
def worstSeverity (ds : List Diagnostic) : Text :=
  ds.foldl (fun worst d => worse worst (severityOf d)) "hint".toList

/-- The diagnostics at the cursor: those that begin on its line and cover it. -/
def current (v : View) : List Diagnostic :=
  Diagnostic.select (Diagnostic.onLine v.diagnostics v.cursor.1) v.cursor.1 v.cursor.2

/-- What the popup shows for some diagnostics. -/
def contentFor (r : Message.Reworder) (ds : List Diagnostic) : List Text :=
  ds.flatMap fun d => r.rewordLines d.message

/-- Shows the diagnostics at the cursor, or closes the popup where there are none.  Documents of
other languages are left alone. -/
def evaluate (c : Config) (r : Message.Reworder) (v : View) (p : Popup σ) : Bool × Popup σ :=
  if Language.isSupported v.kind then
    match current v with
    | [] => (false, p.close)
    | ds => (true, p.display c (contentFor r ds) (some (worstSeverity ds)))
  else (false, p)

/-- Shows the diagnostics at the cursor if the popup is switched on. -/
def process (c : Config) (r : Message.Reworder) (v : View) (p : Popup σ) : Popup σ :=
  if p.enabled then (evaluate c r v p).2 else p

/-- Switches the popup on or off. -/
def toggle (c : Config) (r : Message.Reworder) (v : View) (p : Popup σ) : Popup σ :=
  let p := { p with enabled := !p.enabled }
  if p.enabled then process c r v p else p.close

/-- What is said when the popup has been switched on or off. -/
def statusText (enabled : Bool) : Text :=
  (if enabled then "Pretty TS Errors: Enabled" else "Pretty TS Errors: Disabled").toList

/-- The diagnostic to go to from the cursor, forward or backward. -/
def target? (v : View) (forward : Bool) : Option Diagnostic :=
  if Language.isSupported v.kind then
    if forward then Diagnostic.next? v.diagnostics v.cursor.1 v.cursor.2
    else Diagnostic.previous? v.diagnostics v.cursor.1 v.cursor.2
  else none

end Controller

end Legible
