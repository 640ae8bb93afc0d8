import Legible.Popup.Basic

/-!
# A host that keeps a record

This host numbers buffers and surfaces together, from one on, and records what it is asked for.
It holds the lines and highlights of the buffers that are still good, and the buffer, size and
look of the surfaces.  It may lose either: the handle is then stale.
-/

namespace Legible.Popup

/-- The content of a buffer. -/
structure BufferContent where
  lines : List Text := []
  spans : List Span := []
  deriving DecidableEq, Repr

/-- What a surface shows, and how. -/
structure SurfaceContent where
  buffer : Nat
  place : SurfacePlace
  look : SurfaceLook
  deriving DecidableEq, Repr

/-- What a host was asked for. -/
inductive Call
  | createBuffer (b : Nat)
  | setLines (b : Nat) (lines : List Text)
  | clearHighlights (b : Nat)
  | applyHighlight (b : Nat) (span : Span)
  | createSurface (s b : Nat) (place : SurfacePlace) (look : SurfaceLook)
  | close (s : Nat)
  | discardBuffer (b : Nat)
  deriving DecidableEq, Repr

/-- The buffers and surfaces that are still good, and what was asked for, the last first. -/
structure Recorder where
  issued : Nat := 0
  buffers : List (Nat × BufferContent) := []
  surfaces : List (Nat × SurfaceContent) := []
  calls : List Call := []
  deriving Repr

namespace Recorder

/-- Records a call. -/
def note (r : Recorder) (call : Call) : Recorder := { r with calls := call :: r.calls }

/-- The record in order, and the host with an empty one. -/
def takeCalls (r : Recorder) : List Call × Recorder := (r.calls.reverse, { r with calls := [] })

/-- Whether a handle is among some that are still good. -/
def isGood {α : Type} (handles : List (Nat × α)) (h : Nat) : Bool := handles.any (·.1 = h)

/-- Changes what stands behind a handle. -/
def update {α : Type} (handles : List (Nat × α)) (h : Nat) (f : α → α) : List (Nat × α) :=
  handles.map fun e => if e.1 = h then (h, f e.2) else e

/-- Drops a handle. -/
def drop {α : Type} (handles : List (Nat × α)) (h : Nat) : List (Nat × α) :=
  handles.filter (·.1 ≠ h)

/-- Loses a surface. -/
def loseSurface (r : Recorder) (s : Nat) : Recorder := { r with surfaces := drop r.surfaces s }

/-- Loses a buffer. -/
def loseBuffer (r : Recorder) (b : Nat) : Recorder := { r with buffers := drop r.buffers b }

end Recorder

instance : SurfaceHost Recorder where
  createBuffer r :=
    let b := r.issued + 1
    (b, { r with
      issued := b
      buffers := r.buffers ++ [(b, BufferContent.mk [] [])] }.note (.createBuffer b))
  isBufferValid r b := Recorder.isGood r.buffers b
  setLines b lines r :=
    { r with
      buffers := Recorder.update r.buffers b fun c => { c with lines } }.note (.setLines b lines)
  clearHighlights b r :=
    { r with
      buffers := Recorder.update r.buffers b fun c => { c with spans := [] }
    }.note (.clearHighlights b)
  applyHighlight b span r :=
    { r with
      buffers := Recorder.update r.buffers b fun c => { c with spans := c.spans ++ [span] }
    }.note (.applyHighlight b span)
  createSurface b place look r :=
    let s := r.issued + 1
    (s, { r with
      issued := s
      surfaces := r.surfaces ++ [(s, SurfaceContent.mk b place look)]
    }.note (.createSurface s b place look))
  isSurfaceValid r s := Recorder.isGood r.surfaces s
  closeSurface s r := { r with surfaces := Recorder.drop r.surfaces s }.note (.close s)
  discardBuffer b r := { r with buffers := Recorder.drop r.buffers b }.note (.discardBuffer b)

/-- The popup after its host has lost the surface. -/
def loseSurface (p : Popup Recorder) : Popup Recorder :=
  match p.surface with
  | some s => { p with host := p.host.loseSurface s }
  | none => p

/-- The popup after its host has lost the buffer. -/
def loseBuffer (p : Popup Recorder) : Popup Recorder :=
  match p.buffer with
  | some b => { p with host := p.host.loseBuffer b }
  | none => p

end Legible.Popup
