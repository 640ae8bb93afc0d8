import Legible.Popup.Highlight
import Legible.Settings.Config
import Legible.Text.Cells

/-!
# The popup

There is one popup at most: a surface that shows a buffer of lines.  The host of the popup gives
out handles for both and may lose either at any time, so every use asks first whether the handle
is still good.  `display` replaces the lines of an open popup and leaves its size; otherwise it
drops what is stale and opens a new surface, over the old buffer if that is still good.  `close`
gives back both.
-/

namespace Legible

/-- The look of a surface. -/
structure SurfaceLook where
  severity : Option Text := some "error".toList
  borderColor : Text := "#FF5555".toList
  border : Text := "rounded".toList
  deriving DecidableEq, Repr

/-- Where a surface stands, in rows and columns from the cursor, and its size in cells. -/
structure SurfacePlace where
  row : Int := 1
  col : Int := 0
  width : Int
  height : Int
  deriving DecidableEq, Repr

/-- What gives out buffers and surfaces. -/
class SurfaceHost (σ : Type) where
  createBuffer : σ → Nat × σ
  isBufferValid : σ → Nat → Bool
  setLines : Nat → List Text → σ → σ
  clearHighlights : Nat → σ → σ
  applyHighlight : Nat → Popup.Span → σ → σ
  createSurface : Nat → SurfacePlace → SurfaceLook → σ → Nat × σ
  isSurfaceValid : σ → Nat → Bool
  closeSurface : Nat → σ → σ
  discardBuffer : Nat → σ → σ

/-- The handles of the popup, whether it is shown at all, and its host. -/
structure Popup (σ : Type) where
  enabled : Bool := false
  surface : Option Nat := none
  buffer : Option Nat := none
  host : σ

namespace Popup

variable {σ : Type} [SurfaceHost σ]

/-- The least height of the popup, in lines. -/
def leastHeight : Int := 3

/-- The cells left free beside the longest line. -/
def margin : Int := 2

/-- The greatest width that a long line can give the popup. -/
def greatestWidth : Int := 120

/-- The lines of a content, whose entries may hold several. -/
def prepareLines (content : List Text) : List Text := content.flatMap Text.lines

/-- The height for some lines. -/
def heightFor (c : Config) (lines : List Text) : Int :=
  max (min lines.length c.maxHeight) leastHeight

/-- The width for some lines. -/
def widthFor (c : Config) (lines : List Text) : Int :=
  lines.foldl (fun width line => max width (min (Text.cells line + margin) greatestWidth))
    c.maxWidth

/-- Whether the popup has a surface that is still good. -/
def surfaceValid (p : Popup σ) : Bool := p.surface.any (SurfaceHost.isSurfaceValid p.host)

/-- Whether the popup has a buffer that is still good. -/
def bufferValid (p : Popup σ) : Bool := p.buffer.any (SurfaceHost.isBufferValid p.host)

/-- Whether the popup is open. -/
def isOpen (p : Popup σ) : Bool := p.surfaceValid && p.bufferValid

/-- Asks something of the host for the buffer. -/
def withBuffer (p : Popup σ) (f : Nat → σ → σ) : Popup σ :=
  match p.buffer with
  | some b => { p with host := f b p.host }
  | none => p

/-- Highlights the lines of the buffer anew. -/
def highlight (lines : List Text) (p : Popup σ) : Popup σ :=
  p.withBuffer fun b host =>
    (highlights lines).foldl (fun host span => SurfaceHost.applyHighlight b span host)
      (SurfaceHost.clearHighlights b host)

/-- Gives back the surface. -/
def dropSurface (p : Popup σ) : Popup σ :=
  match p.surface with
  | some s => { p with surface := none, host := SurfaceHost.closeSurface s p.host }
  | none => p

/-- Gives back the surface and the buffer. -/
def close (p : Popup σ) : Popup σ :=
  let p := p.dropSurface
  let p := if p.bufferValid then p.withBuffer SurfaceHost.discardBuffer else p
  { p with buffer := none }

/-- Makes sure that there is a buffer. -/
def ensureBuffer (p : Popup σ) : Popup σ :=
  if p.bufferValid then p
  else
    let (b, host) := SurfaceHost.createBuffer p.host
    { p with buffer := some b, host }

/-- Opens a surface over the buffer. -/
def openSurface (c : Config) (lines : List Text) (severity : Option Text) (p : Popup σ) : Popup σ :=
  match p.buffer with
  | some b =>
    let look : SurfaceLook := { severity, borderColor := c.colors.colorOf (severity.getD []) }
    let place : SurfacePlace := { width := widthFor c lines, height := heightFor c lines }
    let (s, host) := SurfaceHost.createSurface b place look p.host
    { p with surface := some s, host }
  | none => p

/-- Shows a content; an empty one closes the popup. -/
def display (c : Config) (content : List Text) (severity : Option Text) (p : Popup σ) : Popup σ :=
  let lines := prepareLines content
  if lines.isEmpty then p.close
  else if p.isOpen then
    (p.withBuffer fun b host => SurfaceHost.setLines b lines host).highlight lines
  else
    let p := p.dropSurface.ensureBuffer
    let p := p.withBuffer fun b host => SurfaceHost.setLines b lines host
    (openSurface c lines severity p).highlight lines

end Popup

end Legible
