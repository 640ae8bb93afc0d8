import Legible.Popup.Basic
import Legible.Text.Units

/-!
# The overlay

The overlay draws the popup over the editor.  A buffer is a scratch text with its marks; a surface
is a panel that shows the text of a buffer.  Buffers and panels are numbered by themselves, from
zero on, and stay on record after they have been given back.

The marks of a text are drawn whenever it is set and whenever they change.  A buffer that has been
given back is no longer among those whose marks can be changed.
-/

namespace Legible.Popup

/-- A text with its marks. -/
structure Scratch where
  text : Text := []
  spans : List Span := []
  /-- Whether the marks have been drawn at all. -/
  drawn : Bool := false
  /-- Whether the marks can be changed. -/
  listed : Bool := true
  alive : Bool := true
  deriving DecidableEq, Repr

namespace Scratch

/-- The lines of the text. -/
def lines (s : Scratch) : List Text := Text.lines s.text

/-- The marks of a line. -/
def marksOn (s : Scratch) (line : Int) : List Mark :=
  (s.spans.filter (·.line = line)).map (·.mark)

/-- What is drawn on lines from a line number on. -/
def runsFrom (s : Scratch) : Nat → List Text → List (List Run)
  | _, [] => []
  | n, line :: rest => runsOf line (s.marksOn n) :: runsFrom s (n + 1) rest

/-- What is drawn on every line; nothing before the first drawing. -/
def runs (s : Scratch) : List (List Run) := if s.drawn then s.runsFrom 0 s.lines else []

/-- Drops the marks, if they can be changed. -/
def clear (s : Scratch) : Scratch := if s.listed then { s with spans := [], drawn := true } else s

/-- Gives the text other lines, without the marks that can be changed. -/
def setLines (ls : List Text) (s : Scratch) : Scratch :=
  { s.clear with text := Text.unlines ls, drawn := true }

/-- Whether there is a line of some number. -/
def hasLine (s : Scratch) (line : Int) : Bool := 0 ≤ line && line < s.lines.length

/-- Adds a mark, if marks can be changed. -/
def addSpan (span : Span) (s : Scratch) : Scratch :=
  if s.listed then
    { s with spans := s.spans ++ [span], drawn := s.drawn || s.hasLine span.line }
  else s

/-- The text is gone. -/
def delete (s : Scratch) : Scratch := { s with alive := false, listed := false }

end Scratch

/-- A panel that shows a buffer. -/
structure Panel where
  buffer : Nat
  width : Int
  height : Int
  left : Int
  top : Int
  borderColor : Text
  radius : Nat
  visible : Bool := true
  alive : Bool := true
  deriving DecidableEq, Repr

namespace Panel

/-- The width of a character on the screen. -/
def cellWidth : Int := 8

/-- The height of a line on the screen. -/
def cellHeight : Int := 16

/-- Where the cursor ends at the bottom left, on the screen. -/
def cursorCorner : Int × Int := (1010, 2020)

/-- A panel that shows a buffer, at a place that is taken from the cursor. -/
def create (buffer : Nat) (place : SurfacePlace) (look : SurfaceLook) : Panel where
  buffer
  width := place.width * cellWidth + 20
  height := place.height * cellHeight + 14
  left := cursorCorner.1 + place.col * cellWidth
  top := cursorCorner.2 + max 0 (place.row - 1) * cellHeight + 2
  borderColor := look.borderColor
  radius := if look.border = "rounded".toList then 6 else 0

/-- The style sheet of a panel. -/
def styleSheet (p : Panel) : Text :=
  "\nQFrame#prettyTsErrorPopup \x7b\n    background: #1e1f22;\n    border: 1px solid ".toList ++
    p.borderColor ++ ";\n    border-radius: ".toList ++ Text.ofNat p.radius ++
    ("px;\n\x7d\nQPlainTextEdit \x7b\n    background: transparent;\n    color: #d4d4d4;\n" ++
      "    border: none;\n\x7d\n").toList

/-- Whether a panel can be seen. -/
def isShown (p : Panel) : Bool := p.alive && p.visible

/-- Gives a panel back. -/
def close (p : Panel) : Panel := { p with visible := false, alive := false }

end Panel

/-- The buffers and panels in the order of their creation. -/
structure Overlay where
  buffers : List Scratch := []
  panels : List Panel := []
  deriving Repr

namespace Overlay

/-- Changes a buffer. -/
def mapBuffer (b : Nat) (f : Scratch → Scratch) (o : Overlay) : Overlay :=
  { o with buffers := o.buffers.modify b f }

/-- Changes a panel. -/
def mapPanel (s : Nat) (f : Panel → Panel) (o : Overlay) : Overlay :=
  { o with panels := o.panels.modify s f }

/-- Whether there is a text behind a buffer. -/
def bufferAlive (o : Overlay) (b : Nat) : Bool := (o.buffers[b]?).any (·.alive)

/-- Whether there is a panel behind a surface and it can be seen. -/
def panelShown (o : Overlay) (s : Nat) : Bool := (o.panels[s]?).any (·.isShown)

/-- How many buffers have marks that can be changed. -/
def listed (o : Overlay) : Nat := (o.buffers.filter (·.listed)).length

/-- Hides a panel without giving it back. -/
def hide (s : Nat) (o : Overlay) : Overlay := o.mapPanel s fun p => { p with visible := false }

end Overlay

instance : SurfaceHost Overlay where
  createBuffer o := (o.buffers.length, { o with buffers := o.buffers ++ [{}] })
  isBufferValid := Overlay.bufferAlive
  setLines b lines := Overlay.mapBuffer b (Scratch.setLines lines)
  clearHighlights b := Overlay.mapBuffer b Scratch.clear
  applyHighlight b span := Overlay.mapBuffer b (Scratch.addSpan span)
  createSurface b place look o :=
    (o.panels.length, { o with panels := o.panels ++ [Panel.create b place look] })
  isSurfaceValid := Overlay.panelShown
  closeSurface s := Overlay.mapPanel s Panel.close
  discardBuffer b := Overlay.mapBuffer b Scratch.delete

end Legible.Popup
