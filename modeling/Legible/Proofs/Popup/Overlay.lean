import Legible.Proofs.Popup.Content

/-!
# What the overlay shows

Over the overlay the lines of the popup are those of the scratch text behind its buffer.  Marks
leave the text as it is, so the lines of what was shown last stand there, and nothing else
(`lines?_display`).
-/

namespace Legible.Popup

variable {c : Config} {p : Popup Overlay} {o : Overlay} {lines content : List Text}

namespace Overlay

/-- The text behind a buffer. -/
def text? (o : Overlay) (b : Nat) : Option Text := (o.buffers[b]?).map (·.text)

theorem text?_mapBuffer {f : Scratch → Scratch} {g : Text → Text}
    (hf : ∀ s, (f s).text = g s.text) (b : Nat) (o : Overlay) :
    (o.mapBuffer b f).text? b = (o.text? b).map g := by
  rw [text?, mapBuffer, List.getElem?_modify_eq, text?]
  cases o.buffers[b]? with
  | none => rfl
  | some s => exact congrArg some (hf s)

theorem isSome_text?_of_bufferAlive {b : Nat} (h : o.bufferAlive b) : (o.text? b).isSome := by
  rw [bufferAlive] at h
  rw [text?, Option.isSome_map]
  cases hb : o.buffers[b]? with
  | none => simp [hb] at h
  | some s => rfl

theorem text?_highlight (b : Nat) (spans : List Span) (o : Overlay) :
    (spans.foldl (fun o span => SurfaceHost.applyHighlight b span o)
      (SurfaceHost.clearHighlights b o)).text? b = o.text? b := by
  have hspan (span : Span) (o : Overlay) :
      (SurfaceHost.applyHighlight b span o).text? b = o.text? b := by
    refine (text?_mapBuffer (g := id) (fun s => ?_) b o).trans (Option.map_id_apply)
    rw [Scratch.addSpan]
    split <;> rfl
  have hclear : (SurfaceHost.clearHighlights b o).text? b = o.text? b := by
    refine (text?_mapBuffer (g := id) (fun s => ?_) b o).trans (Option.map_id_apply)
    rw [Scratch.clear]
    split <;> rfl
  rw [← hclear]
  generalize SurfaceHost.clearHighlights b o = o
  induction spans generalizing o with
  | nil => rfl
  | cons span spans ih => exact (ih _).trans (hspan span o)

end Overlay

/-- The lines behind the buffer. -/
def lines? (p : Popup Overlay) : Option (List Text) :=
  p.buffer.bind fun b => (p.host.text? b).map Text.lines

theorem lines?_highlight (lines : List Text) (p : Popup Overlay) :
    (p.highlight lines).lines? = p.lines? := by
  rw [highlight, withBuffer]
  split
  · rename_i b hbuffer
    rw [lines?, lines?, hbuffer]
    exact congrArg (Option.map Text.lines) (p.host.text?_highlight b _)
  · rfl

theorem lines?_setLines (hvalid : p.bufferValid) (hne : lines ≠ [])
    (hlines : ∀ l ∈ lines, '\n' ∉ l) :
    (p.withBuffer fun b host => SurfaceHost.setLines b lines host).lines? = some lines := by
  obtain ⟨b, hbuffer, hb⟩ := bufferValid_iff.1 hvalid
  obtain ⟨old, hold⟩ := Option.isSome_iff_exists.1 (Overlay.isSome_text?_of_bufferAlive hb)
  have hset : (p.host.mapBuffer b (Scratch.setLines lines)).text? b =
      some (Text.unlines lines) := by
    rw [Overlay.text?_mapBuffer (g := fun _ => Text.unlines lines) (fun _ => rfl), hold]
    rfl
  have hbuffer' : (p.withBuffer fun b host => SurfaceHost.setLines b lines host) =
      { p with host := p.host.mapBuffer b (Scratch.setLines lines) } := by
    rw [withBuffer, hbuffer]
    rfl
  rw [hbuffer', lines?, hbuffer, Option.bind_some, hset, Option.map_some,
    Text.lines_unlines hne hlines]

theorem lines?_openSurface (lines : List Text) (severity : Option Text) (p : Popup Overlay) :
    (openSurface c lines severity p).lines? = p.lines? := by
  unfold openSurface
  split <;> rfl

theorem not_mem_of_mem_prepareLines {line : Text} (h : line ∈ prepareLines content) :
    '\n' ∉ line := by
  obtain ⟨t, -, ht⟩ := List.mem_flatMap.1 h
  exact Text.not_mem_of_mem_splitOn ht

/-- The lines of what is shown, and nothing else, stand in the buffer. -/
theorem lines?_display (hne : prepareLines content ≠ []) (severity : Option Text)
    (p : Popup Overlay) : (p.display c content severity).lines? = some (prepareLines content) := by
  unfold display
  dsimp only
  rw [if_neg (by simpa using hne)]
  -- an open popup keeps its buffer, any other gets one: either way there is a buffer to write to
  split
  · rename_i hopen
    rw [lines?_highlight]
    exact lines?_setLines ((Bool.and_eq_true _ _).mp hopen).2 hne
      fun _ => not_mem_of_mem_prepareLines
  · rw [lines?_highlight, lines?_openSurface]
    exact lines?_setLines (bufferValid_ensureBuffer _) hne fun _ => not_mem_of_mem_prepareLines

end Legible.Popup
