import Legible.Proofs.Popup.Ownership
import Legible.Proofs.Text.Lines

/-!
# What the popup shows

Over a host that keeps a record it can be read what stands in the buffer of the popup.  What is shown
takes the place of everything that stood there before, be it in an open popup, in a buffer that has
lost its surface, or in a new one (`content?_display`).
-/

namespace Legible.Popup

variable {c : Config} {p : Popup Recorder}

/-- What stands in the buffer, if that is good. -/
def content? (p : Popup Recorder) : Option BufferContent :=
  p.buffer.bind fun b => p.host.buffers.lookup b

/-- What can be read in the popup, if it is open. -/
def shown? (p : Popup Recorder) : Option BufferContent := if p.isOpen then p.content? else none

theorem lookup_update (handles : List (Nat × BufferContent)) (b : Nat)
    (f : BufferContent → BufferContent) :
    (Recorder.update handles b f).lookup b = (handles.lookup b).map f := by
  induction handles with
  | nil => rfl
  | cons e rest ih =>
    obtain ⟨k, content⟩ := e
    rw [Recorder.update, List.map_cons, ← Recorder.update]
    by_cases hk : k = b
    · simp [hk]
    · simp [hk, List.lookup_cons, beq_false_of_ne (Ne.symm hk), ih]

theorem isSome_content? (p : Popup Recorder) : p.content?.isSome = p.bufferValid := by
  rw [content?, bufferValid]
  cases p.buffer with
  | none => rfl
  | some b => exact (Recorder.isGood_eq p.host.buffers b).symm

theorem content?_withBuffer {f : Nat → Recorder → Recorder} {g : BufferContent → BufferContent}
    (hf : ∀ b, (f b p.host).buffers.lookup b = (p.host.buffers.lookup b).map g) :
    (p.withBuffer f).content? = p.content?.map g := by
  unfold withBuffer
  split
  · rename_i b hbuffer
    rw [content?, content?, hbuffer]
    exact hf b
  · rename_i hnone
    rw [content?, hnone]
    rfl

theorem content?_setLines (lines : List Text) (p : Popup Recorder) :
    (p.withBuffer fun b host => SurfaceHost.setLines b lines host).content? =
      p.content?.map fun content => { content with lines } :=
  content?_withBuffer fun b => lookup_update p.host.buffers b fun content => { content with lines }

theorem lookup_applyHighlight (b : Nat) (spans : List Span) (r : Recorder) :
    (spans.foldl (fun r span => SurfaceHost.applyHighlight b span r) r).buffers.lookup b =
      (r.buffers.lookup b).map fun content => { content with spans := content.spans ++ spans } := by
  induction spans generalizing r with
  | nil => simp
  | cons span spans ih =>
    have hone : (SurfaceHost.applyHighlight b span r).buffers.lookup b =
        (r.buffers.lookup b).map fun content => { content with spans := content.spans ++ [span] } :=
      lookup_update r.buffers b fun content => { content with spans := content.spans ++ [span] }
    rw [List.foldl_cons, ih, hone, Option.map_map]
    simp [Function.comp_def]

theorem content?_highlight (lines : List Text) (p : Popup Recorder) :
    (p.highlight lines).content? =
      p.content?.map fun content => { content with spans := highlights lines } := by
  refine content?_withBuffer fun b => ?_
  have hclear : (SurfaceHost.clearHighlights b p.host).buffers.lookup b =
      (p.host.buffers.lookup b).map fun content => { content with spans := [] } :=
    lookup_update p.host.buffers b fun content => { content with spans := [] }
  rw [lookup_applyHighlight, hclear, Option.map_map]
  rfl

theorem content?_openSurface (lines : List Text) (severity : Option Text) (p : Popup Recorder) :
    (openSurface c lines severity p).content? = p.content? := by
  unfold openSurface
  split <;> rfl

/-- The lines and the highlights of what is shown, and nothing else, stand in the buffer. -/
theorem content?_display {content : List Text} (hlines : prepareLines content ≠ [])
    (severity : Option Text) (p : Popup Recorder) : (p.display c content severity).content? =
      some ⟨prepareLines content, highlights (prepareLines content)⟩ := by
  have hwritten {q : Popup Recorder} (hq : q.bufferValid) (lines : List Text) :
      (q.content?.map fun content => { content with lines }).map
        (fun content => { content with spans := highlights lines }) =
        some ⟨lines, highlights lines⟩ := by
    obtain ⟨old, hold⟩ := Option.isSome_iff_exists.1 ((isSome_content? q).trans hq)
    rw [hold]
    rfl
  unfold display
  dsimp only
  rw [if_neg (by simpa using hlines)]
  -- an open popup keeps its buffer, any other gets one: either way there is a buffer to write to
  split
  · rename_i hopen
    rw [content?_highlight, content?_setLines]
    exact hwritten ((Bool.and_eq_true _ _).mp hopen).2 _
  · rw [content?_highlight, content?_openSurface, content?_setLines]
    exact hwritten (bufferValid_ensureBuffer _) _

theorem shown?_display {content : List Text} (hlines : prepareLines content ≠ [])
    (severity : Option Text) (p : Popup Recorder) : (p.display c content severity).shown? =
      some ⟨prepareLines content, highlights (prepareLines content)⟩ := by
  rw [shown?, if_pos (isOpen_display hlines severity p), content?_display hlines]

theorem enabled_close {σ : Type} [SurfaceHost σ] (p : Popup σ) : p.close.enabled = p.enabled := by
  have hsurface (p : Popup σ) : p.dropSurface.enabled = p.enabled := by
    unfold dropSurface
    split <;> rfl
  have hbuffer (p : Popup σ) (f : Nat → σ → σ) : (p.withBuffer f).enabled = p.enabled := by
    unfold withBuffer
    split <;> rfl
  rw [close]
  dsimp only
  split
  · exact (hbuffer _ _).trans (hsurface p)
  · exact hsurface p

theorem surface_close {σ : Type} [SurfaceHost σ] (p : Popup σ) : p.close.surface = none := by
  have hsurface (p : Popup σ) : p.dropSurface.surface = none := by
    unfold dropSurface
    split
    · rfl
    · assumption
  have hbuffer (p : Popup σ) (f : Nat → σ → σ) : (p.withBuffer f).surface = p.surface := by
    unfold withBuffer
    split <;> rfl
  rw [close]
  dsimp only
  split
  · exact (hbuffer _ _).trans (hsurface p)
  · exact hsurface p

theorem isOpen_close {σ : Type} [SurfaceHost σ] (p : Popup σ) : p.close.isOpen = false := by
  have hclosed : p.close.buffer = none := rfl
  rw [isOpen, bufferValid, hclosed]
  exact Bool.and_false _

/-- Lines that hold no line breaks stay as they are. -/
theorem prepareLines_of_forall {content : List Text} (h : ∀ line ∈ content, '\n' ∉ line) :
    prepareLines content = content := by
  induction content with
  | nil => rfl
  | cons line rest ih =>
    have hline : Text.lines line = [line] := Text.splitOn_of_not_mem (h line List.mem_cons_self)
    rw [prepareLines, List.flatMap_cons, ← prepareLines,
      ih fun l hl => h l (List.mem_cons_of_mem line hl), hline]
    rfl

end Legible.Popup
