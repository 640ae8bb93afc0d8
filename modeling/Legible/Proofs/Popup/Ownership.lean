import Legible.Proofs.Popup.Host
import Mathlib.Logic.Relation

/-!
# What the popup owns

The popup holds every handle of its host that is good (`Owned`): so there is one surface and one
buffer at most, and none is forgotten.  This holds whatever the popup shows and however often it is
closed, while the host loses handles at any time (`owned_of_reachable`).
-/

namespace Legible.Popup

open SurfaceHost LawfulHost

variable {σ : Type} [LawfulHost σ] {c : Config} {p : Popup σ} {host : σ}

/-- All that is good at the host belongs to the popup, and its surface was created over its
buffer. -/
structure Owned (p : Popup σ) : Prop where
  surface (s : Nat) : isSurfaceValid p.host s → p.surface = some s
  buffer (b : Nat) : isBufferValid p.host b → p.buffer = some b
  under (s b : Nat) : p.surface = some s → isSurfaceValid p.host s → p.buffer = some b →
    isBufferValid p.host b → under? p.host s = some b

/-- Nothing is good at the host, and the popup holds no handle. -/
structure Released (p : Popup σ) : Prop where
  surface : p.surface = none
  buffer : p.buffer = none
  noSurface (s : Nat) : isSurfaceValid p.host s = false
  noBuffer (b : Nat) : isBufferValid p.host b = false

/-- What may happen to a popup. -/
inductive Step (c : Config) : Popup σ → Popup σ → Prop
  | display (p : Popup σ) (content : List Text) (severity : Option Text) :
    Step c p (p.display c content severity)
  | close (p : Popup σ) : Step c p p.close
  | lose {p : Popup σ} {host : σ} (h : Loses p.host host) : Step c p { p with host }

theorem Released.owned (h : Released p) : Owned p where
  surface s hs := by simp [h.noSurface s] at hs
  buffer b hb := by simp [h.noBuffer b] at hb
  under s _ _ hs := by simp [h.noSurface s] at hs

theorem bufferValid_iff : p.bufferValid ↔ ∃ b, p.buffer = some b ∧ isBufferValid p.host b := by
  rw [bufferValid, Option.any_eq_true]

theorem surfaceValid_iff :
    p.surfaceValid ↔ ∃ s, p.surface = some s ∧ isSurfaceValid p.host s := by
  rw [surfaceValid, Option.any_eq_true]

theorem Owned.bad_surface (h : Owned p) {s : Nat} (hs : p.surface ≠ some s) :
    isSurfaceValid p.host s = false := by
  by_contra hgood
  exact hs (h.surface s (by simpa using hgood))

theorem Owned.bad_buffer (h : Owned p) {b : Nat} (hb : p.buffer ≠ some b) :
    isBufferValid p.host b = false := by
  by_contra hgood
  exact hb (h.buffer b (by simpa using hgood))

/-! ## Hosts that lose handles -/

theorem Owned.lose (h : Owned p) (hl : Loses p.host host) : Owned { p with host } where
  surface s hs := h.surface s (hl.isSurfaceValid hs).1
  buffer b hb := h.buffer b (hl.buffers b hb)
  under s b hsurface hs hbuffer hb :=
    (hl.isSurfaceValid hs).2.trans
      (h.under s b hsurface (hl.isSurfaceValid hs).1 hbuffer (hl.buffers b hb))

/-! ## The parts of showing and closing -/

/-- What is written into the buffer and how it is highlighted does not matter. -/
theorem Owned.withBuffer (h : Owned p) {f : Nat → σ → σ} (hf : ∀ b, Alike p.host (f b p.host)) :
    Owned (p.withBuffer f) := by
  unfold Popup.withBuffer
  split
  · exact h.lose (hf _).loses
  · exact h

theorem Owned.highlight (h : Owned p) (lines : List Text) : Owned (p.highlight lines) :=
  h.withBuffer fun b => alike_highlight b (highlights lines) p.host

/-- What the popup holds after something was asked of the host for its buffer. -/
theorem withBuffer_frame {f : Nat → σ → σ} (hf : ∀ b, Alike p.host (f b p.host)) :
    (p.withBuffer f).surface = p.surface ∧ (p.withBuffer f).buffer = p.buffer ∧
      Alike p.host (p.withBuffer f).host := by
  unfold Popup.withBuffer
  split
  · exact ⟨rfl, rfl, hf _⟩
  · exact ⟨rfl, rfl, .refl _⟩

theorem Owned.dropSurface (h : Owned p) :
    Owned p.dropSurface ∧ p.dropSurface.surface = none ∧
      ∀ s, isSurfaceValid p.dropSurface.host s = false := by
  unfold Popup.dropSurface
  split
  · rename_i s hsurface
    have hgone (x : Nat) : isSurfaceValid (closeSurface s p.host) x = false := by
      rw [isSurfaceValid_eq, under?_closeSurface, Function.update_apply]
      split
      · rfl
      · rename_i hx
        rw [← isSurfaceValid_eq]
        exact h.bad_surface (by simpa [hsurface] using Ne.symm hx)
    refine ⟨⟨fun x hx => ?_, fun b hb => ?_, fun _ _ hnone => ?_⟩, rfl, hgone⟩
    · rw [hgone] at hx
      exact absurd hx Bool.false_ne_true
    · rw [isBufferValid_closeSurface] at hb
      exact h.buffer b hb
    · exact absurd hnone (Option.some_ne_none _).symm
  · rename_i hnone
    exact ⟨h, hnone, fun s => h.bad_surface (by simp [hnone])⟩

theorem Owned.close (h : Owned p) : Released p.close := by
  obtain ⟨hdropped, hnone, hgone⟩ := h.dropSurface
  obtain ⟨q, hq⟩ : ∃ q, q = p.dropSurface := ⟨_, rfl⟩
  rw [← hq] at hdropped hnone hgone
  unfold Popup.close
  rw [← hq]
  dsimp only
  split
  · rename_i hvalid
    obtain ⟨b, hb, -⟩ := bufferValid_iff.1 hvalid
    rw [Popup.withBuffer, hb]
    refine ⟨hnone, rfl, fun s => ?_, fun x => ?_⟩
    · rw [isSurfaceValid_eq, under?_discardBuffer, ← isSurfaceValid_eq]
      exact hgone s
    · show isBufferValid (discardBuffer b q.host) x = false
      rw [isBufferValid_discardBuffer, Function.update_apply]
      split
      · rfl
      · rename_i hx
        exact hdropped.bad_buffer (by simpa [hb] using Ne.symm hx)
  · rename_i hvalid
    refine ⟨hnone, rfl, hgone, fun x => ?_⟩
    by_contra hgood
    rw [Bool.not_eq_false] at hgood
    exact hvalid (bufferValid_iff.2 ⟨x, hdropped.buffer x hgood, hgood⟩)

theorem Owned.ensureBuffer (h : Owned p) (hgone : ∀ s, isSurfaceValid p.host s = false) :
    Owned p.ensureBuffer ∧ ∀ s, isSurfaceValid p.ensureBuffer.host s = false := by
  unfold Popup.ensureBuffer
  split
  · exact ⟨h, hgone⟩
  · rename_i hvalid
    have hsurfaces (s : Nat) : isSurfaceValid (createBuffer p.host).2 s = false := by
      rw [isSurfaceValid_eq, under?_createBuffer, ← isSurfaceValid_eq]
      exact hgone s
    refine ⟨⟨fun s hs => ?_, fun b hb => ?_, fun s _ _ hs => ?_⟩, hsurfaces⟩
    · rw [hsurfaces] at hs
      exact absurd hs Bool.false_ne_true
    · -- the old buffer was lost, so the new one is the only one
      dsimp only at hb ⊢
      rw [isBufferValid_createBuffer, Function.update_apply] at hb
      split at hb
      · rename_i hnew
        rw [hnew]
      · exact absurd (bufferValid_iff.2 ⟨b, h.buffer b hb, hb⟩) hvalid
    · rw [hsurfaces] at hs
      exact absurd hs Bool.false_ne_true

theorem Owned.openSurface (h : Owned p) (hgone : ∀ s, isSurfaceValid p.host s = false)
    (lines : List Text) (severity : Option Text) : Owned (openSurface c lines severity p) := by
  unfold Popup.openSurface
  split
  · rename_i b hbuffer
    dsimp only
    generalize (⟨1, 0, widthFor c lines, heightFor c lines⟩ : SurfacePlace) = place
    generalize (⟨severity, c.colors.colorOf (severity.getD []), "rounded".toList⟩ : SurfaceLook) = look
    refine ⟨fun s hs => ?_, fun x hx => ?_, fun s x hsurface _ hx _ => ?_⟩
    · dsimp only at hs ⊢
      rw [isSurfaceValid_eq, under?_createSurface, Function.update_apply] at hs
      split at hs
      · rename_i hnew
        rw [hnew]
      · rw [← isSurfaceValid_eq, hgone] at hs
        exact absurd hs Bool.false_ne_true
    · rw [isBufferValid_createSurface] at hx
      exact h.buffer x hx
    · dsimp only at hsurface hx ⊢
      rw [under?_createSurface, Option.some.inj hsurface, Function.update_self, ← hx, hbuffer]
  · exact h

/-! ## Showing and closing -/

theorem Owned.display (h : Owned p) (content : List Text) (severity : Option Text) :
    Owned (p.display c content severity) := by
  unfold Popup.display
  dsimp only
  split
  · exact h.close.owned
  · split
    · exact (h.withBuffer fun b => alike_setLines b _ _).highlight _
    · obtain ⟨hdropped, -, hgone⟩ := h.dropSurface
      obtain ⟨hensured, hgone⟩ := hdropped.ensureBuffer hgone
      have hset (b : Nat) := alike_setLines b (prepareLines content) p.dropSurface.ensureBuffer.host
      obtain ⟨-, -, hsame⟩ := withBuffer_frame hset
      refine ((hensured.withBuffer hset).openSurface (fun s => ?_) _ severity).highlight _
      rw [hsame.isSurfaceValid_eq]
      exact hgone s

/-! ## What is open -/

theorem valid_withBuffer {f : Nat → σ → σ} (hf : ∀ b, Alike p.host (f b p.host)) :
    (p.withBuffer f).surfaceValid = p.surfaceValid ∧
      (p.withBuffer f).bufferValid = p.bufferValid := by
  obtain ⟨hsurface, hbuffer, hsame⟩ := withBuffer_frame hf
  rw [surfaceValid, bufferValid, hsurface, hbuffer, hsame.isSurfaceValid_eq, hsame.buffers]
  exact ⟨rfl, rfl⟩

theorem isOpen_withBuffer {f : Nat → σ → σ} (hf : ∀ b, Alike p.host (f b p.host)) :
    (p.withBuffer f).isOpen = p.isOpen := by
  rw [isOpen, (valid_withBuffer hf).1, (valid_withBuffer hf).2, ← isOpen]

theorem isOpen_highlight (lines : List Text) : (p.highlight lines).isOpen = p.isOpen :=
  isOpen_withBuffer (f := fun b host => (highlights lines).foldl
    (fun host span => applyHighlight b span host) (clearHighlights b host))
    fun b => alike_highlight b (highlights lines) p.host

theorem bufferValid_ensureBuffer (p : Popup σ) : p.ensureBuffer.bufferValid := by
  unfold Popup.ensureBuffer
  split
  · assumption
  · refine bufferValid_iff.2 ⟨_, rfl, ?_⟩
    rw [isBufferValid_createBuffer, Function.update_self]

theorem isOpen_openSurface (h : p.bufferValid) (lines : List Text) (severity : Option Text) :
    (openSurface c lines severity p).isOpen := by
  obtain ⟨b, hbuffer, hb⟩ := bufferValid_iff.1 h
  unfold Popup.openSurface
  split
  · rename_i b' hbuffer'
    obtain rfl : b' = b := Option.some.inj (hbuffer'.symm.trans hbuffer)
    rw [isOpen, Bool.and_eq_true]
    refine ⟨surfaceValid_iff.2 ⟨_, rfl, ?_⟩, bufferValid_iff.2 ⟨b', hbuffer', ?_⟩⟩
    · rw [isSurfaceValid_eq, under?_createSurface, Function.update_self]
      rfl
    · rw [isBufferValid_createSurface]
      exact hb
  · rename_i hnone
    exact absurd (hnone.symm.trans hbuffer) (Option.some_ne_none b).symm

/-- A popup that is shown something is open, whatever it was before. -/
theorem isOpen_display {content : List Text} (hlines : prepareLines content ≠ [])
    (severity : Option Text) (p : Popup σ) : (p.display c content severity).isOpen := by
  unfold Popup.display
  dsimp only
  rw [if_neg (by simpa using hlines)]
  split
  · rename_i hopen
    rw [isOpen_highlight, isOpen_withBuffer fun b => alike_setLines b _ _]
    exact hopen
  · rw [isOpen_highlight]
    refine isOpen_openSurface ?_ _ severity
    rw [(valid_withBuffer fun b => alike_setLines b _ _).2]
    exact bufferValid_ensureBuffer _

/-! ## Runs -/

theorem Owned.step {q : Popup σ} (h : Owned p) (hs : Step c p q) : Owned q := by
  cases hs with
  | display content severity => exact h.display content severity
  | close => exact h.close.owned
  | lose hl => exact h.lose hl

/-- From a popup without handles, over a host where nothing is good, whatever is shown and however
often the popup is closed, while the host loses handles at any time: all that is good at the host
belongs to the popup, and a surface that is good was created over the buffer of the popup if that is
good.  Closing gives back everything, and showing something opens the popup. -/
theorem owned_of_reachable {p₀ : Popup σ} (h₀ : Released p₀)
    (h : Relation.ReflTransGen (Step c) p₀ p) :
    Owned p ∧ Released p.close ∧
      ∀ content severity, prepareLines content ≠ [] → (p.display c content severity).isOpen := by
  have howned : Owned p := by
    induction h with
    | refl => exact h₀.owned
    | tail _ hstep ih => exact ih.step hstep
  exact ⟨howned, howned.close, fun _ severity hlines => isOpen_display hlines severity p⟩

/-- The surface is lost, and a new one is opened over the old buffer. -/
theorem owned_of_reachable_lostSurface :
    let p₀ : Popup Recorder := { host := {} }
    let shown := p₀.display {} [['a']] none
    let p := shown.loseSurface.display {} [['b']] none
    Released p₀ ∧ Relation.ReflTransGen (Step {}) p₀ p ∧
      (p.surface = some 3 ∧ p.buffer = some 1) ∧ Owned p ∧ Released p.close := by
  intro p₀ shown p
  have h₀ : Released p₀ := ⟨rfl, rfl, fun _ => rfl, fun _ => rfl⟩
  have hlost : Step {} shown shown.loseSurface := .lose (loses_loseSurface shown.host 2)
  have h : Relation.ReflTransGen (Step {}) p₀ p :=
    ((Relation.ReflTransGen.single (.display p₀ [['a']] none)).tail hlost).tail (.display _ _ none)
  obtain ⟨howned, hclosed, -⟩ := owned_of_reachable h₀ h
  exact ⟨h₀, h, by decide +kernel, howned, hclosed⟩

end Legible.Popup
