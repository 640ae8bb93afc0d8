import Legible.Popup.Overlay
import Legible.Popup.Recorder
import Mathlib.Logic.Function.Basic

/-!
# Hosts that keep their word

A host of the popup is known by what is good: which buffers are, and which surfaces are, over which
buffer each was created.  A lawful host changes this only as it is asked to.  Both the host that
keeps a record and the overlay are lawful.

A host may lose handles at any time (`Loses`): they are good no longer, and everything else is as it
was.
-/

namespace Legible.Popup

open Function (update)

/-- A host that changes which handles are good only as it is asked to. -/
class LawfulHost (σ : Type) extends SurfaceHost σ where
  /-- The buffer over which a surface was created, if the surface is good. -/
  under? : σ → Nat → Option Nat
  isSurfaceValid_eq (host : σ) (s : Nat) : isSurfaceValid host s = (under? host s).isSome
  under?_createBuffer (host : σ) : under? (createBuffer host).2 = under? host
  isBufferValid_createBuffer (host : σ) :
    isBufferValid (createBuffer host).2 = update (isBufferValid host) (createBuffer host).1 true
  under?_setLines (b : Nat) (lines : List Text) (host : σ) :
    under? (setLines b lines host) = under? host
  isBufferValid_setLines (b : Nat) (lines : List Text) (host : σ) :
    isBufferValid (setLines b lines host) = isBufferValid host
  under?_clearHighlights (b : Nat) (host : σ) : under? (clearHighlights b host) = under? host
  isBufferValid_clearHighlights (b : Nat) (host : σ) :
    isBufferValid (clearHighlights b host) = isBufferValid host
  under?_applyHighlight (b : Nat) (span : Span) (host : σ) :
    under? (applyHighlight b span host) = under? host
  isBufferValid_applyHighlight (b : Nat) (span : Span) (host : σ) :
    isBufferValid (applyHighlight b span host) = isBufferValid host
  under?_createSurface (b : Nat) (place : SurfacePlace) (look : SurfaceLook) (host : σ) :
    under? (createSurface b place look host).2 =
      update (under? host) (createSurface b place look host).1 (some b)
  isBufferValid_createSurface (b : Nat) (place : SurfacePlace) (look : SurfaceLook) (host : σ) :
    isBufferValid (createSurface b place look host).2 = isBufferValid host
  under?_closeSurface (s : Nat) (host : σ) :
    under? (closeSurface s host) = update (under? host) s none
  isBufferValid_closeSurface (s : Nat) (host : σ) :
    isBufferValid (closeSurface s host) = isBufferValid host
  under?_discardBuffer (b : Nat) (host : σ) : under? (discardBuffer b host) = under? host
  isBufferValid_discardBuffer (b : Nat) (host : σ) :
    isBufferValid (discardBuffer b host) = update (isBufferValid host) b false

open SurfaceHost LawfulHost

section Views

variable {σ : Type} [LawfulHost σ] {host host' host'' : σ}

/-- Whether a host has lost some of its handles, or none. -/
structure Loses (host host' : σ) : Prop where
  buffers (b : Nat) : isBufferValid host' b → isBufferValid host b
  surfaces (s : Nat) : under? host' s = none ∨ under? host' s = under? host s

theorem Loses.isSurfaceValid (h : Loses host host') {s : Nat} (hs : isSurfaceValid host' s) :
    SurfaceHost.isSurfaceValid host s ∧ under? host' s = under? host s := by
  rw [isSurfaceValid_eq] at hs ⊢
  rcases h.surfaces s with hnone | hsame
  · simp [hnone] at hs
  · exact ⟨hsame ▸ hs, hsame⟩

/-- Whether the handles of two hosts are as good as each other. -/
structure Alike (host host' : σ) : Prop where
  buffers : isBufferValid host' = isBufferValid host
  surfaces : under? host' = under? host

theorem Alike.refl (host : σ) : Alike host host := ⟨rfl, rfl⟩

theorem Alike.trans (h : Alike host host') (h' : Alike host' host'') : Alike host host'' :=
  ⟨h'.buffers.trans h.buffers, h'.surfaces.trans h.surfaces⟩

theorem Alike.loses (h : Alike host host') : Loses host host' :=
  ⟨fun _ hb => h.buffers ▸ hb, fun s => .inr (congrFun h.surfaces s)⟩

theorem Alike.isSurfaceValid_eq (h : Alike host host') :
    isSurfaceValid host' = isSurfaceValid host := by
  funext s
  rw [LawfulHost.isSurfaceValid_eq, LawfulHost.isSurfaceValid_eq, h.surfaces]

theorem alike_setLines (b : Nat) (lines : List Text) (host : σ) :
    Alike host (setLines b lines host) :=
  ⟨isBufferValid_setLines b lines host, under?_setLines b lines host⟩

/-- Highlights do not matter. -/
theorem alike_highlight (b : Nat) (spans : List Span) (host : σ) :
    Alike host (spans.foldl (fun host span => applyHighlight b span host)
      (clearHighlights b host)) := by
  have hspans (host : σ) :
      Alike host (spans.foldl (fun host span => applyHighlight b span host) host) := by
    induction spans generalizing host with
    | nil => exact .refl host
    | cons span spans ih =>
      have hspan : Alike host (applyHighlight b span host) :=
        ⟨isBufferValid_applyHighlight b span host, under?_applyHighlight b span host⟩
      exact hspan.trans (ih _)
  have hclear : Alike host (clearHighlights b host) :=
    ⟨isBufferValid_clearHighlights b host, under?_clearHighlights b host⟩
  exact hclear.trans (hspans _)

end Views

/-! ## The host that keeps a record -/

namespace Recorder

variable {α : Type}

theorem lookup_drop (handles : List (Nat × α)) (h x : Nat) :
    (drop handles h).lookup x = if x = h then none else handles.lookup x := by
  induction handles with
  | nil => simp [drop]
  | cons e rest ih =>
    obtain ⟨k, a⟩ := e
    rw [drop] at ih ⊢
    by_cases hk : k = h
    · rw [List.filter_cons_of_neg (by simpa using hk), ih, List.lookup_cons]
      by_cases hx : x = h
      · simp [hx]
      · simp [hx, hk, beq_false_of_ne hx]
    · rw [List.filter_cons_of_pos (by simpa using hk), List.lookup_cons, List.lookup_cons, ih]
      by_cases hx : x = h
      · simp [hx, beq_false_of_ne (Ne.symm hk)]
      · simp [hx]

theorem isGood_eq (handles : List (Nat × α)) (x : Nat) :
    isGood handles x = (handles.lookup x).isSome := by
  induction handles with
  | nil => rfl
  | cons e rest ih =>
    rw [isGood] at ih ⊢
    rw [List.any_cons, List.lookup_cons, ih]
    by_cases hx : x = e.1
    · simp [hx]
    · simp [beq_false_of_ne hx, Ne.symm hx]

theorem isGood_drop (handles : List (Nat × α)) (h : Nat) :
    isGood (drop handles h) = Function.update (isGood handles) h false := by
  funext x
  rw [isGood_eq, lookup_drop, Function.update_apply, isGood_eq]
  split <;> rfl

theorem isGood_append (handles : List (Nat × α)) (h : Nat) (a : α) :
    isGood (handles ++ [(h, a)]) = Function.update (isGood handles) h true := by
  funext x
  rw [isGood, List.any_append, Function.update_apply]
  by_cases hx : x = h
  · simp [hx]
  · simp [hx, Ne.symm hx, isGood]

theorem isGood_update (handles : List (Nat × α)) (h : Nat) (f : α → α) :
    isGood (update handles h f) = isGood handles := by
  funext x
  rw [isGood, update, List.any_map]
  refine List.any_congr rfl fun e => ?_
  dsimp only [Function.comp_apply]
  split <;> simp_all

/-- The buffer of a surface that is good; of two surfaces of one number, that of the later one. -/
def bufferOf? (r : Recorder) (s : Nat) : Option Nat :=
  (r.surfaces.reverse.lookup s).map (·.buffer)

theorem bufferOf?_drop (r : Recorder) (s : Nat) :
    bufferOf? { r with surfaces := drop r.surfaces s } =
      Function.update (bufferOf? r) s none := by
  funext x
  have hreverse : (drop r.surfaces s).reverse = drop r.surfaces.reverse s :=
    List.filter_reverse.symm
  rw [bufferOf?, hreverse, lookup_drop, Function.update_apply]
  split
  · rfl
  · rfl

theorem bufferOf?_append (r : Recorder) (s : Nat) (content : SurfaceContent) :
    bufferOf? { r with surfaces := r.surfaces ++ [(s, content)] } =
      Function.update (bufferOf? r) s (some content.buffer) := by
  funext x
  rw [bufferOf?, List.reverse_append, Function.update_apply]
  by_cases hx : x = s
  · simp [hx]
  · simp [hx, List.lookup_cons, beq_false_of_ne hx, bufferOf?]

end Recorder

instance : LawfulHost Recorder where
  under? := Recorder.bufferOf?
  isSurfaceValid_eq r s := by
    have hreverse : Recorder.isGood r.surfaces.reverse s = Recorder.isGood r.surfaces s :=
      List.any_reverse
    rw [Recorder.bufferOf?, Option.isSome_map, ← Recorder.isGood_eq, hreverse]
    rfl
  under?_createBuffer _ := rfl
  isBufferValid_createBuffer r := Recorder.isGood_append r.buffers _ _
  under?_setLines _ _ _ := rfl
  isBufferValid_setLines b lines r :=
    Recorder.isGood_update r.buffers b fun c => { c with lines }
  under?_clearHighlights _ _ := rfl
  isBufferValid_clearHighlights b r :=
    Recorder.isGood_update r.buffers b fun c => { c with spans := [] }
  under?_applyHighlight _ _ _ := rfl
  isBufferValid_applyHighlight b span r :=
    Recorder.isGood_update r.buffers b fun c => { c with spans := c.spans ++ [span] }
  under?_createSurface _ _ _ r := Recorder.bufferOf?_append r _ _
  isBufferValid_createSurface _ _ _ _ := rfl
  under?_closeSurface s r := Recorder.bufferOf?_drop r s
  isBufferValid_closeSurface _ _ := rfl
  under?_discardBuffer _ _ := rfl
  isBufferValid_discardBuffer b r := Recorder.isGood_drop r.buffers b

theorem loses_loseSurface (r : Recorder) (s : Nat) : Loses r (r.loseSurface s) where
  buffers _ h := h
  surfaces x := by
    have hdrop : under? (r.loseSurface s) = Function.update (under? r) s none :=
      Recorder.bufferOf?_drop r s
    rw [hdrop, Function.update_apply]
    split
    · exact .inl rfl
    · exact .inr rfl

theorem loses_loseBuffer (r : Recorder) (b : Nat) : Loses r (r.loseBuffer b) where
  buffers x h := by
    have hdrop : isBufferValid (r.loseBuffer b) = Function.update (isBufferValid r) b false :=
      Recorder.isGood_drop r.buffers b
    rw [hdrop, Function.update_apply] at h
    split at h
    · exact absurd h Bool.false_ne_true
    · exact h
  surfaces _ := .inr rfl

/-! ## The overlay -/

namespace Overlay

/-- The buffer of a panel that can be seen. -/
def bufferOf? (o : Overlay) (s : Nat) : Option Nat :=
  (o.panels[s]?).bind fun p => if p.isShown then some p.buffer else none

theorem panelShown_eq (o : Overlay) (s : Nat) : o.panelShown s = (o.bufferOf? s).isSome := by
  rw [panelShown, bufferOf?]
  cases o.panels[s]? with
  | none => rfl
  | some p => by_cases hp : p.isShown <;> simp [hp]

theorem bufferAlive_mapBuffer (o : Overlay) (b : Nat) {f : Scratch → Scratch}
    (hf : ∀ s, (f s).alive = s.alive) : (o.mapBuffer b f).bufferAlive = o.bufferAlive := by
  funext x
  rw [bufferAlive, bufferAlive, mapBuffer, List.getElem?_modify]
  cases o.buffers[x]? with
  | none => rfl
  | some s => by_cases hx : b = x <;> simp [hx, hf]

theorem bufferAlive_delete (o : Overlay) (b : Nat) :
    (o.mapBuffer b Scratch.delete).bufferAlive = Function.update o.bufferAlive b false := by
  funext x
  rw [bufferAlive, mapBuffer, List.getElem?_modify, Function.update_apply]
  by_cases hx : x = b
  · subst hx
    cases o.buffers[x]? <;> simp [Scratch.delete]
  · simp [hx, Ne.symm hx, bufferAlive]

theorem bufferAlive_append (o : Overlay) :
    bufferAlive { o with buffers := o.buffers ++ [{}] } =
      Function.update o.bufferAlive o.buffers.length true := by
  funext x
  rw [bufferAlive, Function.update_apply]
  by_cases hx : x = o.buffers.length
  · simp [hx]
  · rw [if_neg hx, bufferAlive]
    rcases Nat.lt_or_gt_of_ne hx with hlt | hgt
    · rw [List.getElem?_append_left hlt]
    · rw [List.getElem?_eq_none (by simp; omega), List.getElem?_eq_none (by omega)]

theorem bufferOf?_append (o : Overlay) (b : Nat) (place : SurfacePlace) (look : SurfaceLook) :
    bufferOf? { o with panels := o.panels ++ [Panel.create b place look] } =
      Function.update o.bufferOf? o.panels.length (some b) := by
  funext x
  rw [bufferOf?, Function.update_apply]
  by_cases hx : x = o.panels.length
  · have hshown : (Panel.create b place look).isShown = true := rfl
    have hbuffer : (Panel.create b place look).buffer = b := rfl
    simp only [hx, List.getElem?_concat_length, Option.bind_some, hshown, hbuffer, if_pos]
  · rw [if_neg hx, bufferOf?]
    rcases Nat.lt_or_gt_of_ne hx with hlt | hgt
    · rw [List.getElem?_append_left hlt]
    · rw [List.getElem?_eq_none (by simp; omega), List.getElem?_eq_none (by omega)]

/-- A panel that cannot be seen any more is not good, whether it was given back or hidden. -/
theorem bufferOf?_mapPanel (o : Overlay) (s : Nat) {f : Panel → Panel}
    (hf : ∀ p, (f p).isShown = false) :
    (o.mapPanel s f).bufferOf? = Function.update o.bufferOf? s none := by
  funext x
  rw [bufferOf?, mapPanel, List.getElem?_modify, Function.update_apply]
  by_cases hx : x = s
  · subst hx
    cases o.panels[x]? <;> simp [hf]
  · simp [hx, Ne.symm hx, bufferOf?]

end Overlay

instance : LawfulHost Overlay where
  under? := Overlay.bufferOf?
  isSurfaceValid_eq := Overlay.panelShown_eq
  under?_createBuffer _ := rfl
  isBufferValid_createBuffer := Overlay.bufferAlive_append
  under?_setLines _ _ _ := rfl
  isBufferValid_setLines b _ o := o.bufferAlive_mapBuffer b fun s => by
    rw [Scratch.setLines, Scratch.clear]
    split <;> rfl
  under?_clearHighlights _ _ := rfl
  isBufferValid_clearHighlights b o := o.bufferAlive_mapBuffer b fun s => by
    rw [Scratch.clear]
    split <;> rfl
  under?_applyHighlight _ _ _ := rfl
  isBufferValid_applyHighlight b _ o := o.bufferAlive_mapBuffer b fun s => by
    rw [Scratch.addSpan]
    split <;> rfl
  under?_createSurface b place look o := o.bufferOf?_append b place look
  isBufferValid_createSurface _ _ _ _ := rfl
  under?_closeSurface s o := o.bufferOf?_mapPanel s fun _ => rfl
  isBufferValid_closeSurface _ _ := rfl
  under?_discardBuffer _ _ := rfl
  isBufferValid_discardBuffer b o := o.bufferAlive_delete b

theorem loses_hide (o : Overlay) (s : Nat) : Loses o (o.hide s) where
  buffers _ h := h
  surfaces x := by
    have hhide : under? (o.hide s) = Function.update (under? o) s none :=
      o.bufferOf?_mapPanel s fun p => Bool.and_false p.alive
    rw [hhide, Function.update_apply]
    split
    · exact .inl rfl
    · exact .inr rfl

end Legible.Popup
