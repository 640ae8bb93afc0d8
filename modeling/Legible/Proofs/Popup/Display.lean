import Legible.Proofs.Popup.Overlay

/-!
# The popup as one cell

What can be seen of the popup is one cell: nothing, or some lines with their highlights on a surface
of some size and look.  Displaying a content changes this cell in one simple way, whichever handles
the host has lost (`display_refines`): an open popup gets the new lines and stays where and as it is,
any other is opened anew with a size for its lines, and where there are no lines nothing is left.

Which handles come and go is read from what the host was asked for (`Moves`).
-/

namespace Legible.Popup

open SurfaceHost LawfulHost

variable {c : Config} {p q r : Popup Recorder} {lines : List Text} {xs ys : List Call}

/-! ## The cell -/

/-- What can be seen of an open popup. -/
structure Cell where
  content : BufferContent
  place : SurfacePlace
  look : SurfaceLook
  deriving DecidableEq, Repr

/-- What stands behind the surface, if that is good. -/
def surfaceContent? (p : Popup Recorder) : Option SurfaceContent :=
  p.surface.bind fun s => p.host.surfaces.lookup s

/-- What can be seen of the popup. -/
def cell? (p : Popup Recorder) : Option Cell :=
  if p.isOpen then
    p.content?.bind fun content => p.surfaceContent?.map fun s => ⟨content, s.place, s.look⟩
  else none

/-- Where a popup that is opened for some lines stands: wide enough for the widest of them up to a
bound, unless it may be wider anyway, and as high as it may be for their number. -/
def placeFor (c : Config) (lines : List Text) : SurfacePlace where
  width := max c.maxWidth (min 120 (((lines.map Text.cells).max?.getD 0 : Nat) + 2))
  height := max (min lines.length c.maxHeight) 3

/-- The look of a popup for a severity. -/
def lookFor (c : Config) (severity : Option Text) : SurfaceLook :=
  { severity, borderColor := c.colors.colorOf (severity.getD []) }

/-- The cell after some lines were displayed. -/
def Cell.after (c : Config) (lines : List Text) (severity : Option Text) (before : Option Cell) :
    Option Cell :=
  if lines = [] then none
  else
    match before with
    | some cell => some { cell with content := ⟨lines, highlights lines⟩ }
    | none => some ⟨⟨lines, highlights lines⟩, placeFor c lines, lookFor c severity⟩

theorem isSome_surfaceContent? (p : Popup Recorder) : p.surfaceContent?.isSome = p.surfaceValid := by
  rw [surfaceContent?, surfaceValid]
  cases p.surface with
  | none => rfl
  | some s => exact (Recorder.isGood_eq p.host.surfaces s).symm

theorem isSome_cell? (p : Popup Recorder) : p.cell?.isSome = p.isOpen := by
  rw [cell?]
  split
  · rename_i hopen
    obtain ⟨hsurface, hbuffer⟩ := (Bool.and_eq_true _ _).mp hopen
    obtain ⟨content, hcontent⟩ := Option.isSome_iff_exists.1 ((isSome_content? p).trans hbuffer)
    rw [hcontent, Option.bind_some, Option.isSome_map, isSome_surfaceContent?, hsurface, hopen]
  · rename_i hclosed
    exact ((Bool.not_eq_true _).mp hclosed).symm

/-! ## Sizes -/

theorem foldl_width (w : Int) (lines : List Text) :
    (lines.foldl (fun width line => max width (min (Text.cells line + margin) greatestWidth)) w) =
      match (lines.map Text.cells).max? with
      | some n => max w (min 120 (n + 2))
      | none => w := by
  induction lines generalizing w with
  | nil => rfl
  | cons line lines ih =>
    rw [List.foldl_cons, ih, List.map_cons, List.max?_cons]
    cases (lines.map Text.cells).max? with
    | none => simp only [Option.elim_none, margin, greatestWidth]; omega
    | some n => simp only [Option.elim_some, margin, greatestWidth]; omega

theorem widthFor_eq (c : Config) (hne : lines ≠ []) :
    widthFor c lines = (placeFor c lines).width := by
  obtain ⟨n, hn⟩ := Option.isSome_iff_exists.1
    (List.isSome_max?_of_ne_nil (l := lines.map Text.cells) (by simpa using hne))
  rw [widthFor, foldl_width, placeFor, hn]
  rfl

/-! ## Handles that come and go -/

/-- Whether a call creates or gives back a handle. -/
def Call.isMove : Call → Bool
  | createBuffer _ => true
  | createSurface _ _ _ _ => true
  | close _ => true
  | discardBuffer _ => true
  | _ => false

/-- By which calls handles were created and given back between two popups, in order. -/
def Moves (p q : Popup Recorder) (moves : List Call) : Prop :=
  ∃ calls : List Call,
    q.host.calls = calls.reverse ++ p.host.calls ∧ calls.filter Call.isMove = moves

theorem Moves.trans (h : Moves p q xs) (h' : Moves q r ys) : Moves p r (xs ++ ys) := by
  obtain ⟨calls, hcalls, rfl⟩ := h
  obtain ⟨calls', hcalls', rfl⟩ := h'
  refine ⟨calls ++ calls', ?_, List.filter_append ..⟩
  rw [hcalls', hcalls, List.reverse_append, List.append_assoc]

theorem moves_of_eq (h : q.host.calls = p.host.calls) : Moves p q [] := ⟨[], h, rfl⟩

theorem moves_dropSurface (p : Popup Recorder) :
    Moves p p.dropSurface (p.surface.toList.map .close) := by
  unfold dropSurface
  split
  · rename_i s hsurface
    rw [hsurface]
    exact ⟨[.close s], rfl, rfl⟩
  · rename_i hnone
    rw [hnone]
    exact moves_of_eq rfl

theorem moves_ensureBuffer (p : Popup Recorder) :
    ∃ b, p.ensureBuffer.buffer = some b ∧ (p.bufferValid → p.buffer = some b) ∧
      Moves p p.ensureBuffer (if p.bufferValid then [] else [.createBuffer b]) := by
  unfold ensureBuffer
  split
  · rename_i hvalid
    obtain ⟨b, hbuffer, -⟩ := bufferValid_iff.1 hvalid
    exact ⟨b, hbuffer, fun _ => hbuffer, moves_of_eq rfl⟩
  · rename_i hvalid
    exact ⟨_, rfl, fun h => absurd h hvalid, [.createBuffer _], rfl, rfl⟩

/-! ## Writing to a buffer -/

/-- Whether a popup comes from another by nothing but what is written to its buffer. -/
structure Writes (p q : Popup Recorder) : Prop where
  surface : q.surface = p.surface
  buffer : q.buffer = p.buffer
  surfaces : q.host.surfaces = p.host.surfaces
  moves : Moves p q []

theorem Writes.trans (h : Writes p q) (h' : Writes q r) : Writes p r where
  surface := h'.surface.trans h.surface
  buffer := h'.buffer.trans h.buffer
  surfaces := h'.surfaces.trans h.surfaces
  moves := h.moves.trans h'.moves

theorem writes_setLines (lines : List Text) (p : Popup Recorder) :
    Writes p (p.withBuffer fun b host => setLines b lines host) := by
  unfold withBuffer
  split
  · rename_i b _
    exact ⟨rfl, rfl, rfl, [.setLines b lines], rfl, rfl⟩
  · exact ⟨rfl, rfl, rfl, moves_of_eq rfl⟩

theorem foldl_applyHighlight (b : Nat) (spans : List Span) (host : Recorder) :
    (spans.foldl (fun host span => applyHighlight b span host) host).surfaces = host.surfaces ∧
      (spans.foldl (fun host span => applyHighlight b span host) host).calls =
        (spans.map (Call.applyHighlight b)).reverse ++ host.calls := by
  induction spans generalizing host with
  | nil => exact ⟨rfl, rfl⟩
  | cons span spans ih =>
    obtain ⟨hsurfaces, hcalls⟩ := ih (applyHighlight b span host)
    have hone : (applyHighlight b span host).calls = .applyHighlight b span :: host.calls := rfl
    rw [hone] at hcalls
    refine ⟨hsurfaces, hcalls.trans ?_⟩
    rw [List.map_cons, List.reverse_cons, List.append_assoc]
    rfl

theorem writes_highlight (lines : List Text) (p : Popup Recorder) :
    Writes p (p.highlight lines) := by
  unfold highlight withBuffer
  split
  · rename_i b _
    obtain ⟨hsurfaces, hcalls⟩ :=
      foldl_applyHighlight b (highlights lines) (clearHighlights b p.host)
    have hclear : (clearHighlights b p.host).calls = .clearHighlights b :: p.host.calls := rfl
    have hnone : ∀ call ∈ .clearHighlights b :: (highlights lines).map (Call.applyHighlight b),
        ¬ call.isMove := by
      simp [Call.isMove]
    rw [hclear] at hcalls
    refine ⟨rfl, rfl, hsurfaces, _, hcalls.trans ?_, List.filter_eq_nil_iff.2 hnone⟩
    rw [List.reverse_cons, List.append_assoc]
    rfl
  · exact ⟨rfl, rfl, rfl, moves_of_eq rfl⟩

/-! ## Opening a surface -/

theorem surfaces_eq_nil {host : Recorder} (h : ∀ s, isSurfaceValid host s = false) :
    host.surfaces = [] := by
  refine List.eq_nil_iff_forall_not_mem.2 fun e he => ?_
  have hgood : isSurfaceValid host e.1 = true := List.any_eq_true.2 ⟨e, he, decide_eq_true rfl⟩
  rw [h] at hgood
  exact Bool.false_ne_true hgood

theorem buffer_dropSurface (p : Popup Recorder) :
    p.dropSurface.buffer = p.buffer ∧ p.dropSurface.bufferValid = p.bufferValid := by
  unfold dropSurface
  split
  · exact ⟨rfl, rfl⟩
  · exact ⟨rfl, rfl⟩

/-- Before a surface is opened the old one is dropped, and there is a buffer that is good. -/
theorem exists_prepared (h : Owned p) :
    ∃ b, p.dropSurface.ensureBuffer.buffer = some b ∧ (p.bufferValid → p.buffer = some b) ∧
      p.dropSurface.ensureBuffer.host.surfaces = [] ∧
      Moves p p.dropSurface.ensureBuffer
        (p.surface.toList.map .close ++ if p.bufferValid then [] else [.createBuffer b]) := by
  obtain ⟨hdropped, -, hgone⟩ := h.dropSurface
  obtain ⟨b, hbuffer, hold, hmoves⟩ := moves_ensureBuffer p.dropSurface
  obtain ⟨hsame, hvalid⟩ := buffer_dropSurface p
  rw [hvalid] at hold hmoves
  rw [hsame] at hold
  exact ⟨b, hbuffer, hold, surfaces_eq_nil (hdropped.ensureBuffer hgone).2,
    (moves_dropSurface p).trans hmoves⟩

theorem exists_opened {b : Nat} (hbuffer : p.buffer = some b) (hnone : p.host.surfaces = [])
    (hne : lines ≠ []) (c : Config) (severity : Option Text) :
    ∃ s, (openSurface c lines severity p).surface = some s ∧
      (openSurface c lines severity p).buffer = some b ∧
      (openSurface c lines severity p).host.surfaces =
        [(s, ⟨b, placeFor c lines, lookFor c severity⟩)] ∧
      Moves p (openSurface c lines severity p)
        [.createSurface s b (placeFor c lines) (lookFor c severity)] := by
  have hplace : ({ width := widthFor c lines, height := heightFor c lines } : SurfacePlace) =
      placeFor c lines := by
    rw [widthFor_eq c hne]
    rfl
  rw [openSurface, hbuffer]
  dsimp only
  rw [hplace]
  refine ⟨_, rfl, rfl, ?_, [.createSurface _ b _ _], rfl, rfl⟩
  show p.host.surfaces ++ _ = _
  rw [hnone]
  rfl

/-! ## Displaying -/

theorem display_of_nil {content : List Text} (hnil : prepareLines content = []) (c : Config)
    (severity : Option Text) : p.display c content severity = p.close := by
  rw [display]
  exact if_pos (List.isEmpty_iff.2 hnil)

theorem display_of_isOpen {content : List Text} (hne : prepareLines content ≠ [])
    (hopen : p.isOpen) (c : Config) (severity : Option Text) :
    Writes p (p.display c content severity) := by
  rw [display]
  dsimp only
  rw [if_neg (by simpa using hne), if_pos hopen]
  exact (writes_setLines _ p).trans (writes_highlight _ _)

theorem display_of_not_isOpen (h : Owned p) {content : List Text} (hne : prepareLines content ≠ [])
    (hclosed : ¬ p.isOpen) (c : Config) (severity : Option Text) :
    ∃ s b, (p.display c content severity).surface = some s ∧
      (p.display c content severity).buffer = some b ∧ (p.bufferValid → p.buffer = some b) ∧
      (p.display c content severity).host.surfaces =
        [(s, ⟨b, placeFor c (prepareLines content), lookFor c severity⟩)] ∧
      Moves p (p.display c content severity)
        (p.surface.toList.map .close ++ (if p.bufferValid then [] else [.createBuffer b]) ++
          [.createSurface s b (placeFor c (prepareLines content)) (lookFor c severity)]) := by
  rw [display]
  dsimp only
  rw [if_neg (by simpa using hne), if_neg hclosed]
  obtain ⟨b, hbuffer, hold, hnone, hprepared⟩ := exists_prepared h
  have hwritten := writes_setLines (prepareLines content) p.dropSurface.ensureBuffer
  obtain ⟨s, hs, hb, hsurfaces, hopened⟩ := exists_opened (hwritten.buffer.trans hbuffer)
    (hwritten.surfaces.trans hnone) hne c severity
  have hlast := writes_highlight (prepareLines content) (openSurface c (prepareLines content) severity
    (p.dropSurface.ensureBuffer.withBuffer fun b host => setLines b (prepareLines content) host))
  refine ⟨s, b, hlast.surface.trans hs, hlast.buffer.trans hb, hold, hlast.surfaces.trans hsurfaces,
    ?_⟩
  have hmoves := hprepared.trans (hwritten.moves.trans (hopened.trans hlast.moves))
  rwa [List.append_nil, List.nil_append] at hmoves

theorem surfaceContent?_congr (hsurface : q.surface = p.surface)
    (hsurfaces : q.host.surfaces = p.host.surfaces) : q.surfaceContent? = p.surfaceContent? := by
  rw [surfaceContent?, surfaceContent?, hsurface, hsurfaces]

theorem cell?_display (h : Owned p) (c : Config) (content : List Text) (severity : Option Text) :
    (p.display c content severity).cell? =
      Cell.after c (prepareLines content) severity p.cell? := by
  by_cases hne : prepareLines content = []
  · rw [display_of_nil hne, cell?, isOpen_close, Cell.after.eq_def, if_pos hne]
    rfl
  · have hshown := isOpen_display (c := c) hne severity p
    have hcontent := content?_display (c := c) hne severity p
    rw [cell?, if_pos hshown, hcontent, Option.bind_some, Cell.after.eq_def, if_neg hne]
    by_cases hopen : p.isOpen
    · have hwrites := display_of_isOpen hne hopen c severity
      obtain ⟨cell, hcell⟩ := Option.isSome_iff_exists.1 ((isSome_cell? p).trans hopen)
      rw [surfaceContent?_congr hwrites.surface hwrites.surfaces, hcell]
      rw [cell?, if_pos hopen, Option.bind_eq_some_iff] at hcell
      obtain ⟨old, -, hold⟩ := hcell
      obtain ⟨s, hs, rfl⟩ := Option.map_eq_some_iff.1 hold
      rw [hs]
      rfl
    · obtain ⟨s, b, hs, -, -, hsurfaces, -⟩ := display_of_not_isOpen h hne hopen c severity
      have hsurface : (p.display c content severity).surfaceContent? =
          some ⟨b, placeFor c (prepareLines content), lookFor c severity⟩ := by
        rw [surfaceContent?, hs, hsurfaces]
        simp
      rw [hsurface, cell?, if_neg hopen]
      rfl

/-- What displaying some lines makes of a popup: what can be seen afterwards, and which handles came
and went. -/
structure Displays (c : Config) (lines : List Text) (severity : Option Text)
    (p q : Popup Recorder) : Prop where
  notBroken : ∀ line ∈ lines, '\n' ∉ line
  cell : q.cell? = Cell.after c lines severity p.cell?
  closed : lines = [] → q.isOpen = false ∧ Released q
  shown : lines ≠ [] → q.isOpen ∧ q.content? = some ⟨lines, highlights lines⟩
  kept : lines ≠ [] → p.isOpen → Writes p q
  opened : lines ≠ [] → ¬ p.isOpen → ∃ s b, q.surface = some s ∧ q.buffer = some b ∧
    (p.bufferValid → p.buffer = some b) ∧
    q.host.surfaces = [(s, ⟨b, placeFor c lines, lookFor c severity⟩)] ∧
    Moves p q (p.surface.toList.map .close ++ (if p.bufferValid then [] else [.createBuffer b]) ++
      [.createSurface s b (placeFor c lines) (lookFor c severity)])

/-- From a popup without handles, over a host where nothing is good, whatever was shown before and
however often the popup was closed, while the host lost handles at any time: displaying a content
changes what can be seen in one simple way.  An open popup gets the new lines, and nothing else is
asked for; any other drops what it held of a surface, makes a buffer if it has none that is good, and
opens one surface over its buffer; and where there are no lines all is given back. -/
theorem display_refines {p₀ p : Popup Recorder} (h₀ : Released p₀)
    (h : Relation.ReflTransGen (Step c) p₀ p) (content : List Text) (severity : Option Text) :
    Displays c (content.flatMap Text.lines) severity p (p.display c content severity) := by
  have howned : Owned p := by
    induction h with
    | refl => exact h₀.owned
    | tail _ hstep ih => exact ih.step hstep
  refine ⟨fun _ => not_mem_of_mem_prepareLines, cell?_display howned c content severity,
    fun hnil => ?_, fun hne => ⟨isOpen_display hne severity p, content?_display hne severity p⟩,
    fun hne hopen => display_of_isOpen hne hopen c severity,
    fun hne hclosed => display_of_not_isOpen howned hne hclosed c severity⟩
  rw [display_of_nil hnil]
  exact ⟨isOpen_close p, howned.close⟩

/-- The buffer is lost, so the next content is shown in a new one, on a new surface. -/
theorem display_refines_lostBuffer :
    let p₀ : Popup Recorder := { host := {} }
    let p := (p₀.display {} [['a']] none).loseBuffer
    let q := p.display {} [['b', '\n', 'c']] none
    Released p₀ ∧ Relation.ReflTransGen (Step {}) p₀ p ∧ ¬ p.isOpen ∧
      Displays {} [['b'], ['c']] none p q ∧ q.surface = some 4 ∧ q.buffer = some 3 := by
  intro p₀ p q
  have h₀ : Released p₀ := ⟨rfl, rfl, fun _ => rfl, fun _ => rfl⟩
  have hlost : Step {} (p₀.display {} [['a']] none) p := .lose (loses_loseBuffer _ 1)
  have h : Relation.ReflTransGen (Step {}) p₀ p :=
    (Relation.ReflTransGen.single (.display p₀ [['a']] none)).tail hlost
  exact ⟨h₀, h, by decide +kernel, display_refines h₀ h [['b', '\n', 'c']] none,
    by decide +kernel⟩

end Legible.Popup
