import Legible.Proofs.Controller.Cursor
import Legible.Proofs.Diagnostic.Order

/-!
# Going round the diagnostics with commands

A command to go to the next or to the previous diagnostic moves the cursor and nothing else of what
the controller sees, and it succeeds where there are diagnostics (`step_go`).  So repeating
it takes the cursor round the places at which diagnostics begin, each of which it visits once before
it begins again, and the one command undoes the other (`cursor_goes_round`).
-/

namespace Legible.Controller

open Diagnostic (following? passed placeLe placeLt starts)

variable {v : View} {s : Session} {forward : Bool}

/-- The command that goes on in one of the two directions. -/
def Event.go : Bool → Event
  | true => .nextError
  | false => .prevError

/-- The order in which places are visited in a direction. -/
def ahead : Bool → Int × Int → Int × Int → Bool
  | true => placeLt
  | false => fun p q => placeLt q p

/-- The places at which diagnostics begin, as they come in a direction. -/
def stations (ds : List Diagnostic) : Bool → List (Int × Int)
  | true => starts ds
  | false => (starts ds).reverse

theorem map_start_target? (hkind : Language.isSupported v.kind) (forward : Bool) :
    (target? v forward).map Diagnostic.start =
      following? (ahead forward) (stations v.diagnostics forward) v.cursor := by
  rw [target?, if_pos hkind]
  cases forward with
  | true => exact Diagnostic.map_start_next? _ _ _
  | false => exact Diagnostic.map_start_previous? _ _ _

theorem ahead_trans (forward : Bool) (p q r : Int × Int) (hpq : ahead forward p q)
    (hqr : ahead forward q r) : ahead forward p r := by
  cases forward with
  | true => exact Diagnostic.placeLt_trans p q r hpq hqr
  | false => exact Diagnostic.placeLt_trans r q p hqr hpq

theorem ahead_irrefl (forward : Bool) (p : Int × Int) : ahead forward p p = false := by
  cases forward <;> exact Diagnostic.placeLt_irrefl p

theorem pairwise_stations (ds : List Diagnostic) (forward : Bool) :
    (stations ds forward).Pairwise fun p q => ahead forward p q := by
  cases forward with
  | true => exact Diagnostic.pairwise_starts ds
  | false => exact List.pairwise_reverse.2 (Diagnostic.pairwise_starts ds)

theorem stations_ne_nil {ds : List Diagnostic} (h : ds ≠ []) (forward : Bool) :
    stations ds forward ≠ [] := by
  cases forward with
  | true => exact Diagnostic.starts_ne_nil h
  | false => exact List.reverse_ne_nil_iff.2 (Diagnostic.starts_ne_nil h)

namespace Session

/-- Where there are diagnostics, a command goes to the place that follows the cursor, and succeeds.
The cursor may have been anywhere before. -/
theorem step_go {t : Session} (hkind : Language.isSupported s.view.kind)
    (hne : s.view.diagnostics ≠ []) (hview : t.view = { s.view with cursor := t.view.cursor })
    (forward : Bool) : ∃ p, following? (ahead forward) (stations s.view.diagnostics forward)
      t.view.cursor = some p ∧
      (t.step (.go forward)).1 = some true ∧
      (t.step (.go forward)).2.view = { s.view with cursor := p } := by
  obtain ⟨p, hp⟩ := Diagnostic.exists_following? (ahead forward)
    (stations_ne_nil hne forward) t.view.cursor
  have hkind' : Language.isSupported t.view.kind := by
    rw [hview]
    exact hkind
  have hds : t.view.diagnostics = s.view.diagnostics := by rw [hview]
  have htarget := map_start_target? hkind' forward
  rw [hds, hp] at htarget
  obtain ⟨d, hd, rfl⟩ := Option.map_eq_some_iff.1 htarget
  have hjump : t.jump forward =
      (true, { t with view := { s.view with cursor := d.start } }.evaluate.2) := by
    simp only [jump, hd]
    rw [hview]
  refine ⟨d.start, hp, ?_⟩
  cases forward with
  | true =>
    rw [Event.go, step, hjump]
    exact ⟨rfl, rfl⟩
  | false =>
    rw [Event.go, step, hjump]
    exact ⟨rfl, rfl⟩

/-- The session after a command was given several times. -/
def going (s : Session) (forward : Bool) (n : Nat) : Session :=
  s.run (List.replicate n (.go forward))

theorem going_succ (s : Session) (forward : Bool) (n : Nat) :
    s.going forward (n + 1) = ((s.going forward n).step (.go forward)).2 := by
  rw [going, List.replicate_succ', run, List.foldl_append]
  rfl

/-- However often a command is given, the editor differs from what it was in its cursor only. -/
theorem view_going (hkind : Language.isSupported s.view.kind) (hne : s.view.diagnostics ≠ [])
    (forward : Bool) (n : Nat) :
    (s.going forward n).view = { s.view with cursor := (s.going forward n).view.cursor } := by
  induction n with
  | zero => rfl
  | succ n ih =>
    obtain ⟨p, -, -, hnext⟩ := step_go hkind hne ih forward
    rw [going_succ, hnext]

theorem following?_going (hkind : Language.isSupported s.view.kind)
    (hne : s.view.diagnostics ≠ []) (forward : Bool) (n : Nat) :
    ((s.going forward n).step (.go forward)).1 = some true ∧
      following? (ahead forward) (stations s.view.diagnostics forward)
        (s.going forward n).view.cursor = some (s.going forward (n + 1)).view.cursor := by
  obtain ⟨p, hp, hdone, hnext⟩ := step_go hkind hne (view_going hkind hne forward n) forward
  rw [going_succ, hnext]
  exact ⟨hdone, hp⟩

/-- A command in the other direction goes back to where a diagnostic begins. -/
theorem cursor_go_back (hkind : Language.isSupported s.view.kind)
    (hcursor : s.view.cursor ∈ starts s.view.diagnostics) (forward : Bool) :
    (s.run [.go forward, .go !forward]).view.cursor = s.view.cursor := by
  have hne : s.view.diagnostics ≠ [] := by
    obtain ⟨d, hd, -⟩ := Diagnostic.mem_starts.1 hcursor
    exact List.ne_nil_of_mem hd
  have hstation : s.view.cursor ∈ stations s.view.diagnostics forward := by
    cases forward with
    | true => exact hcursor
    | false => exact List.mem_reverse.2 hcursor
  have hturned : stations s.view.diagnostics (!forward) =
      (stations s.view.diagnostics forward).reverse := by
    cases forward with
    | true => rfl
    | false => exact (List.reverse_reverse _).symm
  have hahead : ahead (!forward) = fun p q => ahead forward q p := by cases forward <;> rfl
  obtain ⟨p, hp, -, hview⟩ := step_go hkind hne rfl forward
  have hback := Diagnostic.following?_back (ahead_trans forward) (ahead_irrefl forward)
    (pairwise_stations _ forward) hstation hp
  obtain ⟨q, hq, -, hview'⟩ := step_go (t := (s.step (.go forward)).2) hkind hne
    (by rw [hview]) !forward
  rw [hview, hturned, hahead] at hq
  have hcursor' : (s.run [.go forward, .go !forward]).view.cursor = q :=
    congrArg View.cursor hview'
  rw [hcursor']
  exact Option.some.inj (hq.symm.trans hback)

/-- Where a document that the popup serves has diagnostics, the commands to go to the next and to
the previous one always succeed.  As many of them as there are places at which diagnostics begin
visit each of these places once, in their order and round the circle, from the first that comes
after the cursor, or backward from the last that comes before it; one command more begins again.
From such a place either command is undone by the other. -/
theorem cursor_goes_round (hkind : Language.isSupported s.view.kind)
    (hne : s.view.diagnostics ≠ []) :
    let places := starts s.view.diagnostics
    let cursorAfter (e : Event) (n : Nat) := (s.run (List.replicate n e)).view.cursor
    (places.Pairwise fun p q => placeLt p q) ∧
    (∀ p, p ∈ places ↔ ∃ d ∈ s.view.diagnostics, d.start = p) ∧
    (∀ n, ((s.run (List.replicate n .nextError)).step .nextError).1 = some true ∧
      ((s.run (List.replicate n .prevError)).step .prevError).1 = some true) ∧
    ((List.range places.length).map fun n => cursorAfter .nextError (n + 1)) =
      places.rotate (places.countP fun p => placeLe p s.view.cursor) ∧
    cursorAfter .nextError (places.length + 1) = cursorAfter .nextError 1 ∧
    ((List.range places.length).map fun n => cursorAfter .prevError (n + 1)) =
      places.reverse.rotate (places.countP fun p => placeLe s.view.cursor p) ∧
    cursorAfter .prevError (places.length + 1) = cursorAfter .prevError 1 ∧
    (s.view.cursor ∈ places →
      (s.run [.nextError, .prevError]).view.cursor = s.view.cursor ∧
      (s.run [.prevError, .nextError]).view.cursor = s.view.cursor) := by
  intro places cursorAfter
  have hwalk (forward : Bool) := Diagnostic.walk_eq_rotate (ahead_trans forward)
    (ahead_irrefl forward) (pairwise_stations s.view.diagnostics forward)
    (c := fun n => (s.going forward n).view.cursor)
    fun n => (following?_going hkind hne forward n).2
  have hnext : passed placeLt places s.view.cursor =
      places.countP fun p => placeLe p s.view.cursor :=
    List.countP_congr fun p _ => by rw [Diagnostic.not_placeLt]
  have hprevious : passed (fun p q => placeLt q p) places.reverse s.view.cursor =
      places.countP fun p => placeLe s.view.cursor p := by
    rw [passed, List.countP_reverse]
    exact List.countP_congr fun p _ => by rw [Diagnostic.not_placeLt]
  obtain ⟨hforward, hforward'⟩ := hwalk true
  obtain ⟨hbackward, hbackward'⟩ := hwalk false
  refine ⟨Diagnostic.pairwise_starts _, fun p => Diagnostic.mem_starts, fun n => ⟨?_, ?_⟩,
    hnext ▸ hforward, hforward', ?_, ?_, fun hcursor => ⟨?_, ?_⟩⟩
  · exact (following?_going hkind hne true n).1
  · exact (following?_going hkind hne false n).1
  · rw [← hprevious, ← List.length_reverse]
    exact hbackward
  · rw [← List.length_reverse]
    exact hbackward'
  · exact cursor_go_back hkind hcursor true
  · exact cursor_go_back hkind hcursor false

/-- Three diagnostics of which two begin at one place, in no order, and a cursor at their place. -/
theorem cursor_goes_round_sharedStart :
    let at? (message : String) (line column : Int) : Diagnostic :=
      { message := message.toList, line, column, endLine := line, endColumn := column + 2 }
    let s : Session :=
      { config := {}, reworder := ⟨[], false, false, []⟩, popup := { host := {} },
        view := ⟨"typescript".toList, (3, 1), [at? "a" 3 1, at? "b" 0 4, at? "c" 3 1]⟩ }
    Language.isSupported s.view.kind ∧ s.view.diagnostics ≠ [] ∧
      starts s.view.diagnostics = [(0, 4), (3, 1)] ∧
      s.view.cursor ∈ starts s.view.diagnostics ∧
      ((List.range 2).map fun n => (s.run (List.replicate (n + 1) .nextError)).view.cursor) =
        [(0, 4), (3, 1)] ∧
      (s.run [.prevError, .nextError]).view.cursor = (3, 1) := by
  intro at? s
  have hkind : Language.isSupported s.view.kind := by decide +kernel
  have hne : s.view.diagnostics ≠ [] := List.cons_ne_nil _ _
  have hplaces : (Diagnostic.sorted s.view.diagnostics).map Diagnostic.start =
      [(0, 4), (3, 1), (3, 1)] := by
    refine List.Perm.eq_of_pairwise (fun p q _ _ => Diagnostic.placeLe_antisymm)
      (Diagnostic.pairwise_starts_le _) (by decide) ?_
    exact ((List.mergeSort_perm _ _).map Diagnostic.start).trans (by decide)
  have hstarts : starts s.view.diagnostics = [(0, 4), (3, 1)] := by
    rw [starts, hplaces]
    decide
  have hcursor : s.view.cursor ∈ starts s.view.diagnostics := by
    rw [hstarts]
    decide
  obtain ⟨-, -, -, hround, -, -, -, hback⟩ := cursor_goes_round hkind hne
  rw [hstarts] at hround
  exact ⟨hkind, hne, hstarts, hcursor, hround.trans (by decide), (hback hcursor).2⟩

end Session

end Legible.Controller
