import Legible.Proofs.Text.Decimal
import Legible.Proofs.Value.Integer
import Legible.Settings.Session

/-!
# Loading settings

Whatever a file and the overrides hold, loading them gives a configuration whose numbers are within
bounds and whose texts are there, with two exceptions: a number with bounds that is infinite is
refused, since it has no integer, and so are documents and values that are nested too deeply
(`load_ok_iff`).  Every other value of a wrong kind gives way to a default.
-/

namespace Legible

/-! ## Integers and texts of values -/

namespace Binary64

theorem positional_ne_nil (digits : Text) (place : Int) : positional digits place ≠ [] := by
  unfold positional
  split
  · simp
  · split <;> simp

theorem scientific_ne_nil (digits : Text) (exponent : Int) : scientific digits exponent ≠ [] := by
  simp [scientific]

theorem render_shortNames_ne_nil (x : Binary64) : x.render shortNames ≠ [] := by
  have hdecimal (d : Decimal) : d.render ≠ [] := by
    unfold Decimal.render
    dsimp only
    split
    · exact positional_ne_nil _ _
    · exact scientific_ne_nil _ _
  cases x with
  | nan => decide
  | infinite negative => cases negative <;> decide
  | finite negative m e =>
    unfold render
    dsimp only
    split
    · exact List.cons_ne_nil _ _
    · split
      · decide
      · exact hdecimal _

end Binary64

namespace Value

/-- What is not void has a text. -/
theorem display_ne_nil {v : Value} (h : v.isVoid = false) : v.display ≠ [] := by
  cases v with
  | null => exact absurd h (by decide)
  | bool b => cases b <;> decide
  | int n =>
    cases n with
    | ofNat n => exact Text.ofNat_ne_nil n
    | negSucc n => exact List.cons_ne_nil _ _
  | double x => exact x.render_shortNames_ne_nil
  | str t => simpa [isVoid, display] using h
  | arr items => exact List.cons_ne_nil '[' (insideItems items ++ [']'])
  | obj fields => exact List.cons_ne_nil '\x7b' (insideFields fields ++ ['\x7d'])

end Value

/-! ## Configurations -/

namespace Config

/-- What holds of every configuration that is read from settings. -/
structure Checked (c : Config) : Prop where
  height : 1 ≤ c.maxHeight ∧ c.maxHeight ≤ 200
  width : 1 ≤ c.maxWidth ∧ c.maxWidth ≤ 120
  delay : 0 ≤ c.debounceMs ∧ c.debounceMs ≤ 5000
  colors : ∀ entry ∈ c.colors.toList, entry.2 ≠ []
  command : c.command ≠ []
  serverNames : c.serverNames ≠ []
  commands : c.keymap.toValue.fields.names = Command.all.map Command.id

/-- The settings whose numbers are kept within bounds. -/
def boundedKeys : List Text :=
  ["max_height".toList, "max_width".toList, "debounce_ms".toList]

theorem bounded_of_isInfinite {v : Value} (h : v.isInfinite) (default low high : Int) :
    bounded v default low high = .error .infinite := by
  rw [bounded, v.toInteger_eq_infinite_iff.2 h]

theorem bounded_of_not_isInfinite {v : Value} (h : v.isInfinite = false) (default : Int)
    {low high : Int} (hle : low ≤ high) :
    ∃ n, bounded v default low high = .ok n ∧ low ≤ n ∧ n ≤ high := by
  have hclamped (n : Int) : low ≤ max low (min high n) ∧ max low (min high n) ≤ high := by omega
  unfold bounded
  split
  · rename_i n _
    exact ⟨_, rfl, hclamped n⟩
  · rename_i hv
    rw [v.toInteger_eq_infinite_iff, h] at hv
    exact absurd hv Bool.false_ne_true
  · exact ⟨_, rfl, hclamped default⟩

theorem color_ne_nil (v : Value) (key : String) {usual : Text} (h : usual ≠ []) :
    color v key usual ≠ [] := by
  unfold color
  dsimp only
  split
  · exact h
  · rename_i hvoid
    exact Value.display_ne_nil (by simpa using hvoid)

theorem palette_ne_nil (v : Value) : ∀ entry ∈ (palette v).toList, entry.2 ≠ [] := by
  have hcolor (key : String) (usual : Text) (h : usual ≠ []) := color_ne_nil v key h
  simp only [Palette.toList, palette, List.forall_mem_cons]
  exact ⟨hcolor _ _ (by decide), hcolor _ _ (by decide), hcolor _ _ (by decide),
    fun _ h => absurd h List.not_mem_nil⟩

theorem commandText_ne_nil (v : Value) : commandText v ≠ [] := by
  have hor (t : Text) : (if t.isEmpty then "typescript-language-server".toList else t) ≠ [] := by
    split
    · decide
    · rename_i hne
      exact fun h => hne (List.isEmpty_iff.2 h)
  exact hor _

theorem eraseDups_ne_nil {ts : List Text} (h : ts ≠ []) : ts.eraseDups ≠ [] := by
  obtain ⟨t, rest, rfl⟩ := List.exists_cons_of_ne_nil h
  rw [List.eraseDups_cons]
  exact List.cons_ne_nil _ _

/-- All of a configuration but three numbers is read from any settings. -/
theorem ofSettings_eq (settings : Fields) :
    ∃ config : Int → Int → Int → Config,
      (∀ height width delay, 1 ≤ height ∧ height ≤ 200 → 1 ≤ width ∧ width ≤ 120 →
        0 ≤ delay ∧ delay ≤ 5000 → (config height width delay).Checked) ∧
      ofSettings settings = (do
        let height ← bounded (Fields.getD "max_height".toList settings) 15 1 200
        let width ← bounded (Fields.getD "max_width".toList settings) 80 1 120
        let delay ← bounded (Fields.getD "debounce_ms".toList settings) 100 0 5000
        pure (config height width delay)) := by
  refine ⟨_, fun height width delay hheight hwidth hdelay => ?_, rfl⟩
  refine ⟨hheight, hwidth, hdelay, palette_ne_nil _, commandText_ne_nil _, ?_, rfl⟩
  dsimp only
  split
  · decide
  · rename_i hne
    exact eraseDups_ne_nil fun h => hne (List.isEmpty_iff.2 h)

/-- Settings give a configuration unless a number with bounds is infinite. -/
theorem ofSettings_cases (settings : Fields) :
    ((∃ key ∈ boundedKeys, (Fields.getD key settings).isInfinite) ∧
      ofSettings settings = .error .infinite) ∨
    ((∀ key ∈ boundedKeys, (Fields.getD key settings).isInfinite = false) ∧
      ∃ c, ofSettings settings = .ok c ∧ c.Checked) := by
  obtain ⟨config, hchecked, heq⟩ := ofSettings_eq settings
  have hread (key : Text) (default : Int) {low high : Int} (hle : low ≤ high) :
      ((Fields.getD key settings).isInfinite ∧
        bounded (Fields.getD key settings) default low high = .error .infinite) ∨
      ((Fields.getD key settings).isInfinite = false ∧
        ∃ n, bounded (Fields.getD key settings) default low high = .ok n ∧ low ≤ n ∧ n ≤ high) := by
    cases hv : (Fields.getD key settings).isInfinite with
    | true => exact .inl ⟨rfl, bounded_of_isInfinite hv default low high⟩
    | false => exact .inr ⟨rfl, bounded_of_not_isInfinite hv default hle⟩
  rw [heq]
  rcases hread "max_height".toList 15 (by decide : (1 : Int) ≤ 200) with
    ⟨hheight, hfail⟩ | ⟨hheight, height, hok, hheight'⟩
  · rw [hfail]
    exact .inl ⟨⟨_, by decide, hheight⟩, rfl⟩
  rw [hok]
  rcases hread "max_width".toList 80 (by decide : (1 : Int) ≤ 120) with
    ⟨hwidth, hfail⟩ | ⟨hwidth, width, hok, hwidth'⟩
  · rw [hfail]
    exact .inl ⟨⟨_, by decide, hwidth⟩, rfl⟩
  rw [hok]
  rcases hread "debounce_ms".toList 100 (by decide : (0 : Int) ≤ 5000) with
    ⟨hdelay, hfail⟩ | ⟨hdelay, delay, hok, hdelay'⟩
  · rw [hfail]
    exact .inl ⟨⟨_, by decide, hdelay⟩, rfl⟩
  rw [hok]
  refine .inr ⟨?_, _, rfl, hchecked height width delay hheight' hwidth' hdelay'⟩
  simp only [boundedKeys, List.forall_mem_cons]
  exact ⟨hheight, hwidth, hdelay, fun _ h => absurd h List.not_mem_nil⟩

end Config

/-! ## Sessions -/

namespace Settings

/-- What stands under the path that a session loads from. -/
def Session.found (s : Session) : Source := if s.hasPath then s.source else .absent

/-- The settings that loading gives: those of the file over the defaults, and the overrides over
both. -/
def Session.layered (s : Session) (overrides : Fields) : Fields :=
  (s.manager.store.load s.found overrides).data

theorem overridesOf_obj (fs : Fields) : overridesOf (.obj fs) = .ok fs := by
  cases fs <;> rfl

/-- What loading comes to where nothing is nested too deeply. -/
theorem Session.load_eq (n : Nesting) {s : Session} (hconfig : s.hasConfig) {overrides : Fields}
    (hfile : s.found.holdsTooDeep n = false) (hdepth : Value.fieldsDepth overrides ≤ n.laidOver) :
    (s.load n (.obj overrides)).1 =
        ((s.manager.load s.found overrides).1.map fun _ => ()).mapError .config ∧
      (s.load n (.obj overrides)).2.manager = (s.manager.load s.found overrides).2 := by
  unfold Session.load
  rw [overridesOf_obj]
  dsimp only
  rw [← found, if_neg (by simp [hfile]), if_neg (Nat.not_lt.2 hdepth), if_pos hconfig]
  exact ⟨rfl, rfl⟩

/-- Loading fails where something is nested too deeply. -/
theorem Session.load_tooDeep (n : Nesting) {s : Session} {overrides : Fields}
    (h : ¬ (s.found.holdsTooDeep n = false ∧ Value.fieldsDepth overrides ≤ n.laidOver)) :
    (s.load n (.obj overrides)).1 = .error .tooDeep := by
  unfold Session.load
  rw [overridesOf_obj]
  dsimp only
  rw [← found]
  split
  · rfl
  · rename_i hfile
    rw [if_pos (by simpa [hfile] using h)]

/-- Loading gives a configuration if and only if nothing is nested too deeply and no number with
bounds is infinite in the settings.  The configuration then has its numbers within bounds, all its
colors, its command and its servers are there, and it has keys for just the four commands. -/
theorem Session.load_ok_iff (n : Nesting) (s : Session) (hconfig : s.hasConfig)
    (overrides : Fields) :
    let loaded := s.load n (.obj overrides)
    (loaded.1 = .ok () ↔
      (s.found.holdsTooDeep n = false ∧ Value.fieldsDepth overrides ≤ n.laidOver) ∧
        ∀ key ∈ Config.boundedKeys, (Fields.getD key (s.layered overrides)).isInfinite = false) ∧
    (loaded.1 = .ok () → loaded.2.manager.config.Checked ∧
      Config.ofSettings (s.layered overrides) = .ok loaded.2.manager.config) := by
  dsimp only
  by_cases hshallow : s.found.holdsTooDeep n = false ∧ Value.fieldsDepth overrides ≤ n.laidOver
  · obtain ⟨hresult, hmanager⟩ := load_eq n hconfig hshallow.1 hshallow.2
    rw [hresult, hmanager, Manager.load, ← layered]
    rcases Config.ofSettings_cases (s.layered overrides) with
      ⟨⟨key, hkey, hinfinite⟩, hfail⟩ | ⟨hfinite, c, hok, hchecked⟩
    · rw [hfail]
      refine ⟨iff_of_false (fun h => nomatch h) fun h => ?_, fun h => nomatch h⟩
      exact Bool.false_ne_true ((h.2 key hkey).symm.trans hinfinite)
    · rw [hok]
      exact ⟨iff_of_true rfl ⟨hshallow, hfinite⟩, fun _ => ⟨hchecked, rfl⟩⟩
  · rw [load_tooDeep n hshallow]
    exact ⟨iff_of_false (fun h => nomatch h) fun h => hshallow h.1, fun h => nomatch h⟩

/-- A number that is too large, one that is spelled out, one that is not a number, and values of
wrong kinds give a configuration. -/
theorem Session.load_ok_iff_outOfBounds :
    let s : Session := { manager := .fresh, source := .file (Text.encode "[1]".toList) }
    let overrides : Fields := [("max_height".toList, .int 1000), ("max_width".toList, .str "-3".toList),
      ("debounce_ms".toList, .double .nan), ("lsp".toList, .null)]
    let loaded := s.load {} (.obj overrides)
    s.hasConfig ∧ loaded.1 = .ok () ∧ loaded.2.manager.config.Checked ∧
      (loaded.2.manager.config.maxHeight, loaded.2.manager.config.maxWidth,
        loaded.2.manager.config.debounceMs) = (200, 1, 100) := by
  intro s overrides loaded
  obtain ⟨hiff, hchecked⟩ := Session.load_ok_iff {} s rfl overrides
  have hok : loaded.1 = .ok () := hiff.2 (by decide +kernel)
  exact ⟨rfl, hok, (hchecked hok).1, by decide +kernel⟩

/-- A number of lines that is infinite is refused. -/
theorem Session.load_eq_error_infinite :
    let s : Session := { manager := .fresh }
    (s.load {} (.obj [("max_height".toList, .double (.infinite false))])).1 =
      .error (.config .infinite) := rfl

end Settings

end Legible
