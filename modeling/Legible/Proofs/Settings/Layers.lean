import Legible.Proofs.Settings.Aliases
import Legible.Proofs.Settings.Loading
import Legible.Proofs.Settings.Merge
import Legible.Proofs.Text.Utf8
import Legible.Proofs.Value.Names
import Legible.Proofs.Value.Nesting
import Legible.Proofs.Value.RoundTrip

/-!
# Settings without a memory

Settings are loaded again and again while the file under their path comes, changes and goes.  What
they are after a loading depends on the defaults, on what is under the path just then and on the
overrides, and on nothing that was loaded before (`Session.load_layered`).  A document that is
nested too deeply is the one exception: there loading fails, and the settings stay as an earlier
loading left them (`Session.load_brackets_keepsEarlier`).
-/

namespace Legible.Settings

variable {aliases : List (Text × Text)} {a : Text × Text} {key : Text}
  {defaults file given upper lower fs : Fields} {source : Source} {s t : Session}

/-! ## A setting in the layers -/

/-- Where no object is laid over it, a setting is that of the upper layer if it is there. -/
theorem get?_merge_of_not_isObject (hupper : upper.names.Nodup)
    (h : ∀ v, upper.get? key = some v → ¬ v.isObject) :
    (merge lower upper).get? key = (upper.get? key).or (lower.get? key) := by
  rw [merge, get?_mergeFields hupper]
  cases hv : upper.get? key with
  | none => rfl
  | some v => exact congrArg some (laidOver_of_not_isObject fun hboth => h v hv hboth.1)

theorem get?_merge_eq_none (hupper : upper.names.Nodup) (hnone : upper.get? key = none)
    (hnone' : lower.get? key = none) : (merge lower upper).get? key = none := by
  rw [merge, get?_mergeFields hupper, hnone]
  exact hnone'

/-- The settings of a file over the defaults, and the given ones over both. -/
def layers (aliases : List (Text × Text)) (defaults file given : Fields) : Fields :=
  merge (merge defaults (resolveAliases aliases file)) (resolveAliases aliases given)

/-- The values of a setting under its current and its older name, the one that counts most first. -/
def candidates (a : Text × Text) (file given : Fields) : List (Option Value) :=
  [given.get? a.2, given.get? a.1, file.get? a.2, file.get? a.1]

theorem findSome?_id_cons (found : Option Value) (others : List (Option Value)) :
    (found :: others).findSome? id = found.or (others.findSome? id) := by
  cases found <;> rfl

theorem get?_layers_of_older (haliases : KeepsApart aliases) (ha : a ∈ aliases)
    (hdefaults : a.1 ∉ defaults.names) (hfile : file.names.Nodup) (hgiven : given.names.Nodup) :
    (layers aliases defaults file given).get? a.1 = none := by
  refine get?_merge_eq_none (nodup_names_resolveAliases haliases hgiven)
    ((resolves_resolveAliases haliases given).older a ha) ?_
  exact get?_merge_eq_none (nodup_names_resolveAliases haliases hfile)
    ((resolves_resolveAliases haliases file).older a ha) (Fields.get?_eq_none_iff.2 hdefaults)

/-- A setting that has an older name is what was given first of all for it, and its default where
nothing was given. -/
theorem get?_layers_of_current (haliases : KeepsApart aliases) (ha : a ∈ aliases)
    (hfile : file.names.Nodup) (hgiven : given.names.Nodup)
    (h : ∀ v, some v ∈ candidates a file given → ¬ v.isObject) :
    (layers aliases defaults file given).get? a.2 =
      (candidates a file given ++ [defaults.get? a.2]).findSome? id := by
  simp only [candidates, List.mem_cons, List.not_mem_nil, or_false] at h
  have hfileCurrent := (resolves_resolveAliases haliases file).current a ha
  have hgivenCurrent := (resolves_resolveAliases haliases given).current a ha
  have hplain {fs : Fields} {v : Value}
      (hfs : ∀ v, some v = fs.get? a.2 ∨ some v = fs.get? a.1 → ¬ v.isObject)
      (hv : (fs.get? a.2).or (fs.get? a.1) = some v) : ¬ v.isObject := by
    rcases Option.or_eq_some_iff.1 hv with hv | ⟨-, hv⟩
    · exact hfs v (.inl hv.symm)
    · exact hfs v (.inr hv.symm)
  have hplainGiven : ∀ v, (resolveAliases aliases given).get? a.2 = some v → ¬ v.isObject :=
    fun v hv => hplain (fun v hv => h v (hv.elim .inl fun hv => .inr (.inl hv)))
      (hgivenCurrent.symm.trans hv)
  have hplainFile : ∀ v, (resolveAliases aliases file).get? a.2 = some v → ¬ v.isObject :=
    fun v hv => hplain (fun v hv => h v (.inr (.inr hv))) (hfileCurrent.symm.trans hv)
  rw [layers, get?_merge_of_not_isObject (nodup_names_resolveAliases haliases hgiven) hplainGiven,
    get?_merge_of_not_isObject (nodup_names_resolveAliases haliases hfile) hplainFile,
    hgivenCurrent, hfileCurrent]
  simp only [candidates, List.cons_append, List.nil_append, findSome?_id_cons, List.findSome?_nil,
    Option.or_none, Option.or_assoc]

/-! ## What a file holds -/

/-- Whether an object is found under a path. -/
def Source.Holds (source : Source) (fs : Fields) : Prop :=
  ∃ content t, source = .file content ∧ Text.decode? content = some t ∧
    Value.parse? t = some (.obj fs)

theorem read_eq_ok_iff : read source = .ok fs ↔ source.Holds fs := by
  cases source with
  | file content =>
    have hread : read (.file content) = .ok fs ↔
        (Text.decode? content).bind Value.parse? = some (.obj fs) := by
      rw [read, readContent]
      split
      · rename_i found hfound
        rw [hfound]
        exact ⟨fun h => Except.ok.inj h ▸ rfl, fun h => Value.obj.inj (Option.some.inj h) ▸ rfl⟩
      · rename_i v hv hfound
        rw [hfound]
        exact iff_of_false (fun h => nomatch h) fun h => hv fs (Option.some.inj h)
      · rename_i hfound
        rw [hfound]
        exact iff_of_false (fun h => nomatch h) fun h => nomatch h
    rw [hread, Option.bind_eq_some_iff]
    constructor
    · rintro ⟨t, hdecode, hparse⟩
      exact ⟨content, t, rfl, hdecode, hparse⟩
    · rintro ⟨_, t, heq, hdecode, hparse⟩
      exact ⟨t, Source.file.inj heq ▸ hdecode, hparse⟩
  | _ => exact iff_of_false (fun h => nomatch h) fun ⟨_, _, h, _⟩ => nomatch h

theorem Source.Holds.nodup (h : source.Holds fs) : fs.names.Nodup := by
  obtain ⟨_, _, -, -, hparse⟩ := h
  exact Value.nodup_names_of_parse? hparse

theorem Source.Holds.eq (h : source.Holds file) (h' : source.Holds fs) : file = fs :=
  Except.ok.inj ((read_eq_ok_iff.2 h).symm.trans (read_eq_ok_iff.2 h'))

theorem Source.holds_print (h : (Value.obj fs).IsPlain) :
    (Source.file (Text.encode (Value.print (.obj fs)))).Holds fs :=
  ⟨_, _, rfl, Text.decode?_encode _, Value.parse?_print h⟩

theorem Source.not_holds_brackets (n : Nat) (fs : Fields) :
    ¬ (Source.file (Text.encode (Value.brackets n))).Holds fs := by
  rintro ⟨content, t, heq, hdecode, hparse⟩
  rw [← Source.file.inj heq, Text.decode?_encode] at hdecode
  rw [← Option.some.inj hdecode, Value.parse?_brackets] at hparse
  exact nomatch hparse

theorem Store.found_of_holds (h : source.Holds fs) : Store.found source = (fs, none) := by
  have hread : read source = .ok fs := read_eq_ok_iff.2 h
  cases source with
  | absent => exact nomatch hread
  | _ => simp only [Store.found, hread]

/-- The settings of a file are those of the object that it holds; without one there are none, and
that is an error unless there is no file. -/
theorem Store.found_cases (source : Source) :
    (∃ fs, source.Holds fs ∧ Store.found source = (fs, none)) ∨
    (∀ fs, ¬ source.Holds fs) ∧ (Store.found source).1 = [] ∧
      ((Store.found source).2 = none ↔ source = .absent) := by
  cases hread : read source with
  | ok fs =>
    have hholds : source.Holds fs := read_eq_ok_iff.1 hread
    exact .inl ⟨fs, hholds, found_of_holds hholds⟩
  | error e =>
    refine .inr ⟨fun fs h => ?_, ?_⟩
    · rw [read_eq_ok_iff.2 h] at hread
      exact nomatch hread
    · cases source with
      | absent => exact ⟨rfl, iff_of_true rfl rfl⟩
      | _ =>
        simp only [Store.found, hread]
        exact ⟨trivial, iff_of_false (fun h => nomatch h) fun h => nomatch h⟩

theorem Store.load_data (store : Store) (source : Source) (given : Fields) :
    (store.load source given).data =
      layers store.aliases store.defaults (Store.found source).1 given := by
  cases given with
  | nil =>
    rw [layers, resolveAliases_nil]
    rfl
  | cons f fs => rfl

/-! ## Sessions -/

/-- What happens to settings and to what stands under their path. -/
inductive Act
  | write (content : Bytes)
  | makeFolder
  | remove
  /-- Loading, with overrides if there are any. -/
  | load (overrides : Option Fields)

/-- Whether an act changes what stands under the path. -/
def Act.isChange : Act → Bool
  | load _ => false
  | _ => true

/-- What stands under the path after an act. -/
def Act.leaves : Act → Source → Source
  | write _, .folder => .folder
  | write content, _ => .file content
  | makeFolder, .absent => .folder
  | remove, .file _ => .absent
  | _, source => source

namespace Session

/-- Settings without a configuration that were not loaded yet; nothing stands under their path. -/
def ofStore (defaults : Fields) (aliases : List (Text × Text)) (hasPath : Bool) : Session where
  manager := { store := { defaults, aliases }, config := {} }
  hasConfig := false
  hasPath := hasPath

/-- What an act does; a path that cannot be changed so stays as it is. -/
def act (n : Nesting) (s : Session) : Act → Session
  | .write content => (s.write content).toOption.getD s
  | .makeFolder => s.makeFolder.toOption.getD s
  | .remove => s.remove.toOption.getD s
  | .load overrides => (s.load n (overrides.elim .null .obj)).2

/-- What some acts do, one after the other. -/
def run (n : Nesting) (s : Session) (acts : List Act) : Session := acts.foldl (act n) s

/-- What no act changes. -/
structure Keeps (s t : Session) : Prop where
  defaults : t.manager.store.defaults = s.manager.store.defaults
  aliases : t.manager.store.aliases = s.manager.store.aliases
  hasConfig : t.hasConfig = s.hasConfig
  hasPath : t.hasPath = s.hasPath

theorem Keeps.refl (s : Session) : Keeps s s := ⟨rfl, rfl, rfl, rfl⟩

theorem Keeps.trans {u : Session} (h : Keeps s t) (h' : Keeps t u) : Keeps s u :=
  ⟨h'.1.trans h.1, h'.2.trans h.2, h'.3.trans h.3, h'.4.trans h.4⟩

/-! ### One act -/

theorem load_keeps (n : Nesting) (s : Session) (overrides : Value) :
    Keeps s (s.load n overrides).2 ∧ (s.load n overrides).2.source = s.source := by
  unfold load
  dsimp only
  generalize (if s.hasPath = true then s.source else Source.absent) = source
  split
  · exact ⟨⟨rfl, rfl, rfl, rfl⟩, rfl⟩
  · split
    · exact ⟨⟨rfl, rfl, rfl, rfl⟩, rfl⟩
    · rename_i fs _
      split
      · exact ⟨⟨rfl, rfl, rfl, rfl⟩, rfl⟩
      · split
        · rw [Manager.load]
          cases Config.ofSettings (s.manager.store.load source fs).data <;>
            exact ⟨⟨rfl, rfl, rfl, rfl⟩, rfl⟩
        · exact ⟨⟨rfl, rfl, rfl, rfl⟩, rfl⟩

theorem act_of_isChange (n : Nesting) (s : Session) {a : Act} (ha : a.isChange) :
    s.act n a = { s with source := a.leaves s.source } := by
  obtain ⟨manager, hasConfig, hasPath, source, unnamed, warnings⟩ := s
  cases a with
  | load overrides => exact absurd ha Bool.false_ne_true
  | _ => cases source <;> rfl

theorem act_source (n : Nesting) (s : Session) (a : Act) :
    (s.act n a).source = a.leaves s.source := by
  cases a with
  | load overrides => exact (load_keeps n s _).2
  | _ => rw [act_of_isChange n s rfl]

theorem act_shown (n : Nesting) (s : Session) {a : Act} (ha : a.isChange) :
    (s.act n a).shown = s.shown := by
  rw [act_of_isChange n s ha]
  rfl

theorem act_keeps (n : Nesting) (s : Session) (a : Act) : Keeps s (s.act n a) := by
  cases a with
  | load overrides => exact (load_keeps n s _).1
  | _ =>
    rw [act_of_isChange n s rfl]
    exact ⟨rfl, rfl, rfl, rfl⟩

/-! ### Many acts -/

theorem run_keeps (n : Nesting) (s : Session) (acts : List Act) : Keeps s (s.run n acts) := by
  induction acts generalizing s with
  | nil => exact Keeps.refl s
  | cons a acts ih => exact (act_keeps n s a).trans (ih (s.act n a))

/-- Loading leaves no traces under the path. -/
theorem run_source (n : Nesting) (s : Session) (acts : List Act) :
    (s.run n acts).source = acts.foldl (fun source a => a.leaves source) s.source := by
  induction acts generalizing s with
  | nil => rfl
  | cons a acts ih => rw [run, List.foldl_cons, List.foldl_cons, ← act_source n s a, ← ih, run]

theorem found_run (n : Nesting) (s : Session) (acts : List Act) :
    (s.run n acts).found =
      if s.hasPath then acts.foldl (fun source a => a.leaves source) s.source else .absent := by
  rw [found, (run_keeps n s acts).hasPath, run_source]

/-! ### Loading -/

theorem overridesOf_elim (overrides : Option Fields) :
    overridesOf (overrides.elim .null .obj) = .ok (overrides.getD []) := by
  cases overrides with
  | none => rfl
  | some fs => exact overridesOf_obj fs

/-- All names of an object are texts. -/
theorem unnamedPairs_elim (overrides : Option Fields) :
    Value.unnamedPairs (overrides.elim .null .obj) = [] := by
  cases overrides with
  | none => rfl
  | some fs =>
    have hparts : ((Value.obj fs).parts?.getD []).filterMap Value.parts? =
        fs.names.map fun name => name.map fun c => .str [c] := by
      show ((Fields.names fs).map Value.str).filterMap Value.parts? = _
      rw [List.filterMap_map]
      exact congrFun (List.filterMap_eq_map (f := List.map fun c => Value.str [c])) _
    rw [Option.elim, Value.unnamedPairs, hparts]
    generalize fs.names = names
    induction names with
    | nil => rfl
    | cons name names ih =>
      rw [List.map_cons, List.foldl_cons]
      match name with
      | [] | [_] | [_, _] | _ :: _ :: _ :: _ => exact ih

/-- Settings without a configuration are loaded unless something is nested too deeply. -/
theorem load_ofStore (n : Nesting) (hconfig : s.hasConfig = false) (overrides : Option Fields) :
    let loaded := s.load n (overrides.elim .null .obj)
    (loaded.1 = .ok () ↔
      s.found.holdsTooDeep n = false ∧ Value.fieldsDepth (overrides.getD []) ≤ n.laidOver) ∧
    (loaded.1 = .ok () → loaded.2.unnamed = [] ∧
      loaded.2.manager.store = s.manager.store.load s.found (overrides.getD [])) ∧
    (loaded.1 ≠ .ok () → loaded.1 = .error .tooDeep ∧ loaded.2.shown = s.shown) := by
  have herror : (.error .tooDeep : Except LoadError Unit) ≠ .ok () := by simp
  unfold load
  rw [overridesOf_elim, unnamedPairs_elim]
  dsimp only
  rw [← found, hconfig]
  split
  · rename_i hfile
    exact ⟨iff_of_false herror fun h => Bool.false_ne_true (h.1.symm.trans hfile),
      fun h => absurd h herror, fun _ => ⟨rfl, rfl⟩⟩
  · rename_i hfile
    split
    · rename_i hdepth
      exact ⟨iff_of_false herror fun h => Nat.not_lt.2 h.2 hdepth,
        fun h => absurd h herror, fun _ => ⟨rfl, rfl⟩⟩
    · rename_i hdepth
      exact ⟨iff_of_true rfl ⟨Bool.eq_false_iff.2 hfile, Nat.not_lt.1 hdepth⟩,
        fun _ => ⟨rfl, rfl⟩, fun h => absurd rfl h⟩

/-- Whatever was loaded before: unless something is nested too deeply, loading gives the defaults
with the object of the file over them, if there is one, and the overrides over both.  The last
error is none just where there is no file or it holds an object.  No older name is left, and a
setting that has one is what was given first of all for it: by the overrides before the file, by
both under the current name before the older one, and by the defaults last.  Where something is
nested too deeply loading fails, and the settings stay as they were. -/
theorem load_layered (n : Nesting) {defaults : Fields} {aliases : List (Text × Text)}
    (haliases : KeepsApart aliases) (hdefaults : ∀ a ∈ aliases, a.1 ∉ defaults.names)
    (hasPath : Bool) (acts : List Act) (overrides : Option Fields)
    (hgiven : (overrides.getD []).names.Nodup) :
    let start := ofStore defaults aliases hasPath
    let s := start.run n acts
    let given := overrides.getD []
    let loaded := s.load n (overrides.elim .null .obj)
    s.found =
      (if hasPath then acts.foldl (fun source a => a.leaves source) .absent else .absent) ∧
    (loaded.1 = .ok () ↔
      s.found.holdsTooDeep n = false ∧ Value.fieldsDepth given ≤ n.laidOver) ∧
    (loaded.1 = .ok () →
      ∃ file data : Fields, (s.found.Holds file ∨ file = [] ∧ ∀ fs, ¬ s.found.Holds fs) ∧
        loaded.2.shown = .obj data ∧
        data = merge (merge defaults (resolveAliases aliases file)) (resolveAliases aliases given) ∧
        (loaded.2.manager.store.lastError = none ↔ s.found = .absent ∨ s.found.Holds file) ∧
        (∀ a ∈ aliases, data.get? a.1 = none) ∧
        ∀ a ∈ aliases, (∀ v, some v ∈ candidates a file given → ¬ v.isObject) →
          data.get? a.2 = (candidates a file given ++ [defaults.get? a.2]).findSome? id) ∧
    (loaded.1 ≠ .ok () → loaded.1 = .error .tooDeep ∧ loaded.2.shown = s.shown) := by
  intro start s given loaded
  have hkeeps : Keeps start s := run_keeps n start acts
  obtain ⟨hok, hloaded, hfailed⟩ := load_ofStore n hkeeps.hasConfig overrides
  refine ⟨found_run n start acts, hok, fun h => ?_, hfailed⟩
  obtain ⟨hunnamed, hstore⟩ := hloaded h
  have hdata : loaded.2.manager.store.data =
      layers aliases defaults (Store.found s.found).1 given := by
    rw [hstore, Store.load_data, hkeeps.aliases, hkeeps.defaults]
    rfl
  have herror : loaded.2.manager.store.lastError = (Store.found s.found).2 := by
    rw [hstore]
    rfl
  have hshown : loaded.2.shown = .obj (layers aliases defaults (Store.found s.found).1 given) := by
    rw [shown, hdata, hunnamed, List.append_nil]
  rw [herror, hshown]
  have hlayers {file : Fields} (hfile : file.names.Nodup) :
      (∀ a ∈ aliases, (layers aliases defaults file given).get? a.1 = none) ∧
      ∀ a ∈ aliases, (∀ v, some v ∈ candidates a file given → ¬ v.isObject) →
        (layers aliases defaults file given).get? a.2 =
          (candidates a file given ++ [defaults.get? a.2]).findSome? id :=
    ⟨fun a ha => get?_layers_of_older haliases ha (hdefaults a ha) hfile hgiven,
      fun a ha => get?_layers_of_current haliases ha hfile hgiven⟩
  rcases Store.found_cases s.found with ⟨file, hholds, hfound⟩ | ⟨hnone, hempty, habsent⟩
  · rw [hfound]
    exact ⟨file, _, .inl hholds, rfl, rfl, iff_of_true rfl (.inr hholds), hlayers hholds.nodup⟩
  · rw [hempty]
    refine ⟨[], _, .inr ⟨rfl, hnone⟩, rfl, rfl, ?_, hlayers List.nodup_nil⟩
    exact habsent.trans (or_iff_left (hnone [])).symm

/-- What two loadings saw before is gone, and an older name of the overrides counts more than the
current one of the file. -/
theorem load_layered_thirdLoading :
    let defaults : Fields := [(['c'], .bool false), (['d'], .obj [(['h'], .int 1)])]
    let aliases := [(['a'], ['c']), (['b'], ['d'])]
    let file : Fields := [(['b'], .int 3), (['c'], .int 2)]
    let s := (ofStore defaults aliases true).run {} [
      .write (Text.encode (Value.print (.obj [(['x'], .int 1)]))), .load none,
      .write (Text.encode ['[']), .load (some [(['b'], .int 7)]),
      .write (Text.encode (Value.print (.obj file)))]
    let loaded := s.load {} (.obj [(['a'], .int 4)])
    KeepsApart aliases ∧ s.found.Holds file ∧ loaded.1 = .ok () ∧
      loaded.2.shown = .obj [(['c'], .int 4), (['d'], .int 3)] ∧
      loaded.2.manager.store.lastError = none := by
  intro defaults aliases file s loaded
  have haliases : KeepsApart aliases := ⟨by decide, by decide, by decide⟩
  have hdefaults : ∀ a ∈ aliases, a.1 ∉ defaults.names := by decide
  have hgiven : (Fields.names [(['a'], .int 4)]).Nodup := by decide
  obtain ⟨hfound, hok, hloaded, -⟩ :=
    load_layered {} haliases hdefaults true _ (some [(['a'], .int 4)]) hgiven
  have hsource : s.found = .file (Text.encode (Value.print (.obj file))) := hfound
  have hplain : (Value.obj file).IsPlain := by
    simp only [Value.IsPlain, Value.FieldsPlain, file]
    decide +kernel
  have hholds : s.found.Holds file := hsource ▸ Source.holds_print hplain
  have hok : loaded.1 = .ok () := hok.2 ⟨by rw [hsource]; decide +kernel, by decide⟩
  obtain ⟨held, data, hheld, hshown, hdata, herror, -⟩ := hloaded hok
  obtain rfl : held = file := hheld.elim (Source.Holds.eq · hholds) fun h => absurd hholds (h.2 _)
  exact ⟨haliases, hholds, hok, hshown.trans (congrArg Value.obj hdata), herror.2 (.inr hholds)⟩

/-- A file with more opening brackets than are read holds no object, and yet the settings are not
the defaults after it was loaded: those of the file before it stay, and there is no last error. -/
theorem load_brackets_keepsEarlier :
    let written := (ofStore [(['a'], .int 1)] [] true).act {}
      (.write (Text.encode (Value.print (.obj [(['a'], .int 2)]))))
    let s := written.run {} [.load none, .write (Text.encode (Value.brackets 5000))]
    let loaded := s.load {} .null
    s.found ≠ .absent ∧ (∀ fs, ¬ s.found.Holds fs) ∧ loaded.1 = .error .tooDeep ∧
      loaded.2.shown = .obj [(['a'], .int 2)] ∧ loaded.2.manager.store.lastError = none := by
  intro written s loaded
  have hsource : s.found = .file (Text.encode (Value.brackets 5000)) := found_run {} _ _
  have htooDeep : s.found.holdsTooDeep {} = true := by
    rw [hsource, Source.holdsTooDeep, Source.isTooDeep, Text.decode?_encode, Option.any_some,
      Value.isTooDeep_brackets (by decide), Bool.true_or]
  have hload : loaded = (.error .tooDeep, s.keep s.manager.store.forgetError) := if_pos htooDeep
  have hshown : s.shown = .obj [(['a'], .int 2)] := by
    have hplain : (Value.obj [(['a'], .int 2)]).IsPlain := by
      simp only [Value.IsPlain, Value.FieldsPlain]
      decide +kernel
    obtain ⟨hok, hloaded, -⟩ := load_ofStore {} (s := written) rfl none
    obtain ⟨hunnamed, hstore⟩ := hloaded (hok.2 ⟨by decide +kernel, by decide⟩)
    have hdata : (written.act {} (.load none)).manager.store.data = [(['a'], .int 2)] := by
      rw [act, hstore, Store.load_data, show written.found = .file _ from rfl,
        Store.found_of_holds (Source.holds_print hplain)]
      rfl
    have hchange : (Act.write (Text.encode (Value.brackets 5000))).isChange := rfl
    calc s.shown
      _ = (written.act {} (.load none)).shown := act_shown {} _ hchange
      _ = .obj [(['a'], .int 2)] := by rw [shown, hdata, act, hunnamed, List.append_nil]
  rw [hload, hsource]
  exact ⟨nofun, Source.not_holds_brackets 5000, rfl, hshown, rfl⟩

end Session

end Legible.Settings
