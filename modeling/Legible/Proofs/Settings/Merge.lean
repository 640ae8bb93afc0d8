import Legible.Proofs.Value.Fields
import Legible.Settings.Merge

/-!
# What is found in settings that are laid over others

Fields are laid over others name by name (`get?_mergeFields`), and so a path of names leads to a
value in the layers together as it does in the upper one, as long as that one has the names
(`at?_laidOver`).  Where a path leaves the upper layer decides the rest: at a name that an object
there lacks it goes on in the lower one, at any other value it ends (`at?_merge`).
-/

namespace Legible.Settings

/-! ## Names that come once -/

mutual

/-- Whether no object that a path of names leads to has a name twice. -/
def NamedOnce : Value → Prop
  | .obj fs => (Fields.names fs).Nodup ∧ FieldsNamedOnce fs
  | _ => True

/-- Whether the values of all fields have no name twice. -/
def FieldsNamedOnce : List (Text × Value) → Prop
  | [] => True
  | (_, v) :: rest => NamedOnce v ∧ FieldsNamedOnce rest

end

variable {key : Text} {path : List Text} {upper lower : Fields} {v w below : Value}

theorem FieldsNamedOnce.get? (h : FieldsNamedOnce upper) (hv : Fields.get? key upper = some v) :
    NamedOnce v := by
  induction upper with
  | nil => exact nomatch hv
  | cons f rest ih =>
    obtain ⟨k, w⟩ := f
    by_cases hk : k = key
    · rw [Fields.get?, if_pos hk] at hv
      exact Option.some.inj hv ▸ h.1
    · exact ih h.2 (Fields.get?_cons_of_ne hk w rest ▸ hv)

/-! ## Fields laid over others -/

theorem laidOver_of_not_isObject (h : ¬ (v.isObject ∧ w.isObject)) : laidOver v w = v := by
  cases v with
  | obj upper =>
    cases w with
    | obj lower => exact absurd ⟨rfl, rfl⟩ h
    | _ => rfl
  | _ => rfl

/-- Over an object that lacks the name stands what stood below. -/
theorem get?_mergeFields (hupper : (Fields.names upper).Nodup) :
    Fields.get? key (mergeFields upper lower) =
      match Fields.get? key upper with
      | some v => some (laidOver v (Fields.getD key lower))
      | none => Fields.get? key lower := by
  induction upper generalizing lower with
  | nil => rfl
  | cons f rest ih =>
    obtain ⟨k, v⟩ := f
    obtain ⟨hk, hrest⟩ := List.nodup_cons.1 hupper
    rw [mergeFields, ih hrest]
    by_cases heq : k = key
    · subst heq
      rw [Fields.get?_eq_none_iff.2 hk, Fields.get?, if_pos rfl]
      exact Fields.get?_set_self k _ lower
    · rw [Fields.get?_cons_of_ne heq, Fields.getD, Fields.get?_set_of_ne (Ne.symm heq)]
      rfl

theorem field?_laidOver (hupper : (Fields.names upper).Nodup) (key : Text) (below : Value) :
    (laidOver (.obj upper) below).field? key =
      match Fields.get? key upper with
      | some v => some (laidOver v (below.field key))
      | none => below.field? key := by
  by_cases hbelow : below.isObject
  · obtain ⟨lower, rfl⟩ := Value.isObject_iff.1 hbelow
    exact get?_mergeFields hupper
  · have hlaid (u : Value) : laidOver u below = u := laidOver_of_not_isObject fun h => hbelow h.2
    rw [hlaid, Value.field?_of_not_isObject hbelow]
    show Fields.get? key upper = _
    cases Fields.get? key upper with
    | none => rfl
    | some v =>
      have hnull : laidOver v (below.field key) = v := by
        rw [Value.field, Value.field?_of_not_isObject hbelow]
        exact laidOver_of_not_isObject fun h => Bool.false_ne_true h.2
      exact congrArg some hnull.symm

/-- The names of the lower layer stay in their places, and new ones come behind them. -/
theorem names_mergeFields (hupper : (Fields.names upper).Nodup) :
    Fields.names (mergeFields upper lower) =
      Fields.names lower ++ (Fields.names upper).filter (· ∉ Fields.names lower) := by
  induction upper generalizing lower with
  | nil => exact (List.append_nil _).symm
  | cons f rest ih =>
    obtain ⟨k, v⟩ := f
    obtain ⟨hk, hrest⟩ := List.nodup_cons.1 hupper
    rw [mergeFields, ih hrest, Fields.names_cons]
    by_cases hmem : k ∈ Fields.names lower
    · rw [Fields.names_set_of_mem hmem, List.filter_cons_of_neg (by simpa using hmem)]
    · rw [Fields.names_set_of_not_mem hmem, List.filter_cons_of_pos (by simpa using hmem),
        List.append_assoc, List.singleton_append]
      congr 2
      refine List.filter_congr fun name hname => ?_
      have hne : name ≠ k := fun heq => hk (heq ▸ hname)
      simp [hne]

/-! ## Laying the same fields twice -/

theorem mergeFields_eq_self
    (h : ∀ f ∈ upper, ∃ w, Fields.get? f.1 lower = some w ∧ laidOver f.2 w = w) :
    mergeFields upper lower = lower := by
  induction upper with
  | nil => rfl
  | cons f rest ih =>
    obtain ⟨k, v⟩ := f
    obtain ⟨w, hget, hlaid⟩ := h (k, v) List.mem_cons_self
    have hset : Fields.set k (laidOver v (Fields.getD k lower)) lower = lower := by
      rw [Fields.getD, hget, Option.getD_some, hlaid, Fields.set_of_get? hget]
    rw [mergeFields, hset]
    exact ih fun f hf => h f (List.mem_cons_of_mem _ hf)

mutual

theorem laidOver_laidOver : (v : Value) → NamedOnce v → ∀ w, laidOver v (laidOver v w) = laidOver v w
  | .obj upper, h, w => by
    have hfields := laidOver_laidOver_of_mem upper h.2
    have hget {f : Text × Value} (hf : f ∈ upper) : Fields.get? f.1 upper = some f.2 :=
      Fields.get?_of_mem h.1 hf
    by_cases hw : w.isObject
    · obtain ⟨lower, rfl⟩ := Value.isObject_iff.1 hw
      refine congrArg Value.obj (mergeFields_eq_self fun f hf => ?_)
      refine ⟨laidOver f.2 (Fields.getD f.1 lower), ?_, hfields f hf _⟩
      rw [get?_mergeFields h.1, hget hf]
    · rw [laidOver_of_not_isObject fun h => hw h.2]
      refine congrArg Value.obj (mergeFields_eq_self fun f hf => ⟨f.2, hget hf, ?_⟩)
      have hself : laidOver f.2 .null = f.2 :=
        laidOver_of_not_isObject fun h => Bool.false_ne_true h.2
      simpa only [hself] using hfields f hf .null
  | .null, _, _ | .bool _, _, _ | .int _, _, _ | .double _, _, _ | .str _, _, _ | .arr _, _, _ => rfl

theorem laidOver_laidOver_of_mem : (upper : List (Text × Value)) → FieldsNamedOnce upper →
    ∀ f ∈ upper, ∀ w, laidOver f.2 (laidOver f.2 w) = laidOver f.2 w
  | [], _, _, hf, _ => absurd hf List.not_mem_nil
  | (k, v) :: rest, h, f, hf, w => by
    rcases List.mem_cons.1 hf with rfl | hf
    · exact laidOver_laidOver v h.1 w
    · exact laidOver_laidOver_of_mem rest h.2 f hf w

end

/-- Laying the same fields over others a second time changes nothing. -/
theorem merge_merge (hupper : NamedOnce (.obj upper)) :
    merge (merge lower upper) upper = merge lower upper :=
  Value.obj.inj (laidOver_laidOver (.obj upper) hupper (.obj lower))

/-! ## Paths -/

theorem at?_append (path rest : List Text) (v : Value) :
    at? (path ++ rest) v = (at? path v).bind (at? rest) := by
  induction path generalizing v with
  | nil => rfl
  | cons name path ih =>
    rw [List.cons_append, at?, at?, Option.bind_assoc]
    exact Option.bind_congr fun w _ => ih w

theorem getD_at?_null (path : List Text) : (at? path .null).getD .null = .null := by
  cases path <;> rfl

/-- The next step of a path that leads somewhere. -/
theorem at?_cons_eq_some_iff {name : Text} :
    at? (name :: path) v = some w ↔
      ∃ fs u, v = .obj fs ∧ Fields.get? name fs = some u ∧ at? path u = some w := by
  rw [at?, Option.bind_eq_some_iff]
  constructor
  · rintro ⟨u, hu, hw⟩
    cases v with
    | obj fs => exact ⟨fs, u, rfl, hu, hw⟩
    | _ => exact nomatch hu
  · rintro ⟨fs, u, rfl, hu, hw⟩
    exact ⟨u, hu, hw⟩

theorem NamedOnce.at? (h : NamedOnce v) (hw : at? path v = some w) : NamedOnce w := by
  induction path generalizing v with
  | nil => exact Option.some.inj hw ▸ h
  | cons name path ih =>
    obtain ⟨fs, u, rfl, hu, hw⟩ := at?_cons_eq_some_iff.1 hw
    exact ih (h.2.get? hu) hw

/-- Where a path leads to a value in the upper layer, it leads to that value laid over what the
path leads to in the lower one. -/
theorem at?_laidOver (h : NamedOnce v) (hw : at? path v = some w) (below : Value) :
    at? path (laidOver v below) = some (laidOver w ((at? path below).getD .null)) := by
  induction path generalizing v below with
  | nil => exact congrArg (fun v => some (laidOver v below)) (Option.some.inj hw)
  | cons name path ih =>
    obtain ⟨upper, u, rfl, hu, hw⟩ := at?_cons_eq_some_iff.1 hw
    have hfield : (laidOver (.obj upper) below).field? name =
        some (laidOver u (below.field name)) := by
      rw [field?_laidOver h.1, hu]
    have hbelow : (at? path (below.field name)).getD .null =
        (at? (name :: path) below).getD .null := by
      rw [at?, Value.field]
      cases below.field? name with
      | none => exact getD_at?_null path
      | some b => rfl
    rw [at?, hfield, Option.bind_some, ih (h.2.get? hu) hw, hbelow]

/-- Whether a walk along a path comes to an object that lacks the next name. -/
def LacksName (path : List Text) (v : Value) : Prop :=
  ∃ before name rest fs, path = before ++ name :: rest ∧ at? before v = some (.obj fs) ∧
    name ∉ Fields.names fs

/-- Whether a walk along a path comes to a value that is no object before the path ends. -/
def EndsEarly (path : List Text) (v : Value) : Prop :=
  ∃ before name rest w, path = before ++ name :: rest ∧ at? before v = some w ∧
    ¬ w.isObject

/-- A walk along a path comes to its end, to an object that lacks the next name, or to another value
before the end. -/
theorem at?_cases (path : List Text) (v : Value) :
    (∃ w, at? path v = some w) ∨ LacksName path v ∨ EndsEarly path v := by
  induction path generalizing v with
  | nil => exact .inl ⟨v, rfl⟩
  | cons name path ih =>
    cases v with
    | obj fs =>
      cases hget : Fields.get? name fs with
      | none => exact .inr (.inl ⟨[], name, path, fs, rfl, rfl, Fields.get?_eq_none_iff.1 hget⟩)
      | some u =>
        have hstep (rest : List Text) : at? (name :: rest) (.obj fs) = at? rest u := by
          rw [at?, show (Value.obj fs).field? name = some u from hget, Option.bind_some]
        rcases ih u with ⟨w, hw⟩ | ⟨before, next, rest, gs, rfl, hbefore, hnext⟩ |
          ⟨before, next, rest, w, rfl, hbefore, hw⟩
        · exact .inl ⟨w, (hstep path).trans hw⟩
        · exact .inr (.inl ⟨name :: before, next, rest, gs, rfl, (hstep before).trans hbefore, hnext⟩)
        · exact .inr (.inr ⟨name :: before, next, rest, w, rfl, (hstep before).trans hbefore, hw⟩)
    | _ => exact .inr (.inr ⟨[], name, path, _, rfl, rfl, Bool.false_ne_true⟩)

theorem at?_laidOver_of_lacksName (h : NamedOnce v) (hlacks : LacksName path v) (below : Value) :
    at? path (laidOver v below) = at? path below := by
  obtain ⟨before, name, rest, fs, rfl, hbefore, hname⟩ := hlacks
  have hfs : NamedOnce (.obj fs) := h.at? hbefore
  have hfield (b : Value) : (laidOver (.obj fs) b).field? name = b.field? name := by
    rw [field?_laidOver hfs.1, Fields.get?_eq_none_iff.2 hname]
  rw [at?_append, at?_laidOver h hbefore, Option.bind_some, at?, hfield, at?_append]
  cases at? before below <;> rfl

theorem at?_laidOver_of_endsEarly (h : NamedOnce v) (hends : EndsEarly path v) (below : Value) :
    at? path (laidOver v below) = none := by
  obtain ⟨before, name, rest, w, rfl, hbefore, hw⟩ := hends
  have hlaid (b : Value) : laidOver w b = w := laidOver_of_not_isObject fun h => hw h.1
  rw [at?_append, at?_laidOver h hbefore, Option.bind_some, hlaid, at?,
    Value.field?_of_not_isObject hw, Option.bind_none]

/-- What a path leads to in fields that are laid over others: what it leads to in the upper layer,
unless that is an object over an object, in which case the names of both are there; what it leads to
in the lower layer, if an object of the upper one lacks a name of it; and nothing, if it goes on
behind another value of the upper layer.  Every path is of one of these kinds.  Laying the same
fields over others twice is the same as doing it once. -/
theorem at?_merge (base : Fields) {above : Fields} (habove : NamedOnce (.obj above)) :
    (∀ path v, at? path (.obj above) = some v →
      ¬ (v.isObject ∧ ∃ lower, at? path (.obj base) = some (.obj lower)) →
      at? path (.obj (merge base above)) = some v) ∧
    (∀ path upper lower, at? path (.obj above) = some (.obj upper) →
      at? path (.obj base) = some (.obj lower) →
      ∃ fs, at? path (.obj (merge base above)) = some (.obj fs) ∧
        Fields.names fs =
          Fields.names lower ++ (Fields.names upper).filter (· ∉ Fields.names lower)) ∧
    (∀ path, LacksName path (.obj above) →
      at? path (.obj (merge base above)) = at? path (.obj base)) ∧
    (∀ path, EndsEarly path (.obj above) → at? path (.obj (merge base above)) = none) ∧
    (∀ path, (∃ v, at? path (.obj above) = some v) ∨ LacksName path (.obj above) ∨
      EndsEarly path (.obj above)) ∧
    merge (merge base above) above = merge base above := by
  have hmerge : Value.obj (merge base above) = laidOver (.obj above) (.obj base) := rfl
  rw [hmerge]
  refine ⟨fun path v hv hnot => ?_, fun path upper lower hupper hlower => ?_,
    fun path h => at?_laidOver_of_lacksName habove h _,
    fun path h => at?_laidOver_of_endsEarly habove h _, fun path => at?_cases path _,
    merge_merge habove⟩
  · have hlaid : laidOver v ((at? path (.obj base)).getD .null) = v := by
      refine laidOver_of_not_isObject fun ⟨hobject, hbase⟩ => hnot ⟨hobject, ?_⟩
      cases hb : at? path (.obj base) with
      | none =>
        rw [hb] at hbase
        exact absurd hbase Bool.false_ne_true
      | some b =>
        rw [hb] at hbase
        obtain ⟨lower, rfl⟩ := Value.isObject_iff.1 hbase
        exact ⟨lower, rfl⟩
    rw [at?_laidOver habove hv, hlaid]
  · refine ⟨mergeFields upper lower, ?_, names_mergeFields (habove.at? hupper).1⟩
    rw [at?_laidOver habove hupper, hlower]
    rfl

/-- An object takes the place of a number and a number that of an object, while their neighbours
stay. -/
theorem at?_merge_kindsSwapped :
    let base : Fields := [(['a'], .obj [(['x'], .int 1), (['y'], .obj [(['z'], .int 2)])]),
      (['b'], .obj [(['d'], .int 4)])]
    let above : Fields := [(['b'], .int 7),
      (['a'], .obj [(['w'], .null), (['x'], .obj [(['q'], .int 6)])])]
    NamedOnce (.obj above) ∧
      at? [['a'], ['x']] (.obj (merge base above)) = some (.obj [(['q'], .int 6)]) ∧
      (∃ fs, at? [['a']] (.obj (merge base above)) = some (.obj fs) ∧
        Fields.names fs = [['x'], ['y'], ['w']]) ∧
      at? [['a'], ['y'], ['z']] (.obj (merge base above)) = some (.int 2) ∧
      at? [['b'], ['d']] (.obj (merge base above)) = none ∧
      merge (merge base above) above = merge base above := by
  intro base above
  have habove : NamedOnce (.obj above) :=
    ⟨by decide, trivial, ⟨by decide, trivial, ⟨by decide, trivial, trivial⟩, trivial⟩, trivial⟩
  obtain ⟨hthere, hboth, hlacks, hends, -, htwice⟩ := at?_merge base habove
  refine ⟨habove, hthere _ _ rfl ?_, hboth [['a']] _ _ rfl rfl, hlacks _ ?_, hends _ ?_, htwice⟩
  · rintro ⟨-, lower, hlower⟩
    exact nomatch hlower
  · exact ⟨[['a']], ['y'], [['z']], _, rfl, rfl, by decide⟩
  · exact ⟨[['b']], ['d'], [], _, rfl, rfl, Bool.false_ne_true⟩

end Legible.Settings
