import Legible.Proofs.Value.Fields
import Legible.Value.Source
import Mathlib.Data.List.DropRight

/-!
# Names in documents

An object that is read from a document has every name once: a reader gives a name that comes again
its last value, in the place where it came first (`nodup_names_of_parse?`).  The names are those
that the fields have as they stand in the document (`mem_names_iff_mem_sources`).
-/

namespace Legible.Value

variable {limit depth : Option Nat} {fuel : Nat} {t rest : Text} {fs : Fields} {v : Value}

theorem bind_eq_ok {ε α β : Type} {x : Except ε α} {f : α → Except ε β} {b : β}
    (h : x >>= f = .ok b) : ∃ a, x = .ok a ∧ f a = .ok b := by
  cases x with
  | error e => exact nomatch h
  | ok a => exact ⟨a, rfl, h⟩

theorem eq_of_orMalformed_eq_ok {α : Type} {found : Option α} {a : α}
    (h : orMalformed found = .ok a) : found = some a := by
  cases found with
  | none => exact nomatch h
  | some b => exact congrArg some (Except.ok.inj h)

theorem nodup_names_of_readFields {found : Fields} (hfound : found.names.Nodup)
    (h : readFields limit fuel depth found t = .ok (fs, rest)) : fs.names.Nodup := by
  induction fuel generalizing found t with
  | zero => exact nomatch h
  | succ fuel ih =>
    rw [readFields] at h
    split at h
    · obtain ⟨⟨key, afterKey⟩, -, h⟩ := bind_eq_ok h
      dsimp only at h
      split at h
      · obtain ⟨⟨v, afterValue⟩, -, h⟩ := bind_eq_ok h
        have hset := Fields.nodup_names_set hfound key v
        dsimp only at h
        split at h
        · exact ih hset h
        · exact (Prod.mk.inj (Except.ok.inj h)).1 ▸ hset
        · exact nomatch h
      · exact nomatch h
    · exact nomatch h

theorem not_isObject_of_readName (h : readName t = some (v, rest)) : ¬ v.isObject := by
  obtain ⟨⟨name, w⟩, hmem, hafter⟩ := List.exists_of_findSome?_eq_some h
  obtain ⟨after, -, heq⟩ := Option.map_eq_some_iff.1 hafter
  obtain ⟨rfl, -⟩ := Prod.mk.inj heq
  simp only [List.mem_cons, Prod.mk.injEq, List.not_mem_nil, or_false] at hmem
  rcases hmem with ⟨-, rfl⟩ | ⟨-, rfl⟩ | ⟨-, rfl⟩ | ⟨-, rfl⟩ | ⟨-, rfl⟩ | ⟨-, rfl⟩ <;>
    exact Bool.false_ne_true

theorem not_isObject_of_readNumber {negative : Bool}
    (h : readNumber limit negative t = some (v, rest)) : ¬ v.isObject := by
  obtain ⟨whole, -, h⟩ := Option.bind_eq_some_iff.1 h
  dsimp only at h
  split at h
  · split at h
    · exact nomatch h
    · exact (Prod.mk.inj (Option.some.inj h)).1 ▸ Bool.false_ne_true
  · exact (Prod.mk.inj (Option.some.inj h)).1 ▸ Bool.false_ne_true

/-- An object is read as the fields behind its brace, if there are any. -/
theorem fields_of_readValue (h : readValue limit fuel depth t = .ok (.obj fs, rest)) :
    ∃ body, t = '\x7b' :: body ∧
      ((∃ more, skipSpace body = '\x7d' :: more) ∧ fs = [] ∨
        ∃ n inside, fuel = n + 1 ∧ deeper depth = .ok inside ∧
          readFields limit n inside [] (skipSpace body) = .ok (fs, rest)) := by
  cases fuel with
  | zero => cases h
  | succ fuel =>
    unfold readValue at h
    split at h
    · cases h
    · obtain ⟨read, -, h⟩ := bind_eq_ok h
      cases h
    · obtain ⟨inside, -, h⟩ := bind_eq_ok h
      dsimp only at h
      split at h
      · cases h
      · obtain ⟨items, -, h⟩ := bind_eq_ok h
        cases h
    · rename_i body heq
      obtain rfl := Nat.succ.inj heq
      obtain ⟨inside, hinside, h⟩ := bind_eq_ok h
      refine ⟨body, rfl, ?_⟩
      dsimp only at h
      split at h
      · rename_i more hclosed
        exact .inl ⟨⟨more, hclosed⟩, (Value.obj.inj (Prod.mk.inj (Except.ok.inj h)).1).symm⟩
      · obtain ⟨⟨found, after⟩, hread, h⟩ := bind_eq_ok h
        obtain ⟨hfound, rfl⟩ := Prod.mk.inj (Except.ok.inj h)
        obtain rfl := Value.obj.inj hfound
        exact .inr ⟨_, inside, rfl, hinside, hread⟩
    · split at h
      · rename_i found hname
        exact absurd rfl (not_isObject_of_readName (Except.ok.inj h ▸ hname))
      · have hnumber := eq_of_orMalformed_eq_ok h
        split at hnumber <;> exact absurd rfl (not_isObject_of_readNumber hnumber)

theorem readValue_of_parse? (h : parse? t = some v) :
    ∃ rest, readValue (some Number.digitLimit) (2 * t.length + 1) none (skipSpace t) =
      .ok (v, rest) := by
  have hwithin : parseWithin {} t = .ok v := by
    unfold parse? at h
    cases hread : parseWithin {} t with
    | error e =>
      rw [hread] at h
      exact nomatch h
    | ok v =>
      rw [hread] at h
      exact congrArg Except.ok (Option.some.inj h)
  obtain ⟨⟨w, rest⟩, hread, h⟩ := bind_eq_ok hwithin
  dsimp only at h
  split at h
  · exact ⟨rest, Except.ok.inj h ▸ hread⟩
  · exact nomatch h

/-- An object that is read from a document has every name once. -/
theorem nodup_names_of_parse? (h : parse? t = some (.obj fs)) : fs.names.Nodup := by
  obtain ⟨rest, hread⟩ := readValue_of_parse? h
  obtain ⟨body, -, ⟨-, rfl⟩ | ⟨n, inside, -, -, hfields⟩⟩ := fields_of_readValue hread
  · exact List.nodup_nil
  · have hempty : (Fields.names []).Nodup := List.nodup_nil
    exact nodup_names_of_readFields hempty hfields

/-! ## The fields as they stand in a document -/

theorem skipSpace_skipSpace (t : Text) : skipSpace (skipSpace t) = skipSpace t :=
  List.dropWhile_idempotent isSpace t

theorem fieldSources_skipSpace (fuel : Nat) (t : Text) :
    fieldSources fuel (skipSpace t) = fieldSources fuel t := by
  cases fuel with
  | zero => rfl
  | succ fuel => rw [fieldSources, fieldSources, skipSpace_skipSpace]

theorem mem_names_of_readFields {found : Fields}
    (h : readFields (some Number.digitLimit) fuel none found t = .ok (fs, rest)) (key : Text) :
    key ∈ fs.names ↔ key ∈ found.names ∨ ∃ f ∈ fieldSources fuel t, f.name = key := by
  induction fuel generalizing found t with
  | zero => exact nomatch h
  | succ fuel ih =>
    rw [readFields] at h
    split at h
    · rename_i quoted hquoted
      obtain ⟨⟨name, afterName⟩, hname, h⟩ := bind_eq_ok h
      dsimp only at h
      split at h
      · rename_i told htold
        obtain ⟨⟨v, behind⟩, hvalue, h⟩ := bind_eq_ok h
        have hcut : cutValue? fuel (skipSpace told) =
            some (upTo behind (skipSpace told), behind) := by
          rw [cutValue?, hvalue]
          rfl
        -- both readers take one field and go on behind its comma
        have hset := Fields.mem_names_set key name v found
        obtain ⟨f, hf⟩ : ∃ f : FieldSource, f =
          ⟨name, hasLoneUnit quoted.length (upTo afterName quoted),
            upTo behind (skipSpace told)⟩ := ⟨_, rfl⟩
        have hname := eq_of_orMalformed_eq_ok hname
        dsimp only at h
        split at h
        · rename_i more hcomma
          have hsources : fieldSources (fuel + 1) t = f :: fieldSources fuel more := by
            simp only [fieldSources, hquoted, hname, htold, hcut, hcomma, hf]
          rw [ih h, hset, hsources]
          simp [hf, or_assoc, or_left_comm, eq_comm]
        · rename_i more hbrace
          have hsources : fieldSources (fuel + 1) t = [f] := by
            simp only [fieldSources, hquoted, hname, htold, hcut, hbrace, hf]
            rfl
          rw [← (Prod.mk.inj (Except.ok.inj h)).1, hset, hsources]
          simp [hf, or_comm, eq_comm]
        · cases h
      · cases h
    · cases h

/-- The names of an object that is read are those of its fields as they stand in the document. -/
theorem mem_names_iff_mem_sources (h : parse? t = some (.obj fs)) (key : Text) :
    key ∈ fs.names ↔ ∃ f ∈ sources t, f.name = key := by
  obtain ⟨rest, hread⟩ := readValue_of_parse? h
  obtain ⟨body, hbody, ⟨⟨more, hclosed⟩, rfl⟩ | ⟨n, inside, hn, hinside, hfields⟩⟩ :=
    fields_of_readValue hread
  · have hnone : sources t = [] := by
      rw [sources, hbody]
      show fieldSources (2 * t.length) body = []
      rw [← fieldSources_skipSpace, hclosed]
      cases t <;> rfl
    simp [hnone, Fields.names]
  · obtain rfl := Except.ok.inj hinside
    obtain rfl := Nat.succ.inj hn
    have hsources : sources t = fieldSources (2 * t.length) (skipSpace body) := by
      rw [sources, hbody]
      exact (fieldSources_skipSpace _ _).symm
    rw [hsources, mem_names_of_readFields hfields key]
    simp [Fields.names]

end Legible.Value
