import Legible.Proofs.Value.Fields
import Legible.Settings.Merge

/-!
# Older names of settings

Where older names are kept apart from the current ones, they are gone once they are resolved; a
current name has the value that was given under it, or else the one under its older name, and
nothing else changes (`resolves_resolveAliases`).
-/

namespace Legible.Settings

/-- Whether every older name has one current name and every current name one older name, and none
is both. -/
structure KeepsApart (aliases : List (Text × Text)) : Prop where
  older : (aliases.map Prod.fst).Nodup
  current : (aliases.map Prod.snd).Nodup
  apart : ∀ a ∈ aliases, ∀ b ∈ aliases, a.2 ≠ b.1

/-- What fields come to when their older names are resolved. -/
structure Resolves (aliases : List (Text × Text)) (fs resolved : Fields) : Prop where
  older : ∀ a ∈ aliases, resolved.get? a.1 = none
  current : ∀ a ∈ aliases, resolved.get? a.2 = (fs.get? a.2).or (fs.get? a.1)
  other : ∀ key, key ∉ aliases.map Prod.fst → key ∉ aliases.map Prod.snd →
    resolved.get? key = fs.get? key

variable {aliases : List (Text × Text)} {a : Text × Text} {fs : Fields} {old current key : Text}

theorem KeepsApart.tail (h : KeepsApart (a :: aliases)) : KeepsApart aliases where
  older := (List.nodup_cons.1 h.older).2
  current := (List.nodup_cons.1 h.current).2
  apart b hb c hc := h.apart b (List.mem_cons_of_mem _ hb) c (List.mem_cons_of_mem _ hc)

/-! ## One older name -/

theorem resolveAliases_cons (a : Text × Text) (aliases : List (Text × Text)) (fs : Fields) :
    resolveAliases (a :: aliases) fs = resolveAliases aliases (resolveAliases [a] fs) := rfl

/-- An older name is not there, it gives way to its current one, or it gives its value to that. -/
theorem resolveAliases_singleton (hne : current ≠ old) (fs : Fields) :
    (fs.get? old = none ∧ resolveAliases [(old, current)] fs = fs) ∨
    ((∃ v, fs.get? current = some v) ∧ resolveAliases [(old, current)] fs = fs.erase old) ∨
    ∃ v, fs.get? old = some v ∧ fs.get? current = none ∧
      resolveAliases [(old, current)] fs = (fs.erase old).set current v := by
  have hcurrent : (fs.erase old).get? current = fs.get? current := Fields.get?_erase_of_ne hne fs
  simp only [resolveAliases, List.foldl_cons, List.foldl_nil, Fields.has, hcurrent]
  cases fs.get? old with
  | none => exact .inl ⟨rfl, rfl⟩
  | some v =>
    cases fs.get? current with
    | none => exact .inr (.inr ⟨v, rfl, rfl, rfl⟩)
    | some w => exact .inr (.inl ⟨⟨w, rfl⟩, rfl⟩)

theorem resolves_singleton (hne : current ≠ old) (fs : Fields) :
    Resolves [(old, current)] fs (resolveAliases [(old, current)] fs) := by
  have hsingle {resolved : Fields} (hold : resolved.get? old = none)
      (hcurrent : resolved.get? current = (fs.get? current).or (fs.get? old))
      (hother : ∀ key, key ≠ old → key ≠ current → resolved.get? key = fs.get? key) :
      Resolves [(old, current)] fs resolved :=
    ⟨List.forall_mem_singleton.2 hold, List.forall_mem_singleton.2 hcurrent, fun key h h' =>
      hother key (fun heq => h (List.mem_singleton.2 heq)) fun heq => h' (List.mem_singleton.2 heq)⟩
  rcases resolveAliases_singleton hne fs with
    ⟨hnone, heq⟩ | ⟨⟨v, hv⟩, heq⟩ | ⟨v, hv, hnone, heq⟩ <;> rw [heq]
  · exact hsingle hnone (by rw [hnone, Option.or_none]) fun _ _ _ => rfl
  · refine hsingle (Fields.get?_erase_self old fs) ?_ fun key hold _ =>
      Fields.get?_erase_of_ne hold fs
    rw [Fields.get?_erase_of_ne hne, hv, Option.some_or]
  · refine hsingle ?_ ?_ fun key hold hcurrent => ?_
    · rw [Fields.get?_set_of_ne hne.symm, Fields.get?_erase_self]
    · rw [Fields.get?_set_self, hnone, hv, Option.none_or]
    · rw [Fields.get?_set_of_ne hcurrent, Fields.get?_erase_of_ne hold]

/-! ## All older names -/

theorem resolveAliases_nil (aliases : List (Text × Text)) : resolveAliases aliases [] = [] := by
  induction aliases with
  | nil => rfl
  | cons a aliases ih => exact ih

/-- Names that are kept apart do not come in each other's way, so they are resolved one by one. -/
theorem resolves_resolveAliases (h : KeepsApart aliases) (fs : Fields) :
    Resolves aliases fs (resolveAliases aliases fs) := by
  induction aliases generalizing fs with
  | nil =>
    exact ⟨fun _ ha => absurd ha List.not_mem_nil, fun _ ha => absurd ha List.not_mem_nil,
      fun _ _ _ => rfl⟩
  | cons a aliases ih =>
    obtain ⟨old, current⟩ := a
    have hself := h.apart _ List.mem_cons_self _ List.mem_cons_self
    have hfirst := resolves_singleton hself fs
    have hrest := ih h.tail (resolveAliases [(old, current)] fs)
    have hold : old ∉ aliases.map Prod.fst := (List.nodup_cons.1 h.older).1
    have hcurrent : current ∉ aliases.map Prod.snd := (List.nodup_cons.1 h.current).1
    have hold' : old ∉ aliases.map Prod.snd := by
      rintro hmem
      obtain ⟨b, hb, heq⟩ := List.mem_map.1 hmem
      exact h.apart b (List.mem_cons_of_mem _ hb) _ List.mem_cons_self heq
    have hcurrent' : current ∉ aliases.map Prod.fst := by
      rintro hmem
      obtain ⟨b, hb, heq⟩ := List.mem_map.1 hmem
      exact h.apart _ List.mem_cons_self b (List.mem_cons_of_mem _ hb) heq.symm
    have hkeep {key : Text} (ho : key ≠ old) (hc : key ≠ current) :
        (resolveAliases [(old, current)] fs).get? key = fs.get? key :=
      hfirst.other key (fun hmem => ho (List.mem_singleton.1 hmem))
        fun hmem => hc (List.mem_singleton.1 hmem)
    rw [resolveAliases_cons]
    refine ⟨List.forall_mem_cons.2 ⟨?_, hrest.older⟩, List.forall_mem_cons.2 ⟨?_, fun b hb => ?_⟩,
      fun key hkey hkey' => ?_⟩
    · rw [hrest.other old hold hold']
      exact hfirst.older _ List.mem_cons_self
    · rw [hrest.other current hcurrent' hcurrent]
      exact hfirst.current _ List.mem_cons_self
    · have hfst : b.1 ∈ aliases.map Prod.fst := List.mem_map_of_mem hb
      have hsnd : b.2 ∈ aliases.map Prod.snd := List.mem_map_of_mem hb
      rw [hrest.current b hb, hkeep (fun heq => hold' (heq ▸ hsnd)) fun heq => hcurrent (heq ▸ hsnd),
        hkeep (fun heq => hold (heq ▸ hfst)) fun heq => hcurrent' (heq ▸ hfst)]
    · rw [List.map_cons, List.mem_cons, not_or] at hkey hkey'
      rw [hrest.other key hkey.2 hkey'.2, hkeep hkey.1 hkey'.1]

theorem nodup_names_resolveAliases (h : KeepsApart aliases) (hfs : fs.names.Nodup) :
    (resolveAliases aliases fs).names.Nodup := by
  induction aliases generalizing fs with
  | nil => exact hfs
  | cons a aliases ih =>
    obtain ⟨old, current⟩ := a
    have hself := h.apart _ List.mem_cons_self _ List.mem_cons_self
    have hothers := Fields.nodup_names_erase hfs old
    rw [resolveAliases_cons]
    refine ih h.tail ?_
    rcases resolveAliases_singleton hself fs with ⟨-, heq⟩ | ⟨-, heq⟩ | ⟨v, -, -, heq⟩ <;> rw [heq]
    · exact hfs
    · exact hothers
    · exact Fields.nodup_names_set hothers current v

end Legible.Settings
