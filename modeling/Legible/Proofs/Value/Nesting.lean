import Legible.Value.Parser

/-!
# Documents that are nested too deeply

Brackets that are opened and not closed are no document (`parse?_brackets`).  Where nesting is
bounded, a reader that meets one bracket too many does not come to that: it says that the document
goes too deep (`isTooDeep_brackets`).
-/

namespace Legible.Value

/-- Opening brackets. -/
def brackets (n : Nat) : Text := List.replicate n '['

variable {limit : Option Nat}

theorem brackets_succ (n : Nat) : brackets (n + 1) = '[' :: brackets n := rfl

theorem skipSpace_brackets (n : Nat) : skipSpace (brackets n) = brackets n := by
  cases n <;> rfl

theorem readItems_of_error {fuel : Nat} {depth : Option Nat} {n : Nat} {e : ParseError}
    (h : readValue limit fuel depth (brackets n) = .error e) :
    readItems limit (fuel + 1) depth (brackets n) = .error e := by
  rw [readItems, skipSpace_brackets, h]
  rfl

theorem readValue_of_error {fuel : Nat} {depth inside : Option Nat} {n : Nat} {e : ParseError}
    (hdepth : deeper depth = .ok inside)
    (h : readItems limit fuel inside (brackets n) = .error e) :
    readValue limit (fuel + 1) depth (brackets (n + 1)) = .error e := by
  have hitems : readValue limit (fuel + 1) depth (brackets (n + 1)) =
      (readItems limit fuel inside (brackets n)).bind fun p => .ok (.arr p.1, p.2) := by
    rw [brackets_succ, readValue, hdepth, skipSpace_brackets]
    cases n <;> rfl
  rw [hitems, h]
  rfl

theorem readValue_brackets (n fuel : Nat) :
    readValue limit fuel none (brackets n) = .error .malformed := by
  induction n generalizing fuel with
  | zero => cases fuel <;> rfl
  | succ n ih =>
    match fuel with
    | 0 => rfl
    | 1 => exact readValue_of_error rfl rfl
    | fuel + 2 => exact readValue_of_error rfl (readItems_of_error (ih fuel))

/-- A bracket takes two steps, so there is fuel enough to come to the bound. -/
theorem readValue_brackets_tooDeep {depth n fuel : Nat} (hn : depth < n) (hfuel : 2 * depth < fuel) :
    readValue limit fuel (some depth) (brackets n) = .error .tooDeep := by
  induction depth generalizing n fuel with
  | zero =>
    obtain ⟨fuel, rfl⟩ : ∃ k, fuel = k + 1 := ⟨fuel - 1, by omega⟩
    obtain ⟨n, rfl⟩ : ∃ k, n = k + 1 := ⟨n - 1, by omega⟩
    rfl
  | succ depth ih =>
    obtain ⟨fuel, rfl⟩ : ∃ k, fuel = k + 2 := ⟨fuel - 2, by omega⟩
    obtain ⟨n, rfl⟩ : ∃ k, n = k + 1 := ⟨n - 1, by omega⟩
    exact readValue_of_error rfl (readItems_of_error (ih (by omega) (by omega)))

theorem parse?_brackets (n : Nat) : parse? (brackets n) = none := by
  rw [parse?, parseWithin, skipSpace_brackets, readValue_brackets]
  rfl

theorem isTooDeep_brackets {depth n : Nat} (h : depth < n) : isTooDeep depth (brackets n) := by
  have hlength : (brackets n).length = n := List.length_replicate
  rw [isTooDeep, parseWithin, skipSpace_brackets,
    readValue_brackets_tooDeep h (by rw [hlength]; omega)]
  rfl

end Legible.Value
