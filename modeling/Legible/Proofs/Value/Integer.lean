import Legible.Value.Basic

/-!
# Integers of values

A value has no integer where it is of a wrong kind, where its text is no numeral, and where it is a
number that is none or is infinite.  Of these an infinite number alone is told apart by the callers
(`toInteger_eq_infinite_iff`).
-/

namespace Legible

namespace Number

theorem ofText_ne_infinite (t : Text) : ofText t ≠ .error .infinite := by
  have htooLong {ds : List Nat} {e : NotInteger} (h : ofNumeral ds = .error e) : e = .tooLong := by
    unfold ofNumeral at h
    split at h
    · exact (Except.error.inj h).symm
    · exact nomatch h
  unfold ofText
  dsimp only
  cases numeralDigits? (splitSign (trim t)).2 with
  | none => exact fun h => NotInteger.noConfusion (Except.error.inj h)
  | some ds =>
    dsimp only
    cases hds : ofNumeral ds with
    | error e =>
      obtain rfl := htooLong hds
      exact fun h => NotInteger.noConfusion (Except.error.inj h)
    | ok n => exact fun h => nomatch h

end Number

namespace Value

/-- Whether a value is an infinite number. -/
def isInfinite : Value → Bool
  | double (.infinite _) => true
  | _ => false

theorem toInteger_eq_infinite_iff (v : Value) :
    v.toInteger = .error .infinite ↔ v.isInfinite := by
  cases v with
  | double x => cases x <;> simp [toInteger, isInfinite]
  | str t => simpa [toInteger, isInfinite] using Number.ofText_ne_infinite t
  | _ => simp [toInteger, isInfinite]

end Value

end Legible
