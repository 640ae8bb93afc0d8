import Legible.Number.Binary64

/-!
# Shortest decimals

The shortest decimal that reads back as a given number.  All reals between the number's two
midpoints with its neighbours round to it, the midpoints included when the mantissa is even.
For one digit, two, and so on up to seventeen the two decimals around the number are tried; the
first length at which one of them lies between the midpoints wins, and of two hits the nearer.
-/

namespace Legible.Binary64

/-- A positive decimal, `digits * 10 ^ exponent`. -/
structure Decimal where
  digits : Nat
  exponent : Int
  deriving DecidableEq, Repr

/-- A positive number `num * 2 ^ exponent` as a quotient of natural numbers. -/
def ratioOf (num : Nat) (exponent : Int) : Nat × Nat :=
  if 0 ≤ exponent then (num * Nat.pow 2 exponent.toNat, 1)
  else (num, Nat.pow 2 (-exponent).toNat)

/-- A decimal as a quotient of natural numbers. -/
def Decimal.ratio (d : Decimal) : Nat × Nat :=
  if 0 ≤ d.exponent then (d.digits * Nat.pow 10 d.exponent.toNat, 1)
  else (d.digits, Nat.pow 10 (-d.exponent).toNat)

/-- The exponent of ten of the first digit of a positive quotient that is not below 10 ^ -400. -/
def leadingExponent (num den : Nat) : Int :=
  ((Nat.toDigits 10 (num * Nat.pow 10 400 / den)).length : Int) - 401

/-- Whether a decimal lies between the midpoints of `mantissa * 2 ^ exponent` with its
neighbours. -/
def readsBack (mantissa : Nat) (exponent : Int) (d : Decimal) : Bool :=
  let gap := if mantissa = Nat.pow 2 52 ∧ leastExponent < exponent then 1 else 2
  let (n, den) := d.ratio
  let (low, lowDen) := ratioOf (4 * mantissa - gap) (exponent - 2)
  let (high, highDen) := ratioOf (4 * mantissa + 2) (exponent - 2)
  if mantissa % 2 = 0 then low * den ≤ n * lowDen && n * highDen ≤ high * den
  else low * den < n * lowDen && n * highDen < high * den

/-- The decimal of the given length that reads back as the number and is nearest to it. -/
def nearestOfLength (mantissa : Nat) (exponent : Int) (length : Nat) : Option Decimal :=
  let (num, den) := ratioOf mantissa exponent
  let unit : Int := leadingExponent num den - length + 1
  let (n, d) :=
    if 0 ≤ unit then (num, den * Nat.pow 10 unit.toNat)
    else (num * Nat.pow 10 (-unit).toNat, den)
  let below : Decimal := ⟨n / d, unit⟩
  let above : Decimal := ⟨n / d + 1, unit⟩
  match readsBack mantissa exponent below, readsBack mantissa exponent above with
  | true, true => some (if roundEven n d = n / d then below else above)
  | true, false => some below
  | false, true => some above
  | false, false => none

/-- A decimal without the zeros at the end of its digits; `fuel` bounds their number. -/
def Decimal.dropZeros : Nat → Decimal → Decimal
  | 0, d => d
  | fuel + 1, d =>
    if d.digits % 10 = 0 ∧ d.digits ≠ 0 then dropZeros fuel ⟨d.digits / 10, d.exponent + 1⟩ else d

/-- The first decimal found among the lengths tried. -/
def firstOfLengths (mantissa : Nat) (exponent : Int) : List Nat → Decimal
  | [] => ⟨mantissa, 0⟩
  | length :: rest =>
    match nearestOfLength mantissa exponent length with
    | some d => d.dropZeros 20
    | none => firstOfLengths mantissa exponent rest

/-- The shortest decimal that reads back as `mantissa * 2 ^ exponent`. -/
def shortest (mantissa : Nat) (exponent : Int) : Decimal :=
  firstOfLengths mantissa exponent ((List.range 17).map (· + 1))

end Legible.Binary64
