import Legible.Number.Shortest

/-!
# Writing numbers

The text of a number: the shortest decimal that reads back, in positional form when its first
digit stands for a power of ten from -4 to 15, and in exponent form otherwise.  A number written
in positional form always has a point.
-/

namespace Legible.Binary64

/-- The text of a number that is not finite. -/
structure SpecialNames where
  nan : Text
  positive : Text
  negative : Text

/-- The names in messages. -/
def shortNames : SpecialNames := ⟨"nan".toList, "inf".toList, "-inf".toList⟩

/-- The names in documents. -/
def longNames : SpecialNames := ⟨"NaN".toList, "Infinity".toList, "-Infinity".toList⟩

/-- Digits with a point after the first `place`, and zeros where digits are missing. -/
def positional (digits : Text) (place : Int) : Text :=
  if place ≤ 0 then "0.".toList ++ List.replicate (-place).toNat '0' ++ digits
  else if digits.length ≤ place then
    digits ++ List.replicate (place - digits.length).toNat '0' ++ ".0".toList
  else digits.take place.toNat ++ '.' :: digits.drop place.toNat

/-- Digits with a point after the first and the power of ten in at least two digits. -/
def scientific (digits : Text) (exponent : Int) : Text :=
  let mantissa := match digits with
    | [] => []
    | [d] => [d]
    | d :: rest => d :: '.' :: rest
  let size := Text.ofNat exponent.natAbs
  let size := if size.length < 2 then '0' :: size else size
  mantissa ++ 'e' :: (if exponent < 0 then '-' else '+') :: size

/-- The text of a positive decimal. -/
def Decimal.render (d : Decimal) : Text :=
  let digits := Text.ofNat d.digits
  let place : Int := digits.length + d.exponent
  if -4 < place ∧ place ≤ 16 then positional digits place else scientific digits (place - 1)

/-- The text of a number. -/
def render (names : SpecialNames) : Binary64 → Text
  | nan => names.nan
  | infinite false => names.positive
  | infinite true => names.negative
  | finite negative m e =>
    let size := if m = 0 then "0.0".toList else (shortest m e).render
    if negative then '-' :: size else size

end Legible.Binary64
