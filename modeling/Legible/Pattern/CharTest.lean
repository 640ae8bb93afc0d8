import Legible.Text.Blank
import Legible.Text.Digit
import Legible.Text.Word
import Legible.Text.Case

/-!
# Tests of one character

What a pattern asks of one character: to be a given one, to be in a set, or only not to be a line
feed.  Letter case may be ignored, for the letters a to z only or for all scripts.

Without regard to case a character is lowered before it is compared.  A given character then
accepts its own lower case and the letters that share their upper case with it; a character
without case accepts itself alone.  A range accepts a letter when it holds some character with
that lower case.  Beyond U+FFFF, a range accepts a lowered letter that it holds itself or whose
upper case it holds, and a character of a set is compared as it is written.
-/

namespace Legible.Pattern

open Legible.Text

/-- How letter case is treated. -/
inductive Fold
  | exact
  | ascii
  | full
  deriving DecidableEq, Repr

/-- A class of characters with a name. -/
inductive Category
  | digit
  | space
  | word
  deriving DecidableEq, Repr

/-- One part of a set of characters; characters are given by their code points. -/
inductive SetItem
  | char (n : Nat)
  | range (first last : Nat)
  | category (which : Category) (negated : Bool)
  deriving DecidableEq, Repr

/-- A test of one character. -/
inductive CharTest
  | any (lineFeedToo : Bool)
  | char (n : Nat) (negated : Bool) (fold : Fold)
  | set (items : List SetItem) (negated : Bool) (fold : Fold) (ascii : Bool)
  deriving DecidableEq, Repr

/-! ## Letter case of code points -/

/-- A lower-case letter of a to z for an upper-case one. -/
def lowerAscii (n : Nat) : Nat := if 65 ≤ n ∧ n ≤ 90 then n + 32 else n

/-- The lower case of a code point. -/
def lowered : Fold → Nat → Nat
  | .exact, n => n
  | .ascii, n => lowerAscii n
  | .full, n => mapByRuns n lowerRuns

/-- The upper case of a code point, cut to one character. -/
def raised (n : Nat) : Nat :=
  match expansionOf n upperExpansions with
  | some (m :: _) => m
  | _ => mapByRuns n upperRuns

/-- Whether a code point changes with its case. -/
def hasCase : Fold → Nat → Bool
  | .exact, _ => false
  | .ascii, n => 65 ≤ n && n ≤ 90 || 97 ≤ n && n ≤ 122
  | .full, n => mapByRuns n lowerRuns ≠ n || raised n ≠ n

/-- The lower-case letters that share their upper case with one. -/
def siblings : Fold → Nat → List Nat
  | .full, n => siblingsOf n siblingLetters
  | _, _ => []

/-- The code points whose lower case is `n`. -/
def sources : Fold → Nat → List Nat
  | .exact, n => [n]
  | .ascii, n => if 97 ≤ n ∧ n ≤ 122 then [n, n - 32] else [n]
  | .full, n => (if mapByRuns n lowerRuns = n then [n] else []) ++ sourcesByRuns n lowerRuns

/-- Whether a run of code points meets a range. -/
def runMeets (lo hi first last step : Nat) : Bool :=
  let least := if lo ≤ first then first else first + (lo - first + step - 1) / step * step
  least ≤ last && least ≤ hi

/-- Whether a range holds a code point that changes with its case. -/
def rangeHasCase : Fold → Nat → Nat → Bool
  | .exact, _, _ => false
  | .ascii, lo, hi => runMeets lo hi 65 90 1 || runMeets lo hi 97 122 1
  | .full, lo, hi =>
    let meets := fun (first, last, step, _) => runMeets lo hi first last step
    lowerRuns.any meets || upperRuns.any meets ||
      upperExpansions.any fun (n, _) => lo ≤ n && n ≤ hi

/-! ## The tests -/

/-- Whether a code point belongs to a class. -/
def Category.holds (ascii : Bool) : Category → Nat → Bool
  | .digit, n => if ascii then 48 ≤ n && n ≤ 57 else (digitIn n decimalRanges).isSome
  | .space, n => if ascii then n = 32 || 9 ≤ n && n ≤ 13 else inRanges n blankRanges
  | .word, n =>
    n = 95 ||
      if ascii then 48 ≤ n && n ≤ 57 || 65 ≤ n && n ≤ 90 || 97 ≤ n && n ≤ 122
      else inRanges n alphanumericRanges

/-- Whether a part of a set holds a code point as it is. -/
def SetItem.holds (ascii : Bool) (n : Nat) : SetItem → Bool
  | .char m => n = m
  | .range first last => first ≤ n && n ≤ last
  | .category which negated => which.holds ascii n != negated

/-- The last code point whose case is looked up one by one. -/
def tableEnd : Nat := 0xFFFF

/-- Whether a part of a set is compared without regard to case. -/
def SetItem.isFolded : Fold → SetItem → Bool
  | .exact, _ => false
  | fold, .char m => hasCase fold m || tableEnd < lowered fold m
  | fold, .range first last => rangeHasCase fold first last || tableEnd < last
  | _, .category _ _ => false

/-- Whether a part of a set accepts a letter in one case and not in another. -/
def SetItem.hasCase (fold : Fold) : SetItem → Bool
  | .char m => Pattern.hasCase fold m
  | item => item.isFolded fold

/-- Whether a part of a set holds a code point without regard to case; `n` is lowered. -/
def SetItem.holdsFolded (fold : Fold) (ascii : Bool) (n : Nat) : SetItem → Bool
  | .char m =>
    let l := lowered fold m
    if l ≤ tableEnd then n = l || (siblings fold l).contains n else n = m
  | .range first last =>
    (n :: siblings fold n).any (fun l =>
      (sources fold l).any fun m => first ≤ m && m ≤ last && m ≤ tableEnd) ||
      tableEnd < last && (first ≤ n && n ≤ last || first ≤ raised n && raised n ≤ last)
  | .category which negated => which.holds ascii n != negated

/-- The test as a set in a pattern under other flags, where letter case makes no difference to it;
the classes of characters in it are those of the other flags. -/
def CharTest.underFlags? (ascii : Bool) : CharTest → Option CharTest
  | .set items negated fold _ =>
    if items.any (·.hasCase fold) then none else some (.set items negated .exact ascii)
  | _ => none

/-- Whether a test compares characters as they are. -/
def CharTest.isExact : CharTest → Bool
  | .any _ => false
  | .char m negated fold => !negated && !hasCase fold m
  | .set items _ fold _ => !items.any (·.isFolded fold)

/-- Whether a character passes a test. -/
def CharTest.holds (c : Char) : CharTest → Bool
  | .any lineFeedToo => lineFeedToo || c ≠ '\n'
  | .char m negated fold =>
    let found :=
      if hasCase fold m then
        let l := lowered fold m
        let n := lowered fold c.toNat
        n = l || (siblings fold l).contains n
      else c.toNat = m
    found != negated
  | .set items negated fold ascii =>
    let found :=
      if items.any (·.isFolded fold) then
        items.any (·.holdsFolded fold ascii (lowered fold c.toNat))
      else items.any (·.holds ascii c.toNat)
    found != negated

end Legible.Pattern
