import Legible.Text.CaseTable

/-!
# Lower and upper case

`lower` and `upper` change the case of a whole text by the full maps: a sigma at the end of a
word has a lower case of its own, and some upper cases are several characters.  `foldChar` and
`raiseChar` are the one-character maps, for comparing letters without regard to case.
-/

namespace Legible.Text

/-- The lower case of a character, cut to one character. -/
def foldChar (c : Char) : Char := Char.ofNat (mapByRuns c.toNat lowerRuns)

/-- The several characters of an upper case, where it has more than one. -/
def expansionOf (n : Nat) : List (Nat × List Nat) → Option (List Nat)
  | [] => none
  | (source, image) :: rest => if n = source then some image else expansionOf n rest

/-- The upper case of one character. -/
def upperOf (c : Char) : Text :=
  match expansionOf c.toNat upperExpansions with
  | some image => image.map Char.ofNat
  | none => [Char.ofNat (mapByRuns c.toNat upperRuns)]

/-- The upper case of a character, cut to one character. -/
def raiseChar (c : Char) : Char := (upperOf c).headD c

/-- Whether a letter has case. -/
def isCased (c : Char) : Bool := inRanges c.toNat casedRanges

/-- Whether a character may stand inside a word without being a letter of it. -/
def isCaseIgnorable (c : Char) : Bool := inRanges c.toNat caseIgnorableRanges

/-- Whether a text begins with a letter that has case, ignorable characters apart. -/
def reachesCased : Text → Bool
  | [] => false
  | c :: rest => if isCaseIgnorable c then reachesCased rest else isCased c

/-- The lower case of one character between the text before it, read backwards, and after it. -/
def lowerOf (before : Text) (c : Char) (after : Text) : Text :=
  if c = 'Σ' then
    if reachesCased before && !reachesCased after then ['ς'] else ['σ']
  else if c = 'İ' then ['i', '\u0307']
  else [foldChar c]

/-- Lower case of a text that follows `before`, which is read backwards. -/
def lowerAfter : Text → Text → Text
  | _, [] => []
  | before, c :: rest => lowerOf before c rest ++ lowerAfter (c :: before) rest

/-- The lower case of a text. -/
def lower (t : Text) : Text := lowerAfter [] t

/-- The upper case of a text. -/
def upper (t : Text) : Text := t.flatMap upperOf

/-- The lower-case letters that share their upper case with one. -/
def siblingsOf (n : Nat) : List (List Nat) → List Nat
  | [] => []
  | cls :: rest => if cls.contains n then cls.filter (· ≠ n) else siblingsOf n rest

end Legible.Text
