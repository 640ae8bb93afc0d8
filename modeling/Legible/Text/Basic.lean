/-!
# Text

Text is a list of characters, so that every operation is a recursion on it.  This file has the
operations that need no character classes: splitting and joining at a character, looking for a
part, and replacing one character by another.

Splitting and joining at one character undo each other (`join_splitOn`), and no piece of a split
holds the separator (`not_mem_of_mem_splitOn`).
-/

namespace Legible

/-- A text is the list of its characters. -/
abbrev Text := List Char

namespace Text

/-! ## Splitting and joining -/

/-- Puts a character in front of the first piece. -/
def consHead (c : Char) : List Text → List Text
  | [] => [[c]]
  | piece :: rest => (c :: piece) :: rest

/-- The pieces of a text between the occurrences of `sep`; there is always at least one. -/
def splitOn (sep : Char) : Text → List Text
  | [] => [[]]
  | c :: rest => if c = sep then [] :: splitOn sep rest else consHead c (splitOn sep rest)

/-- The pieces with `sep` between neighbours. -/
def join (sep : Text) : List Text → Text
  | [] => []
  | [piece] => piece
  | piece :: rest => piece ++ sep ++ join sep rest

/-- The lines of a text, without their line feeds. -/
def lines (t : Text) : List Text := splitOn '\n' t

/-- The lines put together again. -/
def unlines (ls : List Text) : Text := join ['\n'] ls

theorem consHead_ne_nil (c : Char) (ps : List Text) : consHead c ps ≠ [] := by
  cases ps <;> simp [consHead]

theorem splitOn_ne_nil (sep : Char) (t : Text) : splitOn sep t ≠ [] := by
  cases t with
  | nil => simp [splitOn]
  | cons c rest =>
    simp only [splitOn]
    split
    · simp
    · exact consHead_ne_nil _ _

theorem join_consHead (sep : Text) (c : Char) {ps : List Text} (h : ps ≠ []) :
    join sep (consHead c ps) = c :: join sep ps := by
  match ps, h with
  | [p], _ => simp [consHead, join]
  | p :: q :: rest, _ => simp [consHead, join]

theorem join_nil_cons (sep : Text) {ps : List Text} (h : ps ≠ []) :
    join sep ([] :: ps) = sep ++ join sep ps := by
  match ps, h with
  | p :: rest, _ => simp [join]

theorem join_splitOn (sep : Char) (t : Text) : join [sep] (splitOn sep t) = t := by
  induction t with
  | nil => simp [splitOn, join]
  | cons c rest ih =>
    simp only [splitOn]
    split
    · rename_i h
      rw [join_nil_cons _ (splitOn_ne_nil sep rest), ih, h]
      simp
    · rw [join_consHead _ _ (splitOn_ne_nil sep rest), ih]

theorem not_mem_of_mem_splitOn {sep : Char} {t piece : Text} (h : piece ∈ splitOn sep t) :
    sep ∉ piece := by
  induction t generalizing piece with
  | nil => simp_all [splitOn]
  | cons c rest ih =>
    simp only [splitOn] at h
    split at h
    · cases List.mem_cons.1 h with
      | inl h => simp [h]
      | inr h => exact ih h
    · rename_i hc
      cases hs : splitOn sep rest with
      | nil => exact absurd hs (splitOn_ne_nil sep rest)
      | cons p ps =>
        rw [hs] at h ih
        simp only [consHead, List.mem_cons] at h
        rcases h with rfl | h
        · have := @ih p (by simp)
          simp only [List.mem_cons, not_or]
          exact ⟨fun e => hc e.symm, this⟩
        · exact ih (by simp [h])

/-! ## Looking for a part -/

/-- Where `part` first begins in a text. -/
def indexOf? (part : Text) : Text → Option Nat
  | [] => if part = [] then some 0 else none
  | c :: rest =>
    if part.isPrefixOf (c :: rest) then some 0 else (indexOf? part rest).map (· + 1)

/-- Whether `part` stands somewhere in a text. -/
def holds (t part : Text) : Bool := (indexOf? part t).isSome

/-- The text before the first `sep` and the text after it. -/
def cutAt? (sep : Char) : Text → Option (Text × Text)
  | [] => none
  | c :: rest =>
    if c = sep then some ([], rest) else (cutAt? sep rest).map fun p => (c :: p.1, p.2)

/-- The text before the first occurrence of `part` and the text after it. -/
def cutAtPart? (part : Text) : Text → Option (Text × Text)
  | [] => if part = [] then some ([], []) else none
  | c :: rest =>
    if part.isPrefixOf (c :: rest) then some ([], (c :: rest).drop part.length)
    else (cutAtPart? part rest).map fun p => (c :: p.1, p.2)

/-- A text with another in the place of `part` wherever that stands. -/
def replace (part other : Text) (t : Text) : Text :=
  match cutAtPart? part t with
  | some (before, after) =>
    if after.length < t.length then before ++ other ++ replace part other after else t
  | none => t
termination_by t.length

/-- The text after the last `sep`, or all of it when there is none. -/
def afterLast (sep : Char) (t : Text) : Text :=
  (t.reverse.takeWhile (· ≠ sep)).reverse

/-- The decimal digits of a natural number. -/
def ofNat (n : Nat) : Text := Nat.toDigits 10 n

/-- The decimal text of an integer. -/
def ofInt : Int → Text
  | .ofNat n => ofNat n
  | .negSucc n => '-' :: ofNat (n + 1)

end Text

end Legible
