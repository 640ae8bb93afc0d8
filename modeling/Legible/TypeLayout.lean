import Legible.Text.Blank

/-!
# Layout of object types

A compiler prints an object type on one line, with a separator after each of its fields.
`layout` breaks such a text after every opening brace and every separator and before every
closing brace, and indents each line by its depth.  It reads the text once, character by
character; unbalanced braces give the best layout that this allows.

`expandInline` does the same for the blocks that follow a colon inside a longer line.
-/

namespace Legible.TypeLayout

/-- The blanks in front of a line, two for each level of depth. -/
def indent (depth : Int) : Text := List.replicate (2 * depth.toNat) ' '

/-- A finished line: blanks at its end are dropped, and a blank line is no line. -/
def emit (line : Text) : List Text :=
  match Text.stripRight line with
  | [] => []
  | kept => [kept]

/-- The lines of the rest of a text, at a depth, after what the current line holds so far; `fresh`
says that the current line holds only its indentation. -/
def linesFrom (depth : Int) (current : Text) (fresh : Bool) : Text → List Text
  | [] => emit current
  | c :: rest =>
    if c = '\x7b' then
      emit (current ++ [c]) ++ linesFrom (depth + 1) (indent (depth + 1)) true rest
    else if c = '\x7d' then
      emit current ++ linesFrom (depth - 1) (indent (depth - 1) ++ [c]) false rest
    else if c = ';' || c = ',' then
      emit (current ++ [c]) ++ linesFrom depth (indent depth) true rest
    else if c = '\r' || c = '\n' then
      if fresh then linesFrom depth current true rest
      else emit current ++ linesFrom depth (indent depth) true rest
    else if fresh && (c = ' ' || c = '\t') then linesFrom depth current true rest
    else linesFrom depth (current ++ [c]) false rest

/-- Whether a text is an object type: an opening brace after blanks. -/
def isObjectType (t : Text) : Bool :=
  match Text.stripLeft t with
  | '\x7b' :: _ => true
  | _ => false

/-- An object type with one field or brace on a line; any other text as it is. -/
def layout (t : Text) : Text :=
  if isObjectType t then Text.unlines (linesFrom 0 [] false t) else t

/-! ## Blocks inside a line -/

/-- The block after a colon and the text after the block.  A block reaches from an opening brace
to the next closing brace and holds at least one character. -/
def blockAfterColon? (t : Text) : Option (Text × Text) :=
  match Text.stripLeft t with
  | '\x7b' :: more =>
    match more.takeWhile (· ≠ '\x7d'), more.dropWhile (· ≠ '\x7d') with
    | c :: inner, _ :: rest => some ('\x7b' :: c :: inner ++ ['\x7d'], rest)
    | _, _ => none
  | _ => none

theorem length_dropWhile_le (p : Char → Bool) (t : Text) : (t.dropWhile p).length ≤ t.length :=
  (List.dropWhile_sublist p).length_le

theorem blockAfterColon?_length {t block rest : Text}
    (h : blockAfterColon? t = some (block, rest)) : rest.length < t.length := by
  unfold blockAfterColon? at h
  split at h
  · rename_i more hs
    split at h
    · rename_i c inner d after ht hd
      simp only [Option.some.injEq, Prod.mk.injEq] at h
      obtain ⟨_, rfl⟩ := h
      have h₁ := length_dropWhile_le Text.isBlank t
      have h₂ := length_dropWhile_le (· ≠ '\x7d') more
      rw [Text.stripLeft] at hs
      rw [hs] at h₁
      rw [hd] at h₂
      simp only [List.length_cons] at h₁ h₂
      omega
    · simp at h
  · simp at h

/-- A line with each block after a colon moved onto lines of its own. -/
def expandInline : Text → Text
  | [] => []
  | c :: rest =>
    if c = ':' then
      match _h : blockAfterColon? rest with
      | some (block, after) => ':' :: '\n' :: layout block ++ expandInline after
      | none => c :: expandInline rest
    else c :: expandInline rest
termination_by t => t.length
decreasing_by
  all_goals simp only [List.length_cons]
  · have := blockAfterColon?_length _h
    omega
  · omega
  · omega

end Legible.TypeLayout
