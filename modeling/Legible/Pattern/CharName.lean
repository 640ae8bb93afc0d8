import Legible.Text.Basic

/-!
# Names of characters

A pattern may write a character by its name.  Which names there are is told by a table, which grows
with every version of the character set, so patterns are read with any table (`CharNames`).
-/

namespace Legible

/-- A table of characters by their names. -/
class CharNames where
  /-- The character of a name, if the table has the name. -/
  ofName? : Text → Option Char

end Legible
