import Legible.Path
import Legible.Text.Blank
import Legible.Text.Case

/-!
# Languages of files

The language of a file, by the suffix of its name in any letter case.  Files outside the family
of TypeScript have the language given as the default.
-/

namespace Legible

namespace Language

/-- The languages of the family, by suffix. -/
def bySuffix : List (Text × Text) := [
  (".ts".toList, "typescript".toList), (".mts".toList, "typescript".toList),
  (".cts".toList, "typescript".toList), (".tsx".toList, "typescriptreact".toList),
  (".js".toList, "javascript".toList), (".mjs".toList, "javascript".toList),
  (".cjs".toList, "javascript".toList), (".jsx".toList, "javascriptreact".toList)]

/-- The language of text without a language. -/
def plain : Text := "plaintext".toList

/-- The language of a suffix. -/
def ofSuffix? (suffix : Text) : Option Text := bySuffix.lookup (Text.lower suffix)

/-- The language of a file; blanks around its path are ignored. -/
def ofPath (path : Text) (default : Text) : Text :=
  let fallback := Text.lower (Text.strip default)
  let fallback := if fallback.isEmpty then plain else fallback
  (ofSuffix? (Path.suffix (Text.strip path))).getD fallback

/-- Whether a file belongs to the family. -/
def isFamily (path : Text) : Bool := (ofSuffix? (Path.suffix path)).isSome

/-- The languages of the documents that the popup serves. -/
def supported : List Text := [
  "typescript".toList, "javascript".toList, "typescriptreact".toList, "javascriptreact".toList]

/-- Whether the popup serves documents of a language, in any letter case. -/
def isSupported (kind : Text) : Bool := supported.contains (Text.lower (Text.strip kind))

end Language

end Legible
