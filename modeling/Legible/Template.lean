import Legible.Number.Reading
import Legible.Pattern.Search

/-!
# Templates

A template is the text that takes the place of a match.  A dollar sign with digits after it, bare
or in braces, stands for the text of a group, two dollar signs stand for one, and a dollar sign
before anything else stands for itself.  The digits may be of any script.

A template is a list of parts: texts, never empty and never side by side, and numbers of groups.
-/

namespace Legible

/-- A part of a template: text, or the number of a group, where group zero is the whole match. -/
inductive TemplatePart
  | text (t : Text)
  | group (n : Nat)
  deriving DecidableEq, Repr

namespace Template

/-- Puts a character in front of the parts. -/
def consChar (c : Char) : List TemplatePart → List TemplatePart
  | .text t :: rest => .text (c :: t) :: rest
  | parts => .text [c] :: parts

/-- What a dollar sign begins. -/
inductive Mark
  | group (digits : List Nat)
  | dollar
  deriving DecidableEq, Repr

/-- The digits at the beginning of a text. -/
def digitRun (t : Text) : Text := t.takeWhile Text.isDecimal

/-- The values of digits. -/
def digitValues (t : Text) : List Nat := t.map fun c => (Text.digitValue? c).getD 0

/-- What a dollar sign begins, and how many characters of the text after it belong to it. -/
def markAfter? (t : Text) : Option (Mark × Nat) :=
  match t with
  | '$' :: _ => some (.dollar, 1)
  | '\x7b' :: rest =>
    let digits := digitRun rest
    match digits.isEmpty, rest.drop digits.length with
    | false, '\x7d' :: _ => some (.group (digitValues digits), digits.length + 2)
    | _, _ => none
  | _ =>
    let digits := digitRun t
    if digits.isEmpty then none else some (.group (digitValues digits), digits.length)

/-- The parts of a template.  A number of too many digits is refused. -/
def parse : Text → Except NotInteger (List TemplatePart)
  | [] => .ok []
  | c :: rest =>
    if c = '$' then
      match markAfter? rest with
      | none => (parse rest).map (consChar c)
      | some (.dollar, size) => (parse (rest.drop size)).map (consChar '$')
      | some (.group digits, size) => do
        let n ← Number.ofNumeral digits
        let parts ← parse (rest.drop size)
        pure (.group n :: parts)
    else (parse rest).map (consChar c)
termination_by t => t.length
decreasing_by
  all_goals simp only [List.length_cons, List.length_drop]; omega

/-- The text of the parts, given the text of each group. -/
def expand (groupText : Nat → Text) (parts : List TemplatePart) : Text :=
  parts.flatMap fun
    | .text t => t
    | .group n => groupText n

/-- The greatest group that the parts name and that is beyond `groups`, if it is the first such. -/
def beyond? (groups : Nat) : List TemplatePart → Option Nat
  | [] => none
  | .group n :: rest => if groups < n then some n else beyond? groups rest
  | .text _ :: rest => beyond? groups rest

end Template

end Legible
