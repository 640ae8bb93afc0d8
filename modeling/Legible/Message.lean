import Legible.Settings.Config
import Legible.TypeLayout

/-!
# Messages

A message of the compiler is reworded into a shorter, structured text.  Two special cases are
tried first: types that do not fit each other, where an object type is involved, and properties
that are missing.  Every other message goes through the table of rules.

`reword` gives the whole text and `rewordLines` the lines of the popup, in which the object types
of the reworded text are laid out; the raw message follows unchanged in both.
-/

namespace Legible.Message

/-! ## Special cases -/

/-- Whether an object type with a field begins at the beginning of a text: a brace, a word, a colon
and a word, with blanks between them. -/
def beginsField (t : Text) : Bool :=
  match t with
  | '\x7b' :: rest =>
    let word := Text.stripLeft rest
    match word.takeWhile Text.isWordChar, Text.stripLeft (word.dropWhile Text.isWordChar) with
    | _ :: _, ':' :: rest =>
      match Text.stripLeft rest with
      | c :: _ => Text.isWordChar c
      | [] => false
    | _, _ => false
  | _ => false

/-- Whether an object type with a field stands somewhere in a text. -/
def hasField : Text → Bool
  | [] => false
  | c :: rest => beginsField (c :: rest) || hasField rest

/-- The text after a word, at least one blank and an apostrophe. -/
def afterQuote? (word t : Text) : Option Text :=
  if word.isPrefixOf t then
    match t.drop word.length with
    | c :: rest =>
      if Text.isBlank c then
        match Text.stripLeft rest with
        | '\'' :: quoted => some quoted
        | _ => none
      else none
    | [] => none
  else none

/-- The text after the first place where one of the words stands before an apostrophe. -/
def findQuote? (words : List Text) : Text → Option Text
  | [] => none
  | c :: rest => (words.findSome? fun w => afterQuote? w (c :: rest)).or (findQuote? words rest)

/-- The two types of a message about types that do not fit: the one that was given and the one
that was expected. -/
def mismatch? (t : Text) : Option (Text × Text) := do
  let quoted ← findQuote? ["Type".toList, "type".toList] t
  let (provided, rest) ← Text.cutAtPart? "' is not assignable to".toList quoted
  let quoted ← findQuote? ["type".toList] rest
  let (expected, _) ← Text.cutAt? '\'' quoted
  pure (provided, expected)

/-- The text for types that do not fit, where an object type is involved. -/
def assignability? (t : Text) : Option Text :=
  if hasField t then
    (mismatch? t).map fun (provided, expected) =>
      "Type mismatch:\n\nProvided:\n".toList ++ TypeLayout.layout provided ++
        "\n\nExpected:\n".toList ++ TypeLayout.layout expected
  else none

/-- The property and the two types of a message about a missing property. -/
def missing? (t : Text) : Option (Text × Text × Text) := do
  let (_, rest) ← Text.cutAtPart? "Property '".toList t
  let (property, rest) ← Text.cutAtPart? "' is missing in type '".toList rest
  let (actual, rest) ← Text.cutAtPart? "' but required in type '".toList rest
  let (required, _) ← Text.cutAt? '\'' rest
  pure (property, actual, required)

/-- The text for a missing property. -/
def missingProperty? (t : Text) : Option Text :=
  (missing? t).map fun (property, actual, required) =>
    "Property ".toList ++ property ++ " is missing in type:\n\n".toList ++
      TypeLayout.layout actual ++ "\n\nbut required in type:\n\n".toList ++
      TypeLayout.layout required

/-- A special case of a message. -/
inductive SpecialCase
  | assignability
  | missingProperty
  deriving DecidableEq, Repr

namespace SpecialCase

/-- The name of a special case. -/
def name : SpecialCase → Text
  | assignability => "assignability".toList
  | missingProperty => "missing_property".toList

/-- The first special case that a message is, with its text. -/
def find? (t : Text) : Option (SpecialCase × Text) :=
  match assignability? t with
  | some text => some (assignability, text)
  | none => (missingProperty? t).map fun text => (missingProperty, text)

end SpecialCase

/-! ## Rewording -/

/-- How messages are reworded. -/
structure Reworder where
  lead : Text
  leadSpecial : Bool
  showRaw : Bool
  rules : List CompiledRule

/-- What has become of a message. -/
structure Reworded where
  text : Text
  special : Option SpecialCase

/-- What stands over the raw message. -/
def rawHeader : Text := "Original TS Error:".toList

/-- What separates the reworded text from the raw message. -/
def separator : Text := "---".toList

namespace Reworder

/-- The reworder of a configuration, with the given rules in place of its own if there are any. -/
def ofConfig [CharNames] (c : Config) : Except RuleError Reworder := do
  let rules ← WordingRule.compileAll (c.rules.getD WordingRule.defaults)
  pure ⟨c.lead, c.leadSpecial, c.showRaw, rules⟩

/-- The message after all rules, each applied to the result of the one before. -/
def applyRules (r : Reworder) (message : Text) : Text :=
  r.rules.foldl (fun t rule => rule.apply t) message

/-- Whether every rule can be applied: no group of a match ends before it begins. -/
def canApply (r : Reworder) (message : Text) : Bool :=
  (SpecialCase.find? message).isSome ||
    (r.rules.foldlM (fun t (rule : CompiledRule) => rule.replaced? t) message).isSome

/-- The reworded message, without the raw one. -/
def prettify (r : Reworder) (message : Text) : Reworded :=
  match SpecialCase.find? message with
  | some (special, text) => ⟨if r.leadSpecial then r.lead ++ text else text, some special⟩
  | none => ⟨r.lead ++ r.applyRules message, none⟩

/-- The reworded message, followed by the raw one where that is asked for. -/
def reword (r : Reworder) (message : Text) : Text :=
  let text := (r.prettify message).text
  if r.showRaw then
    text ++ "\n\n".toList ++ separator ++ "\n".toList ++ rawHeader ++ "\n".toList ++ message
  else text

/-- The lines of the popup for a message. -/
def rewordLines (r : Reworder) (message : Text) : List Text :=
  let lines := (Text.lines (r.prettify message).text).flatMap fun line =>
    Text.lines (TypeLayout.expandInline line)
  if r.showRaw then
    lines ++ [[], separator, rawHeader] ++ Text.lines message
  else lines

end Reworder

end Legible.Message
