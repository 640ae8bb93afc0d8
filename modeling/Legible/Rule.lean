import Legible.Pattern.Parser
import Legible.Template
import Legible.Value.Basic

/-!
# Wording rules

A rule replaces what a pattern matches by a template.  `compile` reads both and checks that the
template names no group that the pattern lacks.  Of a table of rules those that cannot be
compiled are left out, one by one, and the others are kept in order.
-/

namespace Legible

/-- A rule as it is written: a pattern and a template. -/
structure WordingRule where
  pattern : Text
  template : Text
  deriving DecidableEq, Repr

/-- A rule that is ready to be applied. -/
structure CompiledRule where
  rule : WordingRule
  pattern : Pattern.Compiled
  parts : List TemplatePart

/-- Why a rule cannot be compiled. -/
inductive RuleError
  | pattern (cause : Pattern.PatternError)
  | template (cause : NotInteger)
  | missingGroup (rule : WordingRule) (group groups : Nat)
  deriving DecidableEq, Repr

namespace RuleError

/-- Whether a table of rules goes on without the rule. -/
def isSkipped : RuleError → Bool
  | pattern .malformed => true
  | missingGroup .. => true
  | _ => false

/-- What is said about a template that names a missing group; the template is given as it was
written. -/
def messageFor (template : Text) : RuleError → Text
  | missingGroup rule group groups =>
    "Template ".toList ++ template ++ " references group ".toList ++
      Text.ofNat group ++ ", pattern ".toList ++ Text.quoted rule.pattern ++ " has ".toList ++
      Text.ofNat groups ++ ".".toList
  | _ => []

/-- What is said about a template that names a missing group. -/
def message : RuleError → Text
  | e@(missingGroup rule _ _) => e.messageFor (Text.quoted rule.template)
  | _ => []

end RuleError

namespace CompiledRule

/-- The text of a group of a match; group zero is the whole match. -/
def groupText (text : Array Char) (start : Nat) (stop : Pattern.Spot) : Nat → Text
  | 0 => (text.extract start stop.pos).toList
  | n + 1 => stop.groupText text n

/-- The text with every match replaced; a group that ends before it begins counts as empty.  A rule is
applicable to a text where there is no such group (`replaced?`). -/
def apply (r : CompiledRule) (t : Text) : Text :=
  Pattern.replaceAll r.pattern (fun text found =>
    Template.expand (groupText text found.start found.stop) r.parts) t

/-- The text with every match replaced, unless a group of a match ends before it begins. -/
def replaced? (r : CompiledRule) (t : Text) : Option Text :=
  if Pattern.hasCrossedGroup r.pattern t then none else some (r.apply t)

end CompiledRule

namespace WordingRule

variable [CharNames]

/-- Reads the pattern and the template of a rule. -/
def compile (r : WordingRule) : Except RuleError CompiledRule := do
  let pattern ← (Pattern.parse r.pattern).mapError .pattern
  let parts ← (Template.parse r.template).mapError .template
  match Template.beyond? pattern.groups parts with
  | some group => .error (.missingGroup r group pattern.groups)
  | none => .ok ⟨r, pattern, parts⟩

/-- The rules of a table that can be compiled, in order.  Faults that do not only concern the
rule itself stop the whole table. -/
def compileAll : List WordingRule → Except RuleError (List CompiledRule)
  | [] => .ok []
  | r :: rest =>
    match r.compile with
    | .ok c => do
      let cs ← compileAll rest
      pure (c :: cs)
    | .error e => if e.isSkipped then compileAll rest else .error e

/-! ## Rules in settings -/

/-- An entry of a table of rules: a rule, or a value that may describe one. -/
inductive Entry
  | ready (rule : WordingRule)
  | value (v : Value)

/-- The rule that a value describes: an object with a pattern and, under the name `replace` or
else `template`, a template. -/
def ofValue? (v : Value) : Option WordingRule :=
  let pattern := (v.field "pattern".toList).displayOrEmpty
  if pattern.isEmpty then none
  else
    let template :=
      match v.field? "replace".toList with
      | some t => t
      | none => v.field "template".toList
    some ⟨pattern, template.displayOrEmpty⟩

/-- The rule of an entry. -/
def ofEntry? : Entry → Option WordingRule
  | .ready rule => some rule
  | .value v => ofValue? v

/-- The rules of a table and the number of entries that describe none. -/
def ofEntries (es : List Entry) : List WordingRule × Nat :=
  let rules := es.filterMap ofEntry?
  (rules, es.length - rules.length)

/-- The rules that are used where the settings give none. -/
def defaults : List WordingRule := [
  ⟨"Type '(.+)' is not assignable to type '(.+)'".toList,
    "Expected type '$2', but got '$1'".toList⟩,
  ⟨"Property '(.+)' does not exist on type '(.+)'".toList,
    "The object '$2' doesn't have a property named '$1'".toList⟩,
  ⟨"Expected (\\d+) arguments, but got (\\d+)".toList,
    "This function takes $1 parameters, but you provided $2".toList⟩,
  ⟨"Property '([^']+)' is missing in type '(.+)' but required in type '(.+)'".toList,
    "Property $1 is missing in type:\n\n$2\n\nbut required in type:\n\n$3".toList⟩,
  ⟨"Argument of type '(.+)' is not assignable to parameter of type '(.+)'".toList,
    "Type mismatch:\n\nProvided: $1\n\nExpected: $2".toList⟩]

end WordingRule

end Legible
