import Legible.Diagnostic.Basic
import Legible.Settings.Config
import Legible.Template

/-!
# Transcripts

A transcript writes down what a program knows and does as document values.  A record of something
is an object with a field for each of its parts; an entry of a list of events is a list that
begins with the name of the event.
-/

namespace Legible

namespace Transcript

/-- An entry for an event. -/
def entry (name : String) (vs : List Value) : Value := .arr (.literal name :: vs)

/-- An entry for something that is told to listeners. -/
def signal (name : String) (vs : List Value) : Value := entry "signal" (.literal name :: vs)

/-- The line and the column of a pair of numbers. -/
def place (v : Value) : Int × Int :=
  let number (v : Value) : Int := v.toInteger.toOption.getD 0
  match v with
  | .arr [line, column] => (number line, number column)
  | _ => (0, 0)

/-- Texts in the order of their characters. -/
def inOrder (ts : List Text) : List Text :=
  ts.mergeSort fun a b => decide (String.ofList a ≤ String.ofList b)

end Transcript

namespace WordingRule

/-- The record of a rule. -/
def toRecord (r : WordingRule) : Value :=
  .record [("pattern", .str r.pattern), ("template", .str r.template)]

/-- The rule of a record. -/
def ofRecord (v : Value) : WordingRule :=
  ⟨(v.field "pattern".toList).displayOrEmpty, (v.field "template".toList).displayOrEmpty⟩

end WordingRule

/-- The record of a part of a template: its text, or the number of its group. -/
def TemplatePart.toRecord : TemplatePart → Value
  | text t => .str t
  | group n => .ofNat n

/-- The record of a palette. -/
def Palette.toRecord (p : Palette) : Value := .obj (p.toList.map fun (k, c) => (k, .str c))

/-- The record of a configuration. -/
def Config.toRecord (c : Config) : Value :=
  .record [
    ("enabled", .bool c.enabled), ("max_height", .int c.maxHeight), ("max_width", .int c.maxWidth),
    ("show_original_error", .bool c.showRaw), ("debounce_ms", .int c.debounceMs),
    ("prefix", .str c.lead), ("colors", c.colors.toRecord),
    ("decorate_special_cases", .bool c.leadSpecial),
    ("integrate_with_lsp", .bool c.rewordPublished), ("lsp_command", .str c.command),
    ("lsp_args", .ofTexts c.args),
    ("lsp_server_names", .ofTexts (Transcript.inOrder c.serverNames)),
    ("log_lsp_traffic", .bool c.logTraffic), ("keymaps", c.keymap.toValue),
    ("rules", match c.rules with
      | some rules => .arr (rules.map WordingRule.toRecord)
      | none => .null)]

namespace Diagnostic

/-- The record of a diagnostic. -/
def toRecord (d : Diagnostic) : Value :=
  .record [("message", .str d.message), ("line", .int d.line), ("column", .int d.column),
    ("end_line", .int d.endLine), ("end_column", .int d.endColumn), ("severity", .str d.severity),
    ("source", .ofText? d.source), ("code", .str d.code),
    ("published_message", .str d.publishedMessage)]

/-- The fields that a record of a diagnostic must have. -/
def neededFields : List Text :=
  ["message", "line", "column", "end_line", "end_column"].map String.toList

/-- The fields that a record of a diagnostic may have besides. -/
def otherFields : List Text :=
  ["severity", "source", "code", "published_message"].map String.toList

/-- The diagnostic of some fields; what is missing has its default. -/
def ofFields (fs : Fields) : Diagnostic :=
  let text (key : String) (default : Text) : Text :=
    match Fields.getD key.toList fs with
    | .str t => t
    | v => if v.isVoid then default else v.display
  let number (key : String) : Int := (Fields.getD key.toList fs).toInteger.toOption.getD 0
  { message := text "message" []
    line := number "line"
    column := number "column"
    endLine := number "end_line"
    endColumn := number "end_column"
    severity := text "severity" "error".toList
    source := some (text "source" [])
    code := text "code" []
    publishedMessage := text "published_message" [] }

/-- The diagnostic of a record, if it has the fields of one and no others. -/
def ofRecord? : Value → Option Diagnostic
  | .obj fs =>
    if neededFields.all (Fields.has · fs) &&
        (Fields.names fs).all (fun k => neededFields.contains k || otherFields.contains k) then
      some (ofFields fs)
    else none
  | _ => none

/-- The diagnostics of a list of records. -/
def ofRecords? : Value → Option (List Diagnostic)
  | .arr vs => vs.mapM ofRecord?
  | _ => none

/-- The diagnostics among the items of a list, whose objects must all be records; any other value
has none. -/
def amongItems? : Value → Option (List Diagnostic)
  | .arr vs => (vs.filter Value.isObject).mapM ofRecord?
  | _ => some []

end Diagnostic

end Legible
