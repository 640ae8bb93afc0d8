import Legible.Keymap.Command
import Legible.Rule

/-!
# Configuration

The configuration is the checked form of the settings.  `Config.ofSettings` reads every field of
the settings and gives those that make no sense their default; numbers are kept within bounds.
The one thing that it refuses is an infinite number.
-/

namespace Legible

/-- The colors of severities. -/
structure Palette where
  error : Text
  warning : Text
  info : Text
  deriving DecidableEq, Repr

namespace Palette

/-- The colors without settings. -/
def default : Palette := ⟨"#FF5555".toList, "#FFAA55".toList, "#55AAFF".toList⟩

/-- The color of a severity, in any letter case; hints have that of information, and unknown
severities that of errors. -/
def colorOf (p : Palette) (severity : Text) : Text :=
  let key := Text.lower (Text.strip severity)
  if key = "warning".toList then p.warning
  else if key = "info".toList || key = "hint".toList then p.info
  else p.error

/-- The names and colors of a palette. -/
def toList (p : Palette) : List (Text × Text) :=
  [("error".toList, p.error), ("warning".toList, p.warning), ("info".toList, p.info)]

end Palette

/-- The configuration. -/
structure Config where
  enabled : Bool := false
  maxHeight : Int := 15
  maxWidth : Int := 80
  showRaw : Bool := true
  debounceMs : Int := 100
  /-- What stands before a reworded message. -/
  lead : Text := "→ ".toList
  colors : Palette := Palette.default
  /-- Whether the lead stands before special cases as well. -/
  leadSpecial : Bool := false
  rewordPublished : Bool := true
  command : Text := "typescript-language-server".toList
  args : List Text := ["--stdio".toList]
  serverNames : List Text := ["tsserver".toList, "typescript-language-server".toList]
  logTraffic : Bool := false
  keymap : Keymap := Keymap.default
  /-- The rules of the settings; none means the usual ones. -/
  rules : Option (List WordingRule) := none

namespace Config

/-! ## The settings as they are without a file -/

/-- A rule as a value of the settings. -/
def ruleValue (r : WordingRule) : Value :=
  .obj [("pattern".toList, .str r.pattern), ("replace".toList, .str r.template)]

/-- The settings without a file. -/
def defaultSettings : Fields := [
  ("enabled".toList, .bool false),
  ("max_height".toList, .int 15),
  ("max_width".toList, .int 80),
  ("show_original_error".toList, .bool true),
  ("debounce_ms".toList, .int 100),
  ("styling".toList, .obj [
    ("prefix".toList, .str "→ ".toList),
    ("colors".toList, .obj (Palette.default.toList.map fun (k, c) => (k, .str c))),
    ("decorate_special_cases".toList, .bool false)]),
  ("integrate_with_lsp".toList, .bool true),
  ("lsp".toList, .obj [
    ("command".toList, .str "typescript-language-server".toList),
    ("args".toList, .arr [.str "--stdio".toList]),
    ("server_names".toList,
      .arr [.str "tsserver".toList, .str "typescript-language-server".toList]),
    ("log_lsp_traffic".toList, .bool false)]),
  ("keymaps".toList, Keymap.default.toValue),
  ("prettify_patterns".toList, .arr (WordingRule.defaults.map ruleValue))]

/-- Older names of settings and the current ones. -/
def aliases : List (Text × Text) := [("auto_show_on_cursor".toList, "enabled".toList)]

/-! ## Reading settings -/

/-- A number within bounds; what is no number counts as the default. -/
def bounded (v : Value) (default low high : Int) : Except NotInteger Int :=
  match v.toInteger with
  | .ok n => .ok (max low (min high n))
  | .error .infinite => .error .infinite
  | .error _ => .ok (max low (min high default))

/-- The texts of a value without blanks around them: of one text, or of the items of a list. -/
def textList : Value → List Text
  | .str t => [Text.strip t].filter (!·.isEmpty)
  | .arr vs => (vs.map fun v => Text.strip v.display).filter (!·.isEmpty)
  | _ => []

/-- The truth of a field, or a default where there is none. -/
def truth (v : Value) (key : String) (default : Bool) : Bool :=
  match v.field? key.toList with
  | some v => !v.isVoid
  | none => default

/-- A color of the settings, or the usual one where it is void. -/
def color (v : Value) (key : String) (usual : Text) : Text :=
  let v := v.field key.toList
  if v.isVoid then usual else v.display

/-- The colors of the settings. -/
def palette (v : Value) : Palette :=
  let usual := Palette.default
  ⟨color v "error" usual.error, color v "warning" usual.warning, color v "info" usual.info⟩

/-- The entries of the table of rules. -/
def ruleEntries (settings : Fields) : List WordingRule.Entry :=
  match settings.getD "prettify_patterns".toList with
  | .arr items => items.map .value
  | _ => []

/-- The number of entries in the table of rules that describe no rule. -/
def ignoredRules (settings : Fields) : Nat := (WordingRule.ofEntries (ruleEntries settings)).2

/-- The command of the language server. -/
def commandText (v : Value) : Text :=
  let usual := "typescript-language-server".toList
  let t := Text.strip (if v.isVoid then usual else v.display)
  if t.isEmpty then usual else t

/-- The configuration that settings describe. -/
def ofSettings (settings : Fields) : Except NotInteger Config := do
  let root : Value := .obj settings
  let styling := root.field "styling".toList
  let server := root.field "lsp".toList
  let names := textList (server.field "server_names".toList)
  let maxHeight ← bounded (root.field "max_height".toList) 15 1 200
  let maxWidth ← bounded (root.field "max_width".toList) 80 1 120
  let debounceMs ← bounded (root.field "debounce_ms".toList) 100 0 5000
  pure {
    enabled := truth root "enabled" false
    maxHeight, maxWidth, debounceMs
    showRaw := truth root "show_original_error" true
    lead := ((styling.field? "prefix".toList).map Value.display).getD []
    colors := palette (styling.field "colors".toList)
    leadSpecial := truth styling "decorate_special_cases" false
    rewordPublished := truth root "integrate_with_lsp" true
    command := commandText (server.field "command".toList)
    args := textList (server.field "args".toList)
    serverNames :=
      if names.isEmpty then ["tsserver".toList, "typescript-language-server".toList]
      else names.eraseDups
    logTraffic := truth server "log_lsp_traffic" false
    keymap := Keymap.ofValue (root.field "keymaps".toList)
    rules := some (WordingRule.ofEntries (ruleEntries settings)).1 }

end Config

end Legible
