import Legible.Settings.Config
import Legible.Settings.Merge
import Legible.Text.Utf8
import Legible.Value.Parser

/-!
# Settings of a file

Settings come in three layers: the defaults, the file, and overrides given by the caller.  A
file that cannot be read, or that holds no object, leaves the defaults in force and is told as
the last error; it is never written.
-/

namespace Legible.Settings

/-- How deeply documents that are read, and values that are laid over others, may be nested. -/
structure Nesting where
  read : Nat := 990
  laidOver : Nat := 493
  deriving DecidableEq, Repr

/-- What is found under the path of the settings. -/
inductive Source
  | absent
  | folder
  | file (content : Bytes)
  deriving DecidableEq, Repr

/-- Whether the document of a file is nested more deeply than a bound. -/
def Source.isTooDeep (depth : Nat) : Source → Bool
  | .file content => (Text.decode? content).any (Value.isTooDeep depth)
  | _ => false

/-- Why a settings file gives no settings. -/
inductive ReadError
  /-- There is no file, or its content is no document. -/
  | unreadable
  /-- The document is no object; its kind is told. -/
  | noObject (kind : Text)
  deriving DecidableEq, Repr

/-- What is said about a file that gives no settings. -/
def ReadError.message (path : Text) : ReadError → Text
  | unreadable => "Could not read settings file '".toList ++ path ++ "'".toList
  | noObject kind =>
    "Settings root in '".toList ++ path ++ "' must be a JSON object, found ".toList ++ kind ++
      ".".toList

/-- The name of the kind of a value. -/
def kindName : Value → Text
  | .null => "NoneType".toList
  | .bool _ => "bool".toList
  | .int _ => "int".toList
  | .double _ => "float".toList
  | .str _ => "str".toList
  | .arr _ => "list".toList
  | .obj _ => "dict".toList

/-- The fields in the content of a settings file. -/
def readContent (content : Bytes) : Except ReadError Fields :=
  match (Text.decode? content).bind Value.parse? with
  | some (.obj fs) => .ok fs
  | some v => .error (.noObject (kindName v))
  | none => .error .unreadable

/-- The fields of a settings file. -/
def read : Source → Except ReadError Fields
  | .file content => readContent content
  | _ => .error .unreadable

/-- Whether a file, or one of the settings in it, is nested too deeply. -/
def Source.holdsTooDeep (n : Nesting) (s : Source) : Bool :=
  s.isTooDeep n.read || (read s).toOption.any fun fs => n.laidOver < Value.fieldsDepth fs

/-- The fields that a caller lays over the settings; a void value lays none. -/
def overridesOf (v : Value) : Except Value.FieldsError Fields :=
  if v.isVoid then .ok [] else v.asFields

/-- The layers of settings, and what came of the last attempt to load them. -/
structure Store where
  defaults : Fields
  aliases : List (Text × Text) := []
  data : Fields := defaults
  lastError : Option ReadError := none

namespace Store

/-- What is found under the path of the settings, and what is wrong with it. -/
def found : Source → Fields × Option ReadError
  | .absent => ([], none)
  | source =>
    match read source with
    | .ok fs => (fs, none)
    | .error e => ([], some e)

/-- Loads the settings: what is found under the path over the defaults, and then the overrides. -/
def load (s : Store) (source : Source) (overrides : Fields) : Store :=
  let (loaded, lastError) := found source
  let data := merge s.defaults (resolveAliases s.aliases loaded)
  let data := if overrides.isEmpty then data else merge data (resolveAliases s.aliases overrides)
  { s with data, lastError }

/-- Forgets what was wrong with what was last found under the path of the settings. -/
def forgetError (s : Store) : Store := { s with lastError := none }

/-- Looks under the path of the settings without taking over what is found. -/
def look (s : Store) (source : Source) : Store := { s with lastError := (found source).2 }

/-- The value under a key, whose dots lead into nested objects. -/
def get? (s : Store) (key : Text) : Option Value := lookUp (.obj s.data) key

end Store

/-- The settings and the configuration that was last read from them. -/
structure Manager where
  store : Store
  config : Config

namespace Manager

/-- Settings that have not been loaded yet. -/
def fresh : Manager :=
  { store := { defaults := Config.defaultSettings, aliases := Config.aliases }
    config := (Config.ofSettings Config.defaultSettings).toOption.getD {} }

/-- Loads the settings.  The settings are kept even where they give no configuration. -/
def load (m : Manager) (source : Source) (overrides : Fields) :
    Except NotInteger Config × Manager :=
  let store := m.store.load source overrides
  match Config.ofSettings store.data with
  | .ok config => (.ok config, ⟨store, config⟩)
  | .error e => (.error e, { m with store })

/-- The number of warnings that loading has given. -/
def warnings (m : Manager) : Nat :=
  (if m.store.lastError.isSome then 1 else 0) + Config.ignoredRules m.store.data

end Manager

end Legible.Settings
