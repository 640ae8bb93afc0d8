import Legible.Settings.Store

/-!
# Sessions with a settings file

A session is the settings together with what stands under their path, which changes between one
loading and the next.  It counts the warnings that loading has given.  Some sessions know only the
layers of the settings; the others read a configuration from them.

Overrides may have names that are no texts.  They reach no setting, but they are shown among the
settings until the next loading.
-/

namespace Legible.Settings

/-- Settings and what stands under their path. -/
structure Session where
  manager : Manager
  /-- Whether a configuration is read from the settings. -/
  hasConfig : Bool := true
  /-- Whether there is a path at all. -/
  hasPath : Bool := true
  source : Source := .absent
  unnamed : Fields := []
  warnings : Nat := 0

/-- Why what stands under the path cannot be changed. -/
inductive PathError
  | absent
  | exists
  | folder
  deriving DecidableEq, Repr

/-- Why settings cannot be loaded. -/
inductive LoadError
  /-- The document of the file, or a setting, is nested too deeply. -/
  | tooDeep
  | overrides (cause : Value.FieldsError)
  | config (cause : NotInteger)
  deriving DecidableEq, Repr

namespace Session

/-! ## The path -/

/-- Writes a file under the path. -/
def write (content : Bytes) (s : Session) : Except PathError Session :=
  match s.source with
  | .folder => .error .folder
  | _ => .ok { s with source := .file content }

/-- Makes a folder under the path. -/
def makeFolder (s : Session) : Except PathError Session :=
  match s.source with
  | .absent => .ok { s with source := .folder }
  | _ => .error .exists

/-- Removes the file under the path. -/
def remove (s : Session) : Except PathError Session :=
  match s.source with
  | .absent => .error .absent
  | .folder => .error .folder
  | .file _ => .ok { s with source := .absent }

/-! ## The settings -/

/-- All settings as they are shown. -/
def shown (s : Session) : Value := .obj (s.manager.store.data ++ s.unnamed)

/-- The setting under a key; the empty key stands for all of them. -/
def get? (s : Session) (key : Text) : Option Value :=
  if key.isEmpty then some s.shown else s.manager.store.get? key

/-- What a session comes to when only the last error of its settings changes. -/
def keep (s : Session) (store : Store) : Session :=
  { s with
    manager := { s.manager with store }
    warnings := s.warnings + if store.lastError.isSome then 1 else 0 }

/-- Loads the settings with overrides; neither may be nested too deeply. -/
def load (n : Nesting) (overrides : Value) (s : Session) : Except LoadError Unit × Session :=
  let source := if s.hasPath then s.source else .absent
  if source.holdsTooDeep n then (.error .tooDeep, s.keep s.manager.store.forgetError)
  else
    match overridesOf overrides with
    | .error e => (.error (.overrides e), s.keep (s.manager.store.look source))
    | .ok fs =>
      if n.laidOver < Value.fieldsDepth fs then
        (.error .tooDeep, s.keep (s.manager.store.look source))
      else
        let s := { s with unnamed := overrides.unnamedPairs }
        if s.hasConfig then
          let (result, manager) := s.manager.load source fs
          (result.map (fun _ => ()) |>.mapError .config,
            { s with manager, warnings := s.warnings + manager.warnings })
        else (.ok (), s.keep (s.manager.store.load source fs))

/-- The fields of the file under the path, unless it is nested too deeply. -/
def read? (n : Nesting) (s : Session) : Option (Except ReadError Fields) :=
  if s.source.isTooDeep n.read then none else some (read s.source)

end Session

end Legible.Settings
