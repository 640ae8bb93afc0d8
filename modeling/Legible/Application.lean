import Legible.Log.Basic
import Legible.Pattern.AsciiName
import Legible.Startup
import Legible.Window.Basic

/-!
# The application

The application reads its arguments, finds the project and its settings, and opens the window,
with a file in it if one is named.  The project is the folder that the first argument names, or
the one that holds the file that it names, or else the folder in which the application is started.
-/

namespace Legible

namespace Application

/-- What happens when the application starts. -/
inductive Event
  | created (arguments : List Text)
  | styled (name : Text)
  | named (name : Text)
  | window (e : Window.Event)
  | shown

/-- Where the application starts. -/
structure Surroundings where
  files : Files
  /-- The folder in which it starts. -/
  base : Text
  /-- The home folder of the user. -/
  home : Text
  processId : Nat := 0
  /-- How deeply the settings may be nested. -/
  nesting : Settings.Nesting := {}

/-- Why the application cannot start. -/
inductive StartError
  /-- A path begins in a home folder that is not known. -/
  | unknownHome
  | pathTooLong
  /-- The settings are nested too deeply. -/
  | tooDeep
  | settings (cause : NotInteger)
  | rules (cause : RuleError)
  deriving DecidableEq, Repr

/-- The name of the settings file in a project. -/
def settingsName : Text := "pretty-ts-errors.json".toList

/-- The absolute path of a path that is given to the application. -/
def pathOf (s : Surroundings) (path : Text) : Except StartError Text := do
  match Path.fromHome? s.home (Path.tidy path) with
  | none => throw .unknownHome
  | some path =>
    let path := Path.inside s.base path
    if s.files.isTooLong path then throw .pathTooLong
    pure path

/-- The folder of the project. -/
def projectRoot (s : Surroundings) (file : Text) : Except StartError Text := do
  if file.isEmpty then pure s.base
  else
    let path ← pathOf s file
    pure (if s.files.isFolder path then Path.real path
      else if s.files.isFile path then Path.parent (Path.real path)
      else s.base)

/-- The path of the settings file: the one that was asked for, or that of the project. -/
def settingsPath (s : Surroundings) (root : Text) : Option Text → Except StartError Text
  | some path => pathOf s path
  | none => pathOf s (Path.inside root settingsName)

/-- The paths that can matter when the application starts: the file that is named, the settings
that are asked for, and those of every folder that can be the project. -/
def candidates (base home : Text) (arguments : List Text) : List Text :=
  let s := Startup.ofArguments arguments
  let path (p : Text) : Text := Path.inside base ((Path.fromHome? home p).getD p)
  let file := path (s.arguments.head?.getD [])
  let folders := [base, Path.real file, Path.parent (Path.real file)]
  file :: s.settings.toList.map path ++ folders.map fun f => Path.inside f settingsName

/-- How many rules of a configuration cannot be compiled. -/
def skippedRules (c : Config) (r : Message.Reworder) : Nat :=
  (c.rules.getD WordingRule.defaults).length - r.rules.length

end Application

/-- The application with its window, its log, and the number of warnings that it has logged. -/
structure Application where
  window : Window
  log : Log
  warnings : Nat
  events : List Application.Event

namespace Application

/-- Opens the file that was named, if there is one. -/
def openNamed (files : Files) (base file : Text) (w : Window) : Bool × Window :=
  if !file.isEmpty && files.isFile (Path.inside base file) then w.openFile file else (true, w)

/-- What is said when the application cannot start. -/
def StartError.message : StartError → Text
  | unknownHome => "The home folder is not known.".toList
  | pathTooLong => "A path is too long.".toList
  | tooDeep => "The settings are nested too deeply.".toList
  | settings _ => "The settings hold a number that is not finite.".toList
  | rules cause => "A rule cannot be read. ".toList ++ cause.message

/-- Starts the application. -/
def start (place : Surroundings) (arguments : List Text) : Except StartError Application := do
  let ⟨files, base, _, processId, nesting⟩ := place
  let s := Startup.ofArguments arguments
  let file := s.arguments.head?.getD []
  let root ← projectRoot place file
  let log := ({} : Log).configure (if s.debug then Log.debugLevel else Log.infoLevel) none
  let source := files.settingsSource (← settingsPath place root s.settings)
  if source.holdsTooDeep nesting then throw .tooDeep
  let (loaded, manager) := Settings.Manager.fresh.load source []
  let config ← loaded.mapError .settings
  let reworder ← (Message.Reworder.ofConfig config).mapError .rules
  let workspace :=
    { Workspace.create config reworder base root processId with rootExists := files.isFolder root }
  let (opened, window) := openNamed files base file (Window.create config reworder files workspace)
  let warnings := manager.warnings + (if manager.store.lastError.isSome then 1 else 0) +
    skippedRules config reworder + config.keymap.conflicts.length + (if opened then 0 else 1)
  pure {
    window, log, warnings
    events := [.created s.arguments, .styled "Fusion".toList, .named Window.programName] ++
      window.log.map .window ++ [.shown] }

end Application

end Legible
