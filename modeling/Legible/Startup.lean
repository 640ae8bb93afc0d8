import Legible.Text.Basic

/-!
# Startup arguments

The arguments of the command line hold two options, wherever they stand: one for detailed logging
and one for the path of the settings file.  What is left are the arguments proper, in order.
-/

namespace Legible

/-- What the arguments of the command line say. -/
structure Startup where
  arguments : List Text := []
  debug : Bool := false
  settings : Option Text := none
  deriving DecidableEq, Repr

namespace Startup

/-- The option for detailed logging. -/
def debugOption : Text := "--debug".toList

/-- What stands before the path of the settings file. -/
def settingsOption : Text := "--settings=".toList

/-- Takes one argument; an empty path of the settings file takes an earlier one back. -/
def take (s : Startup) (argument : Text) : Startup :=
  if argument = debugOption then { s with debug := true }
  else if settingsOption.isPrefixOf argument then
    let path := argument.drop settingsOption.length
    { s with settings := if path.isEmpty then none else some path }
  else { s with arguments := s.arguments ++ [argument] }

/-- Reads the arguments of the command line. -/
def ofArguments (arguments : List Text) : Startup := arguments.foldl take {}

end Startup

end Legible
