import Legible.Value.Basic

/-!
# Log records

Records have a level, a number that grows with their weight; some levels have names.  The line of a
record is put together from its time, level, logger and text.
-/

namespace Legible.Log

/-- The levels with names. -/
def namedLevels : List (Int × Text) := [
  (0, "NOTSET".toList), (10, "DEBUG".toList), (20, "INFO".toList), (30, "WARNING".toList),
  (40, "ERROR".toList), (50, "CRITICAL".toList)]

/-- Other names of levels. -/
def otherNames : List (Text × Int) := [("FATAL".toList, 50), ("WARN".toList, 30)]

/-- The level of detailed records. -/
def debugLevel : Int := 10

/-- The level of ordinary records. -/
def infoLevel : Int := 20

/-- The level of warnings. -/
def warningLevel : Int := 30

/-- The name of a level. -/
def levelName (level : Int) : Text :=
  (namedLevels.lookup level).getD ("Level ".toList ++ Text.ofInt level)

/-- The level of a name. -/
def levelOfName? (name : Text) : Option Int :=
  ((namedLevels.find? (·.2 = name)).map (·.1)).or (otherNames.lookup name)

/-- Why a value is no level. -/
inductive LevelError
  | unknownName
  | wrongKind
  deriving DecidableEq, Repr

/-- The level that a value means. -/
def levelOfValue : Value → Except LevelError Int
  | .int n => .ok n
  | .bool b => .ok (if b then 1 else 0)
  | .str name =>
    match levelOfName? name with
    | some n => .ok n
    | none => .error .unknownName
  | _ => .error .wrongKind

/-- The level that a number means; a name is no number. -/
def levelOfNumber : Value → Except LevelError Int
  | .str _ => .error .wrongKind
  | v => levelOfValue v

/-- What a record shows as its level, which may be any value that can be a name: the name of a
number, the number of a name, or else the value itself. -/
def labelOf : Value → Text
  | .int n => levelName n
  | .str name => ((levelOfName? name).map Text.ofInt).getD ("Level ".toList ++ name)
  | .bool false => levelName 0
  | v => "Level ".toList ++ v.display

/-- A record. -/
structure Record where
  time : Text
  level : Int
  /-- What is shown as the level. -/
  label : Text := levelName level
  logger : Text
  text : Text
  deriving DecidableEq, Repr

/-- The line of a record in the program's own log: its time, its level, its logger and its text. -/
def Record.line (r : Record) : Text :=
  r.time ++ ' ' :: r.label ++ ' ' :: r.logger ++ ':' :: ' ' :: r.text

end Legible.Log
