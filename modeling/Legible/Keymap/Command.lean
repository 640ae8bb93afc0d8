import Legible.Keymap.Chord

/-!
# Commands and their keys

The four commands and the chords that call them.  A keymap in the settings names commands by
their identifiers, with blanks around them ignored, and gives each a chord, a list of chords, or
an empty list, which takes its keys away.  What it gives no sense to keeps the default.
-/

namespace Legible

/-- What the user can ask for by a key. -/
inductive Command
  | toggle
  | showAtCursor
  | nextError
  | prevError
  deriving DecidableEq, Repr

namespace Command

/-- The commands in the order of the menu. -/
def all : List Command := [.toggle, .showAtCursor, .nextError, .prevError]

/-- The identifier of a command in settings. -/
def id : Command → Text
  | toggle => "toggle".toList
  | showAtCursor => "show_at_cursor".toList
  | nextError => "next_error".toList
  | prevError => "prev_error".toList

/-- The name of a command in the menu. -/
def title : Command → Text
  | toggle => "Toggle Pretty TS Errors".toList
  | showAtCursor => "Show TS Error at Cursor".toList
  | nextError => "Next TS Error".toList
  | prevError => "Previous TS Error".toList

/-- The chords that call a command unless the settings say otherwise. -/
def defaultChords : Command → List Text
  | toggle => ["Ctrl+Alt+E".toList]
  | showAtCursor => ["Ctrl+Alt+S".toList]
  | nextError => ["F8".toList]
  | prevError => ["Shift+F8".toList]

/-- The command of an identifier, with blanks around it ignored. -/
def ofText? (t : Text) : Option Command := all.find? fun c => c.id = Text.strip t

end Command

/-- The chords of every command. -/
structure Keymap where
  toggle : List Text
  showAtCursor : List Text
  nextError : List Text
  prevError : List Text
  deriving DecidableEq, Repr

namespace Keymap

/-- The chords of a command. -/
def get (m : Keymap) : Command → List Text
  | .toggle => m.toggle
  | .showAtCursor => m.showAtCursor
  | .nextError => m.nextError
  | .prevError => m.prevError

/-- Gives a command other chords. -/
def set (m : Keymap) (c : Command) (chords : List Text) : Keymap :=
  match c with
  | .toggle => { m with toggle := chords }
  | .showAtCursor => { m with showAtCursor := chords }
  | .nextError => { m with nextError := chords }
  | .prevError => { m with prevError := chords }

/-- The keymap without settings. -/
def default : Keymap :=
  ⟨Command.toggle.defaultChords, Command.showAtCursor.defaultChords,
    Command.nextError.defaultChords, Command.prevError.defaultChords⟩

/-- Enters one field of a keymap in the settings. -/
def enter (m : Keymap) (key : Text) (v : Value) : Keymap :=
  match Command.ofText? key, v with
  | none, _ => m
  | some c, .arr [] => m.set c []
  | some c, v =>
    match sequenceOfValue v with
    | [] => m
    | chords => m.set c chords

/-- The keymap of a value in the settings. -/
def ofValue (v : Value) : Keymap := v.fields.foldl (fun m f => m.enter f.1 f.2) default

/-- The chords of the command that an identifier names, none if it names no command. -/
def chordsOf (m : Keymap) (id : Text) : List Text :=
  match Command.ofText? id with
  | some c => m.get c
  | none => []

/-- A keymap as a value of the settings. -/
def toValue (m : Keymap) : Value :=
  .obj (Command.all.map fun c => (c.id, .arr ((m.get c).map .str)))

@[simp] theorem get_set_self (m : Keymap) (c : Command) (chords : List Text) :
    (m.set c chords).get c = chords := by
  cases c <;> rfl

theorem get_set_of_ne (m : Keymap) {c d : Command} (h : d ≠ c) (chords : List Text) :
    (m.set c chords).get d = m.get d := by
  cases c <;> cases d <;> first | rfl | exact absurd rfl h

theorem get_default (c : Command) : default.get c = c.defaultChords := by
  cases c <;> rfl

/-! ## Conflicts -/

/-- A chord of a command that is already taken. -/
structure Conflict where
  command : Command
  chord : Text
  deriving DecidableEq, Repr

/-- What is said about a chord that is already taken. -/
def Conflict.message (c : Conflict) : Text :=
  "Shortcut ".toList ++ c.chord ++ " for ".toList ++ Text.quoted c.command.title ++
    " is already bound to another command".toList

/-- The chords among `chords` that were taken before, given those taken so far. -/
def takenBefore (command : Command) : List Text → List Text → List Conflict
  | _, [] => []
  | taken, chord :: rest =>
    if taken.contains chord then ⟨command, chord⟩ :: takenBefore command taken rest
    else takenBefore command (chord :: taken) rest

/-- The conflicts of some commands, given the chords taken so far. -/
def conflictsAmong (m : Keymap) : List Text → List Command → List Conflict
  | _, [] => []
  | taken, c :: rest =>
    takenBefore c taken (m.get c) ++ conflictsAmong m (m.get c ++ taken) rest

/-- The chords that are given more than once, each after the first time. -/
def conflicts (m : Keymap) : List Conflict := conflictsAmong m [] Command.all

end Keymap

/-! ## Menu actions -/

/-- An action of the menu. -/
structure MenuAction where
  command : Command
  shortcut : Text
  deriving DecidableEq, Repr

namespace MenuAction

/-- Whether an action shows a check mark. -/
def isCheckable (a : MenuAction) : Bool := a.command = .toggle

/-- The text of a command's chords. -/
def shortcutFor (m : Keymap) (c : Command) : Text := Keymap.sequenceText (m.get c)

/-- The actions of the commands that can be carried out. -/
def create (m : Keymap) (handled : Command → Bool) : List MenuAction :=
  (Command.all.filter handled).map fun c => ⟨c, shortcutFor m c⟩

/-- Gives every action the chords of another keymap. -/
def apply (m : Keymap) (actions : List MenuAction) : List MenuAction :=
  actions.map fun a => { a with shortcut := shortcutFor m a.command }

end MenuAction

end Legible
