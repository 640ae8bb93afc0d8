import Legible.Keymap.Command

/-!
# Transcripts of keys

The commands, the actions of the menu that carry them out, and the chords that are in conflict.
-/

namespace Legible

/-- The record of a chord that is already taken. -/
def Keymap.Conflict.toRecord (c : Keymap.Conflict) : Value :=
  .record [("action_id", .str c.command.id), ("action_name", .str c.command.title),
    ("sequence_text", .str c.chord)]

/-- The record of a command. -/
def Command.toRecord (c : Command) : Value :=
  .record [("action_id", .str c.id), ("action_name", .str c.title),
    ("default_sequence", .ofTexts c.defaultChords)]

namespace MenuAction

/-- An action with its name, its shortcut, and whether it shows a check mark. -/
def toEntry (a : MenuAction) : Value :=
  .arr [.str a.command.id, .str a.command.title, .str a.shortcut, .bool a.isCheckable]

/-- An action with its shortcut. -/
def shortcutEntry (a : MenuAction) : Value := .arr [.str a.command.id, .str a.shortcut]

end MenuAction

end Legible
