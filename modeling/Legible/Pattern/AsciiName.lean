import Legible.Pattern.CharName

/-!
# Names of ASCII characters

The table of names with which the application runs: it has the names of the ASCII characters, also
the abbreviations of controls.  Letter case does not count.
-/

namespace Legible.AsciiName

/-- The names of the signs and digits. -/
def signs : List (String × Char) := [
  ("SPACE", ' '), ("EXCLAMATION MARK", '!'), ("QUOTATION MARK", '"'), ("NUMBER SIGN", '#'),
  ("DOLLAR SIGN", '$'), ("PERCENT SIGN", '%'), ("AMPERSAND", '&'), ("APOSTROPHE", '\''),
  ("LEFT PARENTHESIS", '('), ("RIGHT PARENTHESIS", ')'), ("ASTERISK", '*'), ("PLUS SIGN", '+'),
  ("COMMA", ','), ("HYPHEN-MINUS", '-'), ("FULL STOP", '.'), ("SOLIDUS", '/'),
  ("DIGIT ZERO", '0'), ("DIGIT ONE", '1'), ("DIGIT TWO", '2'), ("DIGIT THREE", '3'),
  ("DIGIT FOUR", '4'), ("DIGIT FIVE", '5'), ("DIGIT SIX", '6'), ("DIGIT SEVEN", '7'),
  ("DIGIT EIGHT", '8'), ("DIGIT NINE", '9'), ("COLON", ':'), ("SEMICOLON", ';'),
  ("LESS-THAN SIGN", '<'), ("EQUALS SIGN", '='), ("GREATER-THAN SIGN", '>'),
  ("QUESTION MARK", '?'), ("COMMERCIAL AT", '@'), ("LEFT SQUARE BRACKET", '['),
  ("REVERSE SOLIDUS", '\\'), ("RIGHT SQUARE BRACKET", ']'), ("CIRCUMFLEX ACCENT", '^'),
  ("LOW LINE", '_'), ("GRAVE ACCENT", '\x60'), ("LEFT CURLY BRACKET", '\x7b'),
  ("VERTICAL LINE", '|'), ("RIGHT CURLY BRACKET", '\x7d'), ("TILDE", '~')]

/-- The names of a letter in either case. -/
def ofLetter (c : Char) : List (Text × Char) :=
  [("LATIN CAPITAL LETTER ".toList ++ [c], c), ("LATIN SMALL LETTER ".toList ++ [c], c.toLower)]

/-- The names of the controls, in the order of their code points. -/
def controls : List (List String) := [
  ["NULL", "NUL"], ["START OF HEADING", "SOH"], ["START OF TEXT", "STX"], ["END OF TEXT", "ETX"],
  ["END OF TRANSMISSION", "EOT"], ["ENQUIRY", "ENQ"], ["ACKNOWLEDGE", "ACK"], ["ALERT", "BEL"],
  ["BACKSPACE", "BS"], ["CHARACTER TABULATION", "HORIZONTAL TABULATION", "HT", "TAB"],
  ["LINE FEED", "NEW LINE", "END OF LINE", "LF", "NL", "EOL"],
  ["LINE TABULATION", "VERTICAL TABULATION", "VT"], ["FORM FEED", "FF"], ["CARRIAGE RETURN", "CR"],
  ["SHIFT OUT", "LOCKING-SHIFT ONE", "SO"], ["SHIFT IN", "LOCKING-SHIFT ZERO", "SI"],
  ["DATA LINK ESCAPE", "DLE"], ["DEVICE CONTROL ONE", "DC1"], ["DEVICE CONTROL TWO", "DC2"],
  ["DEVICE CONTROL THREE", "DC3"], ["DEVICE CONTROL FOUR", "DC4"], ["NEGATIVE ACKNOWLEDGE", "NAK"],
  ["SYNCHRONOUS IDLE", "SYN"], ["END OF TRANSMISSION BLOCK", "ETB"], ["CANCEL", "CAN"],
  ["END OF MEDIUM", "EOM"], ["SUBSTITUTE", "SUB"], ["ESCAPE", "ESC"],
  ["INFORMATION SEPARATOR FOUR", "FILE SEPARATOR", "FS"],
  ["INFORMATION SEPARATOR THREE", "GROUP SEPARATOR", "GS"],
  ["INFORMATION SEPARATOR TWO", "RECORD SEPARATOR", "RS"],
  ["INFORMATION SEPARATOR ONE", "UNIT SEPARATOR", "US"]]

/-- The other names of the space, and those of the last control. -/
def others : List (String × Char) := [("SP", ' '), ("DELETE", '\x7f'), ("DEL", '\x7f')]

/-- All names with their characters. -/
def table : List (Text × Char) :=
  (signs ++ others).map (fun s => (s.1.toList, s.2)) ++
    "ABCDEFGHIJKLMNOPQRSTUVWXYZ".toList.flatMap ofLetter ++
    controls.zipIdx.flatMap fun (names, n) => names.map fun s => (s.toList, Char.ofNat n)

instance : CharNames where
  ofName? name := table.lookup (name.map Char.toUpper)

end Legible.AsciiName
