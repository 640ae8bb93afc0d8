import Legible.Number.Reading
import Legible.Pattern.Basic
import Legible.Pattern.CharName
import Legible.Text.Name

/-!
# Reading patterns

The written form of a pattern.  It is read as a list of tokens, each a character or a backslash
with the character after it.  `parse` gives the pattern and the number of its groups, or the
reason why the text is no pattern.

Flags for the whole pattern stand at its beginning; flags of a group hold inside it.  Every part
of a pattern carries the flags that it needs, so that matching knows no flags.

Characters may be written by their names, which are looked up in a table.

The readers call each other with a bound on their depth.  Each step reads a token or enters a
part of the pattern, so four times the number of tokens is enough.
-/

namespace Legible.Pattern

variable [CharNames]

/-- Why a text is no pattern. -/
inductive PatternError
  /-- The text does not follow the form of patterns. -/
  | malformed
  /-- A number of rounds is too large. -/
  | countTooLarge
  /-- A number of rounds has too many digits. -/
  | countTooLong
  /-- The whole pattern asks for two kinds of characters at once. -/
  | flagConflict
  /-- Parentheses are nested too deeply. -/
  | tooDeep
  deriving DecidableEq, Repr

/-- One sign of a written pattern. -/
inductive Token
  | char (c : Char)
  | escape (c : Char)
  /-- A backslash at the end. -/
  | dangling
  deriving DecidableEq, Repr

/-- The tokens of a text. -/
def tokens : Text → List Token
  | [] => []
  | ['\\'] => [.dangling]
  | '\\' :: c :: rest => .escape c :: tokens rest
  | c :: rest => .char c :: tokens rest

/-- The characters of a token. -/
def Token.text : Token → Text
  | .char c => [c]
  | .escape c => ['\\', c]
  | .dangling => ['\\']

/-- The flags in force at a place of a pattern. -/
structure Flags where
  ignoreCase : Bool := false
  multiLine : Bool := false
  dotAll : Bool := false
  verbose : Bool := false
  ascii : Bool := false
  /-- All scripts are asked for by name. -/
  allScripts : Bool := false
  /-- Repetitions are refused. -/
  noRepeats : Bool := false
  deriving DecidableEq, Repr

/-- How letter case is treated under some flags. -/
def Flags.fold (f : Flags) : Fold :=
  if f.ignoreCase then if f.ascii then .ascii else .full else .exact

/-- The least and the greatest length of the texts that a pattern matches. -/
structure Width where
  least : Nat
  most : Option Nat
  deriving DecidableEq, Repr

namespace Width

/-- The width of a pattern that matches only the empty text. -/
def zero : Width := ⟨0, some 0⟩

/-- The width of one character. -/
def one : Width := ⟨1, some 1⟩

/-- The width of one pattern after another. -/
def add (v w : Width) : Width :=
  ⟨v.least + w.least, match v.most, w.most with
    | some a, some b => some (a + b)
    | _, _ => none⟩

/-- The width of one pattern or another. -/
def join (v w : Width) : Width :=
  ⟨min v.least w.least, match v.most, w.most with
    | some a, some b => some (max a b)
    | _, _ => none⟩

/-- The width of a repetition. -/
def times (v : Width) (least : Nat) (most : Option Nat) : Width :=
  ⟨v.least * least, match v.most, most with
    | some a, some b => some (a * b)
    | some a, none => if a = 0 then some 0 else none
    | none, some b => if b = 0 then some 0 else none
    | none, none => none⟩

end Width

/-- A part of an alternative.  One that is `joined` may be written together with the parts of
other alternatives; one with flags of its own may not. -/
structure Part where
  node : Node
  joined : Bool := true

/-- What a repetition may follow: a part, or the parts of parentheses that only hold them
together. -/
structure Piece where
  parts : List Part
  width : Width
  isPlace : Bool := false
  isRepetition : Bool := false

/-- A piece of one part. -/
def Piece.one (node : Node) (width : Width) : Piece := { parts := [⟨node, true⟩], width }

/-- The parts as one pattern. -/
def nodeOf (parts : List Part) : Node := Node.sequence (parts.map (·.node))

/-- What a reader knows: the tokens to come, the flags, and the groups met so far. -/
structure Reader where
  rest : List Token
  flags : Flags := {}
  /-- The widths of the groups, none for one that is still open. -/
  groups : List (Option Width) := []
  names : List (Text × Nat) := []
  /-- Inside a condition on what stands before: the number of groups outside it, plus one. -/
  outside : Option Nat := none
  /-- The greatest group that a conditional names. -/
  named : Nat := 0
  /-- How deeply parentheses are nested; those of a conditional count half. -/
  nesting : Nat := 0
  /-- A fault that is reported after all others. -/
  faulty : Bool := false

/-- A reader of a part of a pattern. -/
abbrev Parse := StateT Reader (Except PatternError)

/-- Fails for the form of the pattern. -/
def malformed {α : Type} : Parse α := throw .malformed

/-- Goes on to the given tokens; a dangling backslash is found as soon as it comes next. -/
def goTo (rest : List Token) : Parse Unit := do
  if rest.head? = some .dangling then malformed
  modify fun r => { r with rest }

/-- The next token, which stays. -/
def peek : Parse (Option Token) := do return (← get).rest.head?

/-- The next token, which is taken. -/
def take : Parse (Option Token) := do
  match (← get).rest with
  | [] => return none
  | t :: rest =>
    goTo rest
    return some t

/-- Takes a character if it comes next. -/
def accept (c : Char) : Parse Bool := do
  match (← get).rest with
  | t :: rest => if t = .char c then goTo rest; return true else return false
  | [] => return false

/-- Takes a character, which must come next. -/
def expect (c : Char) : Parse Unit := do
  unless ← accept c do malformed

/-- Takes up to `count` characters while they pass a test. -/
def takeWhile (test : Char → Bool) : Nat → Parse Text
  | 0 => return []
  | count + 1 => do
    match ← peek with
    | some (.char c) =>
      if test c then
        let _ ← take
        return c :: (← takeWhile test count)
      else return []
    | _ => return []

/-- Takes all characters up to `stop`, which is taken too. -/
def takeUntil (stop : Char) : Nat → Parse Text
  | 0 => malformed
  | fuel + 1 => do
    match ← take with
    | none => malformed
    | some t =>
      if t = .char stop then return []
      else return t.text ++ (← takeUntil stop fuel)

/-- A name in a pattern up to `stop`; it must not be empty. -/
def takeName (stop : Char) : Parse Text := do
  let name ← takeUntil stop ((← get).rest.length + 1)
  if name.isEmpty then malformed
  return name

/-- Drops the tokens of a comment up to the end of the line, or to a backslash at the end. -/
def dropLine : List Token → List Token
  | [] => []
  | [.dangling] => [.dangling]
  | t :: rest => if t = .char '\n' then rest else dropLine rest

/-- The tokens after a comment in parentheses. -/
def dropRemark? : List Token → Option (List Token)
  | [] => none
  | t :: rest => if t = .char ')' then some rest else dropRemark? rest

/-! ## Groups -/

/-- Opens a group, with a name or without. -/
def openGroup (name : Option Text) : Parse Nat := do
  let r ← get
  let index := r.groups.length
  let names ← match name with
    | none => pure r.names
    | some n => if (r.names.lookup n).isSome then malformed else pure ((n, index) :: r.names)
  set { r with groups := r.groups ++ [none], names }
  return index

/-- Closes a group. -/
def closeGroup (index : Nat) (width : Width) : Parse Unit :=
  modify fun r => { r with groups := r.groups.set index (some width) }

/-- The width of a group that is closed. -/
def groupWidth? (r : Reader) (index : Nat) : Option Width := (r.groups[index]?).join

/-- Refuses, in a condition on what stands before, a group that is open or belongs to it. -/
def checkOutside (index : Nat) : Parse Unit := do
  let r ← get
  match r.outside with
  | none => return ()
  | some limit =>
    if (groupWidth? r index).isNone then malformed
    if limit ≤ index + 1 then malformed

/-- A reference back to a group, which must be closed. -/
def reference (index : Nat) : Parse Piece := do
  let r ← get
  match groupWidth? r index with
  | none => malformed
  | some width =>
    checkOutside index
    return .one (.backreference index r.flags.fold) width

/-! ## Escapes -/

/-- The number of exactly `count` hexadecimal digits. -/
def hexNumber (count : Nat) : Parse Nat := do
  let digits ← takeWhile (fun c => (Text.hexValue? c).isSome) count
  if digits.length < count then malformed
  return Text.ofDigits 16 (digits.map fun c => (Text.hexValue? c).getD 0)

/-- Whether a character is an octal digit. -/
def isOctal (c : Char) : Bool := '0' ≤ c && c ≤ '7'

/-- The number that octal digits spell. -/
def octalNumber (digits : Text) : Nat := Text.ofDigits 8 (digits.map fun c => c.toNat - 48)

/-- Whether a character is one of the letters a to z in either case. -/
def isAsciiLetter (c : Char) : Bool := 'a' ≤ c && c ≤ 'z' || 'A' ≤ c && c ≤ 'Z'

/-- The code point of a control that has a letter of its own. -/
def controlOf : Char → Option Nat
  | 'a' => some 7
  | 'f' => some 12
  | 'n' => some 10
  | 'r' => some 13
  | 't' => some 9
  | 'v' => some 11
  | _ => none

/-- The class of characters that a letter stands for. -/
def categoryOf : Char → Option SetItem
  | 'd' => some (.category .digit false)
  | 'D' => some (.category .digit true)
  | 's' => some (.category .space false)
  | 'S' => some (.category .space true)
  | 'w' => some (.category .word false)
  | 'W' => some (.category .word true)
  | _ => none

/-- The place that a letter stands for. -/
def placeOf (ascii : Bool) : Char → Option Anchor
  | 'A' => some .textStart
  | 'Z' => some .textEnd
  | 'b' => some (.wordEdge ascii)
  | 'B' => some (.noWordEdge ascii)
  | _ => none

/-- The code point of the character whose name stands in braces; the table must have the name. -/
def namedChar : Parse Nat := do
  expect '\x7b'
  match CharNames.ofName? (← takeName '\x7d') with
  | none => malformed
  | some c => return c.toNat

/-- The code point of an escape that means the same in a set and outside: a control, the name of a
character, a number in hexadecimal digits, or a sign that is no letter and no digit. -/
def plainEscape (c : Char) : Parse Nat := do
  if let some n := controlOf c then return n
  if c = 'N' then return (← namedChar)
  if c = 'x' then hexNumber 2
  else if c = 'u' then hexNumber 4
  else if c = 'U' then do
    let n ← hexNumber 8
    if 0x10FFFF < n then malformed
    return n
  else if isAsciiLetter c || Text.isAsciiDigit c then malformed
  else return c.toNat

/-- An octal number of up to three digits, the first of which is `c`. -/
def octalEscape (c : Char) : Parse Nat := do
  let more ← takeWhile isOctal 2
  let n := octalNumber (c :: more)
  if 0o377 < n then malformed
  return n

/-- An escape inside a set. -/
def setEscape (c : Char) : Parse SetItem := do
  if c = 'b' then return .char 8
  if let some item := categoryOf c then return item
  if isOctal c then return .char (← octalEscape c)
  return .char (← plainEscape c)

/-- One character of a pattern. -/
def literal (flags : Flags) (n : Nat) : Piece := .one (.one (.char n false flags.fold)) .one

/-- A place of a pattern. -/
def placePiece (place : Anchor) : Piece := { Piece.one (.anchor place) .zero with isPlace := true }

/-- An escape that begins with a digit other than zero: an octal number of three digits, or the
number of a group in one or two. -/
def digitEscape (flags : Flags) (c : Char) : Parse Piece := do
  match ← takeWhile Text.isAsciiDigit 1 with
  | [d] =>
    let third ← if isOctal c && isOctal d then takeWhile isOctal 1 else pure []
    if third.isEmpty then reference (octalOrTen [c, d] - 1)
    else
      let n := octalNumber ([c, d] ++ third)
      if 0o377 < n then malformed
      return literal flags n
  | _ => reference (octalOrTen [c] - 1)
where
  /-- The number that decimal digits spell. -/
  octalOrTen (digits : Text) : Nat := Text.ofDigits 10 (digits.map fun c => c.toNat - 48)

/-- An escape outside a set. -/
def escapePiece (c : Char) : Parse Piece := do
  let flags := (← get).flags
  if let some place := placeOf flags.ascii c then
    return placePiece place
  if let some item := categoryOf c then
    return .one (.one (.set [item] false flags.fold flags.ascii)) .one
  if c = '0' then
    let more ← takeWhile isOctal 2
    return literal flags (octalNumber more)
  if Text.isAsciiDigit c then digitEscape flags c
  else return literal flags (← plainEscape c)

/-! ## Sets -/

/-- One end of a range in a set, or a part of its own. -/
def setPart : Token → Parse SetItem
  | .char c => return .char c.toNat
  | .escape c => setEscape c
  | .dangling => malformed

/-- The range between two parts of a set that are characters. -/
def rangeOf : SetItem → SetItem → Parse SetItem
  | .char first, .char last => if last < first then malformed else return .range first last
  | _, _ => malformed

/-- The parts of a set up to its bracket; a bracket that comes first is a part. -/
def setItems : Nat → List SetItem → Parse (List SetItem)
  | 0, _ => malformed
  | fuel + 1, found => do
    match ← take with
    | none => malformed
    | some t =>
      if t = .char ']' ∧ found ≠ [] then return found.reverse
      let first ← setPart t
      if ← accept '-' then
        match ← take with
        | none => malformed
        | some u =>
          if u = .char ']' then return (.char 45 :: first :: found).reverse
          let last ← setPart u
          setItems fuel ((← rangeOf first last) :: found)
      else setItems fuel (first :: found)

/-- A set, after its bracket; one character alone is tested as such. -/
def setPiece : Parse Piece := do
  let negated ← accept '^'
  let r ← get
  let items ← setItems (r.rest.length + 1) []
  let test : CharTest :=
    match items.eraseDups with
    | [.char n] => .char n negated r.flags.fold
    | items => .set items negated r.flags.fold r.flags.ascii
  return .one (.one test) .one

/-! ## Repetitions -/

/-- The greatest number of rounds is below this one. -/
def roundLimit : Nat := 4294967295

/-- The width of what a pattern looks back at is below this one. -/
def lookBehindLimit : Nat := 4294967295

/-- A number of rounds. -/
def roundNumber (digits : Text) : Parse Nat := do
  match Number.ofNumeral (digits.map fun c => c.toNat - 48) with
  | .error _ => throw .countTooLong
  | .ok n =>
    if roundLimit ≤ n then throw .countTooLarge
    return n

/-- The numbers of rounds after a brace, or none where the brace stands for itself. -/
def roundBounds : Parse (Option (Nat × Option Nat)) := do
  let start := (← get).rest
  let size := start.length
  if (← peek) = some (.char '\x7d') then return none
  let low ← takeWhile Text.isAsciiDigit size
  let high ← if ← accept ',' then takeWhile Text.isAsciiDigit size else pure low
  unless ← accept '\x7d' do
    goTo start
    return none
  let least ← if low.isEmpty then pure 0 else roundNumber low
  if high.isEmpty then return some (least, none)
  let most ← roundNumber high
  if most < least then malformed
  return some (least, some most)

/-- The greed of a repetition, by the sign after it. -/
def greedAfter : Parse Greed := do
  if ← accept '?' then return .lazy
  if ← accept '+' then return .possessive
  return .greedy

/-- Repeats the last piece of those found; there must be one, and it must be no place and no
repetition. -/
def repeatLast (found : List Piece) (least : Nat) (most : Option Nat) : Parse (List Piece) := do
  match found with
  | [] => malformed
  | piece :: before =>
    if piece.isPlace || piece.isRepetition then malformed
    let greed ← greedAfter
    modify fun r => { r with faulty := r.faulty || r.flags.noRepeats }
    let node := Node.repeated greed least most (nodeOf piece.parts)
    return { Piece.one node (piece.width.times least most) with isRepetition := true } :: before

/-! ## Flags -/

/-- Whether a character names a flag. -/
def isFlag (c : Char) : Bool := "iLmsxatu".toList.contains c

/-- The letters of flags up to a character that is none; that one is given with them. -/
def flagLetters : Nat → List Char → Parse (List Char × Char)
  | 0, _ => malformed
  | fuel + 1, found => do
    match ← take with
    | some (.char c) =>
      if isFlag c then flagLetters fuel (c :: found) else return (found, c)
    | _ => malformed

/-- Some flags with others turned on. -/
def Flags.add (f : Flags) (on : List Char) : Flags :=
  { ignoreCase := f.ignoreCase || on.contains 'i'
    multiLine := f.multiLine || on.contains 'm'
    dotAll := f.dotAll || on.contains 's'
    verbose := f.verbose || on.contains 'x'
    ascii := f.ascii || on.contains 'a'
    allScripts := f.allScripts || on.contains 'u'
    noRepeats := f.noRepeats || on.contains 't' }

/-- The flags inside a group that turns some on and some off. -/
def Flags.inside (f : Flags) (on off : List Char) : Flags :=
  let f := if on.contains 'a' || on.contains 'u' then { f with ascii := false } else f
  let f := f.add on
  { f with
    ignoreCase := f.ignoreCase && !off.contains 'i'
    multiLine := f.multiLine && !off.contains 'm'
    dotAll := f.dotAll && !off.contains 's'
    verbose := f.verbose && !off.contains 'x' }

/-- The flags of parentheses that begin with a flag or a minus sign: for the whole pattern, or
those turned on and off for a group. -/
def flagGroup (first : Char) : Parse (List Char × Option (List Char)) := do
  let size := (← get).rest.length + 1
  let (on, stop) ← if first = '-' then pure ([], '-') else flagLetters size [first]
  if on.contains 'L' || on.contains 'a' && on.contains 'u' then malformed
  if stop = ')' then return (on, none)
  if on.contains 't' then malformed
  if stop = ':' then return (on, some [])
  unless stop = '-' do malformed
  let (off, stop) ← flagLetters size []
  if off.isEmpty || stop ≠ ':' then malformed
  if off.any (fun c => "aLut".toList.contains c || on.contains c) then malformed
  return (on, some off)

/-! ## The pattern as a whole -/

/-- What a parenthesis begins. -/
inductive Opening
  /-- Something that is finished and leaves nothing, or a piece. -/
  | done (piece : Option Piece)
  /-- A group whose text is kept. -/
  | keep (name : Option Text)
  /-- A group with flags of its own. -/
  | scoped (on off : List Char)
  | atomic
  | look (behind negated : Bool)
  | conditional

/-- Reads what stands after a parenthesis and a question mark; `atStart` says that flags for the
whole pattern may stand here. -/
def opening (atStart : Bool) : Parse Opening := do
  match ← take with
  | some (.char 'P') =>
    if ← accept '<' then
      let name ← takeName '>'
      unless Text.isName name do malformed
      return .keep (some name)
    if ← accept '=' then
      let name ← takeName ')'
      unless Text.isName name do malformed
      match (← get).names.lookup name with
      | none => malformed
      | some index => return .done (some (← reference index))
    malformed
  | some (.char ':') => return .scoped [] []
  | some (.char '#') =>
    match dropRemark? (← get).rest with
    | none => malformed
    | some rest =>
      goTo rest
      return .done none
  | some (.char '=') => return .look false false
  | some (.char '!') => return .look false true
  | some (.char '<') =>
    if ← accept '=' then return .look true false
    if ← accept '!' then return .look true true
    malformed
  | some (.char '(') => return .conditional
  | some (.char '>') => return .atomic
  | some (.char c) =>
    unless isFlag c || c = '-' do malformed
    match ← flagGroup c with
    | (on, none) =>
      unless atStart do malformed
      modify fun r => { r with flags := r.flags.add on }
      return .done none
    | (on, some off) => return .scoped on off
  | _ => malformed

/-- The group that a conditional asks for, by name or by number. -/
def conditionGroup : Parse Nat := do
  let name ← takeName ')'
  if Text.isName name then
    match (← get).names.lookup name with
    | none => malformed
    | some index => return index
  match Number.ofText name with
  | .ok (.ofNat (index + 1)) =>
    if 1073741823 ≤ index + 1 then malformed
    modify fun r => { r with named := max r.named (index + 1) }
    return index
  | _ => malformed

/-- The parts of the pieces in order, which are collected in reverse. -/
def inOrder (found : List Piece) : List Part × Width :=
  found.foldl (fun (parts, width) p => (p.parts ++ parts, p.width.add width)) ([], .zero)

/-! ## Alternatives -/

/-- Whether two parts are the same character, set, place or reference. -/
def Part.isSame : Part → Part → Bool
  | ⟨.one test, true⟩, ⟨.one other, true⟩ => test = other
  | ⟨.anchor place, true⟩, ⟨.anchor other, true⟩ => place = other
  | ⟨.backreference index _, true⟩, ⟨.backreference other _, true⟩ => index = other
  | _, _ => false

/-- The parts that an alternative and all others begin with, and what is left of each. -/
def takeShared : List Part → List (List Part) → List Part × List (List Part)
  | [], others => ([], [] :: others)
  | p :: rest, others =>
    if others.all fun o => o.head?.any p.isSame then
      let (shared, rests) := takeShared rest (others.map (·.tail))
      (p :: shared, rests)
    else ([], (p :: rest) :: others)

/-- The parts of the set that an alternative amounts to, if it is one character or one set that is
not negated. -/
def itemsOfAlternative? : List Part → Option (List SetItem)
  | [⟨.one (.char n false _), true⟩] => some [.char n]
  | [⟨.one (.set items false _ _), true⟩] => some items
  | _ => none

/-- Alternatives as one list of parts.  What they all begin with is written once; where only
characters and sets are left, they make one set. -/
def gather (flags : Flags) : List (List Part) → List Part
  | [] => []
  | [parts] => parts
  | first :: others =>
    let (shared, rests) := takeShared first others
    match rests.mapM itemsOfAlternative? with
    | some items =>
      shared ++ [⟨.one (.set items.flatten.eraseDups false flags.fold flags.ascii), true⟩]
    | none => shared ++ [⟨Node.choice (rests.map nodeOf), true⟩]

/-! ## The readers -/

/-- The greatest nesting of parentheses. -/
def nestingLimit : Nat := 984

/-- Runs a reader inside parentheses, whose nesting counts as much as given. -/
def nested {α : Type} (weight : Nat) (body : Parse α) : Parse α := do
  let nesting := (← get).nesting
  if nestingLimit < nesting + weight then throw .tooDeep
  modify fun r => { r with nesting := nesting + weight }
  let a ← body
  modify fun r => { r with nesting }
  return a

/-- Runs a reader inside parentheses under other flags and takes the former ones back. -/
def inGroup {α : Type} (change : Flags → Flags) (body : Parse α) : Parse α := nested 2 do
  let flags := (← get).flags
  modify fun r => { r with flags := change r.flags }
  let a ← body
  modify fun r => { r with flags }
  return a

/-- Whether a character has no meaning of its own under the flag for verbose patterns. -/
def isPatternBlank (c : Char) : Bool := c = ' ' || 9 ≤ c.toNat && c.toNat ≤ 13

mutual

/-- A pattern up to a closing parenthesis or the end. -/
def alternatives : Nat → Bool → Parse (List Part × Width)
  | 0, _ => malformed
  | fuel + 1, atStart => do
    let (found, width) ← branches fuel atStart
    return (gather (← get).flags found, width)

/-- The alternatives of a pattern. -/
def branches : Nat → Bool → Parse (List (List Part) × Width)
  | 0, _ => malformed
  | fuel + 1, atStart => do
    let (parts, width) ← pieces fuel atStart []
    if ← accept '|' then
      let (others, otherWidth) ← branches fuel false
      return (parts :: others, width.join otherWidth)
    return ([parts], width)

/-- The pieces of one alternative, collected in reverse. -/
def pieces : Nat → Bool → List Piece → Parse (List Part × Width)
  | 0, _, _ => malformed
  | fuel + 1, atStart, found => do
    let flags := (← get).flags
    match ← peek with
    | none => return inOrder found
    | some (.char '|') => return inOrder found
    | some (.char ')') => return inOrder found
    | some t =>
      let _ ← take
      match t with
      | .dangling => malformed
      | .escape c => pieces fuel atStart ((← escapePiece c) :: found)
      | .char c =>
        if flags.verbose && isPatternBlank c then pieces fuel atStart found
        else if flags.verbose && c = '#' then
          goTo (dropLine (← get).rest)
          pieces fuel atStart found
        else
          match c with
          | '[' => pieces fuel atStart ((← setPiece) :: found)
          | '.' => pieces fuel atStart (.one (.one (.any flags.dotAll)) .one :: found)
          | '^' =>
            let place := if flags.multiLine then Anchor.lineStart else .firstLineStart
            pieces fuel atStart (placePiece place :: found)
          | '$' =>
            let place := if flags.multiLine then Anchor.lineEnd else .lastLineEnd
            pieces fuel atStart (placePiece place :: found)
          | '*' => pieces fuel atStart (← repeatLast found 0 none)
          | '+' => pieces fuel atStart (← repeatLast found 1 none)
          | '?' => pieces fuel atStart (← repeatLast found 0 (some 1))
          | '\x7b' =>
            match ← roundBounds with
            | none => pieces fuel atStart (literal flags c.toNat :: found)
            | some (least, most) => pieces fuel atStart (← repeatLast found least most)
          | '(' =>
            match ← parenthesis fuel (atStart && found.isEmpty) with
            | none => pieces fuel atStart found
            | some piece => pieces fuel atStart (piece :: found)
          | c => pieces fuel atStart (literal flags c.toNat :: found)

/-- What stands in parentheses; nothing is left of remarks and of flags for the whole pattern. -/
def parenthesis : Nat → Bool → Parse (Option Piece)
  | 0, _ => malformed
  | fuel + 1, atStart => do
    let what ← if ← accept '?' then opening atStart else pure (.keep none)
    match what with
    | .done piece => return piece
    | .keep name =>
      let index ← openGroup name
      let (body, width) ← inGroup id (alternatives fuel false)
      expect ')'
      closeGroup index width
      return some (.one (.group index (nodeOf body)) width)
    | .scoped [] [] =>
      let (parts, width) ← inGroup id (alternatives fuel false)
      expect ')'
      return some { parts, width }
    | .scoped on off =>
      let (parts, width) ← inGroup (·.inside on off) (alternatives fuel false)
      expect ')'
      return some { parts := [⟨nodeOf parts, false⟩], width }
    | .atomic =>
      let (body, width) ← inGroup id (alternatives fuel false)
      expect ')'
      return some (.one (.atomic (nodeOf body)) width)
    | .look false negated =>
      let (body, _) ← inGroup id (alternatives fuel false)
      expect ')'
      return some (.one (.look 0 negated (nodeOf body)) .zero)
    | .look true negated =>
      let outside := (← get).outside
      modify fun r => { r with outside := some (outside.getD (r.groups.length + 1)) }
      let (body, width) ← inGroup id (alternatives fuel false)
      modify fun r => { r with outside }
      expect ')'
      let fixed := width.most = some width.least && width.least < lookBehindLimit
      modify fun r => { r with faulty := r.faulty || !fixed }
      return some (.one (.look width.least negated (nodeOf body)) .zero)
    | .conditional =>
      let index ← conditionGroup
      checkOutside index
      let (yes, yesWidth) ← nested 1 (pieces fuel false [])
      let (no, noWidth) ← if ← accept '|' then nested 1 (pieces fuel false []) else pure ([], .zero)
      expect ')'
      return some (.one (.conditional index (nodeOf yes) (nodeOf no)) (yesWidth.join noWidth))

end

/-- Reads a whole pattern. -/
def wholePattern (fuel : Nat) : Parse Compiled := do
  goTo (← get).rest
  let (parts, width) ← alternatives fuel true
  let r ← get
  if r.flags.ascii && r.flags.allScripts then throw .flagConflict
  unless r.rest.isEmpty do malformed
  if r.groups.length < r.named then malformed
  if r.faulty then malformed
  let node := nodeOf parts
  let start := if width.least = 0 then none else node.setStart?.bind (·.underFlags? r.flags.ascii)
  return ⟨node, r.groups.length, start⟩

/-- The pattern that a text spells. -/
def parse (t : Text) : Except PatternError Compiled :=
  let ts := tokens t
  (wholePattern (4 * ts.length + 5)).run' { rest := ts }

end Legible.Pattern
