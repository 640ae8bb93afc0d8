import Legible.Value.Basic

/-!
# Reading documents

A document is one value with blanks around it: tabs, line feeds, carriage returns and spaces.
Numbers without fraction and exponent are integers of any size up to a limit of digits, and the
names `NaN`, `Infinity` and `-Infinity` are numbers.  Control characters do not stand in text,
and of two fields of one name the last one counts.  An escape that is one unit of a pair and stands
alone is no character, and the replacement character is read in its place.

Every reader takes the rest of the document and returns what it read with the rest after it.
The length of the way through a document is bounded by `fuel`; `Value.parseWithin` gives twice as much
as the document is long, since a bracket takes two steps.  The nesting of lists and objects may be
bounded too: then a document is read up to the bracket that would go too deep.
-/

namespace Legible.Value

/-- A blank between the parts of a document. -/
def isSpace (c : Char) : Bool := c = ' ' || c = '\t' || c = '\n' || c = '\r'

/-- A document without the blanks at its beginning. -/
def skipSpace (t : Text) : Text := t.dropWhile isSpace

/-- The rest of a document that begins with `part`. -/
def after? : Text → Text → Option Text
  | [], t => some t
  | _ :: _, [] => none
  | c :: part, d :: t => if c = d then after? part t else none

/-! ## Text -/

/-- The number of four hexadecimal digits. -/
def readHex4 : Text → Option (Nat × Text)
  | a :: b :: c :: d :: rest => do
    let a ← Text.hexValue? a
    let b ← Text.hexValue? b
    let c ← Text.hexValue? c
    let d ← Text.hexValue? d
    pure (((a * 16 + b) * 16 + c) * 16 + d, rest)
  | _ => none

/-- The character of a code unit, joined with a second unit where the two are a pair.  A unit of a
pair that stands alone has no character. -/
def readUnit (n : Nat) (rest : Text) : Option Char × Text :=
  if 0xD800 ≤ n ∧ n < 0xDC00 then
    match rest with
    | '\\' :: 'u' :: more =>
      match readHex4 more with
      | some (low, more) =>
        if 0xDC00 ≤ low ∧ low < 0xE000 then
          (some (Char.ofNat (0x10000 + (n - 0xD800) * 0x400 + (low - 0xDC00))), more)
        else (none, rest)
      | none => (none, rest)
    | _ => (none, rest)
  else if 0xDC00 ≤ n ∧ n < 0xE000 then (none, rest)
  else (some (Char.ofNat n), rest)

/-- The character that is read in place of a unit that stands alone. -/
def standIn : Char := '\ufffd'

/-- The character of a one-letter escape. -/
def escaped? : Char → Option Char
  | '"' => some '"'
  | '\\' => some '\\'
  | '/' => some '/'
  | 'b' => some '\x08'
  | 'f' => some '\x0c'
  | 'n' => some '\n'
  | 'r' => some '\r'
  | 't' => some '\t'
  | _ => none

/-- The text up to the closing quote; `fuel` bounds its length. -/
def readText : Nat → Text → Option (Text × Text)
  | 0, _ => none
  | _ + 1, [] => none
  | _ + 1, '"' :: rest => some ([], rest)
  | fuel + 1, '\\' :: 'u' :: rest => do
    let (n, rest) ← readHex4 rest
    let (c, rest) := readUnit n rest
    let (t, rest) ← readText fuel rest
    pure (c.getD standIn :: t, rest)
  | fuel + 1, '\\' :: c :: rest => do
    let c ← escaped? c
    let (t, rest) ← readText fuel rest
    pure (c :: t, rest)
  | fuel + 1, c :: rest =>
    if c.toNat < 0x20 ∨ c = '\\' then none
    else do
      let (t, rest) ← readText fuel rest
      pure (c :: t, rest)

/-! ## Numbers -/

/-- The digits at the beginning of a document. -/
def readDigits (t : Text) : Text × Text :=
  (t.takeWhile Text.isAsciiDigit, t.dropWhile Text.isAsciiDigit)

/-- The number that decimal digits spell. -/
def digitsValue (t : Text) : Nat := Text.ofDigits 10 (t.map fun c => c.toNat - 48)

/-- The digits after a point; without digits the point is not read. -/
def readFraction : Text → Text × Text
  | '.' :: rest =>
    match readDigits rest with
    | ([], _) => ([], '.' :: rest)
    | (ds, rest) => (ds, rest)
  | t => ([], t)

/-- The exponent after an `e`; without digits nothing is read. -/
def readExponent (t : Text) : Option Int × Text :=
  match t with
  | c :: rest =>
    if c = 'e' || c = 'E' then
      let (negative, body) := Number.splitSign rest
      match readDigits body with
      | ([], _) => (none, t)
      | (ds, rest) => (some (if negative then -(digitsValue ds : Int) else digitsValue ds), rest)
    else (none, t)
  | [] => (none, [])

/-- The whole part of a number: one zero, or digits that begin with another digit. -/
def readWhole : Text → Option (Text × Text)
  | '0' :: rest => some (['0'], rest)
  | t =>
    match readDigits t with
    | ([], _) => none
    | (ds, rest) => some (ds, rest)

/-- A number; an integer of more digits than `limit` is not read. -/
def readNumber (limit : Option Nat) (negative : Bool) (t : Text) : Option (Value × Text) := do
  let (whole, rest) ← readWhole t
  let (fraction, rest) := readFraction rest
  let (exponent, rest) := readExponent rest
  if fraction.isEmpty && exponent.isNone then
    if limit.any (· < whole.length) then none
    else
      let n : Int := digitsValue whole
      pure (.int (if negative then -n else n), rest)
  else
    let digits := digitsValue (whole ++ fraction)
    let exponent := exponent.getD 0 - fraction.length
    pure (.double (Binary64.ofDecimal negative digits exponent), rest)

/-! ## Values -/

/-- The names that stand for values. -/
def readName (t : Text) : Option (Value × Text) :=
  let named : List (Text × Value) := [
    ("null".toList, .null), ("true".toList, .bool true), ("false".toList, .bool false),
    ("NaN".toList, .double .nan), ("Infinity".toList, .double (.infinite false)),
    ("-Infinity".toList, .double (.infinite true))]
  named.findSome? fun (name, v) => (after? name t).map (v, ·)

/-- Why a text is no document. -/
inductive ParseError
  | malformed
  /-- Lists and objects are nested too deeply. -/
  | tooDeep
  deriving DecidableEq, Repr

/-- What is asked of a document besides its form. -/
structure Bounds where
  /-- The greatest number of digits of an integer. -/
  digits : Option Nat := some Number.digitLimit
  /-- How deeply lists and objects may be nested. -/
  depth : Option Nat := none
  deriving DecidableEq, Repr

/-- What a reader found, if it found anything. -/
def orMalformed {α : Type} : Option α → Except ParseError α
  | some a => .ok a
  | none => .error .malformed

/-- The nesting that is left inside one more bracket. -/
def deeper : Option Nat → Except ParseError (Option Nat)
  | none => .ok none
  | some 0 => .error .tooDeep
  | some (n + 1) => .ok (some n)

mutual

/-- The value at the beginning of a document; `depth` is the nesting that is left. -/
def readValue (limit : Option Nat) : Nat → Option Nat → Text → Except ParseError (Value × Text)
  | 0, _, _ => .error .malformed
  | _ + 1, _, '"' :: rest => do
    let (t, rest) ← orMalformed (readText (rest.length + 1) rest)
    pure (.str t, rest)
  | fuel + 1, depth, '[' :: rest => do
    let depth ← deeper depth
    match skipSpace rest with
    | ']' :: rest => pure (.arr [], rest)
    | rest => do
      let (items, rest) ← readItems limit fuel depth rest
      pure (.arr items, rest)
  | fuel + 1, depth, '\x7b' :: rest => do
    let depth ← deeper depth
    match skipSpace rest with
    | '\x7d' :: rest => pure (.obj [], rest)
    | rest => do
      let (fields, rest) ← readFields limit fuel depth [] rest
      pure (.obj fields, rest)
  | _ + 1, _, t =>
    match readName t with
    | some found => .ok found
    | none =>
      orMalformed <| match t with
        | '-' :: rest => readNumber limit true rest
        | _ => readNumber limit false t

/-- The items of a list up to its bracket. -/
def readItems (limit : Option Nat) :
    Nat → Option Nat → Text → Except ParseError (List Value × Text)
  | 0, _, _ => .error .malformed
  | fuel + 1, depth, t => do
    let (v, rest) ← readValue limit fuel depth (skipSpace t)
    match skipSpace rest with
    | ',' :: rest => do
      let (vs, rest) ← readItems limit fuel depth rest
      pure (v :: vs, rest)
    | ']' :: rest => pure ([v], rest)
    | _ => .error .malformed

/-- The fields of an object up to its brace, put into the fields read so far. -/
def readFields (limit : Option Nat) :
    Nat → Option Nat → Fields → Text → Except ParseError (Fields × Text)
  | 0, _, _, _ => .error .malformed
  | fuel + 1, depth, found, t =>
    match skipSpace t with
    | '"' :: rest => do
      let (key, rest) ← orMalformed (readText (rest.length + 1) rest)
      match skipSpace rest with
      | ':' :: rest => do
        let (v, rest) ← readValue limit fuel depth (skipSpace rest)
        match skipSpace rest with
        | ',' :: rest => readFields limit fuel depth (found.set key v) rest
        | '\x7d' :: rest => pure (found.set key v, rest)
        | _ => .error .malformed
      | _ => .error .malformed
    | _ => .error .malformed

end

/-- The value of a whole document within some bounds. -/
def parseWithin (bounds : Bounds) (t : Text) : Except ParseError Value := do
  let (v, rest) ← readValue bounds.digits (2 * t.length + 1) bounds.depth (skipSpace t)
  if (skipSpace rest).isEmpty then pure v else .error .malformed

/-- The value of a whole document. -/
def parse? (t : Text) : Option Value := (parseWithin {} t).toOption

/-- Whether reading a document would go deeper than a bound. -/
def isTooDeep (depth : Nat) (t : Text) : Bool :=
  match parseWithin { depth := some depth } t with
  | .error .tooDeep => true
  | _ => false

end Legible.Value
