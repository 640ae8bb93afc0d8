import Legible.Number.Notation
import Legible.Number.Reading
import Legible.Text.Quoted

/-!
# Document values

The values of documents: settings files and the bodies of messages.  An object is the list of its
fields in the order in which they were written, each name once: `set` puts a new name last and
leaves a known name in its place, and every object that is read is built with it.

A value counts as *void* when it says nothing: null, false, zero, and everything empty.
-/

namespace Legible

/-- A document value. -/
inductive Value
  | null
  | bool (b : Bool)
  | int (n : Int)
  | double (x : Binary64)
  | str (t : Text)
  | arr (items : List Value)
  | obj (fields : List (Text × Value))

/-- The fields of an object, in order. -/
abbrev Fields := List (Text × Value)

namespace Fields

/-- The value of a field. -/
def get? (key : Text) : Fields → Option Value
  | [] => none
  | (k, v) :: rest => if k = key then some v else get? key rest

/-- Whether there is a field of that name. -/
def has (key : Text) (fs : Fields) : Bool := (fs.get? key).isSome

/-- The value of a field, null where there is none. -/
def getD (key : Text) (fs : Fields) : Value := (fs.get? key).getD .null

/-- Gives a field a value: in its place if the name is known, otherwise as the last field. -/
def set (key : Text) (value : Value) : Fields → Fields
  | [] => [(key, value)]
  | (k, v) :: rest => if k = key then (k, value) :: rest else (k, v) :: set key value rest

/-- The other fields. -/
def erase (key : Text) (fs : Fields) : Fields := fs.filter (·.1 ≠ key)

/-- The names of the fields, in order. -/
def names (fs : Fields) : List Text := fs.map (·.1)

@[simp] theorem get?_nil (key : Text) : get? key [] = none := rfl

theorem get?_set_self (key : Text) (value : Value) (fs : Fields) :
    (fs.set key value).get? key = some value := by
  induction fs with
  | nil => simp [set, get?]
  | cons f fs ih =>
    obtain ⟨k, v⟩ := f
    by_cases h : k = key <;> simp [set, get?, h, ih]

theorem get?_set_of_ne {key other : Text} (h : other ≠ key) (value : Value) (fs : Fields) :
    (fs.set key value).get? other = fs.get? other := by
  induction fs with
  | nil => simp [set, get?, Ne.symm h]
  | cons f fs ih =>
    obtain ⟨k, v⟩ := f
    by_cases hk : k = key
    · subst hk
      simp [set, get?, Ne.symm h]
    · by_cases ho : k = other
      · subst ho
        simp [set, get?, hk]
      · simp [set, get?, hk, ho, ih]

theorem names_set_of_has {key : Text} {fs : Fields} (h : fs.has key = true) (value : Value) :
    (fs.set key value).names = fs.names := by
  induction fs with
  | nil => simp [has] at h
  | cons f fs ih =>
    obtain ⟨k, v⟩ := f
    by_cases hk : k = key
    · simp [set, names, hk]
    · simp only [has, get?, hk, if_false] at h
      simp only [set, hk, if_false, names, List.map_cons, List.cons.injEq, true_and]
      exact ih h

end Fields

namespace Value

/-- Whether a value says nothing: null, false, zero, or empty. -/
def isVoid : Value → Bool
  | null => true
  | bool b => !b
  | int n => n = 0
  | double x => x.isZero
  | str t => t.isEmpty
  | arr items => items.isEmpty
  | obj fields => fields.isEmpty

/-- A value unless it is void, and another instead. -/
def orElse (v other : Value) : Value := if v.isVoid then other else v

/-- The fields of an object; any other value has none. -/
def fields : Value → Fields
  | obj fs => fs
  | _ => []

/-- The value of a field; only objects have fields. -/
def field? (v : Value) (key : Text) : Option Value := v.fields.get? key

/-- The value of a field, null where there is none. -/
def field (v : Value) (key : Text) : Value := (v.field? key).getD .null

/-- The parts that a value is made of: the items of a list, the names of an object, the characters
of a text, each as a text.  Other values have no parts. -/
def parts? : Value → Option (List Value)
  | arr items => some items
  | obj fs => some (Fields.names fs |>.map str)
  | str t => some (t.map fun c => str [c])
  | _ => none

/-! ## Fields from other values -/

/-- Why a value gives no fields: it has no parts or a name cannot be one, or one of its items is no
pair. -/
inductive FieldsError
  | wrongKind
  | wrongLength
  deriving DecidableEq, Repr

/-- Whether a value is made of other values and so cannot be a name. -/
def isCompound : Value → Bool
  | arr _ => true
  | obj _ => true
  | _ => false

/-- Enters a pair of a name and a value.  Names that are no texts are left out. -/
def enterPair (fs : Fields) (pair : Value) : Except FieldsError Fields :=
  match pair.parts? with
  | some [str key, v] => .ok (Fields.set key v fs)
  | some [key, _] => if key.isCompound then .error .wrongKind else .ok fs
  | some _ => .error .wrongLength
  | none => .error .wrongKind

/-- The fields of an object, or of a list of pairs of a name and a value. -/
def asFields : Value → Except FieldsError Fields
  | obj fs => .ok fs
  | v =>
    match v.parts? with
    | some pairs => pairs.foldlM enterPair []
    | none => .error .wrongKind

/-! ## Making values -/

/-- An object with some fields. -/
def record (fs : List (String × Value)) : Value := obj (fs.map fun f => (f.1.toList, f.2))

/-- The text of a string. -/
def literal (s : String) : Value := str s.toList

/-- A natural number. -/
def ofNat (n : Nat) : Value := int n

/-- A list of texts. -/
def ofTexts (ts : List Text) : Value := arr (ts.map str)

/-- A text, or null where there is none. -/
def ofText? (t : Option Text) : Value := (t.map str).getD null

/-- A number, or null where there is none. -/
def ofNat? (n : Option Nat) : Value := (n.map ofNat).getD null

/-- Whether a value is an object. -/
def isObject : Value → Bool
  | obj _ => true
  | _ => false

/-- Whether a value is a text. -/
def isText : Value → Bool
  | str _ => true
  | _ => false

mutual

/-- The text of a value inside another value: text stands between quotes. -/
def inside : Value → Text
  | null => "None".toList
  | bool true => "True".toList
  | bool false => "False".toList
  | int n => Text.ofInt n
  | double x => x.render Binary64.shortNames
  | str t => Text.quoted t
  | arr items => '[' :: insideItems items ++ [']']
  | obj fields => '\x7b' :: insideFields fields ++ ['\x7d']

/-- The items of a list with a comma and a space between them. -/
def insideItems : List Value → Text
  | [] => []
  | [v] => inside v
  | v :: rest => inside v ++ ", ".toList ++ insideItems rest

/-- The fields of an object with a comma and a space between them. -/
def insideFields : List (Text × Value) → Text
  | [] => []
  | [(k, v)] => Text.quoted k ++ ": ".toList ++ inside v
  | (k, v) :: rest =>
    Text.quoted k ++ ": ".toList ++ inside v ++ ", ".toList ++ insideFields rest

end

mutual

/-- How deeply lists and objects are nested in a value. -/
def depth : Value → Nat
  | arr items => itemsDepth items + 1
  | obj fields => fieldsDepth fields + 1
  | _ => 0

/-- How deeply the deepest of some items is nested. -/
def itemsDepth : List Value → Nat
  | [] => 0
  | v :: rest => max (depth v) (itemsDepth rest)

/-- How deeply the value of the deepest of some fields is nested. -/
def fieldsDepth : List (Text × Value) → Nat
  | [] => 0
  | (_, v) :: rest => max (depth v) (fieldsDepth rest)

end

mutual

/-- A value with its texts changed; the names of fields stay. -/
def mapTexts (f : Text → Text) : Value → Value
  | str t => str (f t)
  | arr items => arr (mapItems f items)
  | obj fields => obj (mapFields f fields)
  | v => v

/-- Items with their texts changed. -/
def mapItems (f : Text → Text) : List Value → List Value
  | [] => []
  | v :: rest => mapTexts f v :: mapItems f rest

/-- Fields with the texts of their values changed. -/
def mapFields (f : Text → Text) : List (Text × Value) → List (Text × Value)
  | [] => []
  | (k, v) :: rest => (k, mapTexts f v) :: mapFields f rest

end

/-- The text of a value: text stands for itself. -/
def display : Value → Text
  | str t => t
  | v => v.inside

/-- The pairs that `asFields` leaves out, under the texts of their names. -/
def unnamedPairs (v : Value) : Fields :=
  ((v.parts?.getD []).filterMap parts?).foldl (fun found pair =>
    match pair with
    | [str _, _] => found
    | [key, v] => found.set key.display v
    | _ => found) []

/-- The text of a value, empty where the value is void. -/
def displayOrEmpty (v : Value) : Text := if v.isVoid then [] else v.display

/-- The integer of a value: numbers lose their fraction, truth values count one and zero, and
text is read as a numeral. -/
def toInteger : Value → Except NotInteger Int
  | int n => .ok n
  | bool b => .ok (if b then 1 else 0)
  | double .nan => .error .notANumber
  | double (.infinite _) => .error .infinite
  | double (.finite negative m e) => .ok (Binary64.truncate negative m e)
  | str t => Number.ofText t
  | null => .error .wrongKind
  | arr _ => .error .wrongKind
  | obj _ => .error .wrongKind

end Value

end Legible
