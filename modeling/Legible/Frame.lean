import Legible.Text.Case
import Legible.Text.Utf8
import Legible.Value.Printer
import Legible.Value.Source

/-!
# Frames

A message to or from a language server is a document behind a header that tells the number of
its octets.  `encode` builds the frame of a message.  A `Reader` takes octets as they come, in
pieces of any size, and gives the messages that are complete; it keeps the octets of the others.

A header without a usable length is dropped, and so is a body that is no document or no object;
the frames after it are read as usual.  Where the nesting of bodies is bounded, a body beyond the
bound is refused.
-/

namespace Legible.Frame

/-- The octets of some ASCII text. -/
def octets (s : String) : Bytes := Text.encode s.toList

/-- What ends a header. -/
def terminator : Bytes := [13, 10, 13, 10]

/-- The frame of a message. -/
def encode (message : Value) : Bytes :=
  let body := Text.encode message.print
  Text.encode ("Content-Length: ".toList ++ Text.ofNat body.length) ++ terminator ++ body

/-! ## Headers -/

/-- The lines of a header, which end in a carriage return and a line feed. -/
def headerLines : Text → List Text
  | [] => [[]]
  | '\r' :: '\n' :: rest => [] :: headerLines rest
  | c :: rest => Text.consHead c (headerLines rest)

/-- The length that a line of a header tells: none if the line has another name, and no length
if what it tells is no natural number. -/
def lengthInLine? (line : Text) : Option (Option Nat) :=
  match Text.cutAt? ':' line with
  | none => none
  | some (name, value) =>
    if Text.lower (Text.strip name) = "content-length".toList then
      match Number.ofText (Text.strip value) with
      | .ok (.ofNat n) => some (some n)
      | _ => some none
    else none

/-- The length that a header tells, by the first line of that name. -/
def contentLength? (header : Bytes) : Option Nat :=
  ((headerLines (Text.asciiOf header)).findSome? lengthInLine?).join

/-- The octets before the first terminator and those after it. -/
def splitHeader? : Bytes → Option (Bytes × Bytes)
  | 13 :: 10 :: 13 :: 10 :: rest => some ([], rest)
  | b :: rest => (splitHeader? rest).map fun p => (b :: p.1, p.2)
  | [] => none

theorem splitHeader?_length {bs header rest : Bytes} (h : splitHeader? bs = some (header, rest)) :
    rest.length + 4 ≤ bs.length := by
  fun_induction splitHeader? bs generalizing header with
  | case1 rest' =>
    simp only [Option.some.injEq, Prod.mk.injEq] at h
    simp [← h.2]
  | case2 b rest' _ ih =>
    simp only [Option.map_eq_some_iff, Prod.mk.injEq] at h
    obtain ⟨⟨p, q⟩, hp, -, rfl⟩ := h
    have hq : q.length + 4 ≤ rest'.length := ih hp
    simp only [List.length_cons]
    exact Nat.le_succ_of_le hq
  | case3 => simp at h

/-- Whether the document of a body is nested more deeply than a bound. -/
def isTooDeep (depth : Nat) (body : Bytes) : Bool :=
  (Text.decode? body).any (Value.isTooDeep depth)

/-- Whether the document of a body is nested more deeply than a bound, if there is one. -/
def isBeyond (depth : Option Nat) (body : Bytes) : Bool := depth.any (isTooDeep · body)

/-- The message of a body, none if it is no object. -/
def messageOf? (body : Bytes) : Option Fields :=
  match (Text.decode? body).bind Value.parse? with
  | some (.obj fs) => some fs
  | _ => none

/-- A message as it came in: its fields, and what they were read from. -/
structure Incoming where
  fields : Fields
  sources : List Value.FieldSource := []

/-- Whether a unit of a pair stands alone in the value of a field; of two fields of one name the
last one counts. -/
def Incoming.isTorn (m : Incoming) (key : Text) : Bool :=
  (m.sources.reverse.find? (·.name = key)).any fun f => Value.isTorn f.source

/-- The message of a body with its sources, none if it is no object. -/
def incomingOf? (body : Bytes) : Option Incoming :=
  (messageOf? body).map fun fields =>
    { fields, sources := Value.sources ((Text.decode? body).getD []) }

/-! ## Reading -/

/-- The octets that are held, and the length of the body that is awaited, if a header has been
read. -/
structure Reader where
  buffer : Bytes := []
  pending : Option Nat := none
  deriving DecidableEq, Repr

namespace Reader

/-- What is left to do, as a number that every step makes smaller. -/
def measure (r : Reader) : Nat := 2 * r.buffer.length + (if r.pending.isSome then 1 else 0)

/-- Reads one header or one body, which is given; none where the octets do not reach. -/
def step (r : Reader) : Option (Option Bytes × Reader) :=
  match r.pending with
  | none =>
    (splitHeader? r.buffer).map fun (header, rest) => (none, ⟨rest, contentLength? header⟩)
  | some n =>
    if r.buffer.length < n then none else some (r.buffer.take n, ⟨r.buffer.drop n, none⟩)

theorem measure_step {r s : Reader} {m : Option Bytes} (h : r.step = some (m, s)) :
    s.measure < r.measure := by
  obtain ⟨buffer, pending⟩ := r
  cases pending with
  | none =>
    simp only [step, Option.map_eq_some_iff, Prod.mk.injEq] at h
    obtain ⟨⟨header, rest⟩, hs, -, rfl⟩ := h
    have := splitHeader?_length hs
    simp only [measure]
    split <;> simp <;> omega
  | some n =>
    simp only [step] at h
    split at h
    · simp at h
    · simp only [Option.some.injEq, Prod.mk.injEq] at h
      obtain ⟨-, rfl⟩ := h
      simp only [measure, List.length_drop, Option.isSome_none, Option.isSome_some,
        Bool.false_eq_true, if_false, if_true]
      omega

/-- Reads the bodies that are complete, up to one that `halts`, and what is left. -/
def bodies (halts : Bytes → Bool) (r : Reader) : List Bytes × Reader :=
  match _h : r.step with
  | none => ([], r)
  | some (none, s) => bodies halts s
  | some (some body, s) =>
    if halts body then ([body], s)
    else
      let (rest, t) := bodies halts s
      (body :: rest, t)
termination_by r.measure
decreasing_by all_goals exact measure_step _h

/-- Takes octets: the messages that they complete, and the reader after them. -/
def feed (r : Reader) (bs : Bytes) : List Fields × Reader :=
  let (found, s) := bodies (fun _ => false) ⟨r.buffer ++ bs, r.pending⟩
  (found.filterMap messageOf?, s)

/-- Takes octets where bodies may only be nested so deeply.  At a body that is nested more deeply
the reader stops, and the messages before it are lost. -/
def feedWithin (depth : Nat) (r : Reader) (bs : Bytes) : Option (List Fields) × Reader :=
  let (found, s) := bodies (isTooDeep depth) ⟨r.buffer ++ bs, r.pending⟩
  (if found.any (isTooDeep depth) then none else some (found.filterMap messageOf?), s)

/-- Takes octets: the messages that they complete, as they came in, and the reader after them.
There may be a bound on the nesting of bodies; at a body beyond it the reader stops, and the
messages before it are lost. -/
def read (depth : Option Nat) (r : Reader) (bs : Bytes) : Option (List Incoming) × Reader :=
  let (found, s) := bodies (isBeyond depth) ⟨r.buffer ++ bs, r.pending⟩
  (if found.any (isBeyond depth) then none else some (found.filterMap incomingOf?), s)

end Reader

end Legible.Frame
