import Legible.Pattern.Basic

/-!
# Matching

`Node.run` tries to match a pattern at a place of a text and hands the spot where the match ends
to what follows; where what follows fails, the next way to match is tried.  The first way that
succeeds as a whole is the match.  Alternatives are tried from left to right.

A round of a repetition beyond the least number is only begun where the previous such round has
moved on, so that a body that matches nothing ends the repetition.

An attempt that fails leaves a spot behind: the place that it held last, and the ends of groups
that it set.  A place is held where there is something to choose, before the ways are tried.  A
possessive repetition goes on from the place that its last, failed round has left.  The ends of
groups go back to what they were only inside a repetition; elsewhere an end that was set before
keeps what a failed attempt made of it.
-/

namespace Legible.Pattern

/-- Where a match stands: the index of the next character, the place that is held, and the ends of
the groups.  Group `i` begins at mark `2 * i` and ends at mark `2 * i + 1`. -/
structure Spot where
  pos : Nat
  held : Nat
  marks : List (Nat × Nat)
  deriving DecidableEq, Repr

/-- How an attempt to match ends. -/
inductive Attempt
  | matched (stop : Spot)
  | failed (left : Spot)
  deriving Repr

namespace Spot

/-- The beginning of a match, with no group set. -/
def start (pos : Nat) : Spot := ⟨pos, pos, []⟩

/-- Sets a mark to the current place. -/
def mark (s : Spot) (i : Nat) : Spot :=
  { s with marks := (i, s.pos) :: s.marks.filter (·.1 ≠ i) }

/-- The place of a mark. -/
def markAt? (s : Spot) (i : Nat) : Option Nat := s.marks.lookup i

/-- Where a group begins and ends, if it has matched. -/
def span? (s : Spot) (index : Nat) : Option (Nat × Nat) :=
  match s.markAt? (2 * index), s.markAt? (2 * index + 1) with
  | some first, some last => if last < first then none else some (first, last)
  | _, _ => none

/-- Whether a group ends before it begins, which only a failed attempt can bring about. -/
def isCrossed (s : Spot) (index : Nat) : Bool :=
  match s.markAt? (2 * index), s.markAt? (2 * index + 1) with
  | some first, some last => last < first
  | _, _ => false

/-- The text of a group, empty if it has not matched. -/
def groupText (s : Spot) (text : Array Char) (index : Nat) : Text :=
  match s.span? index with
  | some (first, last) => (text.extract first last).toList
  | none => []

/-- Moves to a place and holds it. -/
def holdAt (s : Spot) (pos : Nat) : Spot := { s with pos, held := pos }

/-- Holds the current place. -/
def hold (s : Spot) : Spot := s.holdAt s.pos

/-- The failure at a spot. -/
def fail (s : Spot) : Attempt := .failed s

/-- The spot for the next way after one has failed and left a spot behind.  Marks that the failed
way added are dropped; those it changed go back only inside a repetition. -/
def resume (s : Spot) (inRounds : Bool) (left : Spot) : Spot :=
  { s with
    held := left.held
    marks := if inRounds then s.marks
      else left.marks.filter fun m => s.marks.any (m.1 ≤ ·.1) }

end Spot

namespace Attempt

/-- The spot where a successful attempt ends. -/
def stop? : Attempt → Option Spot
  | matched s => some s
  | failed _ => none

/-- The attempt, or after its failure another one at the spot that is left. -/
def orElse : Attempt → (Spot → Attempt) → Attempt
  | matched s, _ => .matched s
  | failed left, other => other left

/-- A failed attempt that goes back to hold a place. -/
def holding (a : Attempt) (pos : Nat) : Attempt :=
  a.orElse fun left => .failed { left with held := pos }

end Attempt

/-- What follows a part of a pattern: it takes the spot where the part ends. -/
abbrev Next := Spot → Attempt

/-- The end of a pattern that is matched by itself. -/
def Next.done : Next := fun s => .matched s.hold

/-- What stands around a part of a pattern. -/
structure Around where
  /-- Whether the part belongs to a repetition that may give rounds back. -/
  inRounds : Bool := false
  /-- The character after the part, where the pattern has one there that is compared as it is. -/
  follower : Option Nat := none

/-- Whether the text at a place does not rule out what follows. -/
def Around.mayStop (around : Around) (text : Array Char) (pos : Nat) : Bool :=
  around.follower.all fun n => text[pos]?.any (·.toNat = n)

/-! ## Places -/

/-- Whether the character at an index is part of a word. -/
def wordAt (ascii : Bool) (text : Array Char) (i : Nat) : Bool :=
  match text[i]? with
  | some c => Category.word.holds ascii c.toNat
  | none => false

/-- Whether a place is the edge of a word. -/
def isWordEdge (ascii : Bool) (text : Array Char) (pos : Nat) : Bool :=
  (0 < pos && wordAt ascii text (pos - 1)) != wordAt ascii text pos

/-- Whether a place is the one described. -/
def Anchor.holds (text : Array Char) (pos : Nat) : Anchor → Bool
  | .textStart => pos = 0
  | .firstLineStart => pos = 0
  | .lineStart => pos = 0 || text[pos - 1]? = some '\n'
  | .lastLineEnd => pos = text.size || pos + 1 = text.size && text[pos]? = some '\n'
  | .lineEnd => pos = text.size || text[pos]? = some '\n'
  | .textEnd => pos = text.size
  | .wordEdge ascii => text.size ≠ 0 && isWordEdge ascii text pos
  | .noWordEdge ascii => text.size ≠ 0 && !isWordEdge ascii text pos

/-! ## Repetitions -/

/-- Whether one more round is allowed. -/
def mayRepeat (count : Nat) (most : Option Nat) : Bool := most.all (count < ·)

/-- A greedy repetition of any body.  `last` is where the previous free round began. -/
def greedyRounds (body : Spot → Next → Attempt) (least : Nat) (most : Option Nat)
    (next : Next) : Nat → Nat → Option Nat → Spot → Attempt
  | 0, _, _, s => s.fail
  | fuel + 1, count, last, s =>
    let s := s.hold
    if count < least then
      (body s (greedyRounds body least most next fuel (count + 1) last)).holding s.pos
    else if mayRepeat count most && last ≠ some s.pos then
      (body s (greedyRounds body least most next fuel (count + 1) (some s.pos))).orElse fun _ =>
        (next s).holding s.pos
    else (next s).holding s.pos

/-- A lazy repetition of any body; `inRounds` tells of what follows it. -/
def lazyRounds (inRounds : Bool) (body : Spot → Next → Attempt) (least : Nat) (most : Option Nat)
    (next : Next) : Nat → Nat → Option Nat → Spot → Attempt
  | 0, _, _, s => s.fail
  | fuel + 1, count, last, s =>
    let s := s.hold
    if count < least then
      (body s (lazyRounds inRounds body least most next fuel (count + 1) last)).holding s.pos
    else
      (next s).orElse fun left =>
        let s := (s.resume inRounds left).hold
        if mayRepeat count most && last ≠ some s.pos then
          (body s (lazyRounds inRounds body least most next fuel (count + 1)
            (some s.pos))).holding s.pos
        else s.fail

/-- The end of a possessive repetition: every round is matched by itself.  After a round that
fails, the place that it held is the end. -/
def possessiveRounds (body : Spot → Next → Attempt) (least : Nat) (most : Option Nat) :
    Nat → Nat → Option Nat → Spot → Attempt
  | 0, _, _, s => s.fail
  | fuel + 1, count, last, s =>
    if count < least then
      match body s .done with
      | .matched r => possessiveRounds body least most fuel (count + 1) last r
      | .failed left => .failed left
    else if mayRepeat count most && last ≠ some s.pos then
      match body s .done with
      | .matched r => possessiveRounds body least most fuel (count + 1) (some s.pos) r
      | .failed left => .matched (s.holdAt left.held)
    else .matched s

/-- How many characters from a place on pass a test, up to a bound. -/
def unitsFrom (text : Array Char) (test : CharTest) : Nat → Nat → Nat
  | 0, _ => 0
  | bound + 1, pos =>
    match text[pos]? with
    | some c => if test.holds c then unitsFrom text test bound (pos + 1) + 1 else 0
    | none => 0

/-- A greedy repetition of one character that begins with the least number of rounds before `s`:
the characters beyond, at first as many as given, are given back one by one. -/
def greedyUnits (text : Array Char) (around : Around) (next : Next) : Nat → Spot → Attempt
  | 0, s =>
    if around.mayStop text s.pos then
      (next s.hold).orElse fun left => (s.resume around.inRounds left).fail
    else s.fail
  | more + 1, s =>
    let pos := s.pos + more + 1
    if around.mayStop text pos then
      (next (s.holdAt pos)).orElse fun left =>
        greedyUnits text around next more (s.resume around.inRounds left)
    else greedyUnits text around next more s

/-- A lazy repetition of one character: up to `more` characters are taken one by one. -/
def lazyUnits (inRounds : Bool) (next : Next) : Nat → Spot → Attempt
  | 0, s => (next s.hold).orElse fun left => (s.resume inRounds left).hold.fail
  | more + 1, s =>
    (next s.hold).orElse fun left =>
      let s := (s.resume inRounds left).hold
      lazyUnits inRounds next more { s with pos := s.pos + 1 }

/-- A repetition of one character: it counts how far the test holds, and then chooses. -/
def repeatUnit (text : Array Char) (around : Around) (greed : Greed) (least : Nat)
    (most : Option Nat) (test : CharTest) (s : Spot) (next : Next) : Attempt :=
  let room := text.size - s.pos
  if room < least then s.fail
  else
    let s := s.hold
    let count := unitsFrom text test (most.elim room (min room)) s.pos
    if count < least then s.fail
    else
      let start := { s with pos := s.pos + least }
      match greed with
      | .greedy => greedyUnits text around next (count - least) start
      | .lazy => lazyUnits around.inRounds next (count - least) start
      | .possessive => next (s.holdAt (s.pos + count))

/-- The rounds that a repetition can need: the least number, and one for each character. -/
def roundsFor (text : Array Char) (least : Nat) : Nat := least + text.size + 3

/-! ## The matcher -/

/-- The test of a pattern that is one character. -/
def Node.test? : Node → Option CharTest
  | .one test => some test
  | _ => none

/-- Whether an alternative is ruled out by the character that it begins with. -/
def Node.isRuledOut (text : Array Char) (pos : Nat) (n : Node) : Bool :=
  match n.exactStart? with
  | some test => !text[pos]?.any test.holds
  | none => false

/-- What stands around the first of two parts. -/
def Around.before (around : Around) (second : Node) : Around :=
  { around with follower := if second.isVoid then around.follower else second.charStart? }

/-- What stands around a part that nothing known follows. -/
def Around.alone (around : Around) : Around := { around with follower := none }

/-- Whether the text between two places stands at a third, with regard to case or not. -/
def sameText (text : Array Char) (fold : Fold) (first pos : Nat) : Nat → Bool
  | 0 => true
  | count + 1 =>
    match text[first]?, text[pos]? with
    | some c, some d =>
      lowered fold c.toNat = lowered fold d.toNat && sameText text fold (first + 1) (pos + 1) count
    | _, _ => false

/-- Matches a pattern at a spot and goes on with what follows. -/
def Node.run (text : Array Char) : Node → Around → Spot → Next → Attempt
  | .empty, _, s, next => next s
  | .never, _, s, _ => s.fail
  | .one test, _, s, next =>
    match text[s.pos]? with
    | some c => if test.holds c then next { s with pos := s.pos + 1 } else s.fail
    | none => s.fail
  | .anchor place, _, s, next => if place.holds text s.pos then next s else s.fail
  | .seq first second, around, s, next =>
    first.run text (around.before second) s fun s => second.run text around s next
  | .alt first others, around, s, next =>
    if first.isRuledOut text s.pos then others.run text around s next
    else
      (first.run text around.alone s.hold next).orElse fun left =>
        others.run text around (s.resume around.inRounds left) next
  | .group index body, around, s, next =>
    body.run text around.alone (s.mark (2 * index)) fun s => next (s.mark (2 * index + 1))
  | .repeated greed least most body, around, s, next =>
    match body.test? with
    | some test => repeatUnit text around greed least most test s next
    | none =>
      let rounds := roundsFor text least
      match greed with
      | .greedy => greedyRounds (fun s k => body.run text ⟨true, none⟩ s k) least most next rounds
          0 none s
      | .lazy => lazyRounds around.inRounds (fun s k => body.run text ⟨true, none⟩ s k) least most
          next rounds 0 none s
      | .possessive =>
        match possessiveRounds (fun s k => body.run text around.alone s k) least most rounds 0 none
          s.hold with
        | .matched r => next r
        | .failed left => .failed { left with held := s.pos }
  | .atomic body, around, s, next =>
    match body.run text around.alone s.hold .done with
    | .matched r => next r
    | .failed left => .failed { left with held := s.pos }
  | .look back negated body, around, s, next =>
    if s.pos < back then if negated then next s else s.fail
    else
      match body.run text around.alone (s.holdAt (s.pos - back)) .done, negated with
      | .matched r, false => next { r with pos := s.pos }
      | .failed left, true => next (s.resume around.inRounds left)
      | .matched r, true => r.fail
      | .failed left, false => left.fail
  | .backreference index fold, _, s, next =>
    match s.span? index with
    | some (first, last) =>
      if sameText text fold first s.pos (last - first) then
        next { s with pos := s.pos + (last - first) }
      else s.fail
    | none => s.fail
  | .conditional index yes no, around, s, next =>
    match s.span? index with
    | some _ => yes.run text (if no.isVoid then around else around.alone) s next
    | none => no.run text around s next

end Legible.Pattern
