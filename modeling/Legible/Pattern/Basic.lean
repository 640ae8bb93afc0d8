import Legible.Pattern.CharTest

/-!
# Patterns

A pattern describes texts: characters, alternatives, repetitions, groups whose text is kept,
conditions on what stands around, and references back to groups.
-/

namespace Legible.Pattern

/-- A place between two characters. -/
inductive Anchor
  /-- The beginning of the text. -/
  | textStart
  /-- The beginning of the first line. -/
  | firstLineStart
  /-- The beginning of a line. -/
  | lineStart
  /-- The end of the text, or the place before a line feed that ends it. -/
  | lastLineEnd
  /-- The end of a line. -/
  | lineEnd
  /-- The end of the text. -/
  | textEnd
  /-- A place between a word character and another; not so in an empty text. -/
  | wordEdge (ascii : Bool)
  /-- A place that is no edge of a word; not so in an empty text. -/
  | noWordEdge (ascii : Bool)
  deriving DecidableEq, Repr

/-- How a repetition chooses its number of rounds. -/
inductive Greed
  /-- As many as possible, giving rounds back where what follows needs it. -/
  | greedy
  /-- As few as possible. -/
  | lazy
  /-- As many as possible, giving none back. -/
  | possessive
  deriving DecidableEq, Repr

/-- A pattern.  Groups are numbered from zero. -/
inductive Node
  | empty
  | one (test : CharTest)
  | anchor (place : Anchor)
  | seq (first second : Node)
  /-- The first alternative, or one of the others. -/
  | alt (first others : Node)
  /-- Nothing matches; the end of a list of alternatives. -/
  | never
  | group (index : Nat) (body : Node)
  | repeated (greed : Greed) (least : Nat) (most : Option Nat) (body : Node)
  | atomic (body : Node)
  /-- The body matches here, or so many characters back; `negated` asks that it does not. -/
  | look (back : Nat) (negated : Bool) (body : Node)
  | backreference (index : Nat) (fold : Fold)
  /-- One body or another, as a group has matched or not. -/
  | conditional (index : Nat) (yes no : Node)
  deriving Repr

namespace Node

/-- The parts one after another. -/
def sequence : List Node → Node
  | [] => .empty
  | [n] => n
  | n :: rest => .seq n (sequence rest)

/-- The parts as alternatives, tried from left to right. -/
def choice : List Node → Node
  | [] => .never
  | n :: rest => .alt n (choice rest)

/-- Whether a pattern has no parts. -/
def isVoid : Node → Bool
  | .empty => true
  | .seq first second => first.isVoid && second.isVoid
  | _ => false

/-- The test that a pattern begins with, if it compares characters as they are. -/
def exactStart? : Node → Option CharTest
  | .one test => if test.isExact then some test else none
  | .seq first second => if first.isVoid then second.exactStart? else first.exactStart?
  | _ => none

/-- The character that a pattern begins with, if it is compared as it is. -/
def charStart? (n : Node) : Option Nat :=
  match n.exactStart? with
  | some (.char m _ _) => some m
  | _ => none

/-- The set that a pattern begins with, inside groups or not. -/
def setStart? : Node → Option CharTest
  | .one test => some test
  | .seq first _ => first.setStart?
  | .group _ body => body.setStart?
  | _ => none

end Node

/-- A pattern that has been read, and the number of its groups. -/
structure Compiled where
  node : Node
  groups : Nat
  /-- What the first character of a match must pass besides, by the flags of the whole pattern. -/
  start : Option CharTest := none
  deriving Repr

end Legible.Pattern
