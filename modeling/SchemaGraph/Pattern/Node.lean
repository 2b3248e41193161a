import SchemaGraph.Unicode.CharSet

/-
  This file defines patterns: regular expressions over
  characters with assertions about the surrounding text.
  It also estimates the space that their expansion takes.

  Key definitions include:
    * `Pattern.Assertion`
    * `Pattern.Node`
    * `Pattern.Node.repeated`
    * `Pattern.Node.cost`
-/

namespace SchemaGraph

namespace Pattern

/- A statement about the text around a position. -/
inductive Assertion where
  | textStart
  | textEnd
  /- After a line feed, or with `true` after any line ending. -/
  | lineStart (anyEnding : Bool)
  /- Before a line feed, or with `true` before any line ending. -/
  | lineEnd (anyEnding : Bool)
  /- The Boolean tells whether words are made of all Unicode word characters. -/
  | wordBoundary (unicode : Bool)
  | notWordBoundary (unicode : Bool)
  | wordStart (unicode : Bool)
  | wordEnd (unicode : Bool)
  | wordStartHalf (unicode : Bool)
  | wordEndHalf (unicode : Bool)
deriving DecidableEq, Repr

/- A pattern. -/
inductive Node where
  | empty
  | set (chars : CharSet)
  | assertion (a : Assertion)
  | seq (first second : Node)
  | either (first second : Node)
  /- Between `least` and `most` times; without `most`, no upper limit. -/
  | times (body : Node) (least : Nat) (most : Option Nat)
deriving Repr

namespace Node

/- The pattern takes no character. -/
def isEmptyWidth : Node → Bool
  | empty => true
  | set _ => false
  | assertion _ => true
  | seq a b => a.isEmptyWidth && b.isEmptyWidth
  | either a b => a.isEmptyWidth && b.isEmptyWidth
  | times body _ most => body.isEmptyWidth || most == some 0

/-
  Repeat a pattern.  One that takes no character is repeated
  once at most.
-/
def repeated
    (body : Node)
    (least : Nat)
    (most : Option Nat) : Node :=
  let (least, most) :=
    if body.isEmptyWidth then
      (min least 1, some (min (most.getD 1) 1))
    else
      (least, most)
  if least = 0 ∧ most = some 0 then
    empty
  else if least = 1 ∧ most = some 1 then
    body
  else
    times body least most

/- One pattern after another. -/
def concat : List Node → Node
  | [] => empty
  | [a] => a
  | a :: rest => seq a (concat rest)

/- Any one of several patterns. -/
def alternation : List Node → Node
  | [] => empty
  | [a] => a
  | a :: rest => either a (alternation rest)

------------------------------------------------------------
-- Space
------------------------------------------------------------

/- The space that is counted for one step of an expanded pattern. -/
def stepCost : Nat := 32

/- An estimate for a set of characters, as steps over bytes. -/
def setCost
    (s : CharSet) : Nat :=
  match s.ranges with
  | [(a, b)] =>
      if a = b then
        stepCost * (if a < 0x80 then 1 else if a < 0x800 then 2
          else if a < 0x10000 then 3 else 4)
      else if b < 0x80 then
        stepCost
      else
        6 * stepCost
  | ranges =>
      if s.isBelow 0x80 then
        2 * stepCost + 8 * ranges.length
      else
        2 * stepCost + 36 * ranges.length

/-
  An estimate of the space that a pattern takes when it is
  expanded, to refuse patterns that are far too large.
-/
def cost : Node → Nat
  | empty => stepCost
  | set s => setCost s
  | assertion _ => stepCost
  | seq a b => a.cost + b.cost
  | either a b => a.cost + b.cost + 2 * stepCost
  | times body least (some most) =>
      body.cost * most + (most - least) * (stepCost + 8)
  | times body least none =>
      body.cost * max least 1 + 2 * stepCost

/- The most that the estimate of a pattern may be. -/
def costLimit : Nat := 10 * Nat.pow 2 20

end Node

end Pattern

end SchemaGraph
