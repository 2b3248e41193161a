import SchemaGraph.Json.Value

/-
  This file defines JSON pointers.  A pointer is the list
  of segments that lead from the root of a value to one of
  its positions; its text writes every segment after a
  slash, with `~` written `~0` and `/` written `~1`.

  Key definitions include:
    * `Pointer.escape`
    * `Pointer.unescape`
    * `Pointer`
    * `Pointer.text`
    * `Pointer.ofText?`
    * `Json.step?`
    * `Json.find?`
    * `Json.findText?`
-/

namespace SchemaGraph

------------------------------------------------------------
-- Segment Texts
------------------------------------------------------------

namespace Pointer

/- The written form of one character of a segment. -/
def escapeChar
    (c : Char) : List Char :=
  if c = '~' then
    ['~', '0']
  else if c = '/' then
    ['~', '1']
  else
    [c]

/- The written form of a segment. -/
def escapeChars
    (cs : List Char) : List Char :=
  cs.flatMap escapeChar

/- Read a written segment. -/
def unescapeChars : List Char → List Char
  | '~' :: '1' :: cs => '/' :: unescapeChars cs
  | '~' :: '0' :: cs => '~' :: unescapeChars cs
  | c :: cs => c :: unescapeChars cs
  | [] => []

/- The written form of a segment. -/
def escape
    (segment : String) : String :=
  String.ofList (escapeChars segment.toList)

/- Read a written segment. -/
def unescape
    (segment : String) : String :=
  String.ofList (unescapeChars segment.toList)

/- The parts of a text between its slashes. -/
def slashParts
    (text : String) : List String :=
  (text.toList.splitOn '/').map String.ofList

end Pointer

------------------------------------------------------------
-- Pointers
------------------------------------------------------------

/- The segments from the root of a value to a position. -/
structure Pointer where
  segments : List String
deriving DecidableEq, Repr

namespace Pointer

/- The pointer to the root. -/
def root : Pointer :=
  ⟨[]⟩

/- The pointer to a member. -/
def child
    (p : Pointer)
    (name : String) : Pointer :=
  ⟨p.segments ++ [name]⟩

/- The segment of an array position. -/
def indexSegment
    (i : Nat) : String :=
  String.ofList (Nat.toDigits 10 i)

/- The pointer to an item. -/
def index
    (p : Pointer)
    (i : Nat) : Pointer :=
  p.child (indexSegment i)

/- The written form of a pointer. -/
def text
    (p : Pointer) : String :=
  String.join (p.segments.map (fun s => "/" ++ escape s))

/-
  Read a pointer: empty, or a slash before every segment.
-/
def ofText?
    (text : String) : Option Pointer :=
  match slashParts text with
  | [""] => some root
  | "" :: parts => some ⟨parts.map unescape⟩
  | _ => none

end Pointer

------------------------------------------------------------
-- Positions
------------------------------------------------------------

namespace Json

/-
  Read an array index: decimal digits, without a sign and
  without leading zeros.
-/
def canonicalIndex?
    (segment : String) : Option Nat :=
  match segment.toList with
  | [] => none
  | ['0'] => some 0
  | '0' :: _ => none
  | cs => if cs.all Char.isDigit then some (Nat.ofDigitChars 10 cs 0) else none

/- Take one step of a pointer. -/
def step?
    (value : Json)
    (segment : String) : Option Json :=
  match value with
  | .object members => members.lookup segment
  | .array items =>
      (canonicalIndex? segment).bind (fun i => items[i]?)
  | _ => none

/- Follow the segments of a pointer. -/
def findSegments? : Json → List String → Option Json
  | value, [] => some value
  | value, s :: rest =>
      match step? value s with
      | some next => findSegments? next rest
      | none => none

/- The value at a pointer. -/
def find?
    (value : Json)
    (p : Pointer) : Option Json :=
  findSegments? value p.segments

/- The value at a written pointer. -/
def findText?
    (value : Json)
    (text : String) : Option Json :=
  (Pointer.ofText? text).bind (find? value)

end Json

end SchemaGraph
