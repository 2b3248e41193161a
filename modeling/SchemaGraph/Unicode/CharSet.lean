/-
  This file defines sets of code points as sorted ranges
  that neither touch nor overlap.

  Key definitions include:
    * `CharSet`
    * `CharSet.contains`
    * `CharSet.union`
    * `CharSet.complement`
    * `CharSet.ofText`
-/

namespace SchemaGraph

/- A set of code points: ranges with both ends included. -/
structure CharSet where
  ranges : List (Nat × Nat)
deriving DecidableEq, Repr

namespace CharSet

/- The largest code point. -/
def lastCode : Nat := 0x10FFFF

/- The set without code points. -/
def empty : CharSet :=
  ⟨[]⟩

/- The set of one character. -/
def single
    (c : Char) : CharSet :=
  ⟨[(c.toNat, c.toNat)]⟩

/- The character is in the set. -/
def contains
    (s : CharSet)
    (c : Char) : Bool :=
  s.ranges.any (fun r => r.1 ≤ c.toNat && c.toNat ≤ r.2)

/- Merge neighbours in a list of ranges sorted by their starts. -/
def coalesce : Nat × Nat → List (Nat × Nat) → List (Nat × Nat)
  | r, [] => [r]
  | (a, b), (c, d) :: rest =>
      if c ≤ b + 1 then
        coalesce (a, max b d) rest
      else
        (a, b) :: coalesce (c, d) rest

/- The set of the code points of any ranges. -/
def ofRanges
    (ranges : List (Nat × Nat)) : CharSet :=
  match ranges.mergeSort (fun r s => r.1 ≤ s.1) with
  | [] => empty
  | r :: rest => ⟨coalesce r rest⟩

/- The code points of either set. -/
def union
    (s t : CharSet) : CharSet :=
  ofRanges (s.ranges ++ t.ranges)

/- The gaps between ranges, from a first code point on. -/
def gaps : Nat → List (Nat × Nat) → List (Nat × Nat)
  | start, [] => if start ≤ lastCode then [(start, lastCode)] else []
  | start, (a, b) :: rest =>
      if start < a then
        (start, a - 1) :: gaps (b + 1) rest
      else
        gaps (b + 1) rest

/- The code points that are not in a set. -/
def complement
    (s : CharSet) : CharSet :=
  ⟨gaps 0 s.ranges⟩

/- The code points of both sets. -/
def inter
    (s t : CharSet) : CharSet :=
  (s.complement.union t.complement).complement

/- The code points of the first set that the second lacks. -/
def diff
    (s t : CharSet) : CharSet :=
  s.inter t.complement

/- The code points of exactly one set. -/
def symmDiff
    (s t : CharSet) : CharSet :=
  (s.diff t).union (t.diff s)

/- Every code point of the set is below a bound. -/
def isBelow
    (s : CharSet)
    (bound : Nat) : Bool :=
  s.ranges.all (fun r => r.2 < bound)

------------------------------------------------------------
-- Written Sets
------------------------------------------------------------

/- Read a number in upper-case hexadecimal digits. -/
def readHex
    (cs : List Char) : Nat :=
  cs.foldl
    (fun n c =>
      n * 16 +
        (if c.isDigit then c.toNat - 48 else c.toNat - 55))
    0

/- Read a range: one number, or two with a hyphen between. -/
def readRange
    (cs : List Char) : Nat × Nat :=
  match cs.splitOn '-' with
  | [a, b] => (readHex a, readHex b)
  | _ => (readHex cs, readHex cs)

/- The words of a text, between its spaces and line breaks. -/
def words
    (text : String) : List (List Char) :=
  (text.toList.splitOnP (fun c => c == ' ' || c == '\n')).filter
    (fun word => !word.isEmpty)

/- Read ranges that are separated by blanks. -/
def ofText
    (text : String) : CharSet :=
  ⟨(words text).map readRange⟩

end CharSet

end SchemaGraph
