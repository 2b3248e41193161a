/-
  This file defines the white space of Unicode: the
  characters with the property White_Space.

  Key definitions include:
    * `Text.isBlank`
    * `Text.trimStart`
-/

namespace SchemaGraph

namespace Text

/- The character is white space. -/
def isBlank
    (c : Char) : Bool :=
  let n := c.toNat
  (9 ≤ n && n ≤ 13) || n == 0x20 || n == 0x85 || n == 0xA0
    || n == 0x1680 || (0x2000 ≤ n && n ≤ 0x200A)
    || n == 0x2028 || n == 0x2029 || n == 0x202F
    || n == 0x205F || n == 0x3000

/- Drop the white space at the start of a text. -/
def trimStart
    (cs : List Char) : List Char :=
  cs.dropWhile isBlank

end Text

end SchemaGraph
