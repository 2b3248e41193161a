/-
  This file decodes bytes as UTF-8 whatever they are.  The
  longest run of bytes that only begins a character is read
  as one replacement character.

  Key definitions include:
    * `Text.trailRange?`
    * `Text.readCharacter`
    * `Text.decodeLossy`
-/

namespace SchemaGraph

namespace Text

/- The character that stands for undecodable bytes. -/
def replacement : Char := Char.ofNat 0xFFFD

/-
  What a leading byte of several asks of the bytes after it:
  the range of the first one, the number of those after
  that, and the bits that the leading byte gives.
-/
def trailRange?
    (lead : Nat) : Option (Nat × Nat × Nat × Nat) :=
  if 0xC2 ≤ lead && lead ≤ 0xDF then
    some (0x80, 0xBF, 0, lead - 0xC0)
  else if lead = 0xE0 then
    some (0xA0, 0xBF, 1, 0)
  else if lead = 0xED then
    some (0x80, 0x9F, 1, lead - 0xE0)
  else if 0xE1 ≤ lead && lead ≤ 0xEF then
    some (0x80, 0xBF, 1, lead - 0xE0)
  else if lead = 0xF0 then
    some (0x90, 0xBF, 2, 0)
  else if 0xF1 ≤ lead && lead ≤ 0xF3 then
    some (0x80, 0xBF, 2, lead - 0xF0)
  else if lead = 0xF4 then
    some (0x80, 0x8F, 2, lead - 0xF0)
  else
    none

/- Read the last bytes of a character, given the bits so far. -/
def readTrail : Nat → Nat → List UInt8 → Char × List UInt8
  | 0, bits, bytes => (Char.ofNat bits, bytes)
  | _ + 1, _, [] => (replacement, [])
  | n + 1, bits, b :: rest =>
      if 0x80 ≤ b.toNat && b.toNat ≤ 0xBF then
        readTrail n (bits * 64 + (b.toNat - 0x80)) rest
      else
        (replacement, b :: rest)

/- Read one character that starts with a given byte. -/
def readCharacter
    (lead : UInt8)
    (bytes : List UInt8) : Char × List UInt8 :=
  if lead.toNat < 0x80 then
    (Char.ofNat lead.toNat, bytes)
  else
    match trailRange? lead.toNat, bytes with
    | some (low, high, more, bits), b :: rest =>
        if low ≤ b.toNat && b.toNat ≤ high then
          readTrail more (bits * 64 + (b.toNat - 0x80)) rest
        else
          (replacement, b :: rest)
    | _, _ => (replacement, bytes)

/- Decode bytes within a number of characters. -/
def decodeWithin : Nat → List UInt8 → List Char
  | 0, _ => []
  | _ + 1, [] => []
  | fuel + 1, b :: rest =>
      let (c, after) := readCharacter b rest
      c :: decodeWithin fuel after

/- Decode bytes. -/
def decodeLossy
    (bytes : List UInt8) : String :=
  String.ofList (decodeWithin bytes.length bytes)

end Text

end SchemaGraph
