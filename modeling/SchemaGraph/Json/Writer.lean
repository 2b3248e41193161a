import SchemaGraph.Json.Value
import SchemaGraph.Decimal.Layout

/-
  This file writes JSON values as text, on one line or
  indented.  Members are written in their order.

  Key definitions include:
    * `Json.numberLayout`
    * `Json.write`
    * `Json.writeIndented`
-/

namespace SchemaGraph

namespace Json

------------------------------------------------------------
-- Numbers and Strings
------------------------------------------------------------

/-
  Magnitudes from 1e-5 up to below 1e16 are written without
  an exponent, and always with a point.
-/
def numberLayout : Decimal.Layout where
  positional := fun e => -5 ≤ e && e < 16
  wholeFraction := true
  plusExponent := true

/- Write an integer. -/
def writeInt
    (n : Int) : String :=
  String.ofList
    (if n < 0 then
      '-' :: Decimal.digitsOf n.natAbs
    else
      Decimal.digitsOf n.natAbs)

/- Write a number. -/
def writeNumber : Number → String
  | .integer n _ => writeInt n
  | .real f => numberLayout.write f

/- The digits of hexadecimal numbers. -/
def hexDigit
    (n : Nat) : Char :=
  Nat.digitChar n

/-
  Write a character of a string: quotes, backslashes and
  control characters are escaped.
-/
def writeChar
    (c : Char) : List Char :=
  if c = '"' then
    ['\\', '"']
  else if c = '\\' then
    ['\\', '\\']
  else if c = '\n' then
    ['\\', 'n']
  else if c = '\r' then
    ['\\', 'r']
  else if c = '\t' then
    ['\\', 't']
  else if c.toNat = 8 then
    ['\\', 'b']
  else if c.toNat = 12 then
    ['\\', 'f']
  else if c.toNat < 32 then
    ['\\', 'u', '0', '0', hexDigit (c.toNat / 16),
      hexDigit (c.toNat % 16)]
  else
    [c]

/- Write a string with its quotes. -/
def writeString
    (s : String) : String :=
  String.ofList ('"' :: s.toList.flatMap writeChar ++ ['"'])

------------------------------------------------------------
-- Values on One Line
------------------------------------------------------------

/- Join texts with commas. -/
def commaJoin
    (parts : List String) : String :=
  String.intercalate "," parts

mutual

/- Write a value on one line, without blanks. -/
def write : Json → String
  | null => "null"
  | bool true => "true"
  | bool false => "false"
  | number n => writeNumber n
  | string s => writeString s
  | array xs => "[" ++ commaJoin (writeItems xs) ++ "]"
  | object members =>
      "\x7b" ++ commaJoin (writeMembers members) ++ "\x7d"

/- Write every item. -/
def writeItems : List Json → List String
  | [] => []
  | x :: rest => write x :: writeItems rest

/- Write every member. -/
def writeMembers : List (String × Json) → List String
  | [] => []
  | (name, x) :: rest =>
      (writeString name ++ ":" ++ write x) :: writeMembers rest

end

------------------------------------------------------------
-- Indented Values
------------------------------------------------------------

/- A line break and the indentation of a level. -/
def lineBreak
    (level : Nat) : String :=
  String.ofList ('\n' :: List.replicate (2 * level) ' ')

/- Put the parts of a container on lines of their own. -/
def indentParts
    (level : Nat)
    (opening closing : String)
    (parts : List String) : String :=
  match parts with
  | [] => opening ++ closing
  | _ =>
      opening ++ lineBreak (level + 1)
        ++ String.intercalate ("," ++ lineBreak (level + 1)) parts
        ++ lineBreak level ++ closing

mutual

/- Write a value that stands at a level of indentation. -/
def writeAt : Nat → Json → String
  | level, array xs =>
      indentParts level "[" "]" (itemsAt (level + 1) xs)
  | level, object members =>
      indentParts level "\x7b" "\x7d"
        (membersAt (level + 1) members)
  | _, null => "null"
  | _, bool true => "true"
  | _, bool false => "false"
  | _, number n => writeNumber n
  | _, string s => writeString s

/- Write every item at a level of indentation. -/
def itemsAt : Nat → List Json → List String
  | _, [] => []
  | level, x :: rest => writeAt level x :: itemsAt level rest

/- Write every member at a level of indentation. -/
def membersAt : Nat → List (String × Json) → List String
  | _, [] => []
  | level, (name, x) :: rest =>
      (writeString name ++ ": " ++ writeAt level x)
        :: membersAt level rest

end

/- Write a value with two blanks of indentation a level. -/
def writeIndented
    (value : Json) : String :=
  writeAt 0 value

end Json

end SchemaGraph
