import SchemaGraph.Unicode.Query
import SchemaGraph.Json.Writer

/-
  This file writes values for inspection: texts in quotes
  with what cannot be seen escaped, lists, optional values
  and records with their field names.

  Key definitions include:
    * `Inspect.quoted`
    * `Inspect.real`
    * `Inspect.list`
    * `Inspect.option`
    * `Inspect.record`
    * `Inspect.json`
-/

namespace SchemaGraph

namespace Inspect

------------------------------------------------------------
-- Texts
------------------------------------------------------------

/- The characters that extend the one before them. -/
def extendSet : CharSet :=
  ((Unicode.setOf? Unicode.properties "grext").getD CharSet.empty)

/- The characters without a shape of their own. -/
def shapelessSet : CharSet :=
  Unicode.categoryUnion ["cc", "cf", "co", "cn", "zs", "zl", "zp"]

/- The character is written as it is. -/
def isVisible
    (c : Char) : Bool :=
  if c.toNat < 127 then
    32 ≤ c.toNat
  else
    !shapelessSet.contains c && !extendSet.contains c

/- The digits of a code point in an escape. -/
def hexText
    (n : Nat) : List Char :=
  Nat.toDigits 16 n

/- Write a character of a quoted text. -/
def quotedChar
    (c : Char) : List Char :=
  if c = '"' then
    ['\\', '"']
  else if c = '\\' then
    ['\\', '\\']
  else if c = '\n' then
    ['\\', 'n']
  else if c = '\r' then
    ['\\', 'r']
  else if c = '\t' then
    ['\\', 't']
  else if c.toNat = 0 then
    ['\\', '0']
  else if isVisible c then
    [c]
  else
    ['\\', 'u', '{'] ++ hexText c.toNat ++ ['}']

/- Write a text in quotes. -/
def quoted
    (s : String) : String :=
  String.ofList ('"' :: s.toList.flatMap quotedChar ++ ['"'])

------------------------------------------------------------
-- Structures
------------------------------------------------------------

/-
  Magnitudes from 1e-4 up to below 1e16 are written without
  an exponent, and always with a point.
-/
def realLayout : Decimal.Layout where
  positional := fun e => -4 ≤ e && e < 16
  wholeFraction := true
  plusExponent := false

/- Write a binary64 value. -/
def real
    (f : Float) : String :=
  realLayout.write f

/- Write a natural number. -/
def nat
    (n : Nat) : String :=
  String.ofList (Nat.toDigits 10 n)

/- Write a Boolean. -/
def bool
    (b : Bool) : String :=
  if b then "true" else "false"

/- Join parts with commas. -/
def joined
    (parts : List String) : String :=
  String.intercalate ", " parts

/- Write a list. -/
def list
    (parts : List String) : String :=
  "[" ++ joined parts ++ "]"

/- Write a constructor with one argument. -/
def apply
    (name argument : String) : String :=
  name ++ "(" ++ argument ++ ")"

/- Write an optional value. -/
def option
    {α : Type}
    (f : α → String) : Option α → String
  | some a => apply "Some" (f a)
  | none => "None"

/- Write a record with its fields. -/
def record
    (name : String)
    (fields : List (String × String)) : String :=
  name ++ " \x7b "
    ++ joined (fields.map (fun f => f.1 ++ ": " ++ f.2)) ++ " \x7d"

/- Write a map from texts. -/
def map
    (entries : List (String × String)) : String :=
  "\x7b" ++ joined (entries.map (fun e => quoted e.1 ++ ": " ++ e.2))
    ++ "\x7d"

------------------------------------------------------------
-- JSON Values
------------------------------------------------------------

mutual

/- Write a JSON value with the names of its forms. -/
def json : Json → String
  | .null => "Null"
  | .bool b => apply "Bool" (bool b)
  | .number n => apply "Number" (Json.writeNumber n)
  | .string s => apply "String" (quoted s)
  | .array xs => "Array " ++ list (jsonItems xs)
  | .object ms => "Object " ++ map (jsonMembers ms)

/- Write every item. -/
def jsonItems : List Json → List String
  | [] => []
  | x :: rest => json x :: jsonItems rest

/- Write every member. -/
def jsonMembers : List (String × Json) → List (String × String)
  | [] => []
  | (name, x) :: rest => (name, json x) :: jsonMembers rest

end

end Inspect

end SchemaGraph
