import SchemaGraph.Json.Writer

/-
  This file writes texts and lists of texts as TOML.

  Of the ways to write a string, the first that needs no
  escape is taken: basic, literal, basic over several lines,
  literal over several lines.  If each needs one, the string
  is basic with escapes, over several lines if it has any.

  Key definitions include:
    * `Toml.StringForm`
    * `Toml.formOf`
    * `Toml.writeString`
    * `Toml.writeStrings`
-/

namespace SchemaGraph

namespace Toml

------------------------------------------------------------
-- Forms of Strings
------------------------------------------------------------

/- The ways to write a string. -/
inductive StringForm where
  | basic
  | literal
  | basicLines
  | literalLines
deriving DecidableEq, Repr

/- The length of the longest run of a character. -/
def longestRun
    (c : Char)
    (cs : List Char) : Nat :=
  (cs.foldl
    (fun (run, longest) d =>
      if d = c then (run + 1, max longest (run + 1)) else (0, longest))
    (0, 0)).2

/- The character can only be written with an escape. -/
def needsEscape
    (c : Char) : Bool :=
  (c.toNat < 0x20 || c.toNat == 0x7F) && c != '\t' && c != '\n'

/- The way to write a string. -/
def formOf
    (cs : List Char) : StringForm :=
  let escaped := cs.any needsEscape
  let backslash := cs.contains '\\'
  let lines := cs.contains '\n'
  let double := longestRun '"' cs
  let single := longestRun '\'' cs
  if !escaped && !backslash && double = 0 && !lines then
    .basic
  else if !escaped && single = 0 && !lines then
    .literal
  else if !escaped && !backslash && double ≤ 2 then
    .basicLines
  else if !escaped && single ≤ 2 then
    .literalLines
  else if lines then
    .basicLines
  else
    .basic

------------------------------------------------------------
-- Strings
------------------------------------------------------------

/- Write a character by its code. -/
def codeEscape
    (c : Char) : List Char :=
  let digit (n : Nat) := (Json.hexDigit n).toUpper
  ['\\', 'u', '0', '0', digit (c.toNat / 16), digit (c.toNat % 16)]

/- Write a character other than a quote or a line break. -/
def basicChar
    (c : Char) : List Char :=
  if c = '\\' then
    ['\\', '\\']
  else if c = '\t' then
    ['\\', 't']
  else if c = '\r' then
    ['\\', 'r']
  else if c = Char.ofNat 8 then
    ['\\', 'b']
  else if c = Char.ofNat 12 then
    ['\\', 'f']
  else if needsEscape c then
    codeEscape c
  else
    [c]

/-
  Write the characters of a basic string.  A quote is
  escaped when the run that it continues may not grow; a run
  of quotes has the given room.
-/
def basicChars
    (lines : Bool)
    (room : Nat) :
    Nat → List Char → List Char
  | _, [] => []
  | run, c :: cs =>
      if c = '"' then
        if run < room then
          '"' :: basicChars lines room (run + 1) cs
        else
          '\\' :: '"' :: basicChars lines room 0 cs
      else if c = '\n' then
        (if lines then ['\n'] else ['\\', 'n'])
          ++ basicChars lines room 0 cs
      else
        basicChar c ++ basicChars lines room 0 cs

/- Write a string. -/
def writeString
    (s : String) : String :=
  let cs := s.toList
  let start := if cs.contains '\n' then "\n" else ""
  match formOf cs with
  | .basic => "\"" ++ String.ofList (basicChars false 0 0 cs) ++ "\""
  | .literal => "'" ++ s ++ "'"
  | .basicLines =>
      "\"\"\"" ++ start ++ String.ofList (basicChars true 2 0 cs)
        ++ "\"\"\""
  | .literalLines => "'''" ++ start ++ s ++ "'''"

/- Write a list of strings, several of them on lines of their own. -/
def writeStrings : List String → String
  | [] => "[]"
  | [s] => "[" ++ writeString s ++ "]"
  | ss =>
      "[\n"
        ++ String.join (ss.map (fun s => "    " ++ writeString s ++ ",\n"))
        ++ "]"

end Toml

end SchemaGraph
