import SchemaGraph.Json.Reader

/-
  This file reads the texts of TOML: comments, the four kinds
  of strings, and keys.

  A string is basic, with escapes, or literal, without; each
  kind is written on one line or between triple quotes over
  several lines.  A first line break after triple quotes is
  dropped, and a line break of two characters counts as one.

  Key definitions include:
    * `Toml.skipComment`
    * `Toml.skipSpace`
    * `Toml.readBasic`
    * `Toml.readBasicLines`
    * `Toml.readLiteral`
    * `Toml.readLiteralLines`
    * `Toml.readString`
    * `Toml.readKey`
    * `Toml.readPath`
-/

namespace SchemaGraph

namespace Toml

------------------------------------------------------------
-- Blanks and Comments
------------------------------------------------------------

/- The character is a space or a tab. -/
def isSpace
    (c : Char) : Bool :=
  c == ' ' || c == '\t'

/- The character may stand in comments and literal strings. -/
def isPlain
    (c : Char) : Bool :=
  c == '\t' || (0x20 ≤ c.toNat && c.toNat != 0x7F)

/- Skip spaces and tabs. -/
def skipSpace
    (cs : List Char) : List Char :=
  cs.dropWhile isSpace

/- Skip one line break. -/
def skipBreak? : List Char → Option (List Char)
  | '\n' :: cs => some cs
  | '\r' :: '\n' :: cs => some cs
  | _ => none

/- Skip a comment, if one starts here. -/
def skipComment : List Char → List Char
  | '#' :: cs => cs.dropWhile isPlain
  | cs => cs

/- Skip to the next line, past spaces and a comment. -/
def skipLineEnd?
    (cs : List Char) : Option (List Char) :=
  match skipComment (skipSpace cs) with
  | [] => some []
  | rest => skipBreak? rest

/- Skip spaces, comments and line breaks. -/
def skipLines : Nat → List Char → List Char
  | 0, cs => cs
  | fuel + 1, cs =>
      let cs := skipSpace cs
      match skipBreak? (skipComment cs) with
      | some rest => skipLines fuel rest
      | none => cs

------------------------------------------------------------
-- Escapes
------------------------------------------------------------

/- The value of a run of hexadecimal digits. -/
def hexValue?
    (cs : List Char) : Option Nat :=
  cs.foldlM
    (fun n c => (Json.Reader.hexValue? c).map (fun d => n * 16 + d))
    0

/- The character with a code, if there is one. -/
def character?
    (code : Nat) : Option Char :=
  if h : code.isValidChar then some (Char.ofNatAux code h) else none

/- Read an escape after its backslash. -/
def readEscape : List Char → Option (Char × List Char)
  | 'b' :: cs => some (Char.ofNat 8, cs)
  | 't' :: cs => some ('\t', cs)
  | 'n' :: cs => some ('\n', cs)
  | 'f' :: cs => some (Char.ofNat 12, cs)
  | 'r' :: cs => some ('\r', cs)
  | '"' :: cs => some ('"', cs)
  | '\\' :: cs => some ('\\', cs)
  | 'u' :: cs =>
      if cs.length < 4 then
        none
      else
        ((hexValue? (cs.take 4)).bind character?).map
          (fun c => (c, cs.drop 4))
  | 'U' :: cs =>
      if cs.length < 8 then
        none
      else
        ((hexValue? (cs.take 8)).bind character?).map
          (fun c => (c, cs.drop 8))
  | _ => none

------------------------------------------------------------
-- Strings
------------------------------------------------------------

/- Read the rest of a basic string. -/
def readBasic :
    Nat → List Char → List Char → Option (String × List Char)
  | 0, _, _ => none
  | fuel + 1, done, cs =>
      match cs with
      | '"' :: rest => some (String.ofList done.reverse, rest)
      | '\\' :: rest =>
          match readEscape rest with
          | some (c, rest) => readBasic fuel (c :: done) rest
          | none => none
      | c :: rest =>
          if isPlain c then readBasic fuel (c :: done) rest else none
      | [] => none

/- Read the rest of a literal string. -/
def readLiteral :
    List Char → List Char → Option (String × List Char)
  | done, '\'' :: rest => some (String.ofList done.reverse, rest)
  | done, c :: rest =>
      if isPlain c then readLiteral (c :: done) rest else none
  | _, [] => none

/-
  A run of quotes inside a string of several lines: up to
  two are content, up to five end the string, the first two
  of them as content.
-/
def closeLines
    (quote : Char)
    (cs : List Char) : Option (Bool × Nat × List Char) :=
  let count := (cs.takeWhile (· == quote)).length
  let rest := cs.dropWhile (· == quote)
  if count ≤ 2 then
    some (false, count, rest)
  else if count ≤ 5 then
    some (true, count - 3, rest)
  else
    none

/-
  Skip what a backslash at the end of a line joins: the line
  break and all blanks after it.
-/
def joinLines?
    (cs : List Char) : Option (List Char) :=
  (skipBreak? (skipSpace cs)).map
    (fun rest => rest.dropWhile Json.Reader.isBlank)

/- Read the rest of a basic string over several lines. -/
def readBasicLines :
    Nat → List Char → List Char → Option (String × List Char)
  | 0, _, _ => none
  | fuel + 1, done, cs =>
      match cs with
      | '"' :: _ =>
          match closeLines '"' cs with
          | none => none
          | some (closed, count, rest) =>
              let done := List.replicate count '"' ++ done
              if closed then
                some (String.ofList done.reverse, rest)
              else
                readBasicLines fuel done rest
      | '\\' :: rest =>
          match joinLines? rest with
          | some rest => readBasicLines fuel done rest
          | none =>
              match readEscape rest with
              | some (c, rest) => readBasicLines fuel (c :: done) rest
              | none => none
      | c :: rest =>
          if isPlain c then
            readBasicLines fuel (c :: done) rest
          else
            match skipBreak? cs with
            | some rest => readBasicLines fuel ('\n' :: done) rest
            | none => none
      | [] => none

/- Read the rest of a literal string over several lines. -/
def readLiteralLines :
    Nat → List Char → List Char → Option (String × List Char)
  | 0, _, _ => none
  | fuel + 1, done, cs =>
      match cs with
      | '\'' :: _ =>
          match closeLines '\'' cs with
          | none => none
          | some (closed, count, rest) =>
              let done := List.replicate count '\'' ++ done
              if closed then
                some (String.ofList done.reverse, rest)
              else
                readLiteralLines fuel done rest
      | c :: rest =>
          if isPlain c then
            readLiteralLines fuel (c :: done) rest
          else
            match skipBreak? cs with
            | some rest => readLiteralLines fuel ('\n' :: done) rest
            | none => none
      | [] => none

/- Drop the line break that follows triple quotes. -/
def dropBreak
    (cs : List Char) : List Char :=
  (skipBreak? cs).getD cs

/- Read a string on one line. -/
def readLine : List Char → Option (String × List Char)
  | '"' :: cs => readBasic (cs.length + 1) [] cs
  | '\'' :: cs => readLiteral [] cs
  | _ => none

/- Read a string of any kind. -/
def readString : List Char → Option (String × List Char)
  | '"' :: '"' :: '"' :: cs =>
      readBasicLines (cs.length + 1) [] (dropBreak cs)
  | '\'' :: '\'' :: '\'' :: cs =>
      readLiteralLines (cs.length + 1) [] (dropBreak cs)
  | cs => readLine cs

------------------------------------------------------------
-- Keys
------------------------------------------------------------

/- The character may stand in a bare key. -/
def isBare
    (c : Char) : Bool :=
  c.isAlphanum || c == '_' || c == '-'

/- Read one key. -/
def readKey
    (cs : List Char) : Option (String × List Char) :=
  match cs with
  | '"' :: _ => readLine cs
  | '\'' :: _ => readLine cs
  | _ =>
      let bare := cs.takeWhile isBare
      if bare.isEmpty then
        none
      else
        some (String.ofList bare, cs.dropWhile isBare)

/- Read keys between points, with the spaces around them. -/
def readPath : Nat → List Char → Option (List String × List Char)
  | 0, _ => none
  | fuel + 1, cs =>
      match readKey (skipSpace cs) with
      | none => none
      | some (key, rest) =>
          match skipSpace rest with
          | '.' :: rest =>
              (readPath fuel rest).map
                (fun (keys, rest) => (key :: keys, rest))
          | rest => some ([key], rest)

end Toml

end SchemaGraph
