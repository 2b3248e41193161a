import SchemaGraph.Toml.Scalar
import SchemaGraph.Toml.Table

/-
  This file reads TOML documents as JSON values: a list of
  lines, each a key with its value or the header of a table.
  Arrays and inline tables nest up to eighty levels deep.

  Key definitions include:
    * `Toml.readValue`
    * `Toml.Line`
    * `Toml.readLines`
    * `Toml.build`
    * `Toml.read?`
-/

namespace SchemaGraph

namespace Toml

------------------------------------------------------------
-- Values
------------------------------------------------------------

/- The number of container levels that a value may have. -/
def nestingLimit : Nat := 80

mutual

/-
  Read a value.  `room` is the number of container levels
  left, and `fuel` bounds the steps.
-/
def readValue : Nat → Nat → List Char → Option (Json × List Char)
  | 0, _, _ => none
  | fuel + 1, room, cs =>
      match cs with
      | '"' :: _ =>
          (readString cs).map (fun (s, rest) => (.string s, rest))
      | '\'' :: _ =>
          (readString cs).map (fun (s, rest) => (.string s, rest))
      | '[' :: rest =>
          match room with
          | 0 => none
          | room + 1 => readItems fuel room [] rest
      | '\x7b' :: rest =>
          match room with
          | 0 => none
          | room + 1 =>
              match skipSpace rest with
              | '\x7d' :: rest => some (.object [], rest)
              | rest => readPairs fuel room [] rest
      | _ => readScalar cs

/- Read the rest of an array. -/
def readItems :
    Nat → Nat → List Json → List Char → Option (Json × List Char)
  | 0, _, _, _ => none
  | fuel + 1, room, done, cs =>
      match skipLines cs.length cs with
      | ']' :: rest => some (.array done.reverse, rest)
      | cs =>
          match readValue fuel room cs with
          | none => none
          | some (v, rest) =>
              match skipLines rest.length rest with
              | ',' :: rest => readItems fuel room (v :: done) rest
              | ']' :: rest =>
                  some (.array (v :: done).reverse, rest)
              | _ => none

/- Read the rest of an inline table. -/
def readPairs :
    Nat → Nat → Entries → List Char → Option (Json × List Char)
  | 0, _, _, _ => none
  | fuel + 1, room, entries, cs =>
      match readPath (cs.length + 1) cs with
      | some (path, '=' :: rest) =>
          match readValue fuel room (skipSpace rest) with
          | none => none
          | some (v, rest) =>
              match assign path v entries with
              | none => none
              | some entries =>
                  match skipSpace rest with
                  | ',' :: rest => readPairs fuel room entries rest
                  | '\x7d' :: rest =>
                      some (.object (membersOf entries), rest)
                  | _ => none
      | _ => none

end

------------------------------------------------------------
-- Lines
------------------------------------------------------------

/- One line of a document. -/
inductive Line where
  | blank
  | assignment (path : List String) (v : Json)
  | header (path : List String)
  | element (path : List String)

/- Read one line up to its end. -/
def readOne
    (cs : List Char) : Option (Line × List Char) :=
  match skipSpace cs with
  | [] => some (.blank, [])
  | '#' :: _ => some (.blank, cs)
  | '\n' :: _ => some (.blank, cs)
  | '\r' :: _ => some (.blank, cs)
  | '[' :: '[' :: rest =>
      match readPath (rest.length + 1) rest with
      | some (path, ']' :: ']' :: rest) => some (.element path, rest)
      | _ => none
  | '[' :: rest =>
      match readPath (rest.length + 1) rest with
      | some (path, ']' :: rest) => some (.header path, rest)
      | _ => none
  | rest =>
      match readPath (rest.length + 1) rest with
      | some (path, '=' :: rest) =>
          (readValue (rest.length + 1) nestingLimit
            (skipSpace rest)).map
            (fun (v, rest) => (.assignment path v, rest))
      | _ => none

/- Read all lines. -/
def readLines : Nat → List Char → Option (List Line)
  | 0, _ => none
  | fuel + 1, cs =>
      match cs with
      | [] => some []
      | _ :: _ => do
          let (line, rest) ← readOne cs
          let rest ← skipLineEnd? rest
          return line :: (← readLines fuel rest)

------------------------------------------------------------
-- Documents
------------------------------------------------------------

/- Add a line to the tables; the path is that of the open one. -/
def addLine
    (state : List String × Entries)
    (line : Line) : Option (List String × Entries) :=
  let (current, entries) := state
  match line with
  | .blank => some (current, entries)
  | .assignment path v =>
      (assignIn current path v entries).map
        (fun entries => (current, entries))
  | .header path =>
      (openTable path entries).map (fun entries => (path, entries))
  | .element path =>
      (openElement path entries).map (fun entries => (path, entries))

/- The tables that lines build up. -/
def build
    (lines : List Line) : Option Json :=
  (lines.foldlM addLine ([], [])).map
    (fun (_, entries) => .object (membersOf entries))

/- Read a document; one leading byte-order mark is ignored. -/
def read?
    (text : String) : Option Json :=
  let cs := (Json.stripMark text).toList
  (readLines (cs.length + 1) cs).bind build

end Toml

end SchemaGraph
