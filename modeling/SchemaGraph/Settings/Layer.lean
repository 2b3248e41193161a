import SchemaGraph.Settings.Basic
import SchemaGraph.Violation

/-
  This file lays settings from several sources over each
  other.  A source is a table; a later one adds to an
  earlier one, table by table, and replaces what is no
  table.  Keys do not depend on case.

  A key at the top of a source is read as a way into the
  tables, such as `log.filter` or `registry.dirs[0]`, if it
  has the form of one.

  Key definitions include:
    * `Settings.Step`
    * `Settings.readWay?`
    * `Settings.lay`
    * `Settings.layAt`
    * `Settings.layTable`
    * `Settings.Reading.loose`
-/

namespace SchemaGraph

namespace Settings

------------------------------------------------------------
-- Ways
------------------------------------------------------------

/- One step into a value. -/
inductive Step where
  | key (name : String)
  | index (i : Nat)
deriving DecidableEq, Repr

/- The character may stand in a name of a way. -/
def isWayChar
    (c : Char) : Bool :=
  c.isAlphanum || c == '_' || c == '-' || c == ' '

/- Read a name of a way. -/
def readName?
    (cs : List Char) : Option (Step × List Char) :=
  match cs.takeWhile isWayChar with
  | [] => none
  | name =>
      some (.key (String.ofList name), cs.dropWhile isWayChar)

/- Read the steps that follow the first one. -/
def readSteps? : Nat → List Char → Option (List Step)
  | 0, _ => none
  | fuel + 1, cs =>
      match cs with
      | [] => some []
      | '.' :: rest => do
          let (step, rest) ← readName? rest
          return step :: (← readSteps? fuel rest)
      | '[' :: rest =>
          match rest.takeWhile Char.isDigit,
              rest.dropWhile Char.isDigit with
          | d :: ds, ']' :: rest =>
              (readSteps? fuel rest).map
                (fun steps =>
                  .index (Calendar.digitsValue (d :: ds)) :: steps)
          | _, _ => none
      | _ => none

/- Read a way. -/
def readWay?
    (text : String) : Option (List Step) := do
  let (step, rest) ← readName? text.toList
  return step :: (← readSteps? (rest.length + 1) rest)

/- The way that a key stands for. -/
def wayOf
    (key : String) : List Step :=
  (readWay? key).getD [.key key]

------------------------------------------------------------
-- Layers
------------------------------------------------------------

/- The members of a value; what is no table has none. -/
def membersIn : Json → List (String × Json)
  | .object members => members
  | _ => []

mutual

/-
  Lay a value over another one: a table adds to it, anything
  else replaces it.
-/
def lay
    (below : Json) : Json → Json
  | .object members => layMembers below members
  | v => v

/- Lay members over a value one after another. -/
def layMembers
    (below : Json) : List (String × Json) → Json
  | [] => below
  | (name, v) :: rest =>
      let table := membersIn below
      let key := name.toLower
      let inner := (table.lookup key).getD (.object [])
      layMembers
        (.object (Members.insert key (lay inner v) table)) rest

end

/- Set an item of a list, which grows as far as needed. -/
def setItem
    (i : Nat)
    (change : Option Json → Json)
    (items : List Json) : List Json :=
  let items := items ++ List.replicate (i + 1 - items.length) .null
  items.set i (change items[i]?)

/- Lay a value over what a way leads to. -/
def layAt
    (v : Json) : List Step → Option Json → Json
  | [], below => lay (below.getD (.object [])) v
  | .key name :: rest, below =>
      let table := membersIn (below.getD .null)
      let key := name.toLower
      .object
        (Members.insert key (layAt v rest (table.lookup key)) table)
  | .index i :: rest, below =>
      let items := ((below.bind Json.items?)).getD []
      .array (setItem i (layAt v rest) items)

/- Lay a source over the sources below it. -/
def layTable
    (below : Json)
    (entries : List (String × Json)) : Json :=
  entries.foldl
    (fun table entry => layAt entry.2 (wayOf entry.1) (some table))
    below

------------------------------------------------------------
-- Texts of Scalars
------------------------------------------------------------

/- A number as a text. -/
def numberText
    (n : Number) : String :=
  match n.signed? with
  | some i => Json.writeInt i
  | none => Complaint.limitLayout.write n.toFloat

/- In sources of settings, every scalar is a text. -/
def Reading.loose : Reading where
  text? := fun v =>
    match v with
    | .string s => some s
    | .bool b => some (if b then "true" else "false")
    | .number n => some (numberText n)
    | _ => none
  longLists := true

end Settings

end SchemaGraph
