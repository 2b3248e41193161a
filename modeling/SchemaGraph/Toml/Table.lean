import SchemaGraph.Json.Value

/-
  This file defines the tables that a TOML document builds
  up.  A table is made by a header of its own, or in passing
  by a header of a table inside it, or by a key with points;
  which of them decides how the table may grow later.

  Key definitions include:
    * `Toml.Form`
    * `Toml.Entry`
    * `Toml.descend`
    * `Toml.assign`
    * `Toml.openTable`
    * `Toml.openElement`
    * `Toml.Entry.toJson`
-/

namespace SchemaGraph

namespace Toml

/- How a table was made. -/
inductive Form where
  /- By its own header. -/
  | headed
  /- By the header of a table inside it. -/
  | implied
  /- By a key with points. -/
  | dotted
deriving DecidableEq

/- What a key of a table stands for. -/
inductive Entry where
  | value (v : Json)
  | table (form : Form) (entries : List (String × Entry))
  /- The elements of an array of tables, the latest first. -/
  | tables (elements : List (List (String × Entry)))

/- The entries of a table. -/
abbrev Entries := List (String × Entry)

/-
  Change the table that a path leads to, making the tables
  on the way that are missing.  A path of a key with points
  does not enter tables that have a header.
-/
def descend
    (way : Form)
    (change : Form → Entries → Option Entries) :
    List String → Form → Entries → Option Entries
  | [], form, entries => change form entries
  | key :: rest, _, entries =>
      match entries.lookup key with
      | none =>
          (descend way change rest way []).map (fun inner =>
            Members.insert key (.table way inner) entries)
      | some (.value _) => none
      | some (.table form inner) =>
          if way = .dotted ∧ form = .headed then
            none
          else
            (descend way change rest form inner).map (fun inner =>
              Members.insert key (.table form inner) entries)
      | some (.tables []) => none
      | some (.tables (latest :: earlier)) =>
          (descend way change rest .headed latest).map (fun inner =>
            Members.insert key (.tables (inner :: earlier)) entries)

/- Set a key that is not set yet. -/
def setNew
    (key : String)
    (entry : Entry)
    (entries : Entries) : Option Entries :=
  match entries.lookup key with
  | some _ => none
  | none => some (Members.insert key entry entries)

/-
  Set the key at the end of a path.  The table that holds it
  is made by keys with points if the path has points.
-/
def assign
    (path : List String)
    (v : Json)
    (entries : Entries) : Option Entries :=
  match path.reverse with
  | [] => none
  | [key] => setNew key (.value v) entries
  | key :: lead =>
      descend .dotted
        (fun form inner =>
          if form = .dotted then
            setNew key (.value v) inner
          else
            none)
        lead.reverse .headed entries

/- Open the table of a header. -/
def openTable
    (path : List String)
    (entries : Entries) : Option Entries :=
  match path.reverse with
  | [] => none
  | key :: lead =>
      descend .implied
        (fun _ inner =>
          match inner.lookup key with
          | none => some (Members.insert key (.table .headed []) inner)
          | some (.table .implied more) =>
              some (Members.insert key (.table .headed more) inner)
          | some _ => none)
        lead.reverse .headed entries

/- Open a new element of an array of tables. -/
def openElement
    (path : List String)
    (entries : Entries) : Option Entries :=
  match path.reverse with
  | [] => none
  | key :: lead =>
      descend .implied
        (fun _ inner =>
          match inner.lookup key with
          | none => some (Members.insert key (.tables [[]]) inner)
          | some (.tables elements) =>
              some
                (Members.insert key (.tables ([] :: elements)) inner)
          | some _ => none)
        lead.reverse .headed entries

/- Set a key below the table that was opened last. -/
def assignIn
    (current path : List String)
    (v : Json)
    (entries : Entries) : Option Entries :=
  descend .implied (fun _ inner => assign path v inner)
    current .headed entries

mutual

/- What a key stands for, as a JSON value. -/
def Entry.toJson : Entry → Json
  | .value v => v
  | .table _ entries => .object (membersOf entries)
  | .tables elements => .array (elementsOf elements).reverse

/- The members of a table. -/
def membersOf : List (String × Entry) → List (String × Json)
  | [] => []
  | (key, entry) :: rest => (key, entry.toJson) :: membersOf rest

/- The elements of an array of tables. -/
def elementsOf : List (List (String × Entry)) → List Json
  | [] => []
  | entries :: rest => .object (membersOf entries) :: elementsOf rest

end

end Toml

end SchemaGraph
