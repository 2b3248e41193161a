import SchemaGraph.Graph.Rule

/-
  This file defines validator graphs.  A graph is a list of
  validators that only grows, and a list of deferred cells;
  a cell is filled with a validator once the schema that it
  stands for is compiled.

  Key definitions include:
    * `Presence`
    * `CustomType`
    * `Branch`
    * `Rule`
    * `Validator`
    * `Graph`
    * `Graph.push`
    * `Graph.derive`
    * `Graph.withPresence`
    * `Graph.allowingNull`
    * `Graph.newCell`
    * `Graph.leadsTo`
    * `Graph.fillCell`
-/

namespace SchemaGraph

------------------------------------------------------------
-- Validators
------------------------------------------------------------

/- How a validator treats an absent value. -/
inductive Presence where
  | optional
  | required
  /- The value must be absent. -/
  | forbidden
deriving DecidableEq, Repr

/-
  A type that the caller supplies: its name, and the
  violations of a value at a path, at the moment of a check.
  There is no answer when the check does not end.
-/
structure CustomType where
  name : String
  check :
    Calendar.Instant → Json → String → Option (List Violation)

/- One part of an intersection. -/
inductive Branch where
  | schema (id : ValidatorId)
  /-
    The second validator applies to values that pass the
    first one, and the third to those that fail it.
  -/
  | conditional
      (test : ValidatorId)
      (pass fail : Option ValidatorId)
deriving DecidableEq

/- What a validator checks. -/
inductive Rule where
  | any
  | boolean
  | number (rule : NumberRule)
  | string (rule : StringRule)
  | email (rule : EmailRule)
  | date (rule : DateRule)
  | time (rule : TimeRule)
  | object (rule : ObjectRule)
  | array (rule : ArrayRule)
  /- Only the listed values. -/
  | literal (values : List Json)
  /- The first validator that accepts decides. -/
  | alternatives (branches : List ValidatorId)
  /- Every part must accept. -/
  | all (branches : List Branch)
  /- What the cell holds; any value while it is empty. -/
  | deferred (cell : CellId)
  | custom (type : CustomType)

/- A short name for the kind of a rule. -/
def Rule.kind : Rule → String
  | any => "any"
  | boolean => "boolean"
  | number rule => if rule.integer then "integer" else "number"
  | string _ => "string"
  | email _ => "email"
  | date _ => "date"
  | time _ => "time"
  | object _ => "object"
  | array _ => "array"
  | literal _ => "literal"
  | alternatives _ => "alternatives"
  | all _ => "all"
  | deferred _ => "deferred"
  | custom _ => "custom"

/- A rule with what surrounds it. -/
structure Validator where
  rule : Rule
  presence : Presence := .optional
  /- `null` is accepted besides what the rule accepts. -/
  allowNull : Bool := false

------------------------------------------------------------
-- Graphs
------------------------------------------------------------

/- Validators and deferred cells. -/
structure Graph where
  nodes : Array Validator
  cells : Array (Option ValidatorId)

namespace Graph

/- The graph without validators. -/
def empty : Graph :=
  ⟨#[], #[]⟩

/- The number of validators. -/
def size
    (g : Graph) : Nat :=
  g.nodes.size

/- A validator of the graph. -/
def node?
    (g : Graph)
    (id : ValidatorId) : Option Validator :=
  g.nodes[id.index]?

/- The content of a cell; an empty cell has none. -/
def cell?
    (g : Graph)
    (c : CellId) : Option ValidatorId :=
  (g.cells[c.index]?).join

/- Add a validator. -/
def push
    (g : Graph)
    (v : Validator) : ValidatorId × Graph :=
  (⟨g.nodes.size⟩, ⟨g.nodes.push v, g.cells⟩)

/-
  Add a changed copy of a validator; the given one stays as
  it is for whatever shares it.
-/
def derive
    (g : Graph)
    (id : ValidatorId)
    (change : Validator → Validator) : ValidatorId × Graph :=
  match g.node? id with
  | some v => g.push (change v)
  | none => (id, g)

/- A validator like the given one with another presence. -/
def withPresence
    (g : Graph)
    (id : ValidatorId)
    (presence : Presence) : ValidatorId × Graph :=
  match g.node? id with
  | some v =>
      if v.presence = presence then
        (id, g)
      else
        g.push ⟨v.rule, presence, v.allowNull⟩
  | none => (id, g)

/- A validator like the given one that accepts `null`, too. -/
def allowingNull
    (g : Graph)
    (id : ValidatorId) : ValidatorId × Graph :=
  match g.node? id with
  | some v =>
      if v.allowNull then
        (id, g)
      else
        g.push ⟨v.rule, v.presence, true⟩
  | none => (id, g)

------------------------------------------------------------
-- Deferred Cells
------------------------------------------------------------

/- Add an empty cell. -/
def newCell
    (g : Graph) : CellId × Graph :=
  (⟨g.cells.size⟩, ⟨g.nodes, g.cells.push none⟩)

/- The cell that a validator defers to. -/
def deferredCell?
    (g : Graph)
    (id : ValidatorId) : Option CellId :=
  match g.node? id with
  | some ⟨.deferred c, _, _⟩ => some c
  | _ => none

/-
  Following deferred validators and their cells from a
  validator meets a given cell within a number of steps.
  Running out of steps counts as meeting it.
-/
def meetsCell
    (g : Graph)
    (target : CellId) : Nat → ValidatorId → Bool
  | 0, _ => true
  | steps + 1, id =>
      match g.deferredCell? id with
      | none => false
      | some c =>
          if c = target then
            true
          else
            match g.cell? c with
            | some next => g.meetsCell target steps next
            | none => false

/- A validator only leads back to a cell. -/
def leadsTo
    (g : Graph)
    (id : ValidatorId)
    (c : CellId) : Bool :=
  g.meetsCell c (g.cells.size + 1) id

/-
  Fill a cell, unless its content would only lead back to
  the cell itself; the flag tells whether it was filled.
-/
def fillCell
    (g : Graph)
    (c : CellId)
    (id : ValidatorId) : Bool × Graph :=
  if g.leadsTo id c then
    (false, g)
  else
    (true, ⟨g.nodes, g.cells.setIfInBounds c.index (some id)⟩)

end Graph

end SchemaGraph
