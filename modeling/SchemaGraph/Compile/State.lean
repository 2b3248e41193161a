import SchemaGraph.Compile.Options
import SchemaGraph.Document.Store

/-
  This file defines the state of a compilation.

  Two stacks are kept.  The scope holds the documents being
  worked in, the one that contains the current node on top.
  The nodes in progress are those whose validators are being
  built; a reference to one of them is a cycle and becomes a
  deferred cell.

  The journal lists what a compilation did: the nodes it
  began and answered, the references it followed and the
  paths it asked the loader for.

  Key definitions include:
    * `Event`
    * `State`
    * `Compile`
    * `inDocument`
    * `inProgress`
    * `cellFor`
    * `deferTo`
-/

namespace SchemaGraph

------------------------------------------------------------
-- Events
------------------------------------------------------------

/- What a loader answered. -/
inductive LoadOutcome where
  | found
  | nothing
  | failed
deriving DecidableEq, Repr

/- One thing that a compilation did. -/
inductive Event where
  /- A node was begun with a document on top of the scope. -/
  | began (key : NodeKey) (scope : Option DocId)
  /- A node was asked for and answered with a validator. -/
  | answered (key : NodeKey) (id : ValidatorId)
  /- A reference was followed to its target, if it has one. -/
  | followed
      (scope : Option DocId)
      (reference : String)
      (target : Option NodeKey)
  /- The loader was asked for a path. -/
  | asked (path : Path) (outcome : LoadOutcome)
deriving DecidableEq

------------------------------------------------------------
-- States
------------------------------------------------------------

/- The state of a compilation. -/
structure State where
  store : Store
  graph : Graph
  scope : List DocId
  progress : List NodeKey
  resolved : List (NodeKey × ValidatorId)
  cells : List (NodeKey × CellId)
  /- The latest event first. -/
  journal : List Event

namespace State

/- The state before anything was done. -/
def initial : State :=
  ⟨Store.empty, Graph.empty, [], [], [], [], []⟩

/- The document that contains the current node. -/
def currentDocument?
    (s : State) : Option DocId :=
  s.scope.head?

/- The events in their order. -/
def history
    (s : State) : List Event :=
  s.journal.reverse

/- Note an event. -/
def note
    (s : State)
    (e : Event) : State :=
  { s with journal := e :: s.journal }

end State

/- A step of a compilation; an error keeps the state it arose in. -/
abbrev Compile := EStateM CompileError State

/- The way to compile the nodes inside a node. -/
abbrev Resolver := NodeKey → Compile ValidatorId

/- What a compilation depends on besides its state. -/
structure Setting where
  options : Options
  loader : Loader
  engine : Pattern.Engine
  /- A bound for the nodes of all documents. -/
  budget : Nat

------------------------------------------------------------
-- Steps
------------------------------------------------------------

/- Note an event. -/
def note
    (e : Event) : Compile Unit :=
  modify (fun s => s.note e)

/- Add a validator to the graph. -/
def pushNode
    (v : Validator) : Compile ValidatorId :=
  modifyGet (fun s =>
    let (id, graph) := s.graph.push v
    (id, { s with graph := graph }))

/- A validator like the given one that accepts `null`, too. -/
def allowNull
    (id : ValidatorId) : Compile ValidatorId :=
  modifyGet (fun s =>
    let (id, graph) := s.graph.allowingNull id
    (id, { s with graph := graph }))

/-
  Work with a document on top of the scope, and take it off
  again, also after an error.
-/
def inDocument
    {α : Type}
    (doc : DocId)
    (step : Compile α) : Compile α :=
  fun s =>
    if s.scope.head? = some doc then
      step s
    else
      match step { s with scope := doc :: s.scope } with
      | .ok a t => .ok a { t with scope := t.scope.tail }
      | .error e t => .error e { t with scope := t.scope.tail }

/- Work with a node in progress, also until after an error. -/
def inProgress
    {α : Type}
    (key : NodeKey)
    (step : Compile α) : Compile α :=
  fun s =>
    match step { s with progress := key :: s.progress } with
    | .ok a t => .ok a { t with progress := t.progress.tail }
    | .error e t => .error e { t with progress := t.progress.tail }

/- The cell that stands for a node. -/
def cellFor
    (key : NodeKey) : Compile CellId :=
  modifyGet (fun s =>
    match s.cells.lookup key with
    | some c => (c, s)
    | none =>
        let (c, graph) := s.graph.newCell
        (c, { s with graph := graph, cells := (key, c) :: s.cells }))

/- A validator that defers to the cell of a node. -/
def deferTo
    (key : NodeKey) : Compile ValidatorId := do
  let c ← cellFor key
  pushNode { rule := .deferred c }

/-
  Remember the validator of a node, and fill the node's cell
  if it has one.
-/
def remember
    (key : NodeKey)
    (id : ValidatorId) : Compile Unit :=
  modify (fun s =>
    let graph :=
      match s.cells.lookup key with
      | some c => (s.graph.fillCell c id).2
      | none => s.graph
    { s with graph := graph, resolved := (key, id) :: s.resolved })

end SchemaGraph
