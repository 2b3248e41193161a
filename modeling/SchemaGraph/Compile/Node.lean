import SchemaGraph.Compile.Primitive

/-
  This file compiles nodes.  A node is compiled at most
  once; its validator is remembered and shared by all
  references to it.  A reference to a node in progress is a
  cycle and defers to a cell, which is filled when the node
  is done.

  Key definitions include:
    * `resolveBranches`
    * `resolveAllOf`
    * `resolveReference`
    * `compileNode`
    * `dispatch`
    * `resolveStep`
    * `resolveWithin`
-/

namespace SchemaGraph

------------------------------------------------------------
-- Combinators
------------------------------------------------------------

/- Compile the items of a list, from a position on. -/
def resolveBranches
    (resolve : Resolver)
    (list : NodeKey) :
    Nat → List Json → Compile (List ValidatorId)
  | _, [] => return []
  | i, _ :: rest => do
      let id ← resolve (list.index i)
      let ids ← resolveBranches resolve list (i + 1) rest
      return id :: ids

/- Compile one side of a condition, when it is given. -/
def resolveSide
    (resolve : Resolver)
    (slot : NodeKey)
    (node : Json)
    (side : String) : Compile (Option ValidatorId) := do
  match node.keyword? side with
  | some _ => return some (← resolve (slot.child side))
  | none => return none

/- Compile one part of an intersection. -/
def resolvePart
    (resolve : Resolver)
    (slot : NodeKey)
    (node : Json) : Compile Branch := do
  if isConditional node then
    let test ← resolve (slot.child "if")
    let pass ← resolveSide resolve slot node "then"
    let fail ← resolveSide resolve slot node "else"
    return .conditional test pass fail
  else
    return .schema (← resolve slot)

/- Compile the parts of an intersection, from a position on. -/
def resolveParts
    (resolve : Resolver)
    (list : NodeKey) :
    Nat → List Json → Compile (List Branch)
  | _, [] => return []
  | i, node :: rest => do
      let part ← resolvePart resolve (list.index i) node
      let parts ← resolveParts resolve list (i + 1) rest
      return part :: parts

/- Compile an intersection. -/
def resolveAllOf
    (resolve : Resolver)
    (key : NodeKey)
    (branches : List Json) : Compile ValidatorId := do
  let parts ← resolveParts resolve (key.child "allOf") 0 branches
  pushNode { rule := .all parts }

------------------------------------------------------------
-- References
------------------------------------------------------------

/- Let a validator accept `null` if its node does. -/
def nullable
    (node : Json)
    (id : ValidatorId) : Compile ValidatorId :=
  if allowsNull node then allowNull id else return id

/- Answer a reference by what its target compiles to. -/
def referTo
    (resolve : Resolver)
    (node : Json)
    (target : NodeKey) : Compile ValidatorId := do
  let id ←
    if target ∈ (← get).progress then
      deferTo target
    else
      resolve target
  nullable node id

/- Compile a node that is a reference. -/
def resolveReference
    (setting : Setting)
    (watch : Watch)
    (resolve : Resolver)
    (key : NodeKey)
    (node : Json)
    (reference : String) : Compile ValidatorId := do
  let target ← followWatched setting watch key reference
  referTo resolve node target

------------------------------------------------------------
-- Nodes
------------------------------------------------------------

section Nodes

variable (setting : Setting)
variable (watch : Watch)

/- Compile a node by its kind. -/
def resolveKind
    (resolve : Resolver)
    (key : NodeKey)
    (node : Json) : Discriminator → Compile ValidatorId
  | .typed type =>
      resolveTyped setting watch resolve key node type
  | .anyOf branches => do
      let ids ←
        resolveBranches resolve (key.child "anyOf") 0 branches
      pushNode { rule := .alternatives ids }
  | .oneOf branches => do
      let ids ←
        resolveBranches resolve (key.child "oneOf") 0 branches
      pushNode { rule := .alternatives ids, presence := .required }
  | .allOf branches => resolveAllOf resolve key branches
  | .reference text =>
      resolveReference setting watch resolve key node text
  | .listed values =>
      pushNode { rule := .literal (listedValues values) }
  | .unrecognized => pushNode { rule := .any }

/- Compile a node. -/
def compileNode
    (resolve : Resolver)
    (key : NodeKey)
    (node : Json) : Compile ValidatorId := do
  let kind ← orFault key (classify node)
  resolveKind setting watch resolve key node kind

/- Compile the node of a key that was begun, if there is one. -/
def compileBegun
    (resolve : Resolver)
    (key : NodeKey)
    (found : Option Json) : Compile ValidatorId := do
  look watch (.began key)
  match found with
  | none => throw (.referenceNotFound key.fragment)
  | some node => compileNode setting watch resolve key node

/- Compile the node of a key. -/
def dispatch
    (resolve : Resolver)
    (key : NodeKey) : Compile ValidatorId := do
  let s ← get
  note (.began key s.currentDocument?)
  compileBegun setting watch resolve key (s.node? key)

/- Note the validator that a node is answered with. -/
def answer
    (key : NodeKey)
    (id : ValidatorId) : Compile ValidatorId := do
  note (.answered key id)
  return id

/-
  Answer a node: from memory, by a cell if it is in
  progress, or else by compiling it.
-/
def resolveStep
    (resolve : Resolver)
    (key : NodeKey) : Compile ValidatorId := do
  let s ← get
  let id ←
    match s.resolved.lookup key with
    | some id => pure id
    | none =>
        if key ∈ s.progress then
          deferTo key
        else do
          let id ←
            inDocument key.doc
              (inProgress key (dispatch setting watch resolve key))
          remember key id
          pure id
  answer key id

/- Answer a node whose compilation nests a number of nodes at most. -/
def resolveWithin : Nat → Resolver
  | 0 => fun _ => throw .tooManyNodes
  | depth + 1 =>
      Resolver.watched watch
        (resolveStep setting watch (resolveWithin depth))

end Nodes

end SchemaGraph
