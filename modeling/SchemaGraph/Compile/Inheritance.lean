import SchemaGraph.Compile.Reference
import SchemaGraph.Compile.Keyword

/-
  This file collects the properties of an object node from
  the chain of its ancestors and from the node itself.

  The properties of an ancestor are added where the name is
  not taken yet, so that the nearest definition stays; its
  requirement lists are applied right after.  The node's own
  properties replace inherited ones, and its own lists come
  last.  An ancestor met before ends the chain.

  Key definitions include:
    * `PropertyMap`
    * `Graph.mark`
    * `Graph.applyRequirements`
    * `climb`
    * `mergeProperties`
-/

namespace SchemaGraph

/- Validators by property name, in the order of the names. -/
abbrev PropertyMap := List (String × ValidatorId)

------------------------------------------------------------
-- Requirements
------------------------------------------------------------

namespace Graph

/- Give one property a presence. -/
def markName
    (presence : Presence)
    (state : Graph × PropertyMap)
    (name : String) : Graph × PropertyMap :=
  match state.2.lookup name with
  | some id =>
      let (id, g) := state.1.withPresence id presence
      (g, Members.insert name id state.2)
  | none => state

/- Give the named properties a presence. -/
def mark
    (presence : Presence)
    (names : List Json)
    (state : Graph × PropertyMap) : Graph × PropertyMap :=
  (names.filterMap Json.text?).foldl (markName presence) state

/- Give every property a presence. -/
def markAll
    (presence : Presence)
    (state : Graph × PropertyMap) : Graph × PropertyMap :=
  (state.2.map (·.1)).foldl (markName presence) state

/- Apply the list of a keyword, if it is one. -/
def markKeyword
    (presence : Presence)
    (keyword : String)
    (node : Json)
    (state : Graph × PropertyMap) : Graph × PropertyMap :=
  match node.member? keyword with
  | some (.array names) => mark presence names state
  | _ => state

/- Apply the list of optional properties, or `*` for all. -/
def markOptional
    (node : Json)
    (state : Graph × PropertyMap) : Graph × PropertyMap :=
  match node.member? "optional" with
  | some (.string "*") => markAll .optional state
  | _ => markKeyword .optional "optional" node state

/-
  Apply the lists of optional, required and forbidden
  properties of a node, in this order.  Changed validators
  are copies; names that are not there are passed over.
-/
def applyRequirements
    (node : Json)
    (g : Graph)
    (properties : PropertyMap) : Graph × PropertyMap :=
  markKeyword .forbidden "forbidden" node
    (markKeyword .required "required" node
      (markOptional node (g, properties)))

end Graph

/- Apply the requirement lists of a node. -/
def applyRequirements
    (node : Json)
    (properties : PropertyMap) : Compile PropertyMap :=
  modifyGet (fun s =>
    let (graph, properties) :=
      s.graph.applyRequirements node properties
    (properties, { s with graph := graph }))

------------------------------------------------------------
-- Chains of Ancestors
------------------------------------------------------------

/- The properties collected so far, and whether any were declared. -/
structure Inherited where
  properties : PropertyMap
  declared : Bool

/- The names of the properties that a node declares. -/
def declaredNames?
    (node : Json) : Option (List String) :=
  ((node.member? "properties").bind Json.members?).map
    (fun members => members.map (·.1))

/- Compile the declared properties, and put each where it belongs. -/
def collect
    (resolve : Resolver)
    (place : String → ValidatorId → PropertyMap → PropertyMap)
    (owner : NodeKey) :
    List String → PropertyMap → Compile PropertyMap
  | [], properties => return properties
  | name :: rest, properties => do
      let id ← resolve ((owner.child "properties").child name)
      collect resolve place owner rest (place name id properties)

/- Add the properties that a node declares. -/
def addDeclared
    (resolve : Resolver)
    (place : String → ValidatorId → PropertyMap → PropertyMap)
    (owner : NodeKey)
    (node : Json)
    (inherited : Inherited) : Compile Inherited :=
  match declaredNames? node with
  | some names => do
      let properties ←
        collect resolve place owner names inherited.properties
      return ⟨properties, true⟩
  | none => return inherited

/- The value at a node key. -/
def State.node?
    (s : State)
    (key : NodeKey) : Option Json :=
  (s.store.get? key.doc).bind (fun d => d.root.find? key.pointer)

/- The reference of an `extends` link, if there is one. -/
def linkReference?
    (s : State)
    (link : NodeKey) : Option Json :=
  (s.node? link).bind (fun v => v.member? "$ref")

/-
  Collect from an ancestor, unless it was met before, and
  climb on from there.
-/
def ascend
    (climb :
      NodeKey → List NodeKey → Inherited → Compile Inherited)
    (resolve : Resolver)
    (visited : List NodeKey)
    (inherited : Inherited)
    (reference : String)
    (ancestor : NodeKey) : Compile Inherited := do
  if ancestor ∈ visited then
    return inherited
  else
    match (← get).node? ancestor with
    | none => throw (.referenceNotFound reference)
    | some node =>
        let inherited ←
          addDeclared resolve Members.insertNew ancestor node
            inherited
        let properties ←
          applyRequirements node inherited.properties
        climb (ancestor.child "extends") (ancestor :: visited)
          ⟨properties, inherited.declared⟩

/-
  Collect from the ancestors that a link leads to, the
  nearest one first.  A link is followed in the scope of the
  document that contains it.
-/
def climb
    (setting : Setting)
    (watch : Watch)
    (resolve : Resolver) :
    Nat → NodeKey → List NodeKey → Inherited → Compile Inherited
  | 0, _, _, _ => throw .tooManyNodes
  | steps + 1, link, visited, inherited => do
      match linkReference? (← get) link with
      | none => return inherited
      | some (.string reference) =>
          let ancestor ←
            inDocument link.doc
              (followWatched setting watch link reference)
          ascend (climb setting watch resolve steps) resolve visited
            inherited reference ancestor
      | some _ =>
          throw (.invalidSchema link.fragment .extendsNotString)

/-
  The properties of an object node, inherited ones included;
  none when neither the node nor an ancestor declares any.
-/
def mergeProperties
    (setting : Setting)
    (watch : Watch)
    (resolve : Resolver)
    (key : NodeKey)
    (node : Json) : Compile (Option PropertyMap) := do
  let inherited ←
    climb setting watch resolve (setting.budget + 1)
      (key.child "extends") [key] ⟨[], false⟩
  let own ←
    addDeclared resolve Members.insert key node inherited
  let properties ← applyRequirements node own.properties
  return if own.declared then some properties else none

end SchemaGraph
