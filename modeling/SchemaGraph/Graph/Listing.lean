import SchemaGraph.Graph.Basic

/-
  This file lists the validators that can be reached from a
  root, breadth first, and describes them as JSON.  In the
  description a validator is known by its position in the
  list, so that shared validators show as one number.

  Key definitions include:
    * `Rule.references`
    * `Graph.reachable`
    * `Graph.cellsOf`
    * `Graph.describe`
-/

namespace SchemaGraph

------------------------------------------------------------
-- Reachable Validators
------------------------------------------------------------

/- The validators that a part of an intersection mentions. -/
def Branch.references : Branch → List ValidatorId
  | schema id => [id]
  | conditional test pass fail =>
      test :: pass.toList ++ fail.toList

/- The validators that a rule mentions, in their order. -/
def Rule.references
    (g : Graph) : Rule → List ValidatorId
  | object rule =>
      (rule.properties.getD []).map (·.2)
        ++ (match rule.unknown with
          | .schema id => [id]
          | _ => [])
  | array rule => rule.items.toList
  | alternatives branches => branches
  | all branches => branches.flatMap Branch.references
  | deferred c => (g.cell? c).toList
  | _ => []

namespace Graph

/- The validators that a validator mentions. -/
def references
    (g : Graph)
    (id : ValidatorId) : List ValidatorId :=
  match g.node? id with
  | some v => v.rule.references g
  | none => []

/- Append what is not in the list yet. -/
def appendNew
    (found : List ValidatorId)
    (ids : List ValidatorId) : List ValidatorId :=
  ids.foldl
    (fun found id => if id ∈ found then found else found ++ [id])
    found

/-
  Visit the validators found so far from a position on, and
  append those that they mention.
-/
def reachFrom
    (g : Graph) :
    Nat → Nat → List ValidatorId → List ValidatorId
  | 0, _, found => found
  | steps + 1, i, found =>
      match found[i]? with
      | none => found
      | some id =>
          g.reachFrom steps (i + 1)
            (appendNew found (g.references id))

/- The validators reachable from a root, breadth first. -/
def reachable
    (g : Graph)
    (root : ValidatorId) : List ValidatorId :=
  g.reachFrom (g.size + 1) 0 [root]

/- The cells of some validators, in the order of appearance. -/
def cellsOf
    (g : Graph)
    (ids : List ValidatorId) : List CellId :=
  (ids.filterMap g.deferredCell?).eraseDups

end Graph

------------------------------------------------------------
-- Descriptions
------------------------------------------------------------

namespace Describe

/- A natural number, or nothing if it has more than 64 bits. -/
def count
    (n : Nat) : Json :=
  match Number.ofInt? n with
  | some number => .number number
  | none => .null

/- An optional value. -/
def orNull
    {α : Type}
    (f : α → Json) : Option α → Json
  | some a => f a
  | none => .null

/- A binary64 value. -/
def real
    (f : Float) : Json :=
  .number (.real f)

/- The position of an element in a list. -/
def position
    {α : Type}
    [DecidableEq α]
    (order : List α)
    (a : α) : Json :=
  count (order.findIdx (· = a))

/- The name of a presence. -/
def presence : Presence → String
  | .optional => "optional"
  | .required => "required"
  | .forbidden => "forbidden"

/- A bound for dates. -/
def dateBound : DateBound → Json
  | .now => .string "now"
  | .moment t => .string t.text

/- A part of an intersection. -/
def branch
    (number : ValidatorId → Json) : Branch → Json
  | .schema id => .object [("schema", number id)]
  | .conditional test pass fail =>
      .object
        [("else", orNull number fail), ("if", number test),
          ("then", orNull number pass)]

/- What an object rule does with undeclared keys. -/
def unknownKeys
    (number : ValidatorId → Json) : UnknownKeys → Json
  | .reject => .string "reject"
  | .ignore => .string "ignore"
  | .allow => .string "allow"
  | .schema id => .object [("schema", number id)]

/- The members that describe a rule. -/
def rule
    (g : Graph)
    (number : ValidatorId → Json)
    (cell : CellId → Json) : Rule → List (String × Json)
  | .any => []
  | .boolean => []
  | .number r =>
      [("minimum", orNull real r.minimum),
        ("maximum", orNull real r.maximum)]
  | .string r =>
      [("pattern", orNull (fun p => .string p.source) r.pattern),
        ("min_length", orNull count r.minLength),
        ("max_length", orNull count r.maxLength),
        ("allow_empty", .bool r.allowEmpty)]
  | .email r =>
      [("pattern", .string r.pattern.source),
        ("max_length", orNull count r.maxLength)]
  | .date r =>
      [("min", orNull dateBound r.min),
        ("max", orNull dateBound r.max)]
  | .time r =>
      [("min", orNull (fun t => .string t.text) r.min),
        ("max", orNull (fun t => .string t.text) r.max)]
  | .object r =>
      [("properties",
          orNull
            (fun ps => .object (ps.map (fun p => (p.1, number p.2))))
            r.properties),
        ("unknown", unknownKeys number r.unknown),
        ("min_properties", orNull count r.minProperties),
        ("max_properties", orNull count r.maxProperties)]
  | .array r =>
      [("items", orNull number r.items),
        ("min_items", orNull count r.minItems),
        ("max_items", orNull count r.maxItems),
        ("unique", .bool r.unique)]
  | .literal values => [("values", .array values)]
  | .alternatives ids => [("branches", .array (ids.map number))]
  | .all branches =>
      [("branches", .array (branches.map (branch number)))]
  | .deferred c =>
      [("cell", cell c), ("target", orNull number (g.cell? c))]
  | .custom t => [("name", .string t.name)]

/- The members that describe a validator. -/
def validator
    (g : Graph)
    (number : ValidatorId → Json)
    (cell : CellId → Json)
    (v : Validator) : Json :=
  .object
    (Members.ofList
      (("kind", .string v.rule.kind)
        :: ("presence", .string (presence v.presence))
        :: ("allow_null", .bool v.allowNull)
        :: rule g number cell v.rule))

end Describe

/-
  A graph as seen from a root: the number of all its
  validators, and the reachable ones.
-/
def Graph.describe
    (g : Graph)
    (root : ValidatorId) : Json :=
  let order := g.reachable root
  let cells := g.cellsOf order
  .object
    [("len", Describe.count g.size),
      ("nodes",
        .array
          ((order.filterMap g.node?).map
            (Describe.validator g (Describe.position order)
              (Describe.position cells))))]

end SchemaGraph
