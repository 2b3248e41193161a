import SchemaGraph.Compile.Error

/-
  This file reads the keywords of schema nodes.  A keyword
  whose value is `null`, `false`, zero or the empty text
  counts as absent, unless a rule says otherwise.

  Key definitions include:
    * `Json.isTruthy`
    * `Json.keyword?`
    * `allowsNull`
    * `Discriminator`
    * `classify`
    * `isConditional`
-/

namespace SchemaGraph

namespace Json

/- The value counts as given. -/
def isTruthy : Json → Bool
  | null => false
  | bool b => b
  | number n => n.toFloat != 0
  | string s => s != ""
  | array _ => true
  | object _ => true

/- The value of a keyword, when it counts as given. -/
def keyword?
    (node : Json)
    (name : String) : Option Json :=
  (node.member? name).filter isTruthy

end Json

/- The node accepts `null`: its keyword is exactly `true`. -/
def allowsNull
    (node : Json) : Bool :=
  match node.member? "allowNull" with
  | some (.bool true) => true
  | _ => false

------------------------------------------------------------
-- Kinds of Nodes
------------------------------------------------------------

/- How a node compiles; the first keyword given decides. -/
inductive Discriminator where
  | typed (type : Json)
  | anyOf (branches : List Json)
  | allOf (branches : List Json)
  | oneOf (branches : List Json)
  | reference (text : String)
  | listed (values : Json)
  | unrecognized

/- The keywords that decide how a node compiles. -/
def discriminators : List String :=
  ["type", "anyOf", "allOf", "oneOf", "$ref", "enum"]

/- The items of a keyword that must be an array. -/
def branchList
    (name : String) : Json → Except SchemaFault (List Json)
  | .array xs => .ok xs
  | _ => .error (.notAnArray name)

/- How a node compiles. -/
def classify
    (node : Json) : Except SchemaFault Discriminator :=
  match node.keyword? "type" with
  | some type => .ok (.typed type)
  | none =>
  match node.keyword? "anyOf" with
  | some v => (branchList "anyOf" v).map .anyOf
  | none =>
  match node.keyword? "allOf" with
  | some v => (branchList "allOf" v).map .allOf
  | none =>
  match node.keyword? "oneOf" with
  | some v => (branchList "oneOf" v).map .oneOf
  | none =>
  match node.keyword? "$ref" with
  | some (.string text) => .ok (.reference text)
  | some _ => .error .referenceNotString
  | none =>
  match node.keyword? "enum" with
  | some v => .ok (.listed v)
  | none => .ok .unrecognized

/- The part of an intersection is a condition with its sides. -/
def isConditional
    (node : Json) : Bool :=
  (node.keyword? "if").isSome
    && discriminators.all (fun name => (node.keyword? name).isNone)

/- The values of an enumeration; a single value stands for itself. -/
def listedValues : Json → List Json
  | .array xs => xs
  | v => [v]

end SchemaGraph
