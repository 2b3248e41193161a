import SchemaGraph.Compile.Inheritance

/-
  This file compiles nodes with a type.  Every keyword is
  optional and is looked at on its own; keywords that do not
  belong to the type are passed over.

  Key definitions include:
    * `countKeyword`
    * `numberRule`
    * `stringRule`
    * `arrayRule`
    * `objectRule`
    * `typeRule`
    * `resolveTyped`
-/

namespace SchemaGraph

------------------------------------------------------------
-- Keywords with a Value
------------------------------------------------------------

/- The count that a number stands for. -/
def Number.count? : Number → Option Nat
  | .integer n _ => if 0 ≤ n then some n.toNat else none
  | .real f =>
      if f >= 0 && Binary64.isInteger f then
        some f.toUInt64.toNat
      else
        none

/-
  A length or a count: passed over unless it is a number,
  which then must be a non-negative integer.
-/
def countKeyword
    (node : Json)
    (name : String) : Except SchemaFault (Option Nat) :=
  match node.member? name with
  | some (.number n) =>
      match n.count? with
      | some count => .ok (some count)
      | none => .error (.badCount name n)
  | _ => .ok none

/- A limit: passed over unless it is a number. -/
def limitKeyword
    (node : Json)
    (name : String) : Option Float :=
  (node.member? name).bind Json.float?

/- A bound for dates. -/
def dateKeyword
    (node : Json)
    (name : String) : Except SchemaFault (Option DateBound) :=
  match node.keyword? name with
  | none => .ok none
  | some value =>
      match DateBound.read? value with
      | some bound => .ok (some bound)
      | none => .error (.badDate name value)

/- A bound for times of day. -/
def timeKeyword
    (node : Json)
    (name : String) :
    Except SchemaFault (Option Calendar.TimeOfDay) :=
  match node.keyword? name with
  | none => .ok none
  | some value =>
      match readTimeValue? value with
      | some bound => .ok (some bound)
      | none => .error (.badTime name value)

/- A pattern from its text. -/
def compilePattern
    (engine : Pattern.Engine)
    (text : String) : Except SchemaFault Pattern :=
  match engine.read? text with
  | some p => .ok p
  | none => .error (.badPattern text)

/- A pattern, which must be a text when it is given. -/
def patternKeyword
    (engine : Pattern.Engine)
    (node : Json) : Except SchemaFault (Option Pattern) :=
  match node.keyword? "pattern" with
  | none => .ok none
  | some (.string text) => (compilePattern engine text).map some
  | some _ => .error .patternNotString

------------------------------------------------------------
-- Rules without Children
------------------------------------------------------------

/- The rule of a number or an integer. -/
def numberRule
    (node : Json)
    (integer : Bool) : NumberRule :=
  ⟨integer, limitKeyword node "minimum", limitKeyword node "maximum"⟩

/-
  The rule of a text without a known format.  Without a
  least length it is zero, and a least length of zero admits
  the empty text.
-/
def plainStringRule
    (engine : Pattern.Engine)
    (node : Json) : Except SchemaFault StringRule := do
  let pattern ← patternKeyword engine node
  let minLength ←
    match node.member? "minLength" with
    | none => pure (some 0)
    | some _ => countKeyword node "minLength"
  let maxLength ← countKeyword node "maxLength"
  return ⟨pattern, minLength, maxLength, minLength == some 0⟩

/- The rule of a string node. -/
def stringRule
    (engine : Pattern.Engine)
    (node : Json) : Except SchemaFault Rule :=
  match node.keyword? "enum" with
  | some values => .ok (.literal (listedValues values))
  | none =>
      let format := (node.member? "format").bind Json.text?
      if format = some "date" ∨ format = some "date-time" then do
        let min ← dateKeyword node "min"
        let max ← dateKeyword node "max"
        return .date ⟨min, max⟩
      else if format = some "time" then do
        let min ← timeKeyword node "min"
        let max ← timeKeyword node "max"
        return .time ⟨min, max⟩
      else if format = some "email" then do
        let pattern ← compilePattern engine emailPattern
        let maxLength ← countKeyword node "maxLength"
        return .email ⟨pattern, maxLength⟩
      else
        (plainStringRule engine node).map .string

------------------------------------------------------------
-- Rules with Children
------------------------------------------------------------

/- Turn a fault of a node into an error. -/
def orFault
    {α : Type}
    (key : NodeKey) : Except SchemaFault α → Compile α
  | .ok a => return a
  | .error fault => throw (.invalidSchema key.fragment fault)

/- The rule of an array node, once its items are compiled. -/
def arrayCounts
    (key : NodeKey)
    (node : Json)
    (items : Option ValidatorId) : Compile Rule := do
  let minItems ← orFault key (countKeyword node "minItems")
  let maxItems ← orFault key (countKeyword node "maxItems")
  return .array
    ⟨items, minItems, maxItems, (node.keyword? "uniqueItems").isSome⟩

/- The rule of an array node. -/
def arrayRule
    (resolve : Resolver)
    (key : NodeKey)
    (node : Json) : Compile Rule := do
  let items ←
    match node.member? "items" with
    | none => pure none
    | some .null => pure none
    | some _ => do
        let id ← resolve (key.child "items")
        pure (some id)
  arrayCounts key node items

/- What an object node does with undeclared keys. -/
def unknownKeys
    (resolve : Resolver)
    (key : NodeKey)
    (node : Json) : Compile UnknownKeys := do
  match node.member? "additionalProperties" with
  | some (.bool true) => return .allow
  | some (.object _) =>
      return .schema (← resolve (key.child "additionalProperties"))
  | _ =>
      if (node.keyword? "allowUnknown").isSome then
        return .ignore
      else
        return .reject

/- The rule of an object node. -/
def objectRule
    (setting : Setting)
    (watch : Watch)
    (resolve : Resolver)
    (key : NodeKey)
    (node : Json) : Compile Rule := do
  let properties ← mergeProperties setting watch resolve key node
  let unknown ← unknownKeys resolve key node
  let minProperties ←
    orFault key (countKeyword node "minProperties")
  let maxProperties ←
    orFault key (countKeyword node "maxProperties")
  return .object ⟨properties, unknown, minProperties, maxProperties⟩

------------------------------------------------------------
-- Types
------------------------------------------------------------

/- The name of a type in an error: its text, or its JSON. -/
def typeName : Json → String
  | .string s => s
  | v => v.write

/- The rule of a node of a custom type. -/
def customRule
    (options : Options)
    (type : Json) : Compile Rule :=
  match options.types.lookup (type.text?.getD "") with
  | some custom => return .custom custom
  | none => throw (.unknownType (typeName type))

/- The rule of a node with a type. -/
def typeRule
    (setting : Setting)
    (watch : Watch)
    (resolve : Resolver)
    (key : NodeKey)
    (node type : Json) : Compile Rule :=
  match type with
  | .string "array" => arrayRule resolve key node
  | .string "boolean" => return .boolean
  | .string "integer" => return .number (numberRule node true)
  | .string "number" => return .number (numberRule node false)
  | .string "object" => objectRule setting watch resolve key node
  | .string "string" =>
      orFault key (stringRule setting.engine node)
  | .string "file" => return .object {}
  | _ => customRule setting.options type

/- Compile a node with a type. -/
def resolveTyped
    (setting : Setting)
    (watch : Watch)
    (resolve : Resolver)
    (key : NodeKey)
    (node type : Json) : Compile ValidatorId := do
  let rule ← typeRule setting watch resolve key node type
  pushNode ⟨rule, .optional, SchemaGraph.allowsNull node⟩

end SchemaGraph
