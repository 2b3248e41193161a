import SchemaGraph.Inspect.Text
import SchemaGraph.Compile.Options

/-
  This file writes validators, graphs, violations and
  options for inspection.

  Key definitions include:
    * `Inspect.validator`
    * `Inspect.graph`
    * `Inspect.violations`
    * `Inspect.options`
-/

namespace SchemaGraph

namespace Inspect

------------------------------------------------------------
-- Rules
------------------------------------------------------------

/- Write the identifier of a validator. -/
def validatorId
    (id : ValidatorId) : String :=
  apply "ValidatorId" (nat id.index)

/- Write the identifier of a cell. -/
def cellId
    (c : CellId) : String :=
  apply "CellId" (nat c.index)

/- Write a pattern. -/
def pattern
    (p : Pattern) : String :=
  apply "Regex" (quoted p.source)

/- Write a bound for dates. -/
def dateBound : DateBound → String
  | .now => "Now"
  | .moment t => apply "At" (t.textWith "Z")

/- Write what an object rule does with undeclared keys. -/
def unknownKeys : UnknownKeys → String
  | .reject => "Reject"
  | .ignore => "Ignore"
  | .allow => "Allow"
  | .schema id => apply "Schema" (validatorId id)

/- Write a part of an intersection. -/
def branch : Branch → String
  | .schema id => apply "Schema" (validatorId id)
  | .conditional test pass fail =>
      record "Conditional"
        [("is", validatorId test),
          ("then", option validatorId pass),
          ("otherwise", option validatorId fail)]

/- Write a rule. -/
def rule : Rule → String
  | .any => "Any"
  | .boolean => "Boolean"
  | .number r =>
      apply "Number"
        (record "NumberRule"
          [("integer", bool r.integer),
            ("minimum", option real r.minimum),
            ("maximum", option real r.maximum)])
  | .string r =>
      apply "String"
        (record "StringRule"
          [("pattern", option pattern r.pattern),
            ("min_length", option nat r.minLength),
            ("max_length", option nat r.maxLength),
            ("allow_empty", bool r.allowEmpty)])
  | .email r =>
      apply "Email"
        (record "EmailRule"
          [("pattern", pattern r.pattern),
            ("max_length", option nat r.maxLength)])
  | .date r =>
      apply "Date"
        (record "DateRule"
          [("min", option dateBound r.min),
            ("max", option dateBound r.max)])
  | .time r =>
      apply "Time"
        (record "TimeRule"
          [("min", option Calendar.TimeOfDay.fullText r.min),
            ("max", option Calendar.TimeOfDay.fullText r.max)])
  | .object r =>
      apply "Object"
        (record "ObjectRule"
          [("properties",
              option
                (fun ps =>
                  map (ps.map (fun p => (p.1, validatorId p.2))))
                r.properties),
            ("unknown", unknownKeys r.unknown),
            ("min_properties", option nat r.minProperties),
            ("max_properties", option nat r.maxProperties)])
  | .array r =>
      apply "Array"
        (record "ArrayRule"
          [("items", option validatorId r.items),
            ("min_items", option nat r.minItems),
            ("max_items", option nat r.maxItems),
            ("unique", bool r.unique)])
  | .literal values => apply "Literal" (list (jsonItems values))
  | .alternatives ids =>
      apply "Alternatives" (list (ids.map validatorId))
  | .all branches =>
      apply "All"
        (record "Intersection"
          [("branches", list (branches.map branch))])
  | .deferred c => apply "Deferred" (cellId c)
  | .custom t => apply "Custom" (quoted t.name)

------------------------------------------------------------
-- Validators and Graphs
------------------------------------------------------------

/- Write a presence. -/
def presence : Presence → String
  | .optional => "Optional"
  | .required => "Required"
  | .forbidden => "Forbidden"

/- Write a validator. -/
def validator
    (v : Validator) : String :=
  record "Validator"
    [("rule", rule v.rule), ("presence", presence v.presence),
      ("allow_null", bool v.allowNull)]

/- Write a graph. -/
def graph
    (g : Graph) : String :=
  record "ValidatorGraph"
    [("nodes", list (g.nodes.toList.map validator)),
      ("cells", list (g.cells.toList.map (option validatorId)))]

------------------------------------------------------------
-- Violations and Options
------------------------------------------------------------

/- Write a violation. -/
def violation
    (v : Violation) : String :=
  record "ValidationError"
    [("path", quoted v.path), ("code", quoted v.code),
      ("message", quoted v.message)]

/- Write a list of violations. -/
def violations
    (vs : List Violation) : String :=
  apply "ValidationErrors" (list (vs.map violation))

/- Write the options of a compilation. -/
def options
    (o : Options) : String :=
  record "CompileOptions"
    [("sub_schemas", list (o.subSchemas.map (fun e => quoted e.1))),
      ("types", list (o.types.map (fun e => quoted e.1))),
      ("base_dir", option (fun p => quoted p.text) o.baseDir),
      ("custom_loader", bool o.loader.isSome)]

end Inspect

end SchemaGraph
