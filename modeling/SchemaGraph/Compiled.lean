import SchemaGraph.Check

/-
  This file defines compiled schemas: a graph with the
  validator of the schema's root, and the ways to check
  values against it.  A compiled schema can serve as a
  custom type of other schemas.

  Key definitions include:
    * `Compiled`
    * `Compiled.check`
    * `Compiled.checkOptional`
    * `Compiled.isValid`
    * `Compiled.toCustomType`
    * `CustomType.ofTest`
-/

namespace SchemaGraph

/- A graph with the validator of a schema's root. -/
structure Compiled where
  graph : Graph
  root : ValidatorId

namespace Compiled

/- Check a present value: the accepted value or the violations. -/
def check
    (schema : Compiled)
    (now : Calendar.Instant)
    (value : Json)
    (options : CheckOptions) :
    Option (Except (List Violation) Json) :=
  (schema.graph.check now schema.root (some value) "" options).map
    (fun verdict =>
      match verdict with
      | .ok accepted => .ok (accepted.getD .null)
      | .error vs => .error vs)

/- Check a value that may be absent. -/
def checkOptional
    (schema : Compiled)
    (now : Calendar.Instant)
    (value : Option Json) : Option Verdict :=
  schema.graph.check now schema.root value "" {}

/- A present value has no violation. -/
def isValid
    (schema : Compiled)
    (now : Calendar.Instant)
    (value : Json) : Option Bool :=
  (schema.check now value {}).map (fun result =>
    match result with
    | .ok _ => true
    | .error _ => false)

/- A compiled schema as a custom type. -/
def toCustomType
    (schema : Compiled) : CustomType where
  name := "schema"
  check := fun now value path =>
    (schema.graph.check now schema.root (some value) path {}).map
      Verdict.violations

end Compiled

/-
  A custom type made of a test that gives a message for a
  value that it refuses.
-/
def CustomType.ofTest
    (name : String)
    (test : Json → Option String) : CustomType where
  name := name
  check := fun _ value path =>
    match test value with
    | none => some []
    | some message => some [⟨path, name ++ ".base", message⟩]

end SchemaGraph
