import SchemaGraph.Compile.Error
import SchemaGraph.Graph.Basic

/-
  This file defines what a caller configures for compiling:
  the sub-schema registry, the custom types, the directory
  that relative references of an in-memory schema start
  from, and the loader.

  Key definitions include:
    * `Options`
    * `Options.withSubSchema`
    * `Options.withSubSchemas`
    * `Options.withType`
    * `Options.loaderIn`
-/

namespace SchemaGraph

/- The configuration of compilations. -/
structure Options where
  subSchemas : List (String × Json) := []
  types : List (String × CustomType) := []
  baseDir : Option Path := none
  loader : Option Loader := none

namespace Options

/- Register a document under an identifier. -/
def withSubSchema
    (options : Options)
    (id : String)
    (schema : Json) : Except CompileError Options :=
  if schema.isObject then
    .ok
      { options with
        subSchemas := Members.insert id schema options.subSchemas }
  else
    .error (.invalidArgument (.subSchemaNotObject id))

/- Register documents one after another. -/
def withEntries
    (options : Options)
    (entries : List (String × Json)) : Except CompileError Options :=
  entries.foldlM (fun o e => o.withSubSchema e.1 e.2) options

/- Register every member of an object. -/
def withSubSchemas
    (options : Options)
    (schemas : Json) : Except CompileError Options :=
  match schemas with
  | .object members => options.withEntries members
  | _ => .error (.invalidArgument .subSchemasNotObject)

/- Register a custom type under a name. -/
def withType
    (options : Options)
    (name : String)
    (type : CustomType) : Options :=
  { options with types := Members.insert name type options.types }

/- The document that is registered under an identifier. -/
def subSchema?
    (options : Options)
    (id : String) : Option Json :=
  options.subSchemas.lookup id

/- The loader: the files of the workspace by default. -/
def loaderIn
    (options : Options)
    (workspace : Workspace) : Loader :=
  options.loader.getD (Loader.files workspace)

end Options

end SchemaGraph
