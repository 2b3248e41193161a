import SchemaGraph.Loader
import SchemaGraph.Json.Writer

/-
  This file defines why a schema does not compile.

  Key definitions include:
    * `SchemaFault`
    * `ArgumentFault`
    * `CompileError`
    * `CompileError.text`
-/

namespace SchemaGraph

/- What can be wrong with a node of a schema. -/
inductive SchemaFault where
  | notAnArray (keyword : String)
  | referenceNotString
  | extendsNotString
  | patternNotString
  | badPattern (pattern : String)
  | badCount (keyword : String) (value : Number)
  | badDate (keyword : String) (value : Json)
  | badTime (keyword : String) (value : Json)

/- A fault in words. -/
def SchemaFault.message : SchemaFault → String
  | notAnArray keyword => "Expected " ++ keyword ++ " to be an array"
  | referenceNotString => "Expected $ref to be a string"
  | extendsNotString => "Expected extends.$ref to be a string"
  | patternNotString => "Expected pattern to be a string"
  | badPattern pattern => "Invalid pattern '" ++ pattern ++ "'"
  | badCount keyword value =>
      "Expected " ++ keyword
        ++ " to be a non-negative integer, got "
        ++ Json.writeNumber value
  | badDate keyword value =>
      "Invalid date for " ++ keyword ++ ": " ++ value.write
  | badTime keyword value =>
      "Invalid time for " ++ keyword ++ ": " ++ value.write

/- What can be wrong with what a caller hands over. -/
inductive ArgumentFault where
  | notASchema
  | documentNotObject (path : Path)
  | subSchemaNotObject (id : String)
  | subSchemasNotObject

/- A fault in words. -/
def ArgumentFault.message : ArgumentFault → String
  | notASchema => "Expected schema to be an object or a path"
  | documentNotObject path =>
      "Expected schema in " ++ path.text ++ " to be an object"
  | subSchemaNotObject id =>
      "Expected sub-schema '" ++ id ++ "' to be an object"
  | subSchemasNotObject => "Expected sub-schemas to be an object"

/- Why a schema does not compile. -/
inductive CompileError where
  | invalidArgument (fault : ArgumentFault)
  /- A reference leads to no node. -/
  | referenceNotFound (reference : String)
  /- A type is neither built in nor supplied. -/
  | unknownType (name : String)
  /- A node, given by its fragment, is no schema. -/
  | invalidSchema (pointer : String) (fault : SchemaFault)
  /- A file of a schema directory is no JSON. -/
  | brokenDocument (path : Path)
  | documentNotFound (path : Path)
  | loadFailure (cause : LoadError)
  /- The documents have more nodes than was foreseen. -/
  | tooManyNodes

namespace CompileError

/- An error in words. -/
def text : CompileError → String
  | invalidArgument fault => "Invalid argument: " ++ fault.message
  | referenceNotFound reference =>
      "Can not find schema reference: " ++ reference
  | unknownType name => "Could not resolve type: " ++ name
  | invalidSchema pointer fault =>
      "Invalid schema at '" ++ pointer ++ "': " ++ fault.message
  | brokenDocument path =>
      "Invalid schema at '" ++ path.text ++ "': no JSON"
  | documentNotFound path =>
      "Schema document not found: " ++ path.text
  | loadFailure (.unreadable reason) => "IO error: " ++ reason
  | loadFailure .malformed => "JSON error: no JSON"
  | tooManyNodes => "Too many schema nodes"

end CompileError

end SchemaGraph
