import SchemaGraph.Compile.Node
import SchemaGraph.Compiled

/-
  This file compiles schemas.  A schema is given as a value
  or as the path of a file.

  The nodes that a compilation nests are nodes of the root,
  of registered documents or of documents that the loader
  serves, and no node is nested in itself.  The budget is
  their number for a loader that serves finitely many paths.

  Key definitions include:
    * `Source`
    * `Source.ofJson`
    * `loadRoot`
    * `nodeBudget`
    * `Compilation`
    * `compileWatched`
    * `compile`
-/

namespace SchemaGraph

------------------------------------------------------------
-- Sources
------------------------------------------------------------

/- What to compile. -/
inductive Source where
  | value (schema : Json)
  | path (p : Path)

/- A text is the path of a schema; any other value is a schema. -/
def Source.ofJson : Json → Source
  | .string text => .path ⟨text⟩
  | v => .value v

/- Add the document of an in-memory schema to the store. -/
def loadInline
    (options : Options)
    (schema : Json) : Compile DocId := do
  if schema.isObject then
    storeDocument
      ⟨schema, declaredRoot? schema <|> options.baseDir, .inline⟩
  else
    throw (.invalidArgument .notASchema)

/- Load the document of a path and add it to the store. -/
def loadPath
    (setting : Setting)
    (workingDir p : Path) : Compile DocId := do
  let p := p.absolutize workingDir
  match ← askLoader setting.loader p with
  | .error cause => throw (.loadFailure cause)
  | .ok none => throw (.documentNotFound p)
  | .ok (some schema) =>
      if schema.isObject then
        storeDocument
          ⟨schema, declaredRoot? schema <|> p.parent?, .file p⟩
      else
        throw (.invalidArgument (.documentNotObject p))

/- Add the document of a source to the store. -/
def loadRoot
    (setting : Setting)
    (workingDir : Path) : Source → Compile DocId
  | .path p => loadPath setting workingDir p
  | .value (.string text) => loadPath setting workingDir ⟨text⟩
  | .value schema => loadInline setting.options schema

------------------------------------------------------------
-- Compilations
------------------------------------------------------------

/- The positions of a source that is given as a value. -/
def Source.positions : Source → Nat
  | .value schema => schema.positions
  | .path _ => 0

/-
  A bound for the nodes of all documents of a compilation, if
  the extent of the loader is one for what it serves.  This
  takes a loader that serves finitely many paths: where the
  paths do not end, no budget is enough.
-/
def nodeBudget
    (options : Options)
    (loader : Loader)
    (source : Source) : Nat :=
  source.positions
    + (options.subSchemas.map (fun e => e.2.positions)).foldl
        (· + ·) 0
    + loader.extent + 1

/- What a compilation ended with, and the state it ended in. -/
structure Compilation where
  result : Except CompileError Compiled
  final : State

/- Run the steps of a compilation. -/
def compileSteps
    (setting : Setting)
    (watch : Watch)
    (workingDir : Path)
    (source : Source) : Compile ValidatorId := do
  let doc ← loadRoot setting workingDir source
  resolveWithin setting watch (setting.budget + 1)
    (NodeKey.root doc)

/- Compile with a given setting and a watch. -/
def compileWatched
    (setting : Setting)
    (watch : Watch)
    (workingDir : Path)
    (source : Source) : Compilation :=
  match compileSteps setting watch workingDir source State.initial with
  | .ok id s => ⟨.ok ⟨s.graph, id⟩, s⟩
  | .error e s => ⟨.error e, s⟩

/- Compile with a given setting. -/
def compileWith
    (setting : Setting)
    (workingDir : Path)
    (source : Source) : Compilation :=
  compileWatched setting Watch.never workingDir source

/- Compile a schema in a workspace. -/
def compile
    (workspace : Workspace)
    (options : Options)
    (source : Source) : Compilation :=
  let loader := options.loaderIn workspace
  compileWith
    ⟨options, loader, .expanding, nodeBudget options loader source⟩
    workspace.directory source

end SchemaGraph
