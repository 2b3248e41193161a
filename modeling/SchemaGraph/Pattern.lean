import SchemaGraph.Pattern.Reader
import SchemaGraph.Pattern.Program

/-
  This file defines compiled patterns and the engines that
  compile them.  An engine decides which texts are patterns
  and where they are found.  Schemas are compiled with the
  engine that expands patterns into programs.

  Key definitions include:
    * `Pattern`
    * `Pattern.Engine`
    * `Pattern.Engine.read?`
    * `Pattern.Engine.expanding`
    * `Pattern.read?`
-/

namespace SchemaGraph

/- A pattern with its text. -/
structure Pattern where
  source : String
  /- A match of the pattern is somewhere in a text. -/
  isFoundIn : String → Bool

namespace Pattern

/-
  A way to compile patterns: none for a text that is no
  pattern, or else the search for its matches.
-/
structure Engine where
  search? : String → Option (String → Bool)

namespace Engine

/- Read a pattern. -/
def read?
    (engine : Engine)
    (source : String) : Option Pattern :=
  (engine.search? source).map (fun search => ⟨source, search⟩)

/- The engine that expands patterns and runs the programs. -/
def expanding : Engine where
  search? := fun source =>
    (readNode? source).map (fun n => run n.program)

end Engine

/- Read a pattern as schemas read it. -/
def read?
    (source : String) : Option Pattern :=
  Engine.expanding.read? source

end Pattern

end SchemaGraph
