import Mathlib
import SchemaGraph.Proofs.Check.Ending
import SchemaGraph.Proofs.Compile.Closed
import SchemaGraph.Proofs.Compile.CustomTypes

/-
  Compiled schemas end on every value.  The graph of a
  compiled schema is closed, so a check stays inside it.  If
  none of its cycles is idle, a check that goes round one of
  them goes into the value.

  Main declarations:
    * `closed_of_compileWith`
    * `compile_check_ends`
-/

namespace SchemaGraph

variable {setting : Setting}
variable {workingDir : Path}
variable {source : Source}
variable {schema : Compiled}
variable {final : State}

/- The graph of a compiled schema is closed, and has the root. -/
theorem closed_of_compileWith
    (hCompiled :
      compileWith setting workingDir source = ⟨.ok schema, final⟩) :
    schema.graph.Closed ∧ schema.root.index < schema.graph.size := by
  rcases compileWatched_operations setting Watch.never workingDir
    source with ⟨⟨operations, hPerforms, hGraph⟩, hSchema⟩
  have hRun :
      compileWatched setting Watch.never workingDir source =
        ⟨.ok schema, final⟩ := hCompiled
  rw [hRun] at hGraph hSchema
  rcases hSchema schema rfl with ⟨hSame, hRoot⟩
  refine ⟨?_, hRoot⟩
  rw [hSame, hGraph]
  exact (Graph.sound_perform Graph.Sound.empty hPerforms).closed

/-
  Every check of a compiled schema ends, on every value and
  with every path and options, if no cycle of the graph is
  idle and the custom types end.  It nests no more steps
  than there are validators for each level of the value, and
  none inside an absent value.  This is so for the root and
  for every other validator, and it makes the schema a custom
  type that ends.
-/
theorem compile_check_ends
    (hTypes : setting.AllTypes CustomType.Ends)
    (hCompiled :
      compileWith setting workingDir source = ⟨.ok schema, final⟩)
    (hAcyclic :
      ∀ id, ¬ Relation.TransGen schema.graph.Idles id id) :
    schema.root.index < schema.graph.size ∧
      (∀ now id asked path options,
        id.index < schema.graph.size →
          ∃ verdict,
            schema.graph.checkWithin now (schema.graph.nesting asked)
                id asked path options =
              some verdict ∧
              schema.graph.check now id asked path options =
                some verdict) ∧
      schema.toCustomType.Ends := by
  rcases closed_of_compileWith hCompiled with ⟨hClosed, hRoot⟩
  have hSchema := allTypes_of_compileWith hTypes hCompiled
  refine ⟨hRoot, ?_, ?_⟩
  · intro now id asked path options hId
    exact Graph.check_ends hClosed hAcyclic hSchema hId now asked
      path options
  · exact Compiled.ends_toCustomType hClosed hAcyclic hSchema hRoot

/- A named tree, whose children and parent are trees. -/
def Json.tree : Json :=
  .object
    [("properties", .object
      [("children", .object
        [("items", .object [("$ref", .string "#")]),
          ("type", .string "array")]),
        ("name", .object [("type", .string "string")]),
        ("parent", .object
          [("$ref", .string "#"), ("allowNull", .bool true)])]),
      ("required", .array [.string "name"]),
      ("type", .string "object")]

/-
  Trees are on a cycle, through the items of their children,
  and yet every check of one ends.
-/
theorem compile_check_ends_tree :
    ∃ schema,
      (compileAlone Json.tree).result = .ok schema ∧
        Relation.TransGen schema.graph.Mentions schema.root
          schema.root ∧
        (∀ now asked path options,
          ∃ verdict,
            schema.graph.check now schema.root asked path options =
              some verdict) ∧
        schema.toCustomType.Ends := by
  let g := (compileAlone Json.tree).compiled.graph
  have hCompiled :=
    Compilation.eq_compiled_of_isOk
      (c := compileAlone Json.tree) (by decide +kernel)
  have hTypes : Setting.alone.AllTypes CustomType.Ends := by
    intro name type hName
    cases hName
  -- Idle edges lead from deferred validators to the object.
  have hDown :
      ∀ i < g.size, ∀ other ∈ g.idleReferences ⟨i⟩,
        (g.deferredCell? other).toList.length <
          (g.deferredCell? ⟨i⟩).toList.length := by
    decide +kernel
  have hAcyclic :=
    Graph.acyclic_of_idles_lt
      (fun id => (g.deferredCell? id).toList.length) hDown
  have hRoot : (compileAlone Json.tree).compiled.root = ⟨6⟩ := by
    decide +kernel
  have hItems : g.Mentions ⟨6⟩ ⟨1⟩ ∧ g.Mentions ⟨1⟩ ⟨0⟩ := by
    decide +kernel
  have hBack : g.Mentions ⟨0⟩ ⟨6⟩ := by decide +kernel
  rcases compile_check_ends hTypes hCompiled hAcyclic with
    ⟨hInside, hEnds, hType⟩
  refine ⟨_, congrArg Compilation.result hCompiled, ?_, ?_, hType⟩
  · rw [hRoot]
    exact ((Relation.TransGen.single hItems.1).tail
      hItems.2).tail hBack
  · intro now asked path options
    rcases hEnds now _ asked path options hInside with
      ⟨verdict, _, hVerdict⟩
    exact ⟨verdict, hVerdict⟩

end SchemaGraph
