import Mathlib
import SchemaGraph.Proofs.Check.Range
import SchemaGraph.Proofs.Compile.Transparency

/-
  The graph of a compilation is closed at every moment.  The
  steps of a compilation change the graph by operations
  whose arguments exist, and these keep a graph closed.

  A compilation is looked at while it runs by a watch that
  ends it: in whatever state it does, the graph is closed.

  Main declarations:
    * `Step.exists_operations`
    * `Reaches.exists_operations`
    * `compileWatched_operations`
    * `compileWatched_closed`
-/

namespace SchemaGraph

variable {setting : Setting}
variable {source : Source}
variable {s t : State}

------------------------------------------------------------
-- Operations
------------------------------------------------------------

/- A step performs an operation on the graph at most. -/
theorem Step.exists_operations
    (hStep : Step setting s t)
    (hSound : Sound setting source s) :
    ∃ operations,
      s.graph.Performs operations ∧
        t.graph = s.graph.perform operations := by
  cases hStep with
  | pushed v hBelow => exact ⟨[.push v], ⟨hBelow, trivial⟩, rfl⟩
  | copied g hCopy =>
      rcases hCopy with ⟨id, v, presence, allowNull, hNode, rfl⟩
      have hBelow := hSound.graph.closed.mentions_size hNode
      refine ⟨[.derive id (fun w => ⟨w.rule, presence, allowNull⟩)],
        ⟨⟨v, hNode, hBelow⟩, trivial⟩, ?_⟩
      simp [Graph.perform, Graph.Operation.apply, Graph.derive,
        hNode]
  | celled => exact ⟨[.newCell], ⟨trivial, trivial⟩, rfl⟩
  | finished key rest id _ hReply =>
      cases hCell : s.cells.lookup key with
      | none =>
          exact ⟨[], trivial, State.filled_of_none id hCell⟩
      | some c =>
          have hBound := hSound.celled.bound key c hCell
          refine ⟨[.fillCell c id],
            ⟨⟨hBound, hReply.lt_size⟩, trivial⟩, ?_⟩
          simp only [State.filled, hCell]
          rfl
  | _ => exact ⟨[], trivial, rfl⟩

/- Steps perform operations on the graph. -/
theorem Reaches.exists_operations
    (hReaches : Reaches setting s t)
    (hSound : Sound setting source s) :
    ∃ operations,
      s.graph.Performs operations ∧
        t.graph = s.graph.perform operations := by
  induction hReaches with
  | refl => exact ⟨[], trivial, rfl⟩
  | tail hSteps hStep ih =>
      rcases ih with ⟨first, hFirst, hGraph⟩
      rcases hStep.exists_operations (Reaches.sound hSteps hSound)
        with ⟨second, hSecond, hLast⟩
      rw [hGraph] at hSecond hLast
      exact ⟨first ++ second,
        Graph.performs_append.mpr ⟨hFirst, hSecond⟩,
        hLast.trans (Graph.perform_append _ first second).symm⟩

------------------------------------------------------------
-- Compilations
------------------------------------------------------------

/-
  What a compilation under watch ends with.  It has performed
  operations on a graph without validators; if it succeeds,
  the root is in the graph.
-/
theorem compileWatched_operations
    (setting : Setting)
    (watch : Watch)
    (workingDir : Path)
    (source : Source) :
    let run := compileWatched setting watch workingDir source
    (∃ operations,
      Graph.empty.Performs operations ∧
        run.final.graph = Graph.empty.perform operations) ∧
      ∀ schema, run.result = .ok schema →
        schema.graph = run.final.graph ∧
          schema.root.index < schema.graph.size := by
  -- What steps lead to from the stored root is made by operations.
  have hOperations :
      ∀ doc r u, Rooted setting source doc r → Reaches setting r u →
        ∃ operations,
          Graph.empty.Performs operations ∧
            u.graph = Graph.empty.perform operations := by
    intro doc r u hRooted hReaches
    rw [← hRooted.graph]
    exact Reaches.exists_operations hReaches hRooted.sound
  unfold compileWatched
  cases hSteps :
      compileSteps setting watch workingDir source State.initial with
  | error e t =>
      refine ⟨?_, nofun⟩
      rcases compileSteps_error hSteps with
        ⟨_, hGraph, _⟩ | ⟨doc, r, u, hRooted, hReaches, _, rfl⟩
      · exact ⟨[], trivial, hGraph⟩
      · exact hOperations doc r u hRooted hReaches
  | ok id t =>
      rcases compileSteps_ok hSteps with
        ⟨doc, r, hRooted, hRun, hStands⟩
      have hSound := Reaches.sound hRun.reaches hRooted.sound
      refine ⟨hOperations doc r t hRooted hRun.reaches, ?_⟩
      intro schema hOk
      cases hOk
      exact ⟨rfl, hSound.lt_size_of_standsFor hStands⟩

/-
  The graph of a compilation, at whatever moment a watch ends
  it, is closed: every validator mentions earlier validators
  and existing cells only, and every filled cell holds an
  existing validator.  It is made by operations on the graph
  without validators, and is closed after each of them.  So
  every cycle goes through a validator that defers.

  If the compilation succeeds, the root exists.  So does all
  that a check of it may ask for, and what might stand
  behind the last validator and the last cell makes no
  difference to it.
-/
theorem compileWatched_closed
    (setting : Setting)
    (watch : Watch)
    (workingDir : Path)
    (source : Source) :
    let run := compileWatched setting watch workingDir source
    run.final.graph.Closed ∧
      (∃ operations,
        Graph.empty.Performs operations ∧
          run.final.graph = Graph.empty.perform operations ∧
          ∀ n, (Graph.empty.perform (operations.take n)).Closed) ∧
      (∀ id,
        Relation.TransGen run.final.graph.Mentions id id →
          ∃ mid c,
            Relation.ReflTransGen run.final.graph.Mentions id mid ∧
              Relation.TransGen run.final.graph.Mentions mid id ∧
              run.final.graph.deferredCell? mid = some c ∧
              c.index < run.final.graph.cells.size) ∧
      ∀ schema, run.result = .ok schema →
        schema.graph = run.final.graph ∧
          schema.root.index < schema.graph.size ∧
          (∀ id,
            Relation.ReflTransGen schema.graph.Mentions schema.root
                id →
              id.index < schema.graph.size ∧
                ∀ c, schema.graph.deferredCell? id = some c →
                  c.index < schema.graph.cells.size) ∧
          ∀ nodes cells now budget,
            (schema.graph.followedBy nodes cells).checkWithin now
                budget schema.root =
              schema.graph.checkWithin now budget schema.root := by
  intro run
  rcases compileWatched_operations setting watch workingDir source with
    ⟨⟨operations, hPerforms, hGraph⟩, hSchema⟩
  have hClosed : run.final.graph.Closed := by
    rw [hGraph]
    exact (Graph.sound_perform Graph.Sound.empty hPerforms).closed
  refine ⟨hClosed, ?_, ?_, ?_⟩
  · exact ⟨operations, hPerforms, hGraph,
      fun n => (Graph.sound_perform_take hPerforms n).closed⟩
  · exact fun id hCycle => hClosed.exists_deferred_of_cycle hCycle
  · intro schema hOk
    rcases hSchema schema hOk with ⟨hSame, hRoot⟩
    rw [← hSame] at hClosed
    refine ⟨hSame, hRoot, ?_, ?_⟩
    · intro id hPath
      constructor
      · exact hClosed.lt_size_of_mentioned hRoot hPath
      · exact fun c hDefers => hClosed.lt_cells_of_deferred hDefers
    · intro nodes cells now budget
      exact hClosed.checkWithin_followedBy hRoot nodes cells now
        budget

/-
  An object with a property that refers to the object is on
  a cycle, and one of the validators on it defers.
-/
theorem compileWatched_closed_selfExtending :
    ∃ schema,
      (compileWatched Setting.alone Watch.never ⟨"/"⟩
        (.value Json.selfExtending)).result = .ok schema ∧
        schema.root.index < schema.graph.size ∧
        Relation.TransGen schema.graph.Mentions ⟨4⟩ ⟨4⟩ ∧
        ∃ mid c,
          Relation.ReflTransGen schema.graph.Mentions ⟨4⟩ mid ∧
            Relation.TransGen schema.graph.Mentions mid ⟨4⟩ ∧
            schema.graph.deferredCell? mid = some c ∧
            c.index < schema.graph.cells.size := by
  rcases compileWatched_closed Setting.alone Watch.never ⟨"/"⟩
    (.value Json.selfExtending) with ⟨_, _, hCycles, hSchema⟩
  rcases Compilation.exists_eq_of_isOk
    (c := compileWatched Setting.alone Watch.never ⟨"/"⟩
      (.value Json.selfExtending)) (by decide +kernel) with
    ⟨schema, hCompiled⟩
  have hOk := congrArg Compilation.result hCompiled
  rcases hSchema schema hOk with ⟨hGraph, hRoot, _, _⟩
  rw [← hGraph] at hCycles
  -- The object mentions the deferred reference, and back.
  have hForth : schema.graph.Mentions ⟨4⟩ ⟨1⟩ := by
    rw [hGraph]
    decide +kernel
  have hBack : schema.graph.Mentions ⟨1⟩ ⟨4⟩ := by
    rw [hGraph]
    decide +kernel
  have hCycle := Relation.TransGen.tail
    (Relation.TransGen.single hForth) hBack
  exact ⟨schema, hOk, hRoot, hCycle, hCycles ⟨4⟩ hCycle⟩

end SchemaGraph
