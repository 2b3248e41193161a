import Mathlib
import SchemaGraph.Proofs.Compile.Steadiness

/-
  The stacks of a compilation.  Documents and nodes are put
  on the stacks around other programs only and are taken off
  after these, also after an error.  So every program that
  answers a node, started in any state whatever, ends with
  the stacks that it was started with.

  Main declarations:
    * `State.stacks`
    * `State.steady_stacks`
    * `resolveWithin_restores`
-/

namespace SchemaGraph

/- The documents and the nodes that are being worked on. -/
def State.stacks
    (s : State) : List DocId × List NodeKey :=
  (s.scope, s.progress)

/- What is put on a stack for a while leaves the stacks alone. -/
theorem State.steady_stacks :
    Steady (fun s t => t.stacks = s.stacks) where
  refl _ := rfl
  trans hFirst hSecond := hSecond.trans hFirst
  noted _ _ := rfl
  stored _ _ := rfl
  built _ _ _ _ := rfl
  entered hWithin := by simp_all [State.stacks]
  begun hWithin := by simp_all [State.stacks]

/- Answering a node, at any depth, leaves the stacks alone. -/
theorem resolveWithin_restores
    (setting : Setting)
    (watch : Watch)
    (depth : Nat)
    (key : NodeKey)
    (s : State) :
    (stateAfter (resolveWithin setting watch depth key) s).stacks =
      s.stacks :=
  resolveWithin_keeps State.steady_stacks setting watch depth key s

end SchemaGraph
