import Mathlib
import SchemaGraph.Compile

/-
  Looking at a compilation.  A look leaves the state as it
  is, and ends the program if the watch says so.  With the
  watch that ends nothing no look does anything.

  Main declarations:
    * `Watch.both`
    * `look_run`
    * `look_never`
    * `followWatched_never`
    * `compileBegun_never`
    * `Resolver.watched_never`
    * `resolveWithin_never`
-/

namespace SchemaGraph

/- The watch that ends only what two watches end. -/
def Watch.both
    (first second : Watch) : Watch :=
  fun m s => (first m s).bind (fun _ => second m s)

/- Looking at the state leaves it as it is. -/
theorem look_run
    (watch : Watch)
    (m : Moment)
    (s : State) :
    look watch m s =
      match watch m s with
      | some e => .error e s
      | none => .ok () s := by
  change (match watch m s with
    | some e => (throw e : Compile Unit)
    | none => pure ()) s = _
  cases watch m s <;> rfl

------------------------------------------------------------
-- Watching without Ending
------------------------------------------------------------

/- A look that ends nothing does nothing. -/
theorem look_never
    (m : Moment) :
    look Watch.never m = pure () := rfl

/- A reference is followed. -/
theorem followWatched_never
    (setting : Setting)
    (place : NodeKey)
    (reference : String) :
    followWatched setting Watch.never place reference =
      followReference setting reference := by
  simp only [followWatched, look_never, pure_bind]

/- A node that was begun is compiled. -/
theorem compileBegun_never
    (setting : Setting)
    (resolve : Resolver)
    (key : NodeKey)
    (node : Json) :
    compileBegun setting Watch.never resolve key (some node) =
      compileNode setting Watch.never resolve key node := by
  simp only [compileBegun, look_never, pure_bind]

/- Nodes are compiled as ever. -/
theorem Resolver.watched_never
    (resolve : Resolver) :
    Resolver.watched Watch.never resolve = resolve := by
  funext key
  simp only [watched, look_never, pure_bind, bind_pure]

/- One more level of nesting. -/
theorem resolveWithin_never
    (setting : Setting)
    (depth : Nat) :
    resolveWithin setting Watch.never (depth + 1) =
      resolveStep setting Watch.never
        (resolveWithin setting Watch.never depth) := by
  rw [resolveWithin, Resolver.watched_never]

end SchemaGraph
