import SchemaGraph.Compile.State

/-
  This file defines watches.  A watch looks at the state of a
  compilation when a node is asked for, begun or answered,
  and when a reference that is written at a node or at a
  link is about to be followed; it may end the compilation
  there with an error.

  Every program of a compilation takes a watch.  Schemas are
  compiled with the watch that ends nothing; with another
  one the compilation shows the states it goes through.

  Key definitions include:
    * `Moment`
    * `Watch`
    * `Watch.never`
    * `look`
    * `Resolver.watched`
-/

namespace SchemaGraph

/- A moment of a compilation. -/
inductive Moment where
  /- A node is asked for. -/
  | asked (key : NodeKey)
  /- A node was begun. -/
  | began (key : NodeKey)
  /- A reference that is written at a place will be followed. -/
  | linked (place : NodeKey) (reference : String)
  /- A node was answered. -/
  | answered (key : NodeKey)

/- The error to end a compilation with at a moment, if any. -/
abbrev Watch := Moment → State → Option CompileError

/- The watch that ends nothing. -/
def Watch.never : Watch :=
  fun _ _ => none

/- Look at the state at a moment. -/
def look
    (watch : Watch)
    (m : Moment) : Compile Unit := do
  match watch m (← get) with
  | some e => throw e
  | none => return

/- Compile nodes, with a look before and after each of them. -/
def Resolver.watched
    (watch : Watch)
    (resolve : Resolver) : Resolver :=
  fun key => do
    look watch (.asked key)
    let id ← resolve key
    look watch (.answered key)
    return id

end SchemaGraph
