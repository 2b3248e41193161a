import SchemaGraph.Pattern.Node
import SchemaGraph.Unicode.Query

/-
  This file expands patterns into programs and runs them on
  texts.  A program is an array of steps; running it keeps
  the list of steps that are alive at a position, so that a
  text is read once.

  Key definitions include:
    * `Pattern.Step`
    * `Pattern.Node.expand`
    * `Pattern.alive`
    * `Pattern.run`
-/

namespace SchemaGraph

namespace Pattern

------------------------------------------------------------
-- Programs
------------------------------------------------------------

/- One step of a program, with the steps that follow it. -/
inductive Step where
  | accept
  | take (chars : CharSet) (next : Nat)
  | assert (a : Assertion) (next : Nat)
  | fork (first second : Nat)
deriving Inhabited

/- Add a step to a program; its position comes first. -/
def addStep
    (program : Array Step)
    (step : Step) : Nat × Array Step :=
  (program.size, program.push step)

/- Build `count` copies one before the other. -/
def copies
    (build : Nat → Array Step → Nat × Array Step) :
    Nat → Nat → Array Step → Nat × Array Step
  | 0, next, program => (next, program)
  | count + 1, next, program =>
      let (entry, program) := build next program
      copies build count entry program

/- Build `count` copies, each of which may end the run. -/
def optionalCopies
    (build : Nat → Array Step → Nat × Array Step)
    (finish : Nat) :
    Nat → Nat → Array Step → Nat × Array Step
  | 0, next, program => (next, program)
  | count + 1, next, program =>
      let (entry, program) := build next program
      let (fork, program) := addStep program (.fork entry finish)
      optionalCopies build finish count fork program

/-
  Add the steps of a pattern that goes on at `next`; the
  entry of the new steps comes first.
-/
def Node.expand : Node → Nat → Array Step → Nat × Array Step
  | .empty, next, program => (next, program)
  | .set s, next, program => addStep program (.take s next)
  | .assertion a, next, program =>
      addStep program (.assert a next)
  | .seq a b, next, program =>
      let (second, program) := b.expand next program
      a.expand second program
  | .either a b, next, program =>
      let (second, program) := b.expand next program
      let (first, program) := a.expand next program
      addStep program (.fork first second)
  | .times body least (some most), next, program =>
      let (entry, program) :=
        optionalCopies body.expand next (most - least) next program
      copies body.expand least entry program
  | .times body least none, next, program =>
      let (loop, program) := addStep program (.fork next next)
      let (entry, program) := body.expand loop program
      let program := program.setIfInBounds loop (.fork entry next)
      copies body.expand least loop program

/- The program of a pattern, and its entry. -/
def Node.program
    (n : Node) : Nat × Array Step :=
  n.expand 0 #[.accept]

------------------------------------------------------------
-- Assertions
------------------------------------------------------------

/- The character is part of a word. -/
def isWordChar
    (unicode : Bool) : Option Char → Bool
  | none => false
  | some c =>
      if c.toNat < 128 then
        c.isAlphanum || c == '_'
      else
        unicode && Unicode.wordSet.contains c

/- An assertion holds between two characters. -/
def Assertion.holds
    (before after : Option Char) : Assertion → Bool
  | textStart => before.isNone
  | textEnd => after.isNone
  | lineStart false => before.isNone || before == some '\n'
  | lineEnd false => after.isNone || after == some '\n'
  | lineStart true =>
      before.isNone || before == some '\n'
        || (before == some '\r' && after != some '\n')
  | lineEnd true =>
      after.isNone || after == some '\r'
        || (after == some '\n' && before != some '\r')
  | wordBoundary unicode =>
      isWordChar unicode before != isWordChar unicode after
  | notWordBoundary unicode =>
      isWordChar unicode before == isWordChar unicode after
  | wordStart unicode =>
      !isWordChar unicode before && isWordChar unicode after
  | wordEnd unicode =>
      isWordChar unicode before && !isWordChar unicode after
  | wordStartHalf unicode => !isWordChar unicode before
  | wordEndHalf unicode => !isWordChar unicode after

------------------------------------------------------------
-- Running
------------------------------------------------------------

/- The steps found alive so far at one position. -/
structure Alive where
  seen : Array Bool
  takers : List (CharSet × Nat)
  accepted : Bool

/-
  Follow forks and assertions from the steps on a stack.
  Every step is followed once, so the stack is empty before
  the fuel is.
-/
def follow
    (program : Array Step)
    (before after : Option Char) :
    Nat → List Nat → Alive → Alive
  | 0, _, alive => alive
  | _ + 1, [], alive => alive
  | fuel + 1, i :: stack, alive =>
      if alive.seen.getD i true then
        follow program before after fuel stack alive
      else
        let alive : Alive :=
          ⟨alive.seen.setIfInBounds i true, alive.takers,
            alive.accepted⟩
        match program.getD i .accept with
        | .accept =>
            follow program before after fuel stack
              ⟨alive.seen, alive.takers, true⟩
        | .take s next =>
            follow program before after fuel stack
              ⟨alive.seen, (s, next) :: alive.takers,
                alive.accepted⟩
        | .assert a next =>
            if a.holds before after then
              follow program before after fuel (next :: stack) alive
            else
              follow program before after fuel stack alive
        | .fork first second =>
            follow program before after fuel
              (first :: second :: stack) alive

/- The steps alive at a position, from given ones on. -/
def alive
    (program : Array Step)
    (before after : Option Char)
    (starts : List Nat) : Alive :=
  follow program before after
    (2 * program.size + starts.length + 1) starts
    ⟨Array.replicate program.size false, [], false⟩

/-
  A match of the program is found at or after a position
  whose preceding character and live steps are given.
-/
def runFrom
    (entry : Nat)
    (program : Array Step) :
    Option Char → List Nat → List Char → Bool
  | before, starts, [] =>
      (alive program before none (starts ++ [entry])).accepted
  | before, starts, c :: cs =>
      let here :=
        alive program before (some c) (starts ++ [entry])
      if here.accepted then
        true
      else
        let next :=
          here.takers.filterMap (fun (s, next) =>
            if s.contains c then some next else none)
        runFrom entry program (some c) next cs

/- A text holds a match of a program. -/
def run
    (program : Nat × Array Step)
    (text : String) : Bool :=
  runFrom program.1 program.2 none [] text.toList

end Pattern

end SchemaGraph
