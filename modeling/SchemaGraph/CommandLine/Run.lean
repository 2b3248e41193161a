import SchemaGraph.CommandLine.Arguments
import SchemaGraph.Compile
import SchemaGraph.Settings.Load

/-
  This file runs the command line in a workspace: a schema
  is compiled, and a document, or an absent value, is
  checked against it.

  A valid document is printed as it was accepted.  The exit
  code is 0 for a valid document, 1 for an invalid one or
  any failure, and 2 for arguments that make no sense.

  Key definitions include:
    * `CommandLine.Failure`
    * `CommandLine.Failure.text`
    * `CommandLine.Outcome`
    * `CommandLine.run`
-/

namespace SchemaGraph

namespace CommandLine

------------------------------------------------------------
-- Failures
------------------------------------------------------------

/- Why a run cannot go on. -/
inductive Failure where
  | settings
  | preload (error : CompileError)
  | entryWithoutPath (entry : String)
  | unreadable (path reason : String)
  | malformed (path : String)
  | subSchema (error : CompileError)
  | compile (path : String) (error : CompileError)
  /- The check goes round without an end. -/
  | endless

/- An error with the cause below it, if there is one. -/
def errorChain
    (error : CompileError) : String :=
  match error with
  | .loadFailure (.unreadable reason) =>
      error.text ++ ": " ++ reason
  | _ => error.text

/- A failure in words. -/
def Failure.text : Failure → String
  | settings => "Failed to load the settings"
  | preload error =>
      "Failed to preload sub-schemas: " ++ errorChain error
  | entryWithoutPath entry =>
      "Expected --sub-schema in ID=PATH form, got '" ++ entry ++ "'"
  | unreadable path reason =>
      "Failed to read " ++ path ++ ": " ++ reason
  | malformed path => "Failed to parse " ++ path ++ ": no JSON"
  | subSchema error => errorChain error
  | compile path error =>
      "Failed to compile " ++ path ++ ": " ++ errorChain error
  | endless => "The check does not end"

------------------------------------------------------------
-- Outcomes
------------------------------------------------------------

/- What a run printed before it ended, and how it ended. -/
structure Outcome where
  exitCode : Nat
  output : String
  errors : String
  /- The paths that the compilation asked for. -/
  asked : List Path
deriving DecidableEq, Repr

/- The outcome of a failure after some output. -/
def Outcome.ofFailure
    (output : String)
    (asked : List Path)
    (failure : Failure) : Outcome :=
  ⟨1, output, "Error: " ++ failure.text ++ "\n", asked⟩

------------------------------------------------------------
-- Parts of a Run
------------------------------------------------------------

/- Read the document at a path. -/
def readDocument
    (workspace : Workspace)
    (p : Path) : Except Failure Json :=
  match workspace.files.readText? workspace.directory p with
  | none => .error (.unreadable p.text "No such file or directory")
  | some none => .error (.unreadable p.text Loader.notText)
  | some (some text) =>
      match Json.readDocument? text with
      | some value => .ok value
      | none => .error (.malformed p.text)

/- Register the document that an entry names. -/
def addEntry
    (workspace : Workspace)
    (options : Options)
    (entry : String) : Except Failure Options :=
  match splitEquals entry with
  | (_, none) => .error (.entryWithoutPath entry)
  | (id, some path) => do
      let schema ← readDocument workspace ⟨path⟩
      match options.withSubSchema id schema with
      | .ok options => return options
      | .error e => .error (.subSchema e)

/- The options of a run. -/
def optionsOf
    (workspace : Workspace)
    (settings : Settings)
    (arguments : Arguments) : Except Failure Options :=
  match settings.toOptions workspace with
  | .error e => .error (.preload e)
  | .ok options => arguments.subSchemas.foldlM (addEntry workspace) options

/- The violations as they are printed. -/
def violationsText
    (vs : List Violation) : String :=
  "❌ " ++ Pointer.indexSegment vs.length ++ " violation(s):\n"
    ++ String.join (vs.map (fun v => "   └─ " ++ v.text ++ "\n"))

/- The accepted value as it is printed, and the exit code. -/
def verdictText : Verdict → String × Nat
  | .ok none => ("✅ Valid\n", 0)
  | .ok (some value) =>
      ("✅ Valid\n" ++ value.writeIndented ++ "\n", 0)
  | .error vs => (violationsText vs, 1)

/- Check the document of a run. -/
def checkData
    (workspace : Workspace)
    (now : Calendar.Instant)
    (schema : Compiled)
    (arguments : Arguments) : Except Failure Verdict := do
  let value ←
    match arguments.data with
    | none => pure none
    | some p => (readDocument workspace p).map some
  match schema.graph.check now schema.root value ""
      ⟨arguments.stripUnknown⟩ with
  | some verdict => return verdict
  | none => .error .endless

------------------------------------------------------------
-- Runs
------------------------------------------------------------

/- The paths of the documents that arguments name. -/
def documentPaths
    (arguments : Arguments) : List Path :=
  arguments.schema :: arguments.data.toList
    ++ arguments.subSchemas.filterMap
        (fun entry => (splitEquals entry).2.map Path.mk)

/- The paths that a compilation asked the loader for. -/
def askedPaths
    (events : List Event) : List Path :=
  events.filterMap (fun event =>
    match event with
    | .asked path _ => some path
    | _ => none)

/- Compile the schema and check the document. -/
def runWith
    (workspace : Workspace)
    (now : Calendar.Instant)
    (options : Options)
    (arguments : Arguments) : Outcome :=
  let start := "🔍 Compiling " ++ arguments.schema.text ++ "\n"
  let compilation :=
    SchemaGraph.compile workspace options (.path arguments.schema)
  let asked := askedPaths compilation.final.history
  match compilation.result with
  | .error e =>
      Outcome.ofFailure start asked (.compile arguments.schema.text e)
  | .ok schema =>
      match checkData workspace now schema arguments with
      | .error failure => Outcome.ofFailure start asked failure
      | .ok verdict =>
          let (text, code) := verdictText verdict
          ⟨code, start ++ text, "", asked⟩

/- Run with arguments that make sense. -/
def runArguments
    (workspace : Workspace)
    (environment : Environment)
    (now : Calendar.Instant)
    (arguments : Arguments) : Outcome :=
  match Settings.load? workspace environment
      (arguments.config.map Path.mk) with
  | none => Outcome.ofFailure "" [] .settings
  | some settings =>
      match optionsOf workspace settings arguments with
      | .error failure => Outcome.ofFailure "" [] failure
      | .ok options => runWith workspace now options arguments

/- Run the command line. -/
def run
    (workspace : Workspace)
    (environment : Environment)
    (now : Calendar.Instant)
    (arguments : List String) : Outcome :=
  match readRequest arguments with
  | .misuse => ⟨2, "", "Error: wrong usage, see --help\n", []⟩
  | .showHelp => ⟨0, helpText, "", []⟩
  | .run arguments => runArguments workspace environment now arguments

end CommandLine

end SchemaGraph
