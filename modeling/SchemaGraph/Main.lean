import SchemaGraph.CommandLine.Run
import Std.Time.DateTime.Timestamp

/-
  This file holds the program.  It copies the files that a
  run needs into a tree of files, and runs the command line
  on the tree; files that turn out to be needed are copied
  before another run, until none is missing.
-/

namespace SchemaGraph

namespace Program

/- Copy a file into a workspace, if it is there. -/
def fetch
    (workspace : Workspace)
    (p : Path) : IO Workspace := do
  let full := p.resolve workspace.directory
  try
    let bytes ← IO.FS.readBinFile full.text
    return { workspace with files := workspace.files.record full bytes }
  catch _ =>
    return workspace

/- Copy several files. -/
def fetchAll
    (workspace : Workspace)
    (ps : List Path) : IO Workspace :=
  ps.foldlM fetch workspace

/-
  Copy the files below a directory that have one of the
  extensions; links to directories are not followed.
-/
partial def fetchBelow
    (extensions : List String)
    (workspace : Workspace)
    (p : Path) : IO Workspace := do
  try
    let place ← IO.FS.realPath (p.resolve workspace.directory).text
    let entries ← place.readDir
    entries.foldlM
      (fun workspace entry => do
        let q := p.join ⟨entry.fileName⟩
        match (← entry.path.symlinkMetadata).type with
        | .dir => fetchBelow extensions workspace q
        | _ =>
            if Directory.isWanted extensions q then
              fetch workspace q
            else
              return workspace)
      workspace
  catch _ =>
    if Directory.isWanted extensions p then
      fetch workspace p
    else
      return workspace

/- Run until no file is missing. -/
partial def settle
    (run : Workspace → CommandLine.Outcome)
    (known : List Path)
    (workspace : Workspace) : IO CommandLine.Outcome := do
  let outcome := run workspace
  let missing := outcome.asked.filter (fun p => p ∉ known)
  if missing.isEmpty then
    return outcome
  else
    settle run (missing ++ known) (← fetchAll workspace missing)

/- The variables of the process. -/
def readEnvironment : IO Environment := do
  try
    let bytes ← IO.FS.readBinFile "/proc/self/environ"
    let entries :=
      (Text.decodeLossy bytes.toList).toList.splitOn (Char.ofNat 0)
    return entries.filterMap (fun cs =>
      match CommandLine.splitEquals (String.ofList cs) with
      | (name, some value) => some (name, value)
      | _ => none)
  catch _ =>
    return []

/- The present instant. -/
def readClock : IO Calendar.Instant := do
  let now ← Std.Time.Timestamp.now
  return Calendar.Instant.ofNanos now.toNanosecondsSinceUnixEpoch.val

/- Copy all files that the arguments and the settings name. -/
def prepare
    (environment : Environment)
    (arguments : CommandLine.Arguments)
    (workspace : Workspace) : IO Workspace := do
  let file := arguments.config.map Path.mk
  let workspace ←
    fetchAll workspace (Settings.places environment file)
  let workspace ←
    match Settings.load? workspace environment file with
    | some settings =>
        (settings.registryDirsIn workspace.directory).foldlM
          (fetchBelow settings.extensions) workspace
    | none => pure workspace
  fetchAll workspace (CommandLine.documentPaths arguments)

end Program

end SchemaGraph

/- Run the command line in the working directory. -/
def main
    (arguments : List String) : IO UInt32 := do
  let directory : SchemaGraph.Path := ⟨toString (← IO.currentDir)⟩
  let environment ← SchemaGraph.Program.readEnvironment
  let now ← SchemaGraph.Program.readClock
  let workspace : SchemaGraph.Workspace :=
    ⟨directory, SchemaGraph.FileTree.empty⟩
  let workspace ←
    match SchemaGraph.CommandLine.readRequest arguments with
    | .run request =>
        SchemaGraph.Program.prepare environment request workspace
    | _ => pure workspace
  let outcome ←
    SchemaGraph.Program.settle
      (fun workspace =>
        SchemaGraph.CommandLine.run workspace environment now arguments)
      [] workspace
  IO.print outcome.output
  IO.eprint outcome.errors
  return outcome.exitCode.toUInt32
