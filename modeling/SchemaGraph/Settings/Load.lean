import SchemaGraph.Settings.Environment
import SchemaGraph.Text.Lossy
import SchemaGraph.Toml.Document

/-
  This file loads and saves settings.  Later sources win:
  the files of the working directory, the file of the user,
  a file that the caller names, and the environment.  Only
  the file that the caller names has to exist.

  A file of settings is TOML or JSON, as its extension says;
  the extension may be left out where the file is named.

  Key definitions include:
    * `Settings.FileFormat`
    * `Settings.findFile?`
    * `Settings.readFile`
    * `Settings.load?`
    * `Settings.save?`
-/

namespace SchemaGraph

namespace Settings

------------------------------------------------------------
-- Files
------------------------------------------------------------

/- The formats of files of settings. -/
inductive FileFormat where
  | toml
  | json
deriving DecidableEq, Repr

/- The format that an extension stands for. -/
def formatOf? : Option String → Option FileFormat
  | some "toml" => some .toml
  | some "json" => some .json
  | _ => none

/- A path without slashes at its end. -/
def trimmed
    (p : Path) : Path :=
  ⟨String.ofList
    (p.text.toList.reverse.dropWhile (· == '/')).reverse⟩

/- A path with an extension added, if it ends in a name. -/
def withExtension
    (p : Path)
    (extension : String) : Path :=
  match p.fileName? with
  | some _ => ⟨(trimmed p).text ++ "." ++ extension⟩
  | none => p

/- The file that a path names, or would name with an extension. -/
def findFile?
    (workspace : Workspace)
    (p : Path) : Option (Path × FileFormat) :=
  let isFile := workspace.files.isFile workspace.directory
  if isFile p then
    (formatOf? p.extension?).map (fun format => (p, format))
  else
    let toml := withExtension p "toml"
    let json := withExtension p "json"
    if isFile toml then
      some (toml, .toml)
    else if isFile json then
      some (json, .json)
    else
      none

/- Drop the bytes of a byte-order mark. -/
def dropMark : List UInt8 → List UInt8
  | 0xEF :: 0xBB :: 0xBF :: rest => rest
  | bytes => bytes

/- Read the text of a file of settings. -/
def FileFormat.read? : FileFormat → String → Option (List (String × Json))
  | .toml, text => (Toml.read? text).bind Json.members?
  | .json, text => (Json.read? text).bind Json.members?

/- What there is to a file of settings. -/
inductive FileOutcome where
  | missing
  | broken
  | table (entries : List (String × Json))

/- Read a file of settings. -/
def readFile
    (workspace : Workspace)
    (p : Path) : FileOutcome :=
  match findFile? workspace p with
  | none => .missing
  | some (file, format) =>
      match workspace.files.readBytes? workspace.directory file with
      | none => .missing
      | some bytes =>
          let text := Text.decodeLossy (dropMark bytes.toList)
          match format.read? text with
          | some entries => .table entries
          | none => .broken

/- The table of a file that may be missing. -/
def optionalFile
    (workspace : Workspace)
    (p : Path) : Option (List (String × Json)) :=
  match readFile workspace p with
  | .missing => some []
  | .broken => none
  | .table entries => some entries

/- The table of a file that must be there. -/
def requiredFile
    (workspace : Workspace)
    (p : Path) : Option (List (String × Json)) :=
  match readFile workspace p with
  | .table entries => some entries
  | _ => none

/- The paths at which the file that a path names may be. -/
def placesOf
    (p : Path) : List Path :=
  [p, withExtension p "toml", withExtension p "json"]

------------------------------------------------------------
-- Loading and Saving
------------------------------------------------------------

/- The files of settings in a working directory. -/
def localFiles : List Path :=
  [⟨"schema-compiler.toml"⟩, ⟨".schema-compiler.toml"⟩,
    ⟨"config/schema-compiler.toml"⟩]

/- The file of the user, if it is there. -/
def userFiles
    (workspace : Workspace)
    (environment : Environment) : List Path :=
  environment.userFile?.toList.filter
    (workspace.files.isFile workspace.directory)

/- The paths at which files of settings may be. -/
def places
    (environment : Environment)
    (file : Option Path) : List Path :=
  (localFiles ++ environment.userFile?.toList ++ file.toList).flatMap
    placesOf

/- All tables of settings, the strongest last. -/
def tables?
    (workspace : Workspace)
    (environment : Environment)
    (file : Option Path) : Option (List (List (String × Json))) := do
  let optional ←
    (localFiles ++ userFiles workspace environment).mapM
      (optionalFile workspace)
  let required ← file.toList.mapM (requiredFile workspace)
  return optional ++ required ++ [environment.settings]

/- Load settings, with a file that the caller may name. -/
def load?
    (workspace : Workspace)
    (environment : Environment)
    (file : Option Path) : Option Settings := do
  let tables ← tables? workspace environment file
  ofJson? Reading.loose (tables.foldl layTable (.object []))

/- Save settings as TOML; there is no result where no file can be. -/
def save?
    (settings : Settings)
    (workspace : Workspace)
    (p : Path) : Option Workspace :=
  (workspace.files.create? workspace.directory p
    settings.toToml.toUTF8).map
    (fun files => { workspace with files := files })

end Settings

end SchemaGraph
