import SchemaGraph.Loader.Directory
import SchemaGraph.Toml.Writer

/-
  This file defines the settings that a program may be run
  with: the base directory of in-memory schemas, the
  directories whose documents fill the registry, and the
  filter of the log.

  Settings are read from a JSON value section by section.  A
  section may also be a list of its fields in their order.
  How texts are recognized depends on where the value comes
  from.

  Key definitions include:
    * `Settings`
    * `Settings.Reading`
    * `Settings.ofJson?`
    * `Settings.toJson`
    * `Settings.toToml`
    * `Settings.toOptions`
-/

namespace SchemaGraph

/- The settings of a program. -/
structure Settings where
  baseDir : Option Path := none
  /- The directories whose documents are registered. -/
  registryDirs : List Path := []
  /- The extensions of the files that hold documents. -/
  extensions : List String := ["json"]
  logFilter : String := "warn"
deriving DecidableEq

namespace Settings

------------------------------------------------------------
-- Reading
------------------------------------------------------------

/- What is taken for a text, and for a list of fields. -/
structure Reading where
  text? : Json → Option String
  /- A list of fields may be longer than the section. -/
  longLists : Bool

/- Only strings are texts, and lists of fields fit. -/
def Reading.exact : Reading where
  text? := Json.text?
  longLists := false

/- The fields of a section: by name, or by position. -/
def fields?
    (reading : Reading)
    (names : List String) : Json → Option (List (String × Json))
  | .object members => some members
  | .array items =>
      if names.length < items.length && !reading.longLists then
        none
      else
        some (names.zip items)
  | _ => none

/- Read a field that has a default. -/
def field?
    {α : Type}
    (fields : List (String × Json))
    (name : String)
    (default : α)
    (read : Json → Option α) : Option α :=
  match fields.lookup name with
  | some v => read v
  | none => some default

/- Read a list of texts. -/
def texts?
    (reading : Reading) : Json → Option (List String)
  | .array items => items.mapM reading.text?
  | _ => none

/- Read a text that may be `null`. -/
def optionalText?
    (reading : Reading) : Json → Option (Option String)
  | .null => some none
  | v => (reading.text? v).map some

/- Read settings. -/
def ofJson?
    (reading : Reading)
    (value : Json) : Option Settings := do
  let top ← fields? reading ["compiler", "registry", "log"] value
  let base ←
    field? top "compiler" none (fun v => do
      let fields ← fields? reading ["base_dir"] v
      field? fields "base_dir" none (optionalText? reading))
  let (dirs, extensions) ←
    field? top "registry" ([], ["json"]) (fun v => do
      let fields ← fields? reading ["dirs", "extensions"] v
      let dirs ← field? fields "dirs" [] (texts? reading)
      let extensions ←
        field? fields "extensions" ["json"] (texts? reading)
      return (dirs, extensions))
  let filter ←
    field? top "log" "warn" (fun v => do
      let fields ← fields? reading ["filter"] v
      field? fields "filter" "warn" reading.text?)
  return ⟨base.map Path.mk, dirs.map Path.mk, extensions, filter⟩

------------------------------------------------------------
-- Writing
------------------------------------------------------------

/- Settings as a JSON value of three sections. -/
def toJson
    (settings : Settings) : Json :=
  .object
    [("compiler",
        .object
          (match settings.baseDir with
            | some p => [("base_dir", .string p.text)]
            | none => [])),
      ("log", .object [("filter", .string settings.logFilter)]),
      ("registry",
        .object
          [("dirs",
              .array (settings.registryDirs.map (fun p => .string p.text))),
            ("extensions",
              .array (settings.extensions.map Json.string))])]

/- Settings as a TOML text of three tables. -/
def toToml
    (settings : Settings) : String :=
  let base :=
    match settings.baseDir with
    | some p => "base_dir = " ++ Toml.writeString p.text ++ "\n"
    | none => ""
  "[compiler]\n" ++ base
    ++ "\n[registry]\ndirs = "
    ++ Toml.writeStrings (settings.registryDirs.map Path.text)
    ++ "\nextensions = " ++ Toml.writeStrings settings.extensions
    ++ "\n\n[log]\nfilter = " ++ Toml.writeString settings.logFilter
    ++ "\n"

------------------------------------------------------------
-- Use
------------------------------------------------------------

/- The base directory, seen from a working directory. -/
def baseDirIn
    (settings : Settings)
    (workingDir : Path) : Option Path :=
  settings.baseDir.map (fun p => p.resolve workingDir)

/- The registry directories, seen from a working directory. -/
def registryDirsIn
    (settings : Settings)
    (workingDir : Path) : List Path :=
  settings.registryDirs.map (fun p => p.resolve workingDir)

/- The options that settings stand for in a workspace. -/
def toOptions
    (settings : Settings)
    (workspace : Workspace) : Except CompileError Options :=
  (settings.registryDirsIn workspace.directory).foldlM
    (fun options directory =>
      options.withDirectory workspace directory settings.extensions)
    { baseDir := settings.baseDirIn workspace.directory }

end Settings

end SchemaGraph
