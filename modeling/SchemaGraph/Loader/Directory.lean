import SchemaGraph.Compile.Options

/-
  This file collects the schema documents below a directory.
  Each document goes under its identifier, if it declares
  one, and under its path inside the directory.

  A document without a `jsonRoot` gets the directory that
  it lies in, so that its relative references keep their
  meaning wherever it is served from.

  Key definitions include:
    * `Directory.withRoot`
    * `Directory.names`
    * `Directory.documents`
-/

namespace SchemaGraph

namespace Directory

/- The document of a file, rooted in the file's directory. -/
def withRoot
    (file : Path) : Json → Json
  | .object members =>
      match file.parent? with
      | some parent =>
          .object
            (Members.insertNew "jsonRoot" (.string parent.text)
              members)
      | none => .object members
  | value => value

/- The path of a file as seen from a directory. -/
def relativeName
    (directory file : Path) : String :=
  let components :=
    (Path.stripLeading? directory.components file.components).getD
      file.components
  String.intercalate "/" (components.map Path.Component.text)

/- The names that a document goes under. -/
def names
    (directory file : Path)
    (value : Json) : List String :=
  ((value.member? "$id").bind Json.text?).toList
    ++ [relativeName directory file]

/- The file has one of the extensions. -/
def isWanted
    (extensions : List String)
    (file : Path) : Bool :=
  match file.extension? with
  | some e => extensions.contains e
  | none => false

/- The document that the bytes of a file hold. -/
def readFile
    (file : Path)
    (bytes : ByteArray) : Except CompileError Json :=
  match String.fromUTF8? bytes with
  | none => .error (.loadFailure (.unreadable Loader.notText))
  | some text =>
      match Json.readDocument? text with
      | none => .error (.brokenDocument file)
      | some value => .ok (withRoot file value)

/- The named documents of one file below a directory. -/
def entriesOf
    (workspace : Workspace)
    (directory : Path)
    (extensions : List String)
    (found : Path × Location) :
    Except CompileError (List (String × Json)) :=
  let (file, location) := found
  match isWanted extensions file, workspace.files.bytesAt? location with
  | true, some bytes => do
      let value ← readFile file bytes
      return (names directory file value).map (fun n => (n, value))
  | _, _ => .ok []

/-
  The named documents below a directory, in the order of the
  walk.  A missing directory has none.
-/
def documents
    (workspace : Workspace)
    (directory : Path)
    (extensions : List String) :
    Except CompileError (List (String × Json)) :=
  ((workspace.files.walk workspace.directory directory).mapM
    (entriesOf workspace directory extensions)).map List.flatten

end Directory

/- Register the documents below a directory. -/
def Options.withDirectory
    (options : Options)
    (workspace : Workspace)
    (directory : Path)
    (extensions : List String) : Except CompileError Options := do
  options.withEntries
    (← Directory.documents workspace directory extensions)

end SchemaGraph
