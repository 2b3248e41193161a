import SchemaGraph.FileTree
import SchemaGraph.Json.Reader

/-
  This file defines loaders, which serve documents by path.
  A loader may have nothing at a path, and may fail there.

  Key definitions include:
    * `LoadError`
    * `Loader`
    * `Loader.memory`
    * `Loader.texts`
    * `Loader.embedded`
    * `Loader.broken`
    * `Loader.files`
-/

namespace SchemaGraph

/- Why a document could not be loaded. -/
inductive LoadError where
  /- The file could not be read, for a reason. -/
  | unreadable (reason : String)
  /- The text is no JSON. -/
  | malformed
deriving DecidableEq

/-
  A source of documents.  The extent is meant as a bound for
  the positions of all documents that it serves, each path
  with a document of its own.
-/
structure Loader where
  load : Path → Except LoadError (Option Json)
  extent : Nat

namespace Loader

/- Read the text of a document. -/
def parse
    (text : String) : Except LoadError (Option Json) :=
  match Json.readDocument? text with
  | some value => .ok (some value)
  | none => .error .malformed

/- The reason given for bytes that are no text. -/
def notText : String :=
  "stream did not contain valid UTF-8"

/- The entry whose path has given components; the last one wins. -/
def lastAt?
    {α : Type}
    (entries : List (Path × α))
    (p : Path) : Option α :=
  (entries.reverse.find? (fun e => decide (e.1.Same p))).map (·.2)

/- Documents kept under the normal forms of their paths. -/
def memory
    (documents : List (Path × Json)) : Loader :=
  let kept := documents.map (fun e => (e.1.normalize, e.2))
  { load := fun p => .ok (lastAt? kept p.normalize)
    extent :=
      (documents.map (fun e => e.2.positions)).foldl (· + ·) 0 }

/-
  Texts kept under the normal forms of their paths; a path
  to load is taken as it is.
-/
def texts
    (documents : List (Path × String)) : Loader :=
  let kept := documents.map (fun e => (e.1.normalize, e.2))
  { load := fun p =>
      match lastAt? kept p with
      | some text => parse text
      | none => .ok none
    extent :=
      (documents.map (fun e => e.2.length)).foldl (· + ·) 0 }

/- A bundle of files that appears below a mount point. -/
def embedded
    (mount : Path)
    (bundle : List (Path × ByteArray)) : Loader :=
  let root := mount.normalize
  { load := fun p =>
      let p := p.normalize
      match Path.stripLeading? root.components p.components with
      | none => .ok none
      | some relative =>
          let found :=
            bundle.find? (fun e => e.1.components = relative)
          match found with
          | none => .ok none
          | some (_, bytes) =>
              match String.fromUTF8? bytes with
              | some text => parse text
              | none =>
                  .error
                    (.unreadable (p.text ++ " is not valid UTF-8"))
    extent := (bundle.map (fun e => e.2.size)).foldl (· + ·) 0 }

/- A loader that fails everywhere. -/
def broken
    (reason : String) : Loader where
  load := fun _ => .error (.unreadable reason)
  extent := 0

/-
  The files of a workspace.  A file may be served under
  several paths, and the extent has room for as many paths
  of each file as there are characters in all files.

  It is no bound where paths climb above the root: `..`
  leads from the root to the root, so that a file there that
  names `../` and itself is served under a longer path each
  time.
-/
def files
    (workspace : Workspace) : Loader where
  load := fun p =>
    match workspace.files.readText? workspace.directory p with
    | none => .ok none
    | some none => .error (.unreadable notText)
    | some (some text) => parse text
  extent :=
    (workspace.files.extent + 1) * (workspace.files.extent + 1)

end Loader

end SchemaGraph
