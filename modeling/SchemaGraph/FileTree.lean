import SchemaGraph.Path

/-
  This file defines trees of files, and how a path is found
  in one: each part of the path is looked up in the
  directory reached so far, so that `..` goes to the parent
  of a directory that exists.

  Key definitions include:
    * `FileTree`
    * `FileTree.locate?`
    * `FileTree.isFile`
    * `FileTree.readBytes?`
    * `FileTree.readText?`
    * `FileTree.create?`
    * `FileTree.walk`
    * `Workspace`
-/

namespace SchemaGraph

/- A place in a tree: the names from the root. -/
abbrev Location := List String

/- Files with their bytes, and further directories. -/
structure FileTree where
  files : List (Location × ByteArray)
  directories : List Location

namespace FileTree

/- The tree without files. -/
def empty : FileTree :=
  ⟨[], []⟩

/- The bytes of the file at a location. -/
def bytesAt?
    (tree : FileTree)
    (location : Location) : Option ByteArray :=
  tree.files.lookup location

/- A directory is at a location. -/
def isDirectoryAt
    (tree : FileTree)
    (location : Location) : Bool :=
  location.isEmpty
    || tree.directories.any (fun d => location.isPrefixOf d)
    || tree.files.any (fun f =>
        location.isPrefixOf f.1 && f.1 != location)

/- Go from a directory along the parts of a path. -/
def follow
    (tree : FileTree) :
    Location → List String → Option Location
  | here, [] => some here
  | here, part :: rest =>
      if !tree.isDirectoryAt here then
        none
      else if part = "" ∨ part = "." then
        tree.follow here rest
      else if part = ".." then
        tree.follow here.dropLast rest
      else
        tree.follow (here ++ [part]) rest

/- The location that a path leads to, if the way there exists. -/
def locate?
    (tree : FileTree)
    (workingDir p : Path) : Option Location :=
  if p.text = "" then
    none
  else
    tree.follow [] (Pointer.slashParts (p.resolve workingDir).text)

/- A path leads to a file. -/
def isFile
    (tree : FileTree)
    (workingDir p : Path) : Bool :=
  match tree.locate? workingDir p with
  | some location => (tree.bytesAt? location).isSome
  | none => false

/- The bytes of the file that a path leads to. -/
def readBytes?
    (tree : FileTree)
    (workingDir p : Path) : Option ByteArray :=
  (tree.locate? workingDir p).bind tree.bytesAt?

/-
  The text of the file that a path leads to; the inner value
  is missing when its bytes are no text.
-/
def readText?
    (tree : FileTree)
    (workingDir p : Path) : Option (Option String) :=
  (tree.readBytes? workingDir p).map String.fromUTF8?

/- Put a file into the tree, in place of one that is there. -/
def write
    (tree : FileTree)
    (location : Location)
    (bytes : ByteArray) : FileTree :=
  ⟨(location, bytes) ::
      tree.files.filter (fun f => f.1 != location),
    tree.directories⟩

/- The directories that a path passes, seen from the root. -/
def passed : Location → List String → List Location
  | here, [] => [here]
  | here, [_] => [here]
  | here, part :: rest =>
      if part = "" ∨ part = "." then
        passed here rest
      else if part = ".." then
        here :: passed here.dropLast rest
      else
        here :: passed (here ++ [part]) rest

/-
  Put a file where a path from the root leads to, with the
  directories that the path passes.
-/
def record
    (tree : FileTree)
    (p : Path)
    (bytes : ByteArray) : FileTree :=
  let parts := Pointer.slashParts p.text
  let passing : FileTree :=
    ⟨tree.files, passed [] parts ++ tree.directories⟩
  match passing.follow [] parts with
  | some location => passing.write location bytes
  | none => tree

/-
  Put a file where a path leads to.  Its directory must be
  there, and the place must not be a directory.
-/
def create?
    (tree : FileTree)
    (workingDir p : Path)
    (bytes : ByteArray) : Option FileTree :=
  let parts := Pointer.slashParts (p.resolve workingDir).text
  match p.text, parts.getLast? with
  | "", _ => none
  | _, some name =>
      if name = "" ∨ name = "." ∨ name = ".." then
        none
      else
        (tree.follow [] parts).bind (fun location =>
          if tree.isDirectoryAt location
              || !tree.isDirectoryAt location.dropLast then
            none
          else
            some (tree.write location bytes))
  | _, none => none

/- The names in a directory, sorted. -/
def namesIn
    (tree : FileTree)
    (location : Location) : List String :=
  let below (l : Location) : Option String :=
    if location.isPrefixOf l then
      (l.drop location.length).head?
    else
      none
  let names :=
    (tree.files.map (·.1) ++ tree.directories).filterMap below
  (Members.ofList (names.map (fun n => (n, ())))).map (·.1)

mutual

/-
  The files below a location with the paths that lead there,
  a directory's entries in the order of their names.
-/
def walkAt
    (tree : FileTree) :
    Nat → Path → Location → List (Path × Location)
  | 0, _, _ => []
  | depth + 1, p, location =>
      if (tree.bytesAt? location).isSome then
        [(p, location)]
      else
        tree.walkNames depth p location (tree.namesIn location)

/- The files below some entries of a directory. -/
def walkNames
    (tree : FileTree) :
    Nat → Path → Location → List String → List (Path × Location)
  | _, _, _, [] => []
  | depth, p, location, name :: rest =>
      tree.walkAt depth (p.join ⟨name⟩) (location ++ [name])
        ++ tree.walkNames depth p location rest

end

/- The length of the longest location in the tree. -/
def height
    (tree : FileTree) : Nat :=
  (tree.files.map (·.1) ++ tree.directories).foldl
    (fun n l => max n l.length) 0

/- All files below a path, depth first. -/
def walk
    (tree : FileTree)
    (workingDir p : Path) : List (Path × Location) :=
  match tree.locate? workingDir p with
  | some location => tree.walkAt (tree.height + 1) p location
  | none => []

/- The number of bytes of all files. -/
def extent
    (tree : FileTree) : Nat :=
  (tree.files.map (fun f => f.2.size)).foldl (· + ·) 0

end FileTree

/- A working directory in a tree of files. -/
structure Workspace where
  directory : Path
  files : FileTree

end SchemaGraph
