import SchemaGraph.Pointer

/-
  This file defines file paths, read lexically.  A path
  keeps its text as written; its components are the names
  between slashes, `..`, the root, and a leading `.`.  Two
  texts with the same components name the same file.

  Key definitions include:
    * `Path`
    * `Path.components`
    * `Path.ofComponents`
    * `Path.join`
    * `Path.parent?`
    * `Path.normalize`
    * `Path.absolutize`
    * `Path.stripLeading?`
-/

namespace SchemaGraph

/- A file path, as written. -/
structure Path where
  text : String
deriving DecidableEq, Repr, Inhabited

namespace Path

------------------------------------------------------------
-- Components
------------------------------------------------------------

/- One component of a path. -/
inductive Component where
  | root
  | current
  | parent
  | name (text : String)
deriving DecidableEq, Repr

/- The text of a component. -/
def Component.text : Component → String
  | root => "/"
  | current => "."
  | parent => ".."
  | name s => s

/- The path starts at the root. -/
def isAbsolute
    (p : Path) : Bool :=
  match p.text.toList with
  | '/' :: _ => true
  | _ => false

/- The component that a part stands for, unless it is idle. -/
def ofPart
    (part : String) : Option Component :=
  if part = "" ∨ part = "." then
    none
  else if part = ".." then
    some .parent
  else
    some (.name part)

/- The components of a path. -/
def components
    (p : Path) : List Component :=
  match Pointer.slashParts p.text with
  | "" :: _ :: _ =>
      .root :: (Pointer.slashParts p.text).filterMap ofPart
  | "." :: rest => .current :: rest.filterMap ofPart
  | parts => parts.filterMap ofPart

/- The path that is written with the given components. -/
def ofComponents : List Component → Path
  | .root :: rest =>
      ⟨"/" ++ String.intercalate "/" (rest.map Component.text)⟩
  | cs => ⟨String.intercalate "/" (cs.map Component.text)⟩

/- Two paths have the same components. -/
def Same
    (p q : Path) : Prop :=
  p.components = q.components

instance
    (p q : Path) :
    Decidable (Same p q) := by
  unfold Same
  infer_instance

------------------------------------------------------------
-- Joining and Splitting
------------------------------------------------------------

/-
  Continue a path with another one; an absolute one replaces
  it.
-/
def join
    (base p : Path) : Path :=
  if p.isAbsolute then
    p
  else
    match base.text.toList.getLast? with
    | none => p
    | some '/' => ⟨base.text ++ p.text⟩
    | some _ => ⟨base.text ++ "/" ++ p.text⟩

/- Drop the idle parts at the end of a path. -/
def dropIdle
    (first : String)
    (parts : List String) : List String :=
  let kept :=
    (parts.reverse.dropWhile (fun s => s = "" || s = ".")).reverse
  match kept with
  | [] => if first = "" || first = "." then [first] else []
  | _ => kept

/-
  The path without its last component; the root and the
  empty path have none.
-/
def parent?
    (p : Path) : Option Path :=
  match p.components.getLast? with
  | none => none
  | some .root => none
  | some _ =>
      let parts := Pointer.slashParts p.text
      let first := parts.headD ""
      let kept := (dropIdle first parts).dropLast
      match dropIdle first kept with
      | [""] => if p.isAbsolute then some ⟨"/"⟩ else some ⟨""⟩
      | rest =>
          if kept.isEmpty then
            some ⟨""⟩
          else
            some ⟨String.intercalate "/" rest⟩

/- The last component, when it is a name. -/
def fileName?
    (p : Path) : Option String :=
  match p.components.getLast? with
  | some (.name s) => some s
  | _ => none

/-
  What follows the last point of the file name, unless the
  point starts the name.
-/
def extension?
    (p : Path) : Option String :=
  p.fileName?.bind (fun s =>
    match (s.toList.splitOn '.').reverse with
    | last :: before :: more =>
        if before = [] && more = [] then
          none
        else
          some (String.ofList last)
    | _ => none)

/- What follows a leading run of components. -/
def stripLeading? : List Component → List Component → Option (List Component)
  | [], cs => some cs
  | a :: lead, b :: cs => if a = b then stripLeading? lead cs else none
  | _ :: _, [] => none

------------------------------------------------------------
-- Normal Forms
------------------------------------------------------------

/-
  Add one component to a normalized path: `..` cancels a
  name before it and otherwise stays.
-/
def normalizeStep
    (done : List Component) : Component → List Component
  | .current => done
  | .parent =>
      match done.getLast? with
      | some (.name _) => done.dropLast
      | _ => done ++ [.parent]
  | c => done ++ [c]

/- Normalize a list of components. -/
def normalizeComponents
    (cs : List Component) : List Component :=
  cs.foldl normalizeStep []

/- Drop `.` and fold `..`, without looking at any file. -/
def normalize
    (p : Path) : Path :=
  ofComponents (normalizeComponents p.components)

/- The normal form of a path seen from a working directory. -/
def absolutize
    (p workingDir : Path) : Path :=
  if p.isAbsolute then
    p.normalize
  else
    (workingDir.join p).normalize

/- A path seen from a working directory, as written. -/
def resolve
    (p workingDir : Path) : Path :=
  if p.isAbsolute then p else workingDir.join p

end Path

end SchemaGraph
