import SchemaGraph.Compile.Watch

/-
  This file follows references.  A reference is split at its
  first `#` into an identifier, which keeps the `#`, and a
  pointer.  The identifier is looked up in the registry,
  with and without its `#`, then as a file next to the
  current document; failing both, the current document is
  meant.  The pointer is then walked from the root of that
  document.

  Key definitions include:
    * `splitReference`
    * `looseIndex?`
    * `walk?`
    * `registryDocument?`
    * `fileDocument?`
    * `referenceDocument?`
    * `followReference`
    * `followWatched`
-/

namespace SchemaGraph

------------------------------------------------------------
-- Texts of References
------------------------------------------------------------

/-
  The identifier of a reference with its `#`, empty when
  there is none, and the pointer after it.
-/
def splitReference
    (reference : String) : String × Option String :=
  let cs := reference.toList
  match cs.dropWhile (· != '#') with
  | [] => ("", none)
  | _ :: rest =>
      (String.ofList (cs.takeWhile (· != '#') ++ ['#']),
        some (String.ofList rest))

/- A text without the `#` at its end. -/
def withoutMark
    (id : String) : String :=
  match id.toList.getLast? with
  | some '#' => String.ofList id.toList.dropLast
  | _ => id

/-
  Read an array index: decimal digits of 64 bits, after an
  optional plus sign.
-/
def looseIndex?
    (segment : String) : Option Nat :=
  let digits :=
    match segment.toList with
    | '+' :: cs => cs
    | cs => cs
  if digits.isEmpty || !digits.all Char.isDigit then
    none
  else
    let n := Nat.ofDigitChars 10 digits 0
    if n ≤ largestCount then some n else none

/-
  Take one step of a reference: the written segment of the
  position reached, and the value there.
-/
def looseStep?
    (value : Json)
    (segment : String) : Option (String × Json) :=
  match value with
  | .object members =>
      (members.lookup segment).map (fun v => (segment, v))
  | .array items => do
      let i ← looseIndex? segment
      let v ← items[i]?
      return (Pointer.indexSegment i, v)
  | _ => none

/- Take the steps of a reference, from a position reached so far. -/
def looseWalk? :
    Pointer → Json → List String → Option Pointer
  | here, _, [] => some here
  | here, value, part :: rest =>
      if part = "" then
        looseWalk? here value rest
      else
        match looseStep? value (Pointer.unescape part) with
        | some (segment, next) =>
            looseWalk? (here.child segment) next rest
        | none => none

/-
  The canonical pointer that a written pointer leads to.
  What stands before the first slash is skipped, and so are
  empty parts.
-/
def walk?
    (root : Json)
    (text : String) : Option Pointer :=
  looseWalk? Pointer.root root ((Pointer.slashParts text).drop 1)

------------------------------------------------------------
-- Documents of References
------------------------------------------------------------

/- Add a document to the store. -/
def storeDocument
    (d : Document) : Compile DocId :=
  modifyGet (fun s =>
    let (id, store) := s.store.insert d
    (id, { s with store := store }))

/- The registered name that an identifier stands for. -/
def registryName?
    (options : Options)
    (id : String) : Option String :=
  [id, withoutMark id].find?
    (fun name => (options.subSchema? name).isSome)

/- The registry document that an identifier stands for. -/
def registryDocument?
    (setting : Setting)
    (id : String) : Compile (Option DocId) := do
  match registryName? setting.options id with
  | none => return none
  | some name =>
      match (← get).store.byRegistryId? name with
      | some doc => return some doc
      | none =>
          match setting.options.subSchema? name with
          | none => return none
          | some root =>
              return some
                (← storeDocument
                  ⟨root, declaredRoot? root, .registry name⟩)

/- What kind of answer a loader gave. -/
def LoadOutcome.of : Except LoadError (Option Json) → LoadOutcome
  | .ok (some _) => .found
  | .ok none => .nothing
  | .error _ => .failed

/- Ask the loader for a path. -/
def askLoader
    (loader : Loader)
    (p : Path) : Compile (Except LoadError (Option Json)) := do
  let answer := loader.load p
  note (.asked p (.of answer))
  return answer

/- The directory that file references of a document start from. -/
def baseDirOf
    (s : State)
    (doc : DocId) : Option Path :=
  (s.store.get? doc).bind Document.baseDir

/-
  The document of a file next to the current document.  A
  file that cannot be loaded counts as missing.
-/
def fileDocument?
    (setting : Setting)
    (name : String) : Compile (Option DocId) := do
  let s ← get
  match s.currentDocument?.bind (baseDirOf s) with
  | none => return none
  | some dir =>
      let p := (dir.join ⟨name⟩).normalize
      match s.store.byPath? p with
      | some doc => return some doc
      | none =>
          match ← askLoader setting.loader p with
          | .ok (some root) =>
              return some
                (← storeDocument ⟨root, p.parent?, .file p⟩)
          | _ => return none

/- The file that a reference names: all of it without a `#`. -/
def fileNameOf
    (id reference : String) : String :=
  let bare := withoutMark id
  if bare = id ∨ bare = "" then reference else bare

/- Look an identifier up in the registry, if there is one. -/
def registryStep
    (setting : Setting)
    (id : String) : Compile (Option DocId) :=
  if id = "" then pure none else registryDocument? setting id

/- Look a file up, unless the reference stays in its document. -/
def fileStep
    (setting : Setting)
    (id reference : String) : Compile (Option DocId) :=
  if id = "#" then
    pure none
  else
    fileDocument? setting (fileNameOf id reference)

/- The document that a reference leads to. -/
def referenceDocument?
    (setting : Setting)
    (id reference : String) : Compile (Option DocId) := do
  match ← registryStep setting id with
  | some doc => return some doc
  | none =>
      match ← fileStep setting id reference with
      | some doc => return some doc
      | none => return (← get).currentDocument?

------------------------------------------------------------
-- Targets of References
------------------------------------------------------------

/- The node of a document that a pointer leads to. -/
def targetIn
    (s : State)
    (doc : DocId)
    (pointer : Option String) : Option NodeKey :=
  match pointer with
  | none => some (NodeKey.root doc)
  | some text =>
      (s.store.get? doc).bind (fun d =>
        (walk? d.root text).map (fun p => ⟨doc, p⟩))

/- The node that a reference in the current document leads to. -/
def followReference
    (setting : Setting)
    (reference : String) : Compile NodeKey := do
  let (id, pointer) := splitReference reference
  let scope := (← get).currentDocument?
  let doc ← referenceDocument? setting id reference
  let s ← get
  let target := doc.bind (fun doc => targetIn s doc pointer)
  note (.followed scope reference target)
  match target with
  | some key => return key
  | none => throw (.referenceNotFound reference)

/- Follow the reference that is written at a place. -/
def followWatched
    (setting : Setting)
    (watch : Watch)
    (place : NodeKey)
    (reference : String) : Compile NodeKey := do
  look watch (.linked place reference)
  followReference setting reference

end SchemaGraph
