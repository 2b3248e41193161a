import Mathlib
import SchemaGraph.Settings.Basic
import SchemaGraph.Proofs.Loader.Walks

/-
  Registering the schema documents below a directory.  Every
  file is registered under its path inside the directory and
  under the identifier that it declares, in the order of the
  walk.  What is registered later takes the place of what was
  registered before under the same name.  So a path finds the
  document of its file, unless a later file declares the path
  as its identifier: then it finds the last one of these.

  Main declarations:
    * `SchemaFile`
    * `SchemaFile.Below`
    * `Options.exists_withEntries`
    * `Directory.exists_documents`
    * `SchemaFile.exists_last`
    * `Settings.toOptions_registers`
-/

namespace SchemaGraph

/- What names lead to from a directory. -/
def Workspace.fileBelow?
    (workspace : Workspace)
    (directory : Path)
    (names : List String) : Option ByteArray :=
  (workspace.files.locate? workspace.directory directory).bind
    (fun base => workspace.files.bytesAt? (base ++ names))

/- The document that bytes hold, if they hold one. -/
def Json.ofBytes?
    (bytes : ByteArray) : Option Json :=
  (String.fromUTF8? bytes).bind Json.readDocument?

------------------------------------------------------------
-- Schema Files
------------------------------------------------------------

/- A file with the names that lead to it, and the object it holds. -/
structure SchemaFile where
  names : List String
  members : List (String × Json)

namespace SchemaFile

/- The path inside the directory, with slashes between the names. -/
def name
    (file : SchemaFile) : String :=
  String.intercalate "/" file.names

/- The identifier that the file declares. -/
def id?
    (file : SchemaFile) : Option String :=
  (file.members.lookup "$id").bind Json.text?

/- The document of the file, rooted in the file's directory. -/
def document
    (file : SchemaFile)
    (directory : Path) : Json :=
  Directory.withRoot (directory.below file.names)
    (.object file.members)

/- The file is below a directory and has a wanted extension. -/
structure Below
    (file : SchemaFile)
    (workspace : Workspace)
    (directory : Path)
    (extensions : List String) : Prop where
  wanted :
    Directory.isWanted extensions (directory.below file.names) = true
  holds :
    (workspace.fileBelow? directory file.names).bind Json.ofBytes? =
      some (.object file.members)

/- The file is registered under an identifier. -/
def Named
    (file : SchemaFile)
    (id : String) : Prop :=
  file.name = id ∨ file.id? = some id

instance
    (file : SchemaFile)
    (id : String) :
    Decidable (file.Named id) := by
  unfold Named
  infer_instance

/- What the file is registered with. -/
def entries
    (file : SchemaFile)
    (directory : Path) : List (String × Json) :=
  (file.id?.toList ++ [file.name]).map
    (fun name => (name, file.document directory))

end SchemaFile

section Preloading

variable {workspace : Workspace}
variable {directory : Path}
variable {extensions : List String}
variable {file : SchemaFile}

/- A document with a root is an object. -/
theorem isObject_withRoot
    (p : Path)
    (members : List (String × Json)) :
    (Directory.withRoot p (.object members)).isObject = true := by
  unfold Directory.withRoot
  dsimp only
  split <;> rfl

/- The root changes no other member. -/
theorem member?_withRoot
    {name : String}
    (p : Path)
    (members : List (String × Json))
    (hName : name ≠ "jsonRoot") :
    (Directory.withRoot p (.object members)).member? name =
      members.lookup name := by
  unfold Directory.withRoot
  dsimp only
  split
  case h_1 =>
    exact (Members.lookup_insertNew _ _ _ _).trans (if_neg hName)
  case h_2 => rfl

/- A list of names that share a document finds it for each name. -/
theorem lookup_shared
    (names : List String)
    (schema : Json)
    (id : String) :
    (names.map (fun name => (name, schema))).lookup id =
      if id ∈ names then some schema else none := by
  induction names with
  | nil => rfl
  | cons name rest ih =>
      rw [List.map_cons, lookup_cons_eq_ite, ih]
      by_cases hSame : id = name <;> simp [hSame]

/- A file is found under the identifiers that it is named by. -/
theorem SchemaFile.lookup_entries
    (directory : Path)
    (file : SchemaFile)
    (id : String) :
    (file.entries directory).reverse.lookup id =
      if file.Named id then some (file.document directory) else none := by
  have hNamed :
      id ∈ (file.id?.toList ++ [file.name]).reverse ↔ file.Named id := by
    rw [List.mem_reverse, List.mem_append, Option.mem_toList,
      List.mem_singleton, Named, or_comm, eq_comm]
  rw [entries, ← List.map_reverse, lookup_shared]
  simp only [hNamed]

------------------------------------------------------------
-- Registering Entries
------------------------------------------------------------

/- What is registered last under an identifier is found. -/
theorem Options.exists_withEntries
    (options : Options)
    {entries : List (String × Json)}
    (hObjects : ∀ e ∈ entries, e.2.isObject = true) :
    ∃ registered,
      options.withEntries entries = .ok registered ∧
        ∀ id,
          registered.subSchema? id =
            (entries.reverse.lookup id).or (options.subSchema? id) := by
  induction entries generalizing options with
  | nil => exact ⟨options, rfl, fun _ => rfl⟩
  | cons e rest ih =>
      rcases e with ⟨name, schema⟩
      have hObject : schema.isObject = true :=
        hObjects _ List.mem_cons_self
      let next : Options :=
        { options with
          subSchemas := Members.insert name schema options.subSchemas }
      have hNext : options.withSubSchema name schema = .ok next :=
        if_pos hObject
      rcases ih next
        (fun e hMem => hObjects e (List.mem_cons_of_mem _ hMem)) with
        ⟨registered, hRest, hFound⟩
      refine ⟨registered, ?_, fun id => ?_⟩
      · rw [withEntries, List.foldlM_cons, hNext]
        exact hRest
      · rw [hFound, List.reverse_cons, List.lookup_append,
          Option.or_assoc]
        congr 1
        rw [subSchema?, Members.lookup_insert, lookup_cons_eq_ite]
        by_cases hSame : id = name
        · rw [if_pos hSame, if_pos hSame]
          rfl
        · rw [if_neg hSame, if_neg hSame]
          rfl

------------------------------------------------------------
-- Documents below a Directory
------------------------------------------------------------

/- The schema file that names lead to, if there is one. -/
def Directory.schemaFile?
    (workspace : Workspace)
    (directory : Path)
    (extensions : List String)
    (names : List String) : Option SchemaFile :=
  if Directory.isWanted extensions (directory.below names) then
    match (workspace.fileBelow? directory names).bind Json.ofBytes? with
    | some (.object members) => some ⟨names, members⟩
    | _ => none
  else
    none

/- Schema files are found under their names. -/
theorem Directory.schemaFile?_eq_some_iff
    {names : List String} :
    Directory.schemaFile? workspace directory extensions names =
        some file ↔
      file.names = names ∧
        file.Below workspace directory extensions := by
  unfold Directory.schemaFile?
  constructor
  · intro hFile
    split at hFile
    case isTrue hWanted =>
      split at hFile
      case h_1 members hHolds =>
        cases hFile
        exact ⟨rfl, hWanted, hHolds⟩
      case h_2 => cases hFile
    case isFalse => cases hFile
  · rintro ⟨rfl, hWanted, hHolds⟩
    rw [if_pos hWanted, hHolds]

/- Every file below a directory with a wanted extension holds an object. -/
def Directory.HoldsObjects
    (workspace : Workspace)
    (directory : Path)
    (extensions : List String) : Prop :=
  ∀ names bytes,
    Directory.isWanted extensions (directory.below names) = true →
      workspace.fileBelow? directory names = some bytes →
        ∃ members, Json.ofBytes? bytes = some (.object members)

/- Leading components that are there are stripped. -/
theorem stripLeading?_append
    (lead rest : List Path.Component) :
    Path.stripLeading? lead (lead ++ rest) = some rest := by
  induction lead with
  | nil => rfl
  | cons c lead ih => exact (if_pos rfl).trans ih

/- Names with slashes between them are the path inside a directory. -/
theorem Directory.relativeName_below
    (directory : Path)
    {names : List String}
    (hNames : ∀ name ∈ names, Path.IsEntryName name) :
    Directory.relativeName directory (directory.below names) =
      String.intercalate "/" names := by
  unfold Directory.relativeName
  rw [Path.components_below directory hNames, stripLeading?_append]
  exact congrArg (String.intercalate "/")
    ((List.map_map).trans (List.map_id _))

/- The names below a directory are those of entries. -/
theorem isEntryName_of_fileBelow?
    {names : List String}
    {bytes : ByteArray}
    (hTree : workspace.files.WellFormed)
    (hFile : workspace.fileBelow? directory names = some bytes) :
    ∀ name ∈ names, Path.IsEntryName name := by
  rcases Option.bind_eq_some_iff.mp hFile with ⟨base, _, hBytes⟩
  intro name hMem
  exact hTree.named (base ++ names)
    (FileTree.mem_places_of_isSome (Option.isSome_of_eq_some hBytes))
    name (List.mem_append_right base hMem)

/- What a schema file is registered with. -/
theorem Directory.names_withRoot
    {names : List String}
    (hNames : ∀ name ∈ names, Path.IsEntryName name)
    (members : List (String × Json)) :
    (Directory.names directory (directory.below names)
        (Directory.withRoot (directory.below names)
          (.object members))).map
        (fun n =>
          (n, Directory.withRoot (directory.below names)
            (.object members))) =
      (SchemaFile.mk names members).entries directory := by
  unfold Directory.names
  rw [Directory.relativeName_below directory hNames,
    member?_withRoot _ _ (by decide)]
  rfl

/- What one file is registered with, if it is wanted. -/
theorem Directory.entriesOf_eq
    {base : Location}
    (hTree : workspace.files.WellFormed)
    (hObjects :
      Directory.HoldsObjects workspace directory extensions)
    (hBase :
      workspace.files.locate? workspace.directory directory = some base)
    (names : List String) :
    Directory.entriesOf workspace directory extensions
        (directory.below names, base ++ names) =
      .ok
        ((Directory.schemaFile? workspace directory extensions
            names).toList.flatMap
          (fun file => file.entries directory)) := by
  have hFile :
      workspace.fileBelow? directory names =
        workspace.files.bytesAt? (base ++ names) := by
    rw [Workspace.fileBelow?, hBase]
    rfl
  unfold Directory.entriesOf Directory.schemaFile?
  dsimp only
  rw [hFile]
  cases hWanted :
      Directory.isWanted extensions (directory.below names) with
  | false => rfl
  | true =>
      rw [if_pos rfl]
      cases hBytes : workspace.files.bytesAt? (base ++ names) with
      | none => rfl
      | some bytes =>
          rw [hBytes] at hFile
          rcases hObjects names bytes hWanted hFile with
            ⟨members, hHolds⟩
          rcases Option.bind_eq_some_iff.mp hHolds with
            ⟨text, hText, hValue⟩
          have hRead :
              Directory.readFile (directory.below names) bytes =
                .ok (Directory.withRoot (directory.below names)
                  (.object members)) := by
            simp only [Directory.readFile, hText, hValue]
          have hNames := isEntryName_of_fileBelow? hTree hFile
          rw [Option.bind_some, hHolds]
          dsimp only
          rw [hRead]
          exact congrArg Except.ok
            ((Directory.names_withRoot hNames members).trans
              (List.append_nil _).symm)

/- Programs that succeed for each item succeed for all of them. -/
theorem mapM_eq_ok
    {α β ε : Type}
    {f : α → Except ε β}
    {g : α → β}
    {xs : List α}
    (hEach : ∀ x ∈ xs, f x = .ok (g x)) :
    xs.mapM f = .ok (xs.map g) := by
  induction xs with
  | nil => rfl
  | cons x rest ih =>
      rw [List.mapM_cons, hEach x List.mem_cons_self,
        ih (fun y hMem => hEach y (List.mem_cons_of_mem x hMem))]
      rfl

/-
  The documents below a directory are those of its schema
  files, in the order of their names.
-/
theorem Directory.exists_documents
    (hTree : workspace.files.WellFormed)
    (hObjects :
      Directory.HoldsObjects workspace directory extensions) :
    ∃ files : List SchemaFile,
      Directory.documents workspace directory extensions =
          .ok (files.flatMap (fun file => file.entries directory)) ∧
        files.Pairwise (fun a b => a.names < b.names) ∧
        ∀ file,
          file ∈ files ↔ file.Below workspace directory extensions := by
  cases hBase :
      workspace.files.locate? workspace.directory directory with
  | none =>
      refine ⟨[], ?_, List.Pairwise.nil, ?_⟩
      · simp only [Directory.documents, FileTree.walk, hBase]
        rfl
      · intro file
        refine iff_of_false List.not_mem_nil (fun hBelow => ?_)
        have hHolds := hBelow.holds
        rw [Workspace.fileBelow?, hBase] at hHolds
        cases hHolds
  | some base =>
      rcases FileTree.exists_walk hTree hBase with
        ⟨lists, hWalk, hSorted, hLists⟩
      let file? :=
        Directory.schemaFile? workspace directory extensions
      refine ⟨lists.filterMap file?, ?_, ?_, ?_⟩
      · have hEach :
            lists.mapM
                (Directory.entriesOf workspace directory extensions ∘
                  fun names => (directory.below names, base ++ names)) =
              .ok
                (lists.map (fun names =>
                  (file? names).toList.flatMap
                    (fun file => file.entries directory))) :=
          mapM_eq_ok (fun names _ =>
            Directory.entriesOf_eq hTree hObjects hBase names)
        unfold Directory.documents
        rw [hWalk, List.mapM_map, hEach, List.filterMap_eq_flatMap_toList,
          List.flatMap_assoc]
        rfl
      · refine List.pairwise_filterMap.mpr (hSorted.imp ?_)
        intro names others hLess a hFirst b hSecond
        rw [(Directory.schemaFile?_eq_some_iff.mp hFirst).1,
          (Directory.schemaFile?_eq_some_iff.mp hSecond).1]
        exact hLess
      · intro file
        rw [List.mem_filterMap]
        constructor
        · rintro ⟨names, _, hFile⟩
          exact (Directory.schemaFile?_eq_some_iff.mp hFile).2
        · intro hBelow
          refine ⟨file.names, (hLists _).mpr ?_,
            Directory.schemaFile?_eq_some_iff.mpr ⟨rfl, hBelow⟩⟩
          rcases Option.bind_eq_some_iff.mp hBelow.holds with
            ⟨bytes, hBytes, _⟩
          rw [Workspace.fileBelow?, hBase] at hBytes
          exact Option.isSome_of_eq_some hBytes

------------------------------------------------------------
-- The Last File of a Name
------------------------------------------------------------

/- The last file that is named by an identifier is found under it. -/
theorem SchemaFile.lookup_last
    {before after : List SchemaFile}
    {id : String}
    (directory : Path)
    (hNamed : file.Named id)
    (hAfter : ∀ other ∈ after, ¬ other.Named id) :
    ((before ++ file :: after).flatMap
        (fun f => f.entries directory)).reverse.lookup id =
      some (file.document directory) := by
  have hNone :
      ∀ files : List SchemaFile,
        (∀ other ∈ files, ¬ other.Named id) →
          (files.flatMap
            (fun f => f.entries directory)).reverse.lookup id =
            none := by
    intro files hFiles
    induction files with
    | nil => rfl
    | cons first rest ih =>
        rw [List.flatMap_cons, List.reverse_append, List.lookup_append,
          ih (fun f hMem => hFiles f (List.mem_cons_of_mem _ hMem)),
          SchemaFile.lookup_entries,
          if_neg (hFiles first List.mem_cons_self)]
        rfl
  rw [List.flatMap_append, List.flatMap_cons, List.reverse_append,
    List.reverse_append, List.lookup_append, List.lookup_append,
    hNone after hAfter, SchemaFile.lookup_entries, if_pos hNamed]
  rfl

/- Among files of which one is named by an identifier, one is the last. -/
theorem SchemaFile.exists_last
    {files : List SchemaFile}
    {id : String}
    (hMem : file ∈ files)
    (hNamed : file.Named id) :
    ∃ before last after,
      files = before ++ last :: after ∧ last.Named id ∧
        ∀ other ∈ after, ¬ other.Named id := by
  induction files using List.reverseRecOn with
  | nil => cases hMem
  | append_singleton files next ih =>
      by_cases hNext : next.Named id
      · exact ⟨files, next, [], rfl, hNext, nofun⟩
      · have hEarlier : file ∈ files := by
          rcases List.mem_append.mp hMem with hThere | hLast
          · exact hThere
          · rw [List.mem_singleton.mp hLast] at hNamed
            exact absurd hNamed hNext
        rcases ih hEarlier with
          ⟨before, last, after, rfl, hLast, hAfter⟩
        refine ⟨before, last, after ++ [next], by simp, hLast, ?_⟩
        intro other hOther
        rcases List.mem_append.mp hOther with hThere | hIs
        · exact hAfter other hThere
        · rw [List.mem_singleton.mp hIs]
          exact hNext

/- A schema file is known from its path inside the directory. -/
theorem SchemaFile.Below.eq_of_name_eq
    {other : SchemaFile}
    (hTree : workspace.files.WellFormed)
    (hBelow : file.Below workspace directory extensions)
    (hOther : other.Below workspace directory extensions)
    (hName : file.name = other.name) :
    file = other := by
  have hPlain :
      ∀ f : SchemaFile, f.Below workspace directory extensions →
        ∀ name ∈ f.names, Path.IsEntryName name := by
    intro f hF
    rcases Option.bind_eq_some_iff.mp hF.holds with ⟨bytes, hBytes, _⟩
    exact isEntryName_of_fileBelow? hTree hBytes
  have hNames : file.names = other.names :=
    Path.eq_of_intercalate_eq (hPlain file hBelow)
      (hPlain other hOther) hName
  have hHolds := hBelow.holds
  rw [hNames, hOther.holds, Option.some.injEq, Json.object.injEq]
    at hHolds
  cases file
  cases other
  simp_all

/- The root of a document is the directory that its file lies in. -/
theorem SchemaFile.exists_document
    (hTree : workspace.files.WellFormed)
    (hDirectory :
      workspace.files.isFile workspace.directory directory = false)
    (hBelow : file.Below workspace directory extensions) :
    ∃ root : Path,
      root.Same (directory.below file.names.dropLast) ∧
        file.document directory =
          .object
            (Members.insertNew "jsonRoot" (.string root.text)
              file.members) := by
  rcases Option.bind_eq_some_iff.mp hBelow.holds with
    ⟨bytes, hFile, _⟩
  have hNames := isEntryName_of_fileBelow? hTree hFile
  have hSome : file.names ≠ [] := by
    intro hNone
    rcases Option.bind_eq_some_iff.mp hFile with ⟨base, hBase, hBytes⟩
    rw [hNone, List.append_nil] at hBytes
    simp [FileTree.isFile, hBase, hBytes] at hDirectory
  rcases Path.exists_parent?_below directory hSome hNames with
    ⟨root, hParent, hSame⟩
  refine ⟨root, hSame, ?_⟩
  unfold SchemaFile.document Directory.withRoot
  rw [hParent]

/- Settings with one directory register what is below it. -/
theorem Settings.toOptions_eq
    {settings : Settings}
    {given : Path}
    (hGiven : settings.registryDirs = [given]) :
    settings.toOptions workspace =
      (do
        Options.withEntries
          { baseDir := settings.baseDirIn workspace.directory }
          (← Directory.documents workspace
            (given.resolve workspace.directory)
            settings.extensions)) := by
  unfold Settings.toOptions Settings.registryDirsIn
  rw [hGiven, List.map_singleton, List.foldlM_cons]
  exact bind_pure _

end Preloading

------------------------------------------------------------
-- Registered Files
------------------------------------------------------------

/-
  Settings with one directory, below which every file with a
  wanted extension holds an object, give options.  They find
  under the path of a file the document of the last file, in
  the order of the walk, that is the file itself or declares
  the path as its identifier; so it is the file's own one if
  no later file declares the path.  A document keeps the
  members of its file, and gets the file's directory as its
  root if it names none.
-/
theorem Settings.toOptions_registers
    {settings : Settings}
    {workspace : Workspace}
    {given directory : Path}
    (hTree : workspace.files.WellFormed)
    (hGiven : settings.registryDirs = [given])
    (hResolved : given.resolve workspace.directory = directory)
    (hDirectory :
      workspace.files.isFile workspace.directory directory = false)
    (hObjects :
      Directory.HoldsObjects workspace directory
        settings.extensions) :
    ∃ options,
      settings.toOptions workspace = .ok options ∧
        ∀ file : SchemaFile,
          file.Below workspace directory settings.extensions →
            (∃ root : Path,
              root.Same (directory.below file.names.dropLast) ∧
                file.document directory =
                  .object
                    (Members.insertNew "jsonRoot" (.string root.text)
                      file.members)) ∧
            (∃ last : SchemaFile,
              last.Below workspace directory settings.extensions ∧
                options.subSchema? file.name =
                  some (last.document directory) ∧
                (last = file ∨
                  file.names < last.names ∧
                    last.id? = some file.name) ∧
                ∀ other : SchemaFile,
                  other.Below workspace directory
                      settings.extensions →
                    other.id? = some file.name →
                      other.names ≤ last.names) ∧
            ((∀ other : SchemaFile,
                other.Below workspace directory settings.extensions →
                  file.names < other.names →
                    other.id? ≠ some file.name) →
              options.subSchema? file.name =
                some (file.document directory)) := by
  rcases Directory.exists_documents hTree hObjects with
    ⟨files, hDocuments, hSorted, hFiles⟩
  have hEntries :
      ∀ e ∈ files.flatMap (fun file => file.entries directory),
        e.2.isObject = true := by
    intro e hMem
    rcases List.mem_flatMap.mp hMem with ⟨file, _, hEntry⟩
    rcases List.mem_map.mp hEntry with ⟨name, _, rfl⟩
    exact isObject_withRoot _ _
  rcases Options.exists_withEntries
    { baseDir := settings.baseDirIn workspace.directory } hEntries with
    ⟨options, hRegistered, hFound⟩
  have hOptions : settings.toOptions workspace = .ok options := by
    rw [Settings.toOptions_eq hGiven, hResolved, hDocuments]
    exact hRegistered
  refine ⟨options, hOptions, fun file hBelow => ?_⟩
  have hLast :
      ∃ last : SchemaFile,
        last.Below workspace directory settings.extensions ∧
          options.subSchema? file.name =
            some (last.document directory) ∧
          (last = file ∨
            file.names < last.names ∧ last.id? = some file.name) ∧
          ∀ other : SchemaFile,
            other.Below workspace directory settings.extensions →
              other.id? = some file.name →
                other.names ≤ last.names := by
    rcases SchemaFile.exists_last ((hFiles file).mpr hBelow)
      (Or.inl rfl) with ⟨before, last, after, hAll, hNamed, hAfter⟩
    have hBelowLast :
        last.Below workspace directory settings.extensions :=
      (hFiles last).mp (by rw [hAll]; simp)
    -- What is named by the path is the last file or before it.
    have hEarlier :
        ∀ other : SchemaFile,
          other.Below workspace directory settings.extensions →
            other.Named file.name →
              other = last ∨ other.names < last.names := by
      intro other hOther hIs
      have hMem := (hFiles other).mpr hOther
      rw [hAll] at hMem hSorted
      rcases List.mem_append.mp hMem with hBefore | hRest
      · exact Or.inr
          ((List.pairwise_append.mp hSorted).2.2 other hBefore last
            List.mem_cons_self)
      · rcases List.mem_cons.mp hRest with hSame | hLater
        · exact Or.inl hSame
        · exact absurd hIs (hAfter other hLater)
    refine ⟨last, hBelowLast, ?_, ?_, ?_⟩
    · rw [hFound, hAll,
        SchemaFile.lookup_last directory hNamed hAfter]
      rfl
    · rcases hNamed with hName | hId
      · exact Or.inl (hBelowLast.eq_of_name_eq hTree hBelow hName)
      · rcases hEarlier file hBelow (Or.inl rfl) with hSame | hLess
        · exact Or.inl hSame.symm
        · exact Or.inr ⟨hLess, hId⟩
    · intro other hOther hId
      rcases hEarlier other hOther (Or.inr hId) with hSame | hLess
      · rw [hSame]
      · exact le_of_lt hLess
  refine ⟨SchemaFile.exists_document hTree hDirectory hBelow, hLast,
    fun hNone => ?_⟩
  rcases hLast with ⟨last, hBelowLast, hIs, hSame | hLater, _⟩
  · rw [hIs, hSame]
  · exact absurd hLater.2 (hNone last hBelowLast hLater.1)

namespace SharedSchemas

/- A text. -/
def texts : ByteArray :=
  "\x7b\"type\":\"string\"\x7d".toUTF8

/- An integer, with the path of another file as its identifier. -/
def integers : ByteArray :=
  "\x7b\"$id\":\"a.json\",\"type\":\"integer\"\x7d".toUTF8

/- Three files, one of them in a directory of its own. -/
def workspace : Workspace where
  directory := ⟨"/w"⟩
  files :=
    ⟨[(["w", "shared", "a.json"], texts),
        (["w", "shared", "b.json"], integers),
        (["w", "shared", "geo", "zip.json"], texts)], []⟩

/- The directory with the files. -/
def directory : Path :=
  ⟨"/w/shared"⟩

/- The tree is one of files and directories. -/
theorem wellFormed : workspace.files.WellFormed where
  named := by decide
  closed := by
    have hPlaces :
        ∀ place ∈ workspace.files.places,
          ∀ other ∈ workspace.files.places,
            place <+: other → other = place := by
      decide
    exact fun place hFile =>
      hPlaces place (FileTree.mem_places_of_isSome hFile)

/- The files below the directory. -/
theorem mem_of_fileBelow?
    {names : List String}
    {bytes : ByteArray}
    (hFile : workspace.fileBelow? directory names = some bytes) :
    (names, bytes) ∈
      [(["a.json"], texts), (["b.json"], integers),
        (["geo", "zip.json"], texts)] := by
  have hBase :
      workspace.files.locate? workspace.directory directory =
        some ["w", "shared"] := by
    decide
  rw [Workspace.fileBelow?, hBase] at hFile
  rcases List.lookup_eq_some_iff.mp hFile with
    ⟨before, after, hFiles, _⟩
  have hMem :
      (["w", "shared"] ++ names, bytes) ∈ workspace.files.files := by
    rw [hFiles]
    simp
  simpa [workspace] using hMem

/- What the bytes of a file hold, as far as it matters. -/
def Reads
    (bytes : ByteArray)
    (id? : Option String)
    (type : String) : Prop :=
  ∃ members,
    Json.ofBytes? bytes = some (.object members) ∧
      (members.lookup "$id").bind Json.text? = id? ∧
      (members.lookup "type").bind Json.text? = some type

/- An object that is read from bytes. -/
theorem Reads.of_eq
    {bytes : ByteArray}
    {id? : Option String}
    {type : String}
    (hRead :
      (Json.ofBytes? bytes).map (fun value =>
          (value.isObject, (value.member? "$id").bind Json.text?,
            (value.member? "type").bind Json.text?)) =
        some (true, id?, some type)) :
    Reads bytes id? type := by
  rcases Option.map_eq_some_iff.mp hRead with ⟨value, hValue, hIs⟩
  simp only [Prod.mk.injEq] at hIs
  cases value with
  | object members => exact ⟨members, hValue, hIs.2⟩
  | _ => cases hIs.1

/- The texts declare nothing. -/
theorem reads_texts : Reads texts none "string" :=
  .of_eq (by decide +kernel)

/- The integers declare the path of the texts. -/
theorem reads_integers : Reads integers (some "a.json") "integer" :=
  .of_eq (by decide +kernel)

/- The names, the identifier and the type of every file. -/
def declared : List (List String × Option String × String) :=
  [(["a.json"], none, "string"),
    (["b.json"], some "a.json", "integer"),
    (["geo", "zip.json"], none, "string")]

/- What every file holds. -/
theorem reads_of_fileBelow?
    {names : List String}
    {bytes : ByteArray}
    (hFile : workspace.fileBelow? directory names = some bytes) :
    ∃ id? type,
      (names, id?, type) ∈ declared ∧
        Reads bytes id? type := by
  have hMem := mem_of_fileBelow? hFile
  simp only [List.mem_cons, Prod.mk.injEq, List.not_mem_nil,
    or_false] at hMem
  rcases hMem with ⟨rfl, rfl⟩ | ⟨rfl, rfl⟩ | ⟨rfl, rfl⟩
  · exact ⟨_, _, by simp [declared], reads_texts⟩
  · exact ⟨_, _, by simp [declared], reads_integers⟩
  · exact ⟨_, _, by simp [declared], reads_texts⟩

/- Every file holds an object. -/
theorem holdsObjects :
    Directory.HoldsObjects workspace directory ["json"] := by
  intro names bytes _ hFile
  rcases reads_of_fileBelow? hFile with ⟨_, _, _, members, hHolds, _⟩
  exact ⟨members, hHolds⟩

/- What every schema file declares. -/
theorem declares_of_below
    {file : SchemaFile}
    (hBelow : file.Below workspace directory ["json"]) :
    ∃ type,
      (file.names, file.id?, type) ∈ declared ∧
        (file.members.lookup "type").bind Json.text? = some type := by
  rcases Option.bind_eq_some_iff.mp hBelow.holds with
    ⟨bytes, hFile, hHolds⟩
  rcases reads_of_fileBelow? hFile with
    ⟨_, type, hMem, members, hRead, rfl, hType⟩
  rw [hHolds, Option.some.injEq, Json.object.injEq] at hRead
  subst hRead
  exact ⟨type, hMem, hType⟩

/- There is a schema file for every file of the directory. -/
theorem exists_below
    (names : List String)
    (hNames : names ∈ declared.map (·.1)) :
    ∃ file : SchemaFile,
      file.Below workspace directory ["json"] ∧ file.names = names := by
  have hWanted :
      ∀ names ∈ declared.map (·.1),
        Directory.isWanted ["json"] (directory.below names) = true ∧
          (workspace.fileBelow? directory names).isSome := by
    decide
  rcases hWanted names hNames with ⟨hWanted, hFile⟩
  rcases Option.isSome_iff_exists.mp hFile with ⟨bytes, hBytes⟩
  rcases holdsObjects names bytes hWanted hBytes with
    ⟨members, hHolds⟩
  refine ⟨⟨names, members⟩, ⟨hWanted, ?_⟩, rfl⟩
  rw [hBytes]
  exact hHolds

/- The type of the document of a schema file. -/
theorem type_document
    {file : SchemaFile}
    (hBelow : file.Below workspace directory ["json"]) :
    ∃ type,
      (file.names, file.id?, type) ∈ declared ∧
        ((file.document directory).member? "type").bind Json.text? =
          some type := by
  rcases declares_of_below hBelow with ⟨type, hMem, hType⟩
  refine ⟨type, hMem, ?_⟩
  rw [← hType]
  exact congrArg (Option.bind · Json.text?)
    (member?_withRoot _ _ (by decide))

end SharedSchemas

/-
  The file in the directory of its own is found under its
  path; another one is lost, because a later file declares
  its path.
-/
theorem Settings.toOptions_registers_sharedSchemas :
    ∃ options,
      Settings.toOptions { registryDirs := [⟨"shared"⟩] }
          SharedSchemas.workspace =
        .ok options ∧
      ((options.subSchema? "geo/zip.json").bind
          (fun value => value.member? "type")).bind Json.text? =
        some "string" ∧
      ((options.subSchema? "a.json").bind
          (fun value => value.member? "type")).bind Json.text? =
        some "integer" := by
  have hDirectory :
      SharedSchemas.workspace.files.isFile ⟨"/w"⟩
        SharedSchemas.directory = false := by
    decide
  rcases @Settings.toOptions_registers
    { registryDirs := [⟨"shared"⟩] } SharedSchemas.workspace ⟨"shared"⟩
    SharedSchemas.directory SharedSchemas.wellFormed rfl (by decide)
    hDirectory SharedSchemas.holdsObjects with
    ⟨options, hOptions, hRegistered⟩
  refine ⟨options, hOptions, ?_, ?_⟩
  · -- No file is later, and so none that declares the path.
    rcases SharedSchemas.exists_below ["geo", "zip.json"] (by decide)
      with ⟨file, hBelow, hNames⟩
    have hName : file.name = "geo/zip.json" := by
      rw [SchemaFile.name, hNames]
      decide
    have hLast :
        ∀ e ∈ SharedSchemas.declared,
          ¬ ["geo", "zip.json"] < e.1 := by
      decide
    have hOwn := (hRegistered file hBelow).2.2 (by
      intro other hOther hLater
      rcases SharedSchemas.type_document hOther with ⟨_, hMem, _⟩
      rw [hNames] at hLater
      exact absurd hLater (hLast _ hMem))
    have hString :
        ∀ e ∈ SharedSchemas.declared,
          e.1 = ["geo", "zip.json"] → e.2.2 = "string" := by
      decide
    rcases SharedSchemas.type_document hBelow with ⟨_, hMem, hType⟩
    rw [← hName, hOwn, Option.bind_some, hType]
    exact congrArg some (hString _ hMem hNames)
  · -- The file that declares the path is later.
    rcases SharedSchemas.exists_below ["a.json"] (by decide) with
      ⟨file, hBelow, hNames⟩
    rcases SharedSchemas.exists_below ["b.json"] (by decide) with
      ⟨other, hOther, hOtherNames⟩
    have hName : file.name = "a.json" := by
      rw [SchemaFile.name, hNames]
      decide
    rcases (hRegistered file hBelow).2.1 with
      ⟨last, hBelowLast, hFound, hIs, hAll⟩
    have hDeclares :
        ∀ e ∈ SharedSchemas.declared,
          e.1 = ["b.json"] → e.2.1 = some "a.json" := by
      decide
    have hInteger :
        ∀ e ∈ SharedSchemas.declared,
          ["b.json"] ≤ e.1 →
            e.1 = ["a.json"] ∨ e.2.1 = some "a.json" →
              e.2.2 = "integer" := by
      decide
    rcases SharedSchemas.type_document hOther with ⟨_, hMemOther, _⟩
    rcases SharedSchemas.type_document hBelowLast with
      ⟨_, hMem, hType⟩
    have hLater := hAll other hOther
      ((hDeclares _ hMemOther hOtherNames).trans
        (congrArg some hName.symm))
    rw [hOtherNames] at hLater
    rw [← hName, hFound, Option.bind_some, hType]
    refine congrArg some (hInteger _ hMem hLater ?_)
    rcases hIs with rfl | ⟨_, hId⟩
    · exact Or.inl hNames
    · exact Or.inr (hName ▸ hId)

end SchemaGraph
