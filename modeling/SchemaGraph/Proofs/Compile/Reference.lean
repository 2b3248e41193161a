import Mathlib
import SchemaGraph.Proofs.Document.Nodes
import SchemaGraph.Proofs.Path.Normal

/-
  Where references lead.  Once the document of a reference
  is stored, or it is known that the loader has none, the
  target is determined by the store; following the reference
  again changes nothing.

  Main declarations:
    * `knownDocument?`
    * `Leads`
    * `Located`
    * `exists_located`
    * `followReference_run`
    * `Leads.mono`
    * `Leads.eq_of_followReference`
-/

namespace SchemaGraph

------------------------------------------------------------
-- Runs of Combined Steps
------------------------------------------------------------

/- A step that succeeds hands its result to the next one. -/
theorem bind_of_ok
    {α β : Type}
    {first : Compile α}
    {next : α → Compile β}
    {s t : State}
    {a : α}
    (hFirst : first s = .ok a t) :
    (first >>= next) s = next a t := by
  change EStateM.bind first next s = _
  simp only [EStateM.bind, hFirst]

/- A step that fails ends the run. -/
theorem bind_of_error
    {α β : Type}
    {first : Compile α}
    {next : α → Compile β}
    {s t : State}
    {e : CompileError}
    (hFirst : first s = .error e t) :
    (first >>= next) s = .error e t := by
  change EStateM.bind first next s = _
  simp only [EStateM.bind, hFirst]

/- Reading the state hands it to the next step. -/
theorem get_bind
    {β : Type}
    (next : State → Compile β)
    (s : State) :
    ((get : Compile State) >>= next) s = next s s := rfl

------------------------------------------------------------
-- Known Documents
------------------------------------------------------------

/- The registered name that an identifier stands for. -/
def registeredName?
    (options : Options)
    (id : String) : Option String :=
  if id = "" then none else registryName? options id

/- The path at which the document of a reference is looked for. -/
def filePath?
    (store : Store)
    (doc : DocId)
    (id reference : String) : Option Path :=
  if id = "#" then
    none
  else
    ((store.get? doc).bind Document.baseDir).map
      (fun dir =>
        (dir.join ⟨fileNameOf id reference⟩).normalize)

/- A reference in a stored document may be looked for at the path. -/
def Store.Seeks
    (store : Store)
    (p : Path) : Prop :=
  ∃ doc reference,
    filePath? store doc (splitReference reference).1 reference =
      some p

/- The loader serves no document at a path. -/
def Loader.Lacks
    (loader : Loader)
    (p : Path) : Prop :=
  ∀ root, loader.load p ≠ .ok (some root)

/-
  The document that a reference in a document leads to; none
  while that document is not stored yet.
-/
def knownDocument?
    (setting : Setting)
    (store : Store)
    (doc : DocId)
    (reference : String) : Option DocId :=
  let id := (splitReference reference).1
  match registeredName? setting.options id with
  | some name => store.byRegistryId? name
  | none =>
      match filePath? store doc id reference with
      | none => some doc
      | some p =>
          match store.byPath? p with
          | some file => some file
          | none =>
              match setting.loader.load p with
              | .ok (some _) => none
              | _ => some doc

/-
  A reference in a document leads to a node, and nothing has
  to be stored for it.
-/
def Leads
    (setting : Setting)
    (s : State)
    (doc : DocId)
    (reference : String)
    (target : NodeKey) : Prop :=
  ∃ found,
    knownDocument? setting s.store doc reference = some found ∧
      targetIn s found (splitReference reference).2 = some target

/- A reference leads to one node at most. -/
theorem Leads.unique
    {setting : Setting}
    {s : State}
    {doc : DocId}
    {reference : String}
    {first second : NodeKey}
    (hFirst : Leads setting s doc reference first)
    (hSecond : Leads setting s doc reference second) :
    first = second := by
  rcases hFirst with ⟨found, hKnown, hTarget⟩
  rcases hSecond with ⟨other, hOther, hAlso⟩
  rw [hKnown] at hOther
  cases hOther
  rw [hTarget] at hAlso
  exact Option.some.inj hAlso

------------------------------------------------------------
-- Finding the Document of a Reference
------------------------------------------------------------

/- A store with one more document. -/
def Store.add
    (store : Store)
    (d : Document) : Store :=
  ⟨store.documents ++ [d]⟩

/- How the document of a reference is found. -/
inductive Located
    (setting : Setting)
    (s : State)
    (doc : DocId)
    (reference : String) : DocId → State → Prop where
  /- It is known. -/
  | known
      (found : DocId)
      (hKnown :
        knownDocument? setting s.store doc reference =
          some found) :
      Located setting s doc reference found s
  /- The loader has none: the current document is meant. -/
  | missed
      (p : Path)
      (outcome : LoadOutcome)
      (hKnown :
        knownDocument? setting s.store doc reference = some doc)
      (hNormal : p.Normal)
      (hFresh : s.store.byPath? p = none)
      (hLacks : setting.loader.Lacks p)
      (hOutcome : outcome ≠ .found)
      (hSeeks : s.store.Seeks p) :
      Located setting s doc reference doc
        (s.note (.asked p outcome))
  /- It is in the registry and was not stored before. -/
  | registered
      (name : String)
      (root : Json)
      (hName :
        registeredName? setting.options
          (splitReference reference).1 = some name)
      (hFresh : s.store.byRegistryId? name = none)
      (hRoot : setting.options.subSchema? name = some root) :
      Located setting s doc reference ⟨s.store.size⟩
        { s with
          store :=
            s.store.add
              ⟨root, declaredRoot? root, .registry name⟩ }
  /- It is served by the loader and was not stored before. -/
  | loaded
      (p : Path)
      (root : Json)
      (hName :
        registeredName? setting.options
          (splitReference reference).1 = none)
      (hPath :
        filePath? s.store doc (splitReference reference).1
          reference = some p)
      (hNormal : p.Normal)
      (hFresh : s.store.byPath? p = none)
      (hRoot : setting.loader.load p = .ok (some root)) :
      Located setting s doc reference ⟨s.store.size⟩
        { s.note (.asked p .found) with
          store :=
            s.store.add ⟨root, p.parent?, .file p⟩ }

variable {setting : Setting}
variable {s : State}
variable {doc : DocId}
variable {reference : String}

/- A path that is looked for is normal. -/
theorem normal_of_filePath?
    {store : Store}
    {id : String}
    {p : Path}
    (hPath : filePath? store doc id reference = some p) :
    p.Normal := by
  unfold filePath? at hPath
  split at hPath
  case isTrue => cases hPath
  case isFalse =>
    rcases Option.map_eq_some_iff.mp hPath with ⟨dir, _, rfl⟩
    exact Path.normal_normalize _

/- A registered name has a document. -/
theorem exists_subSchema?
    {options : Options}
    {id name : String}
    (hName : registeredName? options id = some name) :
    ∃ root, options.subSchema? name = some root := by
  unfold registeredName? registryName? at hName
  split at hName
  case isTrue => cases hName
  case isFalse =>
    have hRegistered :=
      List.find?_some
        (p := fun n => (options.subSchema? n).isSome) hName
    exact Option.isSome_iff_exists.mp hRegistered

/- A document of a new origin is added at the end. -/
theorem storeDocument_of_new
    {d : Document}
    (hNew : s.store.known? d.origin = none) :
    storeDocument d s =
      .ok ⟨s.store.size⟩ { s with store := s.store.add d } := by
  change EStateM.Result.ok (s.store.insert d).1
    { s with store := (s.store.insert d).2 } = _
  simp only [Store.insert, hNew, Store.add]

/- Asking the loader notes its answer. -/
theorem askLoader_run
    (loader : Loader)
    (s : State)
    (p : Path) :
    askLoader loader p s =
      .ok (loader.load p)
        (s.note (.asked p (.of (loader.load p)))) := rfl

/- What looking an identifier up in the registry does. -/
theorem registryStep_run
    (setting : Setting)
    (s : State)
    (id : String) :
    registryStep setting id s =
      match registeredName? setting.options id with
      | none => .ok none s
      | some name =>
          match s.store.byRegistryId? name with
          | some found => .ok (some found) s
          | none =>
              match setting.options.subSchema? name with
              | none => .ok none s
              | some root =>
                  .ok (some ⟨s.store.size⟩)
                    { s with
                      store :=
                        s.store.add
                          ⟨root, declaredRoot? root,
                            .registry name⟩ } := by
  unfold registeredName? registryStep
  by_cases hId : id = ""
  · rw [if_pos hId, if_pos hId]
    rfl
  · rw [if_neg hId, if_neg hId]
    unfold registryDocument?
    cases registryName? setting.options id with
    | none => rfl
    | some name =>
        simp only [get_bind]
        cases hStored : s.store.byRegistryId? name with
        | some found => rfl
        | none =>
            cases setting.options.subSchema? name with
            | none => rfl
            | some root =>
                exact bind_of_ok (storeDocument_of_new hStored)

/- What looking a file up next to the current document does. -/
theorem fileStep_run
    (setting : Setting)
    (id reference : String)
    (hScope : s.scope.head? = some doc) :
    fileStep setting id reference s =
      match filePath? s.store doc id reference with
      | none => .ok none s
      | some p =>
          match s.store.byPath? p with
          | some file => .ok (some file) s
          | none =>
              match setting.loader.load p with
              | .ok (some root) =>
                  .ok (some ⟨s.store.size⟩)
                    { s.note (.asked p .found) with
                      store :=
                        s.store.add ⟨root, p.parent?, .file p⟩ }
              | .ok none =>
                  .ok none (s.note (.asked p .nothing))
              | .error _ =>
                  .ok none (s.note (.asked p .failed)) := by
  have hDir :
      s.currentDocument?.bind (baseDirOf s) =
        (s.store.get? doc).bind Document.baseDir := by
    simp [State.currentDocument?, hScope, baseDirOf]
  unfold filePath? fileStep
  by_cases hId : id = "#"
  · rw [if_pos hId, if_pos hId]
    rfl
  · rw [if_neg hId, if_neg hId]
    unfold fileDocument?
    rw [get_bind, hDir]
    cases (s.store.get? doc).bind Document.baseDir with
    | none => rfl
    | some dir =>
        simp only [Option.map_some]
        generalize
          (dir.join ⟨fileNameOf id reference⟩).normalize = p
        cases hStored : s.store.byPath? p with
        | some file => rfl
        | none =>
            have hAsk := askLoader_run setting.loader s p
            cases hLoad : setting.loader.load p with
            | error cause =>
                rw [hLoad] at hAsk
                exact bind_of_ok hAsk
            | ok answer =>
                rw [hLoad] at hAsk
                cases answer with
                | none => exact bind_of_ok hAsk
                | some root =>
                    exact (bind_of_ok hAsk).trans
                      (bind_of_ok
                        (storeDocument_of_new
                          (s := s.note (.asked p .found))
                          (d := ⟨root, p.parent?, .file p⟩)
                          hStored))

/- A file that the loader lacks leaves the current document. -/
theorem Located.of_missing
    {p : Path}
    (hName :
      registeredName? setting.options (splitReference reference).1 =
        none)
    (hPath :
      filePath? s.store doc (splitReference reference).1 reference =
        some p)
    (hNormal : p.Normal)
    (hStored : s.store.byPath? p = none)
    (hLacks : setting.loader.Lacks p) :
    Located setting s doc reference doc
      (s.note (.asked p (.of (setting.loader.load p)))) := by
  refine .missed p _ ?_ hNormal hStored hLacks ?_
    ⟨doc, reference, hPath⟩
  · simp only [knownDocument?, hName, hPath, hStored]
    split
    case h_1 root hRoot => exact absurd hRoot (hLacks root)
    case h_2 => rfl
  · intro hFound
    cases hLoad : setting.loader.load p with
    | error cause => rw [hLoad] at hFound; cases hFound
    | ok answer =>
        cases answer with
        | none => rw [hLoad] at hFound; cases hFound
        | some root => exact hLacks root hLoad

/- The document of a reference is found in one of the four ways. -/
theorem exists_located
    (setting : Setting)
    (reference : String)
    (hScope : s.scope.head? = some doc) :
    ∃ found t,
      referenceDocument? setting (splitReference reference).1
          reference s =
        .ok (some found) t ∧
      Located setting s doc reference found t := by
  have hRegistry :=
    registryStep_run setting s (splitReference reference).1
  have hFile :=
    fileStep_run setting (splitReference reference).1 reference
      hScope
  rw [referenceDocument?]
  cases hName :
      registeredName? setting.options
        (splitReference reference).1 with
  | some name =>
      rcases exists_subSchema? hName with ⟨root, hRoot⟩
      cases hStored : s.store.byRegistryId? name with
      | some found =>
          simp only [hName, hStored] at hRegistry
          refine ⟨found, s, bind_of_ok hRegistry, .known found ?_⟩
          simp only [knownDocument?, hName, hStored]
      | none =>
          simp only [hName, hStored, hRoot] at hRegistry
          exact ⟨_, _, bind_of_ok hRegistry,
            .registered name root hName hStored hRoot⟩
  | none =>
      simp only [hName] at hRegistry
      rw [bind_of_ok hRegistry]
      cases hPath :
          filePath? s.store doc (splitReference reference).1
            reference with
      | none =>
          simp only [hPath] at hFile
          refine ⟨doc, s, ?_, .known doc ?_⟩
          · exact (bind_of_ok hFile).trans
              (by rw [← hScope]; rfl)
          · simp only [knownDocument?, hName, hPath]
      | some p =>
          have hNormal := normal_of_filePath? hPath
          cases hStored : s.store.byPath? p with
          | some file =>
              simp only [hPath, hStored] at hFile
              refine ⟨file, s, bind_of_ok hFile, .known file ?_⟩
              simp only [knownDocument?, hName, hPath, hStored]
          | none =>
              have hMissed :=
                Located.of_missing (s := s) hName hPath hNormal
                  hStored
              cases hLoad : setting.loader.load p with
              | error cause =>
                  simp only [hPath, hStored, hLoad] at hFile
                  rw [Loader.Lacks, hLoad] at hMissed
                  exact ⟨doc, _, (bind_of_ok hFile).trans
                    (by rw [← hScope]; rfl), hMissed (by simp)⟩
              | ok answer =>
                  simp only [hPath, hStored, hLoad] at hFile
                  rw [Loader.Lacks, hLoad] at hMissed
                  cases answer with
                  | none =>
                      exact ⟨doc, _, (bind_of_ok hFile).trans
                        (by rw [← hScope]; rfl), hMissed (by simp)⟩
                  | some root =>
                      exact ⟨_, _, bind_of_ok hFile,
                        .loaded p root hName hPath hNormal hStored
                          hLoad⟩

------------------------------------------------------------
-- Growing Stores
------------------------------------------------------------

/-
  A store with all documents of another one.  Files that the
  loader lacks are missing in both.
-/
structure StoreGrows
    (setting : Setting)
    (before after : Store) : Prop where
  documents : before.documents <+: after.documents
  lacking :
    ∀ p : Path, p.Normal → setting.loader.Lacks p →
      before.byPath? p = none → after.byPath? p = none

namespace StoreGrows

/- Every store grows into itself. -/
theorem refl
    (setting : Setting)
    (store : Store) :
    StoreGrows setting store store :=
  ⟨List.prefix_refl _, fun _ _ _ hNone => hNone⟩

/- Growing twice is growing. -/
theorem trans
    {first second third : Store}
    (hFirst : StoreGrows setting first second)
    (hSecond : StoreGrows setting second third) :
    StoreGrows setting first third :=
  ⟨hFirst.documents.trans hSecond.documents,
    fun p hNormal hLacks hNone =>
      hSecond.lacking p hNormal hLacks
        (hFirst.lacking p hNormal hLacks hNone)⟩

variable {before after : Store}

/- Stored documents stay stored. -/
theorem get?
    {id : DocId}
    {d : Document}
    (hGrows : StoreGrows setting before after)
    (hDoc : before.get? id = some d) :
    after.get? id = some d := by
  rcases hGrows.documents with ⟨added, hAll⟩
  have hOld : before.documents[id.index]? = some d := hDoc
  rw [Store.get?, ← hAll,
    List.getElem?_append_left (List.getElem?_eq_some_iff.mp hOld).1]
  exact hOld

/- What is found among the documents is found again. -/
theorem findIdx?
    {test : Document → Bool}
    {i : Nat}
    (hGrows : StoreGrows setting before after)
    (hFound : before.documents.findIdx? test = some i) :
    after.documents.findIdx? test = some i := by
  rcases hGrows.documents with ⟨added, hAll⟩
  rw [← hAll, List.findIdx?_append, hFound]
  rfl

/- A stored file is found under its number. -/
theorem byPath?
    {p : Path}
    {id : DocId}
    (hGrows : StoreGrows setting before after)
    (hFound : before.byPath? p = some id) :
    after.byPath? p = some id := by
  rcases Option.map_eq_some_iff.mp hFound with ⟨i, hIndex, rfl⟩
  rw [Store.byPath?, hGrows.findIdx? hIndex]
  rfl

/- A stored registry entry is found under its number. -/
theorem byRegistryId?
    {name : String}
    {id : DocId}
    (hGrows : StoreGrows setting before after)
    (hFound : before.byRegistryId? name = some id) :
    after.byRegistryId? name = some id := by
  rcases Option.map_eq_some_iff.mp hFound with ⟨i, hIndex, rfl⟩
  rw [Store.byRegistryId?, hGrows.findIdx? hIndex]
  rfl

end StoreGrows

/- The new document of a store is found by what only it meets. -/
theorem Store.findIdx?_add
    {store : Store}
    {d : Document}
    {test : Document → Bool}
    (hOld : store.documents.findIdx? test = none) :
    (store.add d).documents.findIdx? test =
      if test d then some store.size else none := by
  rw [Store.add, List.findIdx?_append, hOld]
  cases hTest : test d <;>
    simp [List.findIdx?_cons, hTest, Store.size]

/- Adding a registry entry is growth. -/
theorem StoreGrows.registered
    (setting : Setting)
    (store : Store)
    (root : Json)
    (baseDir : Option Path)
    (name : String) :
    StoreGrows setting store
      (store.add ⟨root, baseDir, .registry name⟩) := by
  refine ⟨List.prefix_append _ _, ?_⟩
  intro p _ _ hNone
  unfold Store.byPath? at hNone ⊢
  rw [Option.map_eq_none_iff] at hNone ⊢
  rw [Store.findIdx?_add hNone]
  rfl

/- Adding a file that the loader serves is growth. -/
theorem StoreGrows.loaded
    (store : Store)
    {root : Json}
    (baseDir : Option Path)
    {p : Path}
    (hNormal : p.Normal)
    (hRoot : setting.loader.load p = .ok (some root)) :
    StoreGrows setting store
      (store.add ⟨root, baseDir, .file p⟩) := by
  refine ⟨List.prefix_append _ _, ?_⟩
  intro q hOther hLacks hNone
  unfold Store.byPath? at hNone ⊢
  rw [Option.map_eq_none_iff] at hNone ⊢
  rw [Store.findIdx?_add hNone, if_neg]
  -- The added file is served, the other one is not.
  intro hFile
  have hSame : q.Same p := by simpa [Store.isFile] using hFile
  rw [hOther.eq_of_same hNormal hSame] at hLacks
  exact hLacks root hRoot

------------------------------------------------------------
-- Stability
------------------------------------------------------------

/- The path of a reference in a stored document stays the same. -/
theorem filePath?_mono
    {before after : Store}
    {d : Document}
    (hGrows : StoreGrows setting before after)
    (hDoc : before.get? doc = some d)
    (id : String) :
    filePath? after doc id reference =
      filePath? before doc id reference := by
  simp only [filePath?, hDoc, hGrows.get? hDoc]

/- A known document stays known. -/
theorem knownDocument?_mono
    {before after : Store}
    {d : Document}
    {found : DocId}
    (hGrows : StoreGrows setting before after)
    (hDoc : before.get? doc = some d)
    (hKnown :
      knownDocument? setting before doc reference = some found) :
    knownDocument? setting after doc reference = some found := by
  unfold knownDocument? at hKnown ⊢
  simp only at hKnown ⊢
  cases hName :
      registeredName? setting.options
        (splitReference reference).1 with
  | some name =>
      simp only [hName] at hKnown ⊢
      exact hGrows.byRegistryId? hKnown
  | none =>
      simp only [hName, filePath?_mono hGrows hDoc] at hKnown ⊢
      cases hPath :
          filePath? before doc (splitReference reference).1
            reference with
      | none =>
          simp only [hPath] at hKnown ⊢
          exact hKnown
      | some p =>
          simp only [hPath] at hKnown ⊢
          cases hStored : before.byPath? p with
          | some file =>
              simp only [hStored] at hKnown
              simp only [hGrows.byPath? hStored]
              exact hKnown
          | none =>
              simp only [hStored] at hKnown
              have hLacks : setting.loader.Lacks p := by
                intro root hRoot
                simp only [hRoot] at hKnown
                cases hKnown
              simp only [hGrows.lacking p
                (normal_of_filePath? hPath) hLacks hStored]
              exact hKnown

/- A target stays a target. -/
theorem targetIn_mono
    {t : State}
    {pointer : Option String}
    {target : NodeKey}
    (hGrows : StoreGrows setting s.store t.store)
    (hTarget : targetIn s doc pointer = some target) :
    targetIn t doc pointer = some target := by
  cases pointer with
  | none => exact hTarget
  | some text =>
      rcases Option.bind_eq_some_iff.mp hTarget with
        ⟨d, hDoc, hWalk⟩
      rw [targetIn, hGrows.get? hDoc, Option.bind_some]
      exact hWalk

/- Where a reference in a stored document leads stays the same. -/
theorem Leads.mono
    {t : State}
    {d : Document}
    {target : NodeKey}
    (hLeads : Leads setting s doc reference target)
    (hGrows : StoreGrows setting s.store t.store)
    (hDoc : s.store.get? doc = some d) :
    Leads setting t doc reference target := by
  rcases hLeads with ⟨found, hKnown, hTarget⟩
  exact ⟨found, knownDocument?_mono hGrows hDoc hKnown,
    targetIn_mono hGrows hTarget⟩

------------------------------------------------------------
-- Following References
------------------------------------------------------------

namespace Located

variable {t : State}
variable {found : DocId}

/- Finding a document only adds documents. -/
theorem grows
    (hLocated : Located setting s doc reference found t) :
    StoreGrows setting s.store t.store := by
  cases hLocated with
  | known => exact StoreGrows.refl _ _
  | missed => exact StoreGrows.refl _ _
  | registered name root =>
      exact StoreGrows.registered setting s.store root _ name
  | loaded p root _ _ hNormal _ hRoot =>
      exact StoreGrows.loaded s.store _ hNormal hRoot

/- Afterwards the document is known. -/
theorem isKnown
    (hLocated : Located setting s doc reference found t) :
    knownDocument? setting t.store doc reference = some found := by
  have hGrows := hLocated.grows
  cases hLocated with
  | known _ hKnown => exact hKnown
  | missed p outcome hKnown => exact hKnown
  | registered name root hName hFresh hRoot =>
      simp only [knownDocument?, hName]
      unfold Store.byRegistryId? at hFresh ⊢
      rw [Option.map_eq_none_iff] at hFresh
      rw [Store.findIdx?_add hFresh]
      simp [Store.isRegistry]
  | loaded p root hName hPath hNormal hFresh hRoot =>
      have hDoc : ∃ d, s.store.get? doc = some d := by
        unfold filePath? at hPath
        split at hPath
        case isTrue => cases hPath
        case isFalse =>
          rcases Option.map_eq_some_iff.mp hPath with ⟨dir, hDir, _⟩
          rcases Option.bind_eq_some_iff.mp hDir with ⟨d, hDoc, _⟩
          exact ⟨d, hDoc⟩
      rcases hDoc with ⟨d, hDoc⟩
      have hStored :
          (s.store.add ⟨root, p.parent?, .file p⟩).byPath? p =
            some ⟨s.store.size⟩ := by
        unfold Store.byPath? at hFresh ⊢
        rw [Option.map_eq_none_iff] at hFresh
        rw [Store.findIdx?_add hFresh]
        simp [Store.isFile, Path.Same]
      simp only [knownDocument?, hName,
        filePath?_mono hGrows hDoc, hPath, hStored]

/- What was known before is what is found. -/
theorem eq_of_known
    {d : Document}
    {other : DocId}
    (hLocated : Located setting s doc reference found t)
    (hDoc : s.store.get? doc = some d)
    (hKnown :
      knownDocument? setting s.store doc reference = some other) :
    found = other := by
  have hAfter := knownDocument?_mono hLocated.grows hDoc hKnown
  rw [hLocated.isKnown] at hAfter
  exact Option.some.inj hAfter

end Located

/- Following a reference finds its document, then its node. -/
theorem followReference_run
    (setting : Setting)
    (reference : String)
    (hScope : s.scope.head? = some doc) :
    ∃ found t,
      Located setting s doc reference found t ∧
        followReference setting reference s =
          match targetIn t found (splitReference reference).2 with
          | some target =>
              .ok target
                (t.note
                  (.followed (some doc) reference (some target)))
          | none =>
              .error (.referenceNotFound reference)
                (t.note (.followed (some doc) reference none)) := by
  rcases exists_located setting reference hScope with
    ⟨found, t, hRun, hLocated⟩
  refine ⟨found, t, hLocated, ?_⟩
  rcases hSplit : splitReference reference with ⟨id, pointer⟩
  rw [hSplit] at hRun
  simp only [followReference, hSplit, get_bind]
  refine (bind_of_ok hRun).trans ?_
  rw [get_bind, Option.bind_some, State.currentDocument?, hScope]
  cases targetIn t found pointer with
  | some target => rfl
  | none => rfl

/- What following a reference gives is where it leads. -/
theorem leads_of_followReference
    {t : State}
    {target : NodeKey}
    (hScope : s.scope.head? = some doc)
    (hRun : followReference setting reference s = .ok target t) :
    Leads setting t doc reference target ∧
      StoreGrows setting s.store t.store := by
  rcases followReference_run setting reference hScope with
    ⟨found, u, hLocated, hSteps⟩
  rw [hRun] at hSteps
  cases hTarget :
      targetIn u found (splitReference reference).2 with
  | none => simp [hTarget] at hSteps
  | some other =>
      simp only [hTarget] at hSteps
      cases hSteps
      exact ⟨⟨found, hLocated.isKnown, hTarget⟩, hLocated.grows⟩

/- Where a reference leads depends on the documents only. -/
theorem Leads.of_store
    {u : State}
    {target : NodeKey}
    (hLeads : Leads setting s doc reference target)
    (hStore : u.store = s.store) :
    Leads setting u doc reference target := by
  unfold Leads targetIn at *
  rw [hStore]
  exact hLeads

/- A reference that leads to a node is followed to it. -/
theorem Leads.exists_followReference
    {u : State}
    {d : Document}
    {target : NodeKey}
    (hLeads : Leads setting s doc reference target)
    (hDoc : s.store.get? doc = some d)
    (hStore : u.store = s.store)
    (hScope : u.scope.head? = some doc) :
    ∃ t, followReference setting reference u = .ok target t := by
  rcases followReference_run setting reference hScope with
    ⟨found, t, hLocated, hSteps⟩
  rcases hLeads.of_store hStore with ⟨other, hKnown, hTarget⟩
  rw [← hStore] at hDoc
  have hSame := hLocated.eq_of_known hDoc hKnown
  subst hSame
  rw [targetIn_mono hLocated.grows hTarget] at hSteps
  exact ⟨_, hSteps⟩

/- A reference is followed to nothing but where it leads. -/
theorem Leads.eq_of_followReference
    {t u : State}
    {d : Document}
    {target other : NodeKey}
    (hLeads : Leads setting s doc reference target)
    (hDoc : s.store.get? doc = some d)
    (hStore : u.store = s.store)
    (hScope : u.scope.head? = some doc)
    (hRun : followReference setting reference u = .ok other t) :
    other = target := by
  rcases leads_of_followReference hScope hRun with
    ⟨hOther, hGrows⟩
  rw [hStore] at hGrows
  exact hOther.unique (hLeads.mono hGrows hDoc)

end SchemaGraph
