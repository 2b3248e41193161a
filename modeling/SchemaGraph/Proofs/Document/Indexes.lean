import Mathlib
import SchemaGraph.Proofs.Compile.Reference

/-
  What a store holds after any number of insertions.  Of a
  file, however its path is spelled, and of a registry entry
  at most one document is stored, and looking one of them up
  finds exactly that document.

  A store that keeps a table of its files and a table of its
  registry entries, and never searches its documents, gives
  the same answers.

  Main declarations:
    * `Origin.Same`
    * `Store.Distinct`
    * `Store.known?_eq_some_iff`
    * `Store.inserting`
    * `TabledStore`
    * `TabledStore.Mirrors.inserting`
-/

namespace SchemaGraph

------------------------------------------------------------
-- Origins
------------------------------------------------------------

/-
  The origins are the same file, or the same registry entry.
  What was supplied in memory is the same as nothing.
-/
def Origin.Same : Origin → Origin → Prop
  | .file p, .file q => p.Same q
  | .registry name, .registry other => name = other
  | _, _ => False

instance
    (o other : Origin) :
    Decidable (o.Same other) :=
  match o, other with
  | .file p, .file q => inferInstanceAs (Decidable (p.Same q))
  | .registry name, .registry other =>
      inferInstanceAs (Decidable (name = other))
  | .inline, _ => isFalse id
  | .file _, .inline => isFalse id
  | .file _, .registry _ => isFalse id
  | .registry _, .inline => isFalse id
  | .registry _, .file _ => isFalse id

/- What is the same as one origin is the same. -/
theorem Origin.Same.congr
    {o first second : Origin}
    (hFirst : o.Same first)
    (hSecond : o.Same second) :
    first.Same second := by
  unfold Origin.Same at hFirst hSecond ⊢
  cases o <;> cases first <;> cases second <;>
    simp_all [Path.Same]

/- Of two origins that are the same either is the other. -/
theorem Origin.Same.symm
    {o other : Origin}
    (hSame : o.Same other) :
    other.Same o := by
  unfold Origin.Same at hSame ⊢
  cases o <;> cases other <;> simp_all [Path.Same]

namespace Store

variable {store : Store}
variable {o : Origin}
variable {d : Document}
variable {id : DocId}

------------------------------------------------------------
-- Looking up
------------------------------------------------------------

/- Looking an origin up finds the first document of it. -/
theorem known?_eq
    (store : Store)
    (o : Origin) :
    store.known? o =
      (store.documents.findIdx?
        (fun d => decide (o.Same d.origin))).map DocId.mk := by
  cases o with
  | inline =>
      have hNone :
          store.documents.findIdx?
              (fun d => decide (Origin.inline.Same d.origin)) =
            none := by
        rw [List.findIdx?_eq_none_iff]
        exact fun d _ => decide_eq_false id
      rw [hNone]
      rfl
  | file p =>
      have hTest :
          isFile p =
            fun d => decide ((Origin.file p).Same d.origin) := by
        funext d
        rw [Bool.eq_iff_iff, decide_eq_true_iff]
        unfold isFile Origin.Same
        cases d.origin <;> simp
      rw [← hTest]
      rfl
  | registry name =>
      have hTest :
          isRegistry name =
            fun d =>
              decide ((Origin.registry name).Same d.origin) := by
        funext d
        rw [Bool.eq_iff_iff, decide_eq_true_iff]
        unfold isRegistry Origin.Same
        cases d.origin <;> simp
      rw [← hTest]
      rfl

/- An origin is unknown if no document has it. -/
theorem known?_eq_none_iff :
    store.known? o = none ↔
      ∀ e ∈ store.documents, ¬ o.Same e.origin := by
  simp [known?_eq, List.findIdx?_eq_none_iff]

/- The spelling of a path does not matter. -/
theorem byPath?_congr
    {p q : Path}
    (hSame : p.Same q) :
    store.byPath? p = store.byPath? q := by
  have hTest : isFile p = isFile q := by
    have hComponents : p.components = q.components := hSame
    funext d
    unfold isFile
    cases d.origin with
    | file other =>
        exact decide_eq_decide.mpr
          (by rw [Path.Same, Path.Same, hComponents])
    | _ => rfl
  rw [byPath?, byPath?, hTest]

/- A new document is found where none was found before. -/
theorem known?_add
    (store : Store)
    (d : Document)
    (o : Origin) :
    (store.add d).known? o =
      (store.known? o).or
        (if o.Same d.origin then some ⟨store.size⟩ else none) := by
  rw [known?_eq, known?_eq]
  cases hOld :
      store.documents.findIdx?
        (fun e => decide (o.Same e.origin)) with
  | none =>
      rw [findIdx?_add hOld]
      simp only [decide_eq_true_eq, Option.map_none, Option.none_or]
      split <;> rfl
  | some i =>
      rw [Store.add, List.findIdx?_append, hOld]
      rfl

/- The origin of a new document is known. -/
theorem known?_add_of_same
    (store : Store)
    (hSame : o.Same d.origin) :
    (store.add d).known? o ≠ none := by
  rw [known?_add, if_pos hSame, ne_eq, Option.or_eq_none_iff]
  exact fun hNone => nomatch hNone.2

/- With a new document known origins are known. -/
theorem known?_add_of_known
    (d : Document)
    (hKnown : store.known? o ≠ none) :
    (store.add d).known? o ≠ none := by
  rw [known?_add, ne_eq, Option.or_eq_none_iff]
  exact fun hNone => hKnown hNone.1

/- A document of a new origin is added at the end. -/
theorem insert_of_new
    (hNew : store.known? d.origin = none) :
    store.insert d = (⟨store.size⟩, store.add d) := by
  simp only [insert, hNew, add]

/- A document of a known origin is not stored again. -/
theorem insert_of_known
    (hKnown : store.known? d.origin = some id) :
    store.insert d = (id, store) := by
  simp only [insert, hKnown]

------------------------------------------------------------
-- Distinct Documents
------------------------------------------------------------

/- No file and no registry entry is stored twice. -/
def Distinct
    (store : Store) : Prop :=
  store.documents.Pairwise
    (fun d e => ¬ d.origin.Same e.origin)

/- Inserting a document stores nothing twice. -/
theorem Distinct.insert
    (hDistinct : store.Distinct)
    (d : Document) :
    (store.insert d).2.Distinct := by
  cases hKnown : store.known? d.origin with
  | some id =>
      rw [insert_of_known hKnown]
      exact hDistinct
  | none =>
      rw [insert_of_new hKnown]
      refine List.pairwise_append.mpr
        ⟨hDistinct, List.pairwise_singleton _ _, ?_⟩
      intro e hMem added hAdded hSame
      rw [List.mem_singleton.mp hAdded] at hSame
      exact known?_eq_none_iff.mp hKnown e hMem hSame.symm

/-
  Among distinct documents, looking an origin up finds the
  document that has it.
-/
theorem known?_eq_some_iff
    (hDistinct : store.Distinct) :
    store.known? o = some id ↔
      ∃ d, store.get? id = some d ∧ o.Same d.origin := by
  rw [known?_eq, Option.map_eq_some_iff]
  constructor
  · rintro ⟨i, hFound, rfl⟩
    rcases List.findIdx?_eq_some_iff_getElem.mp hFound with
      ⟨hLt, hHolds, _⟩
    exact ⟨store.documents[i], List.getElem?_eq_getElem hLt,
      of_decide_eq_true hHolds⟩
  · rintro ⟨d, hDoc, hSame⟩
    rcases List.getElem?_eq_some_iff.mp hDoc with ⟨hLt, hAt⟩
    refine ⟨id.index, ?_, rfl⟩
    refine List.findIdx?_eq_some_iff_getElem.mpr
      ⟨hLt, by simpa [hAt] using hSame, ?_⟩
    -- A document of the origin before it would be a second one.
    intro j hBefore hHolds
    have hPair :=
      List.pairwise_iff_getElem.mp hDistinct j id.index
        (hBefore.trans hLt) hLt hBefore
    rw [hAt] at hPair
    exact hPair ((of_decide_eq_true hHolds).congr hSame)

/-
  The document of the number is the only stored document with
  the property.
-/
def IsOnly
    (store : Store)
    (id : DocId)
    (holds : Document → Prop) : Prop :=
  (∃ d, store.get? id = some d ∧ holds d) ∧
    ∀ other e,
      store.get? other = some e → holds e → other = id

/-
  Among distinct documents, looking an origin up finds the
  only one that has it.
-/
theorem known?_eq_some_iff_isOnly
    (hDistinct : store.Distinct) :
    store.known? o = some id ↔
      store.IsOnly id (fun d => o.Same d.origin) := by
  constructor
  · intro hKnown
    refine ⟨(known?_eq_some_iff hDistinct).mp hKnown, ?_⟩
    intro other e hDoc hSame
    have hOther : store.known? o = some other :=
      (known?_eq_some_iff hDistinct).mpr ⟨e, hDoc, hSame⟩
    exact Option.some.inj (hOther.symm.trans hKnown)
  · intro hOnly
    exact (known?_eq_some_iff hDistinct).mpr hOnly.1

------------------------------------------------------------
-- Insertions
------------------------------------------------------------

/- The store after documents were inserted one after another. -/
def inserting
    (docs : List Document) : Store :=
  docs.foldl (fun store d => (store.insert d).2) empty

/- More insertions continue the earlier ones. -/
theorem inserting_append
    (docs more : List Document) :
    inserting (docs ++ more) =
      more.foldl (fun store d => (store.insert d).2)
        (inserting docs) :=
  List.foldl_append

/- Insertions store nothing twice. -/
theorem distinct_inserting
    (docs : List Document) :
    (inserting docs).Distinct := by
  induction docs using List.reverseRecOn with
  | nil => exact List.Pairwise.nil
  | append_singleton docs d ih =>
      rw [inserting_append]
      exact ih.insert d

/- An insertion leaves the stored documents where they are. -/
theorem documents_prefix_insert
    (store : Store)
    (d : Document) :
    store.documents <+: (store.insert d).2.documents := by
  cases hKnown : store.known? d.origin with
  | some id =>
      rw [insert_of_known hKnown]
  | none =>
      rw [insert_of_new hKnown]
      exact List.prefix_append _ _

/- So do insertions one after another. -/
theorem documents_prefix_inserting
    (docs more : List Document) :
    (inserting docs).documents <+:
      (inserting (docs ++ more)).documents := by
  induction more using List.reverseRecOn with
  | nil => rw [List.append_nil]
  | append_singleton more d ih =>
      rw [← List.append_assoc, inserting_append]
      exact ih.trans (documents_prefix_insert _ d)

/- What a run of insertions stored is not stored again. -/
theorem inserting_concat_of_new
    {docs : List Document}
    (hNew : (inserting docs).known? d.origin = none) :
    inserting (docs ++ [d]) = (inserting docs).add d := by
  rw [inserting_append]
  exact congrArg Prod.snd (insert_of_new hNew)

end Store

------------------------------------------------------------
-- Tables
------------------------------------------------------------

/- A store with a table of files and one of registry entries. -/
structure TabledStore where
  documents : List Document
  files : List (Path × DocId)
  entries : List (String × DocId)

namespace TabledStore

/- The store without documents. -/
def empty : TabledStore :=
  ⟨[], [], []⟩

/- The number that the table has for a path, however spelled. -/
def byPath?
    (tabled : TabledStore)
    (p : Path) : Option DocId :=
  (tabled.files.find? (fun e => decide (p.Same e.1))).map Prod.snd

/- The number that the table has for a registry entry. -/
def byRegistryId?
    (tabled : TabledStore)
    (name : String) : Option DocId :=
  tabled.entries.lookup name

/- The number that the tables have for an origin. -/
def known?
    (tabled : TabledStore) : Origin → Option DocId
  | .inline => none
  | .file p => tabled.byPath? p
  | .registry name => tabled.byRegistryId? name

/-
  Add a document with its entry in the tables, unless they
  have one already.
-/
def insert
    (tabled : TabledStore)
    (d : Document) : DocId × TabledStore :=
  match tabled.known? d.origin with
  | some id => (id, tabled)
  | none =>
      let id : DocId := ⟨tabled.documents.length⟩
      (id, {
        documents := tabled.documents ++ [d]
        files :=
          match d.origin with
          | .file p => (p, id) :: tabled.files
          | _ => tabled.files
        entries :=
          match d.origin with
          | .registry name => (name, id) :: tabled.entries
          | _ => tabled.entries })

/- The store after documents were inserted one after another. -/
def inserting
    (docs : List Document) : TabledStore :=
  docs.foldl (fun tabled d => (tabled.insert d).2) empty

/- The tables hold what a search of the documents finds. -/
structure Mirrors
    (tabled : TabledStore)
    (store : Store) : Prop where
  documents : tabled.documents = store.documents
  files : ∀ p, tabled.byPath? p = store.byPath? p
  entries :
    ∀ name, tabled.byRegistryId? name = store.byRegistryId? name

variable {tabled : TabledStore}
variable {store : Store}

/- The tables hold what is found for each origin. -/
theorem Mirrors.known?
    (hMirrors : tabled.Mirrors store)
    (o : Origin) :
    tabled.known? o = store.known? o := by
  cases o with
  | inline => rfl
  | file p => exact hMirrors.files p
  | registry name => exact hMirrors.entries name

/- A new file is found under all spellings of its path. -/
theorem byPath?_insert_of_new
    {d : Document}
    (hNew : tabled.known? d.origin = none)
    (p : Path) :
    (tabled.insert d).2.byPath? p =
      if (Origin.file p).Same d.origin then
        some ⟨tabled.documents.length⟩
      else
        tabled.byPath? p := by
  simp only [insert, hNew, byPath?]
  cases d.origin with
  | inline => simp [Origin.Same]
  | registry name => simp [Origin.Same]
  | file q =>
      by_cases hSame : p.Same q
      · simp [Origin.Same, hSame]
      · simp [Origin.Same, hSame]

/- A new registry entry is found under its name. -/
theorem byRegistryId?_insert_of_new
    {d : Document}
    (hNew : tabled.known? d.origin = none)
    (name : String) :
    (tabled.insert d).2.byRegistryId? name =
      if (Origin.registry name).Same d.origin then
        some ⟨tabled.documents.length⟩
      else
        tabled.byRegistryId? name := by
  simp only [insert, hNew, byRegistryId?]
  cases d.origin with
  | inline => simp [Origin.Same]
  | file p => simp [Origin.Same]
  | registry other =>
      by_cases hSame : name = other
      · simp [Origin.Same, hSame]
      · have hOther : (name == other) = false :=
          beq_false_of_ne hSame
        simp [Origin.Same, hSame, List.lookup_cons, hOther]

/-
  An insertion with tables gives the same number, and the
  tables still hold what a search finds.
-/
theorem Mirrors.insert
    (hMirrors : tabled.Mirrors store)
    (d : Document) :
    (tabled.insert d).1 = (store.insert d).1 ∧
      (tabled.insert d).2.Mirrors (store.insert d).2 := by
  have hSize : tabled.documents.length = store.size := by
    rw [hMirrors.documents]
    rfl
  cases hKnown : store.known? d.origin with
  | some id =>
      have hHeld := hKnown
      rw [← hMirrors.known?] at hHeld
      simp only [Store.insert_of_known hKnown, TabledStore.insert,
        hHeld]
      exact ⟨trivial, hMirrors⟩
  | none =>
      have hNew := hKnown
      rw [← hMirrors.known?] at hNew
      -- An origin that the new document has was not found.
      have hFound :
          ∀ o : Origin,
            (if o.Same d.origin then some (DocId.mk store.size)
              else store.known? o) =
              (store.add d).known? o := by
        intro o
        rw [Store.known?_add]
        split
        case isFalse => rw [Option.or_none]
        case isTrue hSame =>
          have hNone : store.known? o = none := by
            rw [Store.known?_eq_none_iff] at hKnown ⊢
            intro e hMem hOld
            exact hKnown e hMem (hSame.congr hOld)
          rw [hNone]
          rfl
      rw [Store.insert_of_new hKnown]
      refine ⟨by simp [TabledStore.insert, hNew, hSize], ?_, ?_, ?_⟩
      · simp [TabledStore.insert, hNew, Store.add,
          hMirrors.documents]
      · intro p
        rw [byPath?_insert_of_new hNew, hSize, hMirrors.files]
        exact hFound (.file p)
      · intro name
        rw [byRegistryId?_insert_of_new hNew, hSize,
          hMirrors.entries]
        exact hFound (.registry name)

/- After any insertions the tables hold what a search finds. -/
theorem Mirrors.inserting
    (docs : List Document) :
    (inserting docs).Mirrors (Store.inserting docs) := by
  induction docs using List.reverseRecOn with
  | nil => exact ⟨rfl, fun _ => rfl, fun _ => rfl⟩
  | append_singleton docs d ih =>
      have hTabled :
          TabledStore.inserting (docs ++ [d]) =
            ((TabledStore.inserting docs).insert d).2 :=
        List.foldl_append
      rw [hTabled, Store.inserting_append]
      exact (ih.insert d).2

end TabledStore

end SchemaGraph
