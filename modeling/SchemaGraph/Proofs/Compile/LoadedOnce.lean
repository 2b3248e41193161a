import Mathlib
import SchemaGraph.Proofs.Compile.AskedPaths
import SchemaGraph.Proofs.Document.Indexes

/-
  Every document is stored once, so the loader is not asked
  again for a file that it served, whatever the spelling of
  its path.  The root and the files of references are looked
  up and stored under the same normal paths.

  Main declarations:
    * `Event.NotAgain`
    * `State.LoadsOnce`
    * `Step.loadsOnce`
    * `Rooted.loadsOnce`
    * `compile_documents_once`
-/

namespace SchemaGraph

variable {setting : Setting}
variable {source : Source}
variable {s t : State}

------------------------------------------------------------
-- Asking Once
------------------------------------------------------------

/-
  If the sooner event is a file that was served, the later
  one does not ask for it.
-/
def Event.NotAgain
    (later sooner : Event) : Prop :=
  ∀ p q outcome,
    sooner = .asked p .found →
      later = .asked q outcome → ¬ p.Same q

/-
  The documents are those of a number of insertions, files
  that were served are stored, and none of them was asked for
  again.
-/
structure State.LoadsOnce
    (setting : Setting)
    (s : State) : Prop where
  inserted : ∃ docs, s.store = Store.inserting docs
  told :
    ∀ p outcome, .asked p outcome ∈ s.journal →
      (outcome = .found ↔ ¬ setting.loader.Lacks p)
  stored :
    ∀ p, .asked p .found ∈ s.journal → s.store.byPath? p ≠ none
  once : s.journal.Pairwise Event.NotAgain

/- Other stacks and validators ask for nothing. -/
theorem State.LoadsOnce.of_same
    (hOnce : s.LoadsOnce setting)
    (hStore : t.store = s.store)
    (hJournal : t.journal = s.journal) :
    t.LoadsOnce setting := by
  constructor
  · rw [hStore]
    exact hOnce.inserted
  · rw [hJournal]
    exact hOnce.told
  · rw [hStore, hJournal]
    exact hOnce.stored
  · rw [hJournal]
    exact hOnce.once

/- An event that asks for nothing may be noted. -/
theorem State.LoadsOnce.note
    {e : Event}
    (hOnce : s.LoadsOnce setting)
    (hEvent : ∀ p outcome, e ≠ .asked p outcome) :
    (s.note e).LoadsOnce setting := by
  have hOld :
      ∀ p outcome, .asked p outcome ∈ (s.note e).journal →
        .asked p outcome ∈ s.journal := by
    intro p outcome hMem
    rcases List.mem_cons.mp hMem with hNew | hOld
    · exact absurd hNew.symm (hEvent p outcome)
    · exact hOld
  refine ⟨hOnce.inserted,
    fun p outcome hMem => hOnce.told p outcome (hOld p outcome hMem),
    fun p hMem => hOnce.stored p (hOld p .found hMem),
    List.pairwise_cons.mpr ⟨?_, hOnce.once⟩⟩
  intro sooner _ p q outcome _ hLater
  exact absurd hLater (hEvent q outcome)

/- A file that is not stored was not served before. -/
theorem State.LoadsOnce.asked_once
    {p : Path}
    {outcome : LoadOutcome}
    (hOnce : s.LoadsOnce setting)
    (hFresh : s.store.byPath? p = none) :
    (s.note (.asked p outcome)).journal.Pairwise
      Event.NotAgain := by
  refine List.pairwise_cons.mpr ⟨?_, hOnce.once⟩
  rintro sooner hMem q other first rfl hLater hSame
  cases hLater
  apply hOnce.stored q hMem
  rw [Store.byPath?_congr hSame]
  exact hFresh

/- A document of a new origin is one more insertion. -/
theorem State.LoadsOnce.inserted_add
    {d : Document}
    (hOnce : s.LoadsOnce setting)
    (hNew : s.store.known? d.origin = none) :
    ∃ docs, s.store.add d = Store.inserting docs := by
  rcases hOnce.inserted with ⟨docs, hDocs⟩
  rw [hDocs] at hNew ⊢
  exact ⟨docs ++ [d], (Store.inserting_concat_of_new hNew).symm⟩

/- No step asks again for a file that was served. -/
theorem Step.loadsOnce
    (hStep : Step setting s t)
    (hOnce : s.LoadsOnce setting) :
    t.LoadsOnce setting := by
  cases hStep with
  | missed p outcome _ hFresh hLacks hOutcome =>
      refine ⟨hOnce.inserted, ?_, ?_, hOnce.asked_once hFresh⟩
      · intro q other hMem
        rcases List.mem_cons.mp hMem with hNew | hOld
        · cases hNew
          exact iff_of_false hOutcome (not_not_intro hLacks)
        · exact hOnce.told q other hOld
      · intro q hMem
        rcases List.mem_cons.mp hMem with hNew | hOld
        · cases hNew
          exact absurd rfl hOutcome
        · exact hOnce.stored q hOld
  | loaded p root _ hFresh hRoot =>
      have hNew : s.store.known? (.file p) = none := hFresh
      refine ⟨hOnce.inserted_add hNew, ?_, ?_,
        hOnce.asked_once hFresh⟩
      · intro q outcome hMem
        rcases List.mem_cons.mp hMem with hNew | hOld
        · cases hNew
          exact iff_of_true rfl (fun hLacks => hLacks root hRoot)
        · exact hOnce.told q outcome hOld
      · intro q hMem
        rcases List.mem_cons.mp hMem with hHere | hBefore
        · cases hHere
          exact Store.known?_add_of_same (o := .file p) s.store rfl
        · exact Store.known?_add_of_known (o := .file q) _
            (hOnce.stored q hBefore)
  | registered name root hFresh hRoot =>
      refine ⟨hOnce.inserted_add hFresh, hOnce.told, ?_, hOnce.once⟩
      exact fun q hMem =>
        Store.known?_add_of_known (o := .file q) _
          (hOnce.stored q hMem)
  | followed => exact hOnce.note (by simp)
  | began key =>
      have hNoted :
          (s.note (.began key (some key.doc))).LoadsOnce setting :=
        hOnce.note (by simp)
      exact hNoted.of_same rfl rfl
  | answered => exact hOnce.note (by simp)
  | entered => exact hOnce.of_same rfl rfl
  | left => exact hOnce.of_same rfl rfl
  | pushed => exact hOnce.of_same rfl rfl
  | copied => exact hOnce.of_same rfl rfl
  | celled => exact hOnce.of_same rfl rfl
  | finished => exact hOnce.of_same rfl rfl

/- So do steps one after another. -/
theorem Reaches.loadsOnce
    (hReaches : Reaches setting s t)
    (hOnce : s.LoadsOnce setting) :
    t.LoadsOnce setting := by
  induction hReaches with
  | refl => exact hOnce
  | tail _ hStep ih => exact hStep.loadsOnce ih

------------------------------------------------------------
-- The Source
------------------------------------------------------------

/- A first document is inserted. -/
theorem Store.exists_inserting_add
    (d : Document) :
    ∃ docs, Store.empty.add d = Store.inserting docs := by
  have hNew : (Store.inserting []).known? d.origin = none := by
    cases d.origin <;> rfl
  exact ⟨[] ++ [d], (Store.inserting_concat_of_new hNew).symm⟩

/- The kind of an answer says if a document was served. -/
theorem LoadOutcome.of_load_eq_found_iff
    (setting : Setting)
    (p : Path) :
    LoadOutcome.of (setting.loader.load p) = .found ↔
      ¬ setting.loader.Lacks p := by
  unfold Loader.Lacks
  cases setting.loader.load p with
  | error cause => simp [LoadOutcome.of]
  | ok answer => cases answer <;> simp [LoadOutcome.of]

/- Loading the document of a path notes the loader's answer. -/
theorem loadPath_journal
    (setting : Setting)
    (workingDir p : Path) :
    (stateAfter (loadPath setting workingDir p)
        State.initial).journal =
      [.asked (p.absolutize workingDir)
        (.of (setting.loader.load (p.absolutize workingDir)))] := by
  have hAsk :=
    askLoader_run setting.loader State.initial
      (p.absolutize workingDir)
  unfold loadPath stateAfter
  dsimp only
  rw [bind_of_ok hAsk]
  cases setting.loader.load (p.absolutize workingDir) with
  | error cause => rfl
  | ok answer =>
      cases answer with
      | none => rfl
      | some schema =>
          dsimp only
          by_cases hObject : schema.isObject = true
          · rw [if_pos hObject]
            rfl
          · rw [if_neg hObject]
            rfl

/- Storing the document of a source notes the loader's answer. -/
theorem loadRoot_told
    {p : Path}
    {outcome : LoadOutcome}
    {workingDir : Path}
    (hMem :
      .asked p outcome ∈
        (stateAfter (loadRoot setting workingDir source)
          State.initial).journal) :
    outcome = .found ↔ ¬ setting.loader.Lacks p := by
  unfold loadRoot at hMem
  split at hMem
  case h_1 q =>
    rw [loadPath_journal] at hMem
    cases List.mem_singleton.mp hMem
    exact LoadOutcome.of_load_eq_found_iff setting _
  case h_2 text =>
    rw [loadPath_journal] at hMem
    cases List.mem_singleton.mp hMem
    exact LoadOutcome.of_load_eq_found_iff setting _
  case h_3 schema _ =>
    unfold loadInline at hMem
    by_cases hObject : schema.isObject = true
    · rw [if_pos hObject] at hMem
      cases hMem
    · rw [if_neg hObject] at hMem
      cases hMem

/- A source that is stored or refused asks for one path at most. -/
theorem Opens.once
    {workingDir : Path}
    (hOpens : Opens setting workingDir source s) :
    s.journal.Pairwise Event.NotAgain := by
  cases hOpens with
  | asked => exact List.pairwise_singleton _ _
  | loaded => exact List.pairwise_singleton _ _
  | refused => exact List.Pairwise.nil
  | kept => exact List.Pairwise.nil

/- Storing the document of a source inserts one at most. -/
theorem Opens.inserted
    {workingDir : Path}
    (hOpens : Opens setting workingDir source s) :
    ∃ docs, s.store = Store.inserting docs := by
  cases hOpens with
  | asked => exact ⟨[], rfl⟩
  | loaded => exact Store.exists_inserting_add _
  | refused => exact ⟨[], rfl⟩
  | kept => exact Store.exists_inserting_add _

/- The root that was stored is the file that was asked for. -/
theorem Rooted.loadsOnce
    {workingDir : Path}
    {doc : DocId}
    (hRooted : Rooted setting source doc s)
    (hOpens : Opens setting workingDir source s)
    (hTold :
      ∀ p outcome, .asked p outcome ∈ s.journal →
        (outcome = .found ↔ ¬ setting.loader.Lacks p)) :
    s.LoadsOnce setting := by
  refine ⟨hOpens.inserted, hTold, ?_, hOpens.once⟩
  -- There is a document, so a refusal has not happened.
  have hStored : s.store ≠ Store.empty := by
    intro hEmpty
    rcases hRooted.present.stored with ⟨d, hDoc⟩
    rw [hEmpty] at hDoc
    cases hDoc
  cases hOpens with
  | asked => exact absurd rfl hStored
  | refused => exact absurd rfl hStored
  | loaded p schema _ =>
      intro q hMem
      cases List.mem_singleton.mp hMem
      exact Store.known?_add_of_same
        (o := .file (p.absolutize workingDir)) Store.empty rfl
  | kept => exact nofun

------------------------------------------------------------
-- Compilations
------------------------------------------------------------

/- In the end no file that was served was asked for again. -/
theorem compileWith_loads_once
    (setting : Setting)
    (workingDir : Path)
    (source : Source) :
    let final := (compileWith setting workingDir source).final
    (∃ docs, final.store = Store.inserting docs) ∧
      (∀ p outcome, .asked p outcome ∈ final.journal →
        (outcome = .found ↔ ¬ setting.loader.Lacks p)) ∧
      final.journal.Pairwise Event.NotAgain := by
  intro final
  have hOpens := loadRoot_opens setting workingDir source
  have hTold :
      ∀ p outcome,
        .asked p outcome ∈
            (stateAfter (loadRoot setting workingDir source)
              State.initial).journal →
          (outcome = .found ↔ ¬ setting.loader.Lacks p) :=
    fun _ _ hMem => loadRoot_told hMem
  rcases compileWith_cases setting workingDir source with
    ⟨e, hLoad⟩ |
      ⟨doc, r, u, earlier, hLoad, hRooted, hReaches, hFinal⟩
  · rw [stateAfter_of_error hLoad] at hOpens hTold
    exact ⟨hOpens.inserted, hTold, hOpens.once⟩
  · rw [stateAfter_of_ok hLoad] at hOpens hTold
    have hOnce :=
      hReaches.loadsOnce (hRooted.loadsOnce hOpens hTold)
    rw [show final = earlier.unwound u from hFinal]
    exact ⟨hOnce.inserted, hOnce.told, hOnce.once⟩

/-
  Whatever is inserted in whatever order, looking a path or
  an identifier up finds the only document of that file or
  registry entry.  What is known is not stored again, and
  anything else is added under a new number; no document that
  is stored ever changes.  Tables of files and of registry
  entries say the same.

  The documents of a compilation, also one that fails, are
  inserted in this way.  So once the loader served a file, it
  is not asked for that file again, under any spelling.
-/
theorem compile_documents_once
    (setting : Setting)
    (workingDir : Path)
    (source : Source) :
    (∀ docs : List Document,
      let store := Store.inserting docs
      (∀ p id,
        store.byPath? p = some id ↔
          store.IsOnly id
            (fun d => ∃ q, d.origin = .file q ∧ p.Same q)) ∧
      (∀ name id,
        store.byRegistryId? name = some id ↔
          store.IsOnly id (fun d => d.origin = .registry name)) ∧
      (∀ d e id,
        store.get? id = some e →
          e.origin.Same d.origin →
            store.insert d = (id, store)) ∧
      (∀ d,
        (∀ e ∈ store.documents, ¬ e.origin.Same d.origin) →
          store.insert d =
              (⟨store.size⟩, ⟨store.documents ++ [d]⟩) ∧
            store.get? ⟨store.size⟩ = none) ∧
      (∀ more id d,
        store.get? id = some d →
          (Store.inserting (docs ++ more)).get? id = some d) ∧
      (TabledStore.inserting docs).Mirrors store ∧
      ∀ d,
        ((TabledStore.inserting docs).insert d).1 =
          (store.insert d).1) ∧
    let final := (compileWith setting workingDir source).final
    (∃ docs, final.store = Store.inserting docs) ∧
      ∀ later p outcome earlier,
        final.journal = later ++ .asked p outcome :: earlier →
          (outcome = .found ↔
            ∃ root, setting.loader.load p = .ok (some root)) ∧
          (outcome = .found →
            ∀ q other, .asked q other ∈ later → ¬ p.Same q) := by
  constructor
  · intro docs store
    have hDistinct : store.Distinct := Store.distinct_inserting docs
    have hMirrors := TabledStore.Mirrors.inserting docs
    refine ⟨?_, ?_, ?_, ?_, ?_, hMirrors,
      fun d => (hMirrors.insert d).1⟩
    · intro p id
      have hFile :
          (fun d : Document => (Origin.file p).Same d.origin) =
            fun d => ∃ q, d.origin = .file q ∧ p.Same q := by
        funext d
        cases d.origin <;> simp [Origin.Same]
      rw [← hFile]
      exact Store.known?_eq_some_iff_isOnly (o := .file p) hDistinct
    · intro name id
      have hEntry :
          (fun d : Document => (Origin.registry name).Same d.origin) =
            fun d => d.origin = .registry name := by
        funext d
        cases d.origin <;> simp [Origin.Same, eq_comm]
      rw [← hEntry]
      exact Store.known?_eq_some_iff_isOnly
        (o := .registry name) hDistinct
    · intro d e id hDoc hSame
      exact Store.insert_of_known
        ((Store.known?_eq_some_iff hDistinct).mpr
          ⟨e, hDoc, hSame.symm⟩)
    · intro d hOther
      refine ⟨Store.insert_of_new ?_, ?_⟩
      · rw [Store.known?_eq_none_iff]
        exact fun e hMem hSame => hOther e hMem hSame.symm
      · exact List.getElem?_eq_none (le_refl store.size)
    · intro more id d hDoc
      rcases List.getElem?_eq_some_iff.mp hDoc with ⟨hLt, rfl⟩
      exact List.prefix_iff_getElem?.mp
        (Store.documents_prefix_inserting docs more) id.index hLt
  · intro final
    rcases compileWith_loads_once setting workingDir source with
      ⟨hInserted, hTold, hOnce⟩
    refine ⟨hInserted, ?_⟩
    intro later p outcome earlier hJournal
    have hMem : .asked p outcome ∈ final.journal := by
      rw [hJournal]
      exact List.mem_append_right _ List.mem_cons_self
    constructor
    · rw [hTold p outcome hMem]
      simp [Loader.Lacks]
    · rintro rfl q other hLater
      rw [hJournal] at hOnce
      exact (List.pairwise_append.mp hOnce).2.2 _ hLater _
        List.mem_cons_self p q other rfl rfl

end SchemaGraph
