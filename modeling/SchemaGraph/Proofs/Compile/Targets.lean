import Mathlib
import SchemaGraph.Proofs.Compile.Locality

/-
  Where a reference leads does not depend on when it is
  followed.  The origin and the place of its target can be
  read off the document that it is followed in, the options
  and the loader, without any store: a registered name means
  the registry entry, any other name the file that the
  loader serves, and failing both the document itself.

  Main declarations:
    * `meantDocument`
    * `destination?`
    * `State.address?`
    * `destination_of_known`
    * `EndsAt`
    * `followReference_destination`
    * `compile_reference_destination`
-/

namespace SchemaGraph

variable {setting : Setting}
variable {source : Source}
variable {s t : State}
variable {store : Store}
variable {doc found : DocId}
variable {d : Document}
variable {reference : String}

------------------------------------------------------------
-- Destinations
------------------------------------------------------------

/- The registry entry that an identifier stands for. -/
def registeredDocument?
    (options : Options)
    (id : String) : Option (Origin × Json) := do
  let name ← registeredName? options id
  let root ← options.subSchema? name
  return (.registry name, root)

/- The path at which a document looks for a file. -/
def Document.pathOf?
    (d : Document)
    (id reference : String) : Option Path :=
  if id = "#" then
    none
  else
    d.baseDir.map (fun dir =>
      (dir.join ⟨fileNameOf id reference⟩).normalize)

/- The file that a loader serves for a reference. -/
def servedFile?
    (loader : Loader)
    (d : Document)
    (id reference : String) : Option (Origin × Json) := do
  let p ← d.pathOf? id reference
  match loader.load p with
  | .ok (some root) => return (.file p, root)
  | _ => none

/- Origin and root of the document that a reference means. -/
def meantDocument
    (options : Options)
    (loader : Loader)
    (d : Document)
    (reference : String) : Origin × Json :=
  let id := (splitReference reference).1
  match registeredDocument? options id with
  | some entry => entry
  | none =>
      (servedFile? loader d id reference).getD (d.origin, d.root)

/-
  The origin of the document and the pointer that a
  reference in a document leads to.
-/
def destination?
    (options : Options)
    (loader : Loader)
    (d : Document)
    (reference : String) : Option (Origin × Pointer) :=
  let (origin, root) := meantDocument options loader d reference
  match (splitReference reference).2 with
  | none => some (origin, Pointer.root)
  | some text => (walk? root text).map (fun p => (origin, p))

/- The origin of a node's document, and its place there. -/
def State.address?
    (s : State)
    (key : NodeKey) : Option (Origin × Pointer) :=
  (s.store.get? key.doc).map (fun d => (d.origin, key.pointer))

------------------------------------------------------------
-- Stored Documents
------------------------------------------------------------

/- A document that is found is stored and passes the search. -/
theorem Store.exists_of_findIdx?
    {test : Document → Bool}
    (hFound :
      (store.documents.findIdx? test).map DocId.mk = some found) :
    ∃ e, store.get? found = some e ∧ test e = true := by
  rcases Option.map_eq_some_iff.mp hFound with ⟨i, hIndex, rfl⟩
  rcases List.findIdx?_eq_some_iff_getElem.mp hIndex with
    ⟨hLt, hTest, _⟩
  exact ⟨_, List.getElem?_eq_getElem hLt, hTest⟩

/- A registry entry that is found comes from the registry. -/
theorem Sourced.of_byRegistryId?
    {name : String}
    (hSourced : Sourced setting source store)
    (hFound : store.byRegistryId? name = some found) :
    ∃ e,
      store.get? found = some e ∧
        e.origin = .registry name ∧
        setting.options.subSchema? name = some e.root := by
  rcases Store.exists_of_findIdx? hFound with ⟨e, hGet, hTest⟩
  have hServed :=
    hSourced.served e (List.mem_of_getElem? hGet)
  unfold Store.isRegistry at hTest
  unfold Document.Served at hServed
  cases hOrigin : e.origin with
  | registry other =>
      simp only [hOrigin, decide_eq_true_eq] at hTest hServed
      subst hTest
      exact ⟨e, hGet, hOrigin, hServed⟩
  | inline => simp [hOrigin] at hTest
  | file p => simp [hOrigin] at hTest

/- A file that is found comes from the loader. -/
theorem Sourced.of_byPath?
    {p : Path}
    (hSourced : Sourced setting source store)
    (hNormal : p.Normal)
    (hFound : store.byPath? p = some found) :
    ∃ e,
      store.get? found = some e ∧
        e.origin = .file p ∧
        setting.loader.load p = .ok (some e.root) := by
  rcases Store.exists_of_findIdx? hFound with ⟨e, hGet, hTest⟩
  have hServed :=
    hSourced.served e (List.mem_of_getElem? hGet)
  unfold Store.isFile at hTest
  unfold Document.Served at hServed
  cases hOrigin : e.origin with
  | file q =>
      simp only [hOrigin, decide_eq_true_eq] at hTest hServed
      have hSame : p = q := hNormal.eq_of_same hServed.2 hTest
      subst hSame
      exact ⟨e, hGet, hOrigin, hServed.1⟩
  | inline => simp [hOrigin] at hTest
  | registry name => simp [hOrigin] at hTest

/- The documents of two numbers have different origins. -/
theorem Sourced.eq_of_origin
    {other : DocId}
    {e : Document}
    (hSourced : Sourced setting source store)
    (hDoc : store.get? doc = some d)
    (hOther : store.get? other = some e)
    (hOrigin : d.origin = e.origin) :
    doc = other := by
  have hFirst :
      (store.documents.map Document.origin)[doc.index]? =
        some e.origin := by
    rw [List.getElem?_map, ← hOrigin]
    exact congrArg (Option.map Document.origin) hDoc
  have hSecond :
      (store.documents.map Document.origin)[other.index]? =
        some e.origin := by
    rw [List.getElem?_map]
    exact congrArg (Option.map Document.origin) hOther
  have hLt := (List.getElem?_eq_some_iff.mp hFirst).1
  have hIndex : doc.index = other.index :=
    (List.getElem?_inj hLt hSourced.distinct).mp
      (hFirst.trans hSecond.symm)
  cases doc
  cases other
  exact congrArg DocId.mk hIndex

/- Two nodes with one address are one node. -/
theorem Sourced.eq_of_address?
    {first second : NodeKey}
    {place : Origin × Pointer}
    (hSourced : Sourced setting source s.store)
    (hFirst : s.address? first = some place)
    (hSecond : s.address? second = some place) :
    first = second := by
  rcases Option.map_eq_some_iff.mp hFirst with ⟨d, hDoc, rfl⟩
  rcases Option.map_eq_some_iff.mp hSecond with ⟨e, hOther, hPlace⟩
  rw [Prod.mk.injEq] at hPlace
  rcases hPlace with ⟨hOrigin, hPointer⟩
  have hSame := hSourced.eq_of_origin hDoc hOther hOrigin.symm
  cases first
  cases second
  simp only at hSame hPointer
  rw [hSame, hPointer]

/- A target with a destination has its address. -/
theorem State.address?_of_map_eq
    {key : NodeKey}
    {wanted : Option (Origin × Pointer)}
    (hTarget :
      (some key).map s.address? = wanted.map some) :
    ∃ place, wanted = some place ∧ s.address? key = some place := by
  cases wanted with
  | none => cases hTarget
  | some place => exact ⟨place, rfl, Option.some.inj hTarget⟩

/- Addresses stay. -/
theorem Grows.address?
    {key : NodeKey}
    {place : Origin × Pointer}
    (hGrows : Grows setting s t)
    (hAddress : s.address? key = some place) :
    t.address? key = some place := by
  rcases Option.map_eq_some_iff.mp hAddress with ⟨d, hDoc, hPlace⟩
  rw [State.address?, hGrows.store.get? hDoc]
  exact congrArg some hPlace

------------------------------------------------------------
-- Following References
------------------------------------------------------------

/-
  Without a registry entry, the known document of a reference
  is the file that is served for it, or else the document
  that it is written in.
-/
theorem servedFile_of_known
    (hSourced : Sourced setting source store)
    (hDoc : store.get? doc = some d)
    (hName :
      registeredName? setting.options
        (splitReference reference).1 = none)
    (hKnown :
      knownDocument? setting store doc reference = some found) :
    ∃ e,
      store.get? found = some e ∧
        (servedFile? setting.loader d (splitReference reference).1
            reference).getD (d.origin, d.root) =
          (e.origin, e.root) := by
  have hPathOf :
      filePath? store doc (splitReference reference).1 reference =
        d.pathOf? (splitReference reference).1 reference := by
    simp only [filePath?, hDoc, Option.bind_some, Document.pathOf?]
  unfold knownDocument? at hKnown
  simp only [hName, hPathOf] at hKnown
  cases hPath :
      d.pathOf? (splitReference reference).1 reference with
  | none =>
      simp only [hPath] at hKnown
      cases hKnown
      exact ⟨d, hDoc, by simp [servedFile?, hPath]⟩
  | some p =>
      simp only [hPath] at hKnown
      rw [hPath] at hPathOf
      have hNormal := normal_of_filePath? hPathOf
      cases hStored : store.byPath? p with
      | some file =>
          simp only [hStored] at hKnown
          cases hKnown
          rcases hSourced.of_byPath? hNormal hStored with
            ⟨e, hGet, hOrigin, hLoad⟩
          refine ⟨e, hGet, ?_⟩
          simp [servedFile?, hPath, hLoad, hOrigin]
      | none =>
          simp only [hStored] at hKnown
          cases hLoad : setting.loader.load p with
          | error cause =>
              simp only [hLoad] at hKnown
              cases hKnown
              exact ⟨d, hDoc, by simp [servedFile?, hPath, hLoad]⟩
          | ok answer =>
              cases answer with
              | some root =>
                  simp only [hLoad] at hKnown
                  cases hKnown
              | none =>
                  simp only [hLoad] at hKnown
                  cases hKnown
                  exact ⟨d, hDoc, by
                    simp [servedFile?, hPath, hLoad]⟩

/- The known document of a reference is the one it means. -/
theorem meantDocument_of_known
    (hSourced : Sourced setting source store)
    (hDoc : store.get? doc = some d)
    (hKnown :
      knownDocument? setting store doc reference = some found) :
    ∃ e,
      store.get? found = some e ∧
        meantDocument setting.options setting.loader d reference =
          (e.origin, e.root) := by
  unfold meantDocument
  cases hName :
      registeredName? setting.options
        (splitReference reference).1 with
  | some name =>
      unfold knownDocument? at hKnown
      simp only [hName] at hKnown
      rcases hSourced.of_byRegistryId? hKnown with
        ⟨e, hGet, hOrigin, hRoot⟩
      refine ⟨e, hGet, ?_⟩
      simp [registeredDocument?, hName, hRoot, hOrigin]
  | none =>
      have hEntry :
          registeredDocument? setting.options
            (splitReference reference).1 = none := by
        simp [registeredDocument?, hName]
      simp only [hEntry]
      exact servedFile_of_known hSourced hDoc hName hKnown

/- The node that a known reference leads to is its destination. -/
theorem destination_of_known
    (hSourced : Sourced setting source s.store)
    (hDoc : s.store.get? doc = some d)
    (hKnown :
      knownDocument? setting s.store doc reference = some found) :
    (targetIn s found (splitReference reference).2).map
        s.address? =
      (destination? setting.options setting.loader d
        reference).map some := by
  rcases meantDocument_of_known hSourced hDoc hKnown with
    ⟨e, hGet, hMeant⟩
  unfold destination?
  rw [hMeant]
  cases (splitReference reference).2 with
  | none => simp [targetIn, State.address?, NodeKey.root, hGet]
  | some text =>
      simp only [targetIn, hGet, Option.bind_some, Option.map_map]
      cases walk? e.root text with
      | none => rfl
      | some p => simp [State.address?, hGet]

/- Following a reference ends at a place, or is not found. -/
def EndsAt
    (setting : Setting)
    (s : State)
    (reference : String) : Option (Origin × Pointer) → Prop
  | some place =>
      ∃ target t,
        followReference setting reference s = .ok target t ∧
          t.address? target = some place
  | none =>
      ∃ t,
        followReference setting reference s =
          .error (.referenceNotFound reference) t

/-
  In every state, whatever documents are stored there, a
  reference is followed to its destination.
-/
theorem followReference_destination
    (hSourced : Sourced setting source s.store)
    (hScope : s.scope.head? = some doc)
    (hDoc : s.store.get? doc = some d)
    (reference : String) :
    EndsAt setting s reference
      (destination? setting.options setting.loader d
        reference) := by
  rcases followReference_run setting reference hScope with
    ⟨found, t, hLocated, hSteps⟩
  have hRun := Run.of_located hLocated
  have hThere :=
    destination_of_known (Reaches.sourced hRun.reaches hSourced)
      (hRun.grows.store.get? hDoc) hLocated.isKnown
  cases hTarget :
      targetIn t found (splitReference reference).2 with
  | some target =>
      simp only [hTarget] at hSteps
      rw [hTarget] at hThere
      rcases State.address?_of_map_eq hThere with
        ⟨place, hPlace, hAddress⟩
      rw [hPlace]
      exact ⟨target, _, hSteps, hAddress⟩
  | none =>
      simp only [hTarget] at hSteps
      rw [hTarget, Option.map_none, eq_comm, Option.map_eq_none_iff]
        at hThere
      rw [hThere]
      exact ⟨_, hSteps⟩

------------------------------------------------------------
-- Runs
------------------------------------------------------------

/-
  Every reference that was followed was followed in a stored
  document, to its destination there.
-/
def State.FollowsTo
    (setting : Setting)
    (s : State) : Prop :=
  ∀ scope reference target,
    Event.followed scope reference target ∈ s.journal →
      ∃ doc d,
        scope = some doc ∧
          s.store.get? doc = some d ∧
          target.map s.address? =
            (destination? setting.options setting.loader d
              reference).map some

/- Destinations stay destinations. -/
theorem State.FollowsTo.mono
    (hFollows : s.FollowsTo setting)
    (hGrows : Grows setting s t)
    (hJournal :
      ∀ scope reference target,
        Event.followed scope reference target ∈ t.journal →
          Event.followed scope reference target ∈ s.journal) :
    t.FollowsTo setting := by
  intro scope reference target hMem
  rcases hFollows scope reference target (hJournal _ _ _ hMem) with
    ⟨doc, d, hScope, hDoc, hTarget⟩
  refine ⟨doc, d, hScope, hGrows.store.get? hDoc, ?_⟩
  rw [← hTarget]
  cases target with
  | none => rfl
  | some key =>
      rcases State.address?_of_map_eq hTarget with
        ⟨place, _, hAddress⟩
      simp only [Option.map_some, hAddress,
        hGrows.address? hAddress]

/- Every step follows references to their destinations. -/
theorem Step.followsTo
    (hStep : Step setting s t)
    (hSourced : Sourced setting source s.store)
    (hFollows : s.FollowsTo setting) :
    t.FollowsTo setting := by
  have hGrows := hStep.grows
  cases hStep with
  | followed doc found d reference _ hDoc _ hKnown =>
      intro scope other target hMem
      rcases List.mem_cons.mp hMem with hNew | hOld
      · cases hNew
        exact ⟨doc, d, rfl, hDoc,
          destination_of_known hSourced hDoc hKnown⟩
      · exact hFollows scope other target hOld
  | _ =>
      -- No other step follows a reference.
      apply hFollows.mono hGrows
      intro scope reference target hMem
      simpa [State.note] using hMem

/- Steps follow references to their destinations. -/
theorem Reaches.followsTo
    (hReaches : Reaches setting s t)
    (hSourced : Sourced setting source s.store)
    (hFollows : s.FollowsTo setting) :
    t.FollowsTo setting := by
  induction hReaches with
  | refl => exact hFollows
  | tail hSteps hStep ih =>
      exact hStep.followsTo (Reaches.sourced hSteps hSourced) ih

/- A document and a reference have one target. -/
theorem State.FollowsTo.unique
    {scope : Option DocId}
    {first second : Option NodeKey}
    (hFollows : s.FollowsTo setting)
    (hSourced : Sourced setting source s.store)
    (hFirst : Event.followed scope reference first ∈ s.journal)
    (hSecond : Event.followed scope reference second ∈ s.journal) :
    first = second := by
  rcases hFollows scope reference first hFirst with
    ⟨doc, d, hScope, hDoc, hTarget⟩
  rcases hFollows scope reference second hSecond with
    ⟨other, e, hSame, hOther, hAlso⟩
  rw [hScope] at hSame
  cases hSame
  rw [hDoc] at hOther
  cases hOther
  cases first with
  | none =>
      cases second with
      | none => rfl
      | some key =>
          rw [← hAlso] at hTarget
          cases hTarget
  | some key =>
      rcases State.address?_of_map_eq hTarget with
        ⟨place, hPlace, hAddress⟩
      cases second with
      | none =>
          rw [hPlace] at hAlso
          cases hAlso
      | some same =>
          rcases State.address?_of_map_eq hAlso with
            ⟨other, hOther, hThere⟩
          rw [hPlace] at hOther
          cases hOther
          rw [hSourced.eq_of_address? hAddress hThere]

------------------------------------------------------------
-- Compilations
------------------------------------------------------------

/-
  References are resolved alike at all times.  In every
  state whose documents are what their origins say, whichever
  they are, a reference is followed to its destination; this
  depends on the document that it is followed in, on its
  text, on the options and on the loader.  All references
  that a compilation followed, also one that fails, were
  followed so; with one text and in one document they were
  followed to one node, or all to none.
-/
theorem compile_reference_destination
    (setting : Setting)
    (workingDir : Path)
    (source : Source) :
    let final := (compileWith setting workingDir source).final
    (∀ (s : State) doc d reference,
      Sourced setting source s.store →
        s.scope.head? = some doc →
          s.store.get? doc = some d →
            EndsAt setting s reference
              (destination? setting.options setting.loader d
                reference)) ∧
      final.FollowsTo setting ∧
      ∀ scope reference first second,
        Event.followed scope reference first ∈ final.journal →
          Event.followed scope reference second ∈
              final.journal →
            first = second := by
  intro final
  refine ⟨?_, ?_⟩
  · intro s doc d reference hSourced hScope hDoc
    exact followReference_destination hSourced hScope hDoc reference
  rcases compileWith_final setting workingDir source with
    ⟨_, hUnfollowed⟩ |
      ⟨doc, r, u, earlier, hRooted, hReaches, hUnwound⟩
  · constructor
    · intro scope reference target hMem
      exact absurd hMem (hUnfollowed scope reference target)
    · intro scope reference first second hMem
      exact absurd hMem (hUnfollowed scope reference first)
  · have hFinal : final = earlier.unwound u := hUnwound
    have hStart : r.FollowsTo setting := by
      intro scope reference target hMem
      exact absurd hMem (hRooted.unfollowed scope reference target)
    have hSourced :=
      Reaches.sourced hReaches hRooted.sound.sourced
    have hThere : final.FollowsTo setting := by
      have hLast :=
        Reaches.followsTo hReaches hRooted.sound.sourced hStart
      rw [hFinal]
      exact hLast.mono (State.grows_unwound setting earlier u)
        (fun _ _ _ hMem => hMem)
    rw [hFinal] at hThere ⊢
    refine ⟨hThere, ?_⟩
    intro scope reference first second hFirst hSecond
    exact hThere.unique hSourced hFirst hSecond

end SchemaGraph
