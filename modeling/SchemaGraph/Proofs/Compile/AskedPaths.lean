import Mathlib
import SchemaGraph.Proofs.Compile.BaseDirectory
import SchemaGraph.Proofs.Path.Climbing

/-
  The paths that a loader is asked for.  Each of them is the
  normal form of a path that was looked for: that of the
  source, seen from the working directory, or that of a file
  which a reference names, in the directory of a document.
  A directory that was configured relative stays relative,
  and so do the paths in it and in the directories of the
  files found there.  Nothing else makes a path relative, and
  a `..` is left only of a path that climbs above where it
  starts.

  Main declarations:
    * `State.LooksFor`
    * `State.ConfiguresRelative`
    * `State.AsksNormal`
    * `Step.asksNormal`
    * `Opens.asksNormal`
    * `compile_asked_path`
-/

namespace SchemaGraph

variable {setting : Setting}
variable {workingDir : Path}
variable {source : Source}
variable {s t : State}

------------------------------------------------------------
-- Paths that are Looked for
------------------------------------------------------------

/-
  A compilation may look for the path, which is that of its
  source or of a reference in a stored document.
-/
inductive State.LooksFor
    (workingDir : Path)
    (source : Source)
    (s : State) : Path → Prop where
  | source
      (p : Path)
      (hPath : source.path? = some p) :
      LooksFor workingDir source s (p.resolve workingDir)
  | reference
      (d : Document)
      (dir : Path)
      (reference : String)
      (hStored : d ∈ s.store.documents)
      (hDir : d.baseDir = some dir) :
      LooksFor workingDir source s
        (dir.join
          ⟨fileNameOf (splitReference reference).1 reference⟩)

/-
  A stored document has a relative directory that is
  configured: it declares it, or it was supplied in memory
  and the directory is that of the options.
-/
def State.ConfiguresRelative
    (options : Options)
    (s : State) : Prop :=
  ∃ d ∈ s.store.documents, ∃ dir,
    d.baseDir = some dir ∧
      dir.isAbsolute = false ∧
      (declaredRoot? d.root = some dir ∨
        d.origin = .inline ∧ options.baseDir = some dir)

/-
  Every path that was asked for is the normal form of one
  that was looked for, and relative directories come from
  configured ones.
-/
structure State.AsksNormal
    (options : Options)
    (workingDir : Path)
    (source : Source)
    (s : State) : Prop where
  asked :
    ∀ p outcome, .asked p outcome ∈ s.journal →
      ∃ q, s.LooksFor workingDir source q ∧ p = q.normalize
  relative :
    ∀ d ∈ s.store.documents, ∀ dir,
      d.baseDir = some dir →
        dir.isAbsolute = false →
          s.ConfiguresRelative options

/- A path is made absolute by resolving and normalizing it. -/
theorem Path.absolutize_eq_normalize
    (p workingDir : Path) :
    p.absolutize workingDir = (p.resolve workingDir).normalize := by
  unfold absolutize resolve
  split <;> rfl

/- Seen from an absolute directory, every path is absolute. -/
theorem Path.isAbsolute_resolve
    (p : Path)
    (hDirectory : workingDir.isAbsolute = true) :
    (p.resolve workingDir).isAbsolute = true := by
  unfold resolve
  split
  case isTrue hAbsolute => exact hAbsolute
  case isFalse => rw [isAbsolute_join, hDirectory, Bool.or_true]

/- What a reference seeks is looked for. -/
theorem Store.Seeks.exists_looksFor
    {p : Path}
    (hSeeks : s.store.Seeks p)
    (workingDir : Path)
    (source : Source) :
    ∃ d ∈ s.store.documents, ∃ dir q,
      d.baseDir = some dir ∧
        s.LooksFor workingDir source q ∧
        p = q.normalize ∧
        (dir.isAbsolute = true → q.isAbsolute = true) := by
  rcases hSeeks with ⟨doc, reference, hPath⟩
  unfold filePath? at hPath
  split at hPath
  case isTrue => cases hPath
  case isFalse =>
    rcases Option.map_eq_some_iff.mp hPath with ⟨dir, hDir, rfl⟩
    rcases Option.bind_eq_some_iff.mp hDir with ⟨d, hDoc, hBase⟩
    have hStored : d ∈ s.store.documents :=
      List.mem_of_getElem? hDoc
    refine ⟨d, hStored, dir, _, hBase,
      .reference d dir reference hStored hBase, rfl, ?_⟩
    intro hAbsolute
    rw [Path.isAbsolute_join, hAbsolute, Bool.or_true]

------------------------------------------------------------
-- Steps
------------------------------------------------------------

/- More documents have more to look for. -/
theorem State.LooksFor.mono
    {q : Path}
    (hLooks : s.LooksFor workingDir source q)
    (hStore : s.store.documents ⊆ t.store.documents) :
    t.LooksFor workingDir source q := by
  cases hLooks with
  | source p hPath => exact .source p hPath
  | reference d dir reference hStored hDir =>
      exact .reference d dir reference (hStore hStored) hDir

/- More documents configure more. -/
theorem State.ConfiguresRelative.mono
    {options : Options}
    (hConfigures : s.ConfiguresRelative options)
    (hStore : s.store.documents ⊆ t.store.documents) :
    t.ConfiguresRelative options := by
  rcases hConfigures with ⟨d, hStored, dir, hDir⟩
  exact ⟨d, hStore hStored, dir, hDir⟩

/-
  A document may be added, and a path be asked for that is
  the normal form of one that was looked for, if the document
  has no relative directory or there was one before.
-/
theorem State.AsksNormal.extend
    {options : Options}
    (hAsks : s.AsksNormal options workingDir source)
    (hStore : s.store.documents ⊆ t.store.documents)
    (hAsked :
      ∀ p outcome, .asked p outcome ∈ t.journal →
        .asked p outcome ∈ s.journal ∨
          ∃ q, s.LooksFor workingDir source q ∧ p = q.normalize)
    (hAdded :
      ∀ d ∈ t.store.documents, d ∉ s.store.documents →
        ∀ dir, d.baseDir = some dir → dir.isAbsolute = false →
          t.ConfiguresRelative options) :
    t.AsksNormal options workingDir source := by
  constructor
  · intro p outcome hMem
    rcases hAsked p outcome hMem with hOld | ⟨q, hLooks, hSame⟩
    · rcases hAsks.asked p outcome hOld with ⟨q, hLooks, hSame⟩
      exact ⟨q, hLooks.mono hStore, hSame⟩
    · exact ⟨q, hLooks.mono hStore, hSame⟩
  · intro d hMem dir hDir hRelative
    by_cases hOld : d ∈ s.store.documents
    · exact (hAsks.relative d hOld dir hDir hRelative).mono hStore
    · exact hAdded d hMem hOld dir hDir hRelative

/- Other events and the same documents ask for nothing more. -/
theorem State.AsksNormal.of_same
    {options : Options}
    (hAsks : s.AsksNormal options workingDir source)
    (hStore : t.store = s.store)
    (hAsked :
      ∀ p outcome, .asked p outcome ∈ t.journal →
        .asked p outcome ∈ s.journal) :
    t.AsksNormal options workingDir source := by
  apply hAsks.extend
  · rw [hStore]
    exact List.Subset.refl _
  · exact fun p outcome hMem => Or.inl (hAsked p outcome hMem)
  · intro d hMem hNew
    rw [hStore] at hMem
    exact absurd hMem hNew

/- An event that asks for nothing may be noted. -/
theorem State.AsksNormal.note
    {options : Options}
    {e : Event}
    (hAsks : s.AsksNormal options workingDir source)
    (hEvent : ∀ p outcome, e ≠ .asked p outcome) :
    (s.note e).AsksNormal options workingDir source := by
  refine State.AsksNormal.of_same (t := s.note e) hAsks rfl ?_
  intro p outcome hMem
  rcases List.mem_cons.mp hMem with hNew | hOld
  · exact absurd hNew.symm (hEvent p outcome)
  · exact hOld

/- Every step asks for normal forms of what is looked for. -/
theorem Step.asksNormal
    {options : Options}
    (hStep : Step setting s t)
    (hAsks : s.AsksNormal options workingDir source) :
    t.AsksNormal options workingDir source := by
  cases hStep with
  | missed p outcome _ _ _ _ hSeeks =>
      rcases hSeeks.exists_looksFor workingDir source with
        ⟨_, _, _, q, _, hLooks, hSame, _⟩
      refine State.AsksNormal.extend
        (t := s.note (.asked p outcome)) hAsks
        (List.Subset.refl _) ?_ (fun d hMem hNew => absurd hMem hNew)
      intro other otherOutcome hMem
      rcases List.mem_cons.mp hMem with hNew | hOld
      · cases hNew
        exact Or.inr ⟨q, hLooks, hSame⟩
      · exact Or.inl hOld
  | loaded p root _ _ _ hSeeks =>
      rcases hSeeks.exists_looksFor workingDir source with
        ⟨d, hStored, dir, q, hDir, hLooks, hSame, hAbsolute⟩
      have hStore := List.subset_append_left s.store.documents
        [(⟨root, p.parent?, .file p⟩ : Document)]
      apply hAsks.extend hStore
      · intro other outcome hMem
        rcases List.mem_cons.mp hMem with hNew | hOld
        · cases hNew
          exact Or.inr ⟨q, hLooks, hSame⟩
        · exact Or.inl hOld
      · -- The file lies in a relative directory only if it was
        -- looked for in one.
        intro e hMem hNew parent hParent hRelative
        rcases List.mem_append.mp hMem with hOld | hLast
        · exact absurd hOld hNew
        · rw [List.mem_singleton.mp hLast] at hParent
          have hFrom : dir.isAbsolute = false := by
            by_contra hNot
            have hFile : p.isAbsolute = true := by
              rw [hSame, Path.isAbsolute_normalize]
              exact hAbsolute (by simpa using hNot)
            rw [Path.isAbsolute_of_parent? hFile hParent]
              at hRelative
            cases hRelative
          exact (hAsks.relative d hStored dir hDir hFrom).mono hStore
  | registered name root =>
      have hStore := List.subset_append_left s.store.documents
        [(⟨root, declaredRoot? root, .registry name⟩ : Document)]
      apply hAsks.extend hStore
      · exact fun p outcome hMem => Or.inl hMem
      · intro e hMem hNew dir hDir hRelative
        rcases List.mem_append.mp hMem with hOld | hLast
        · exact absurd hOld hNew
        · refine ⟨e, hMem, dir, hDir, hRelative, Or.inl ?_⟩
          rw [List.mem_singleton.mp hLast] at hDir ⊢
          exact hDir
  | followed => exact hAsks.note (by simp)
  | began key =>
      have hNoted : (s.note (.began key (some key.doc))).AsksNormal
          options workingDir source :=
        hAsks.note (by simp)
      exact hNoted.of_same rfl (fun _ _ hMem => hMem)
  | answered => exact hAsks.note (by simp)
  | entered => exact hAsks.of_same rfl (fun _ _ hMem => hMem)
  | left => exact hAsks.of_same rfl (fun _ _ hMem => hMem)
  | pushed => exact hAsks.of_same rfl (fun _ _ hMem => hMem)
  | copied => exact hAsks.of_same rfl (fun _ _ hMem => hMem)
  | celled => exact hAsks.of_same rfl (fun _ _ hMem => hMem)
  | finished => exact hAsks.of_same rfl (fun _ _ hMem => hMem)

/- So do steps one after another. -/
theorem Reaches.asksNormal
    {options : Options}
    (hReaches : Reaches setting s t)
    (hAsks : s.AsksNormal options workingDir source) :
    t.AsksNormal options workingDir source := by
  induction hReaches with
  | refl => exact hAsks
  | tail _ hStep ih => exact hStep.asksNormal ih

------------------------------------------------------------
-- The Source
------------------------------------------------------------

/- At first nothing was asked for. -/
theorem State.AsksNormal.initial
    (options : Options)
    (workingDir : Path)
    (source : Source) :
    State.initial.AsksNormal options workingDir source := by
  constructor <;> simp [State.initial, Store.empty]

/- Storing the document of a source asks for its normal form. -/
theorem Opens.asksNormal
    (hOpens : Opens setting workingDir source s)
    (hDirectory : workingDir.isAbsolute = true) :
    s.AsksNormal setting.options workingDir source := by
  have hInitial :=
    State.AsksNormal.initial setting.options workingDir source
  have hSought :
      ∀ p, source.path? = some p →
        ∀ other first second,
          .asked other first ∈
              (State.initial.note
                (.asked (p.absolutize workingDir) second)).journal →
            .asked other first ∈ State.initial.journal ∨
              ∃ q, State.initial.LooksFor workingDir source q ∧
                other = q.normalize := by
    intro p hPath other first second hMem
    rcases List.mem_cons.mp hMem with hNew | hOld
    · cases hNew
      exact Or.inr ⟨_, .source p hPath,
        Path.absolutize_eq_normalize p workingDir⟩
    · exact Or.inl hOld
  cases hOpens with
  | asked p outcome hPath =>
      exact hInitial.extend (List.nil_subset _)
        (fun other first => hSought p hPath other first outcome)
        (fun d hMem => absurd hMem List.not_mem_nil)
  | loaded p schema hPath =>
      refine hInitial.extend (List.nil_subset _)
        (fun other first => hSought p hPath other first .found) ?_
      intro d hMem _ dir hDir hRelative
      refine ⟨d, hMem, dir, hDir, hRelative, Or.inl ?_⟩
      rw [List.mem_singleton.mp hMem] at hDir ⊢
      -- The directory of a file that was found is absolute.
      cases hDeclared : declaredRoot? schema with
      | some declared => simpa [hDeclared] using hDir
      | none =>
          have hFile : (p.absolutize workingDir).isAbsolute = true := by
            rw [Path.absolutize_eq_normalize,
              Path.isAbsolute_normalize]
            exact Path.isAbsolute_resolve p hDirectory
          have hParent : (p.absolutize workingDir).parent? = some dir := by
            simpa [hDeclared] using hDir
          rw [Path.isAbsolute_of_parent? hFile hParent] at hRelative
          cases hRelative
  | refused => exact hInitial
  | kept schema hSource =>
      refine hInitial.extend (List.nil_subset _)
        (fun p outcome hMem => Or.inl hMem) ?_
      intro d hMem _ dir hDir hRelative
      refine ⟨d, hMem, dir, hDir, hRelative, ?_⟩
      rw [List.mem_singleton.mp hMem] at hDir ⊢
      cases hDeclared : declaredRoot? schema with
      | some declared =>
          exact Or.inl (by simpa [hDeclared] using hDir)
      | none =>
          exact Or.inr ⟨rfl, by simpa [hDeclared] using hDir⟩

------------------------------------------------------------
-- Compilations
------------------------------------------------------------

/-
  What a compilation, also one that fails, asks the loader
  for, if the working directory is absolute.  Every path is
  the normal form of one that was looked for, so there is no
  `.` in it, and it is absolute exactly if that one is.  If
  it is not, a stored document has a relative directory that
  is configured.  There is a `..` in it exactly if the path
  that was looked for climbs above where it starts, which may
  be the root.  Paths with the same components are the same
  path.
-/
theorem compile_asked_path
    (setting : Setting)
    (source : Source)
    (hDirectory : workingDir.isAbsolute = true) :
    let final := (compileWith setting workingDir source).final
    (∀ p outcome, .asked p outcome ∈ final.journal →
      ∃ q,
        final.LooksFor workingDir source q ∧
          p = q.normalize ∧
          .current ∉ p.components ∧
          (p.isAbsolute = true ↔ q.isAbsolute = true) ∧
          (p.isAbsolute = false →
            final.ConfiguresRelative setting.options) ∧
          (.parent ∈ p.components ↔ q.climbs ≠ 0)) ∧
      ∀ p first q second,
        .asked p first ∈ final.journal →
          .asked q second ∈ final.journal →
            p.Same q → p = q := by
  intro final
  have hAsks : final.AsksNormal setting.options workingDir source := by
    have hRoot :=
      (loadRoot_opens setting workingDir source).asksNormal hDirectory
    rcases compileWith_cases setting workingDir source with
      ⟨e, hLoad⟩ |
        ⟨first, r, u, earlier, hLoad, hRooted, hReaches, hFinal⟩
    · rw [stateAfter_of_error hLoad] at hRoot
      exact hRoot
    · rw [stateAfter_of_ok hLoad] at hRoot
      rw [show final = earlier.unwound u from hFinal]
      exact (hReaches.asksNormal hRoot).of_same rfl
        (fun _ _ hMem => hMem)
  constructor
  · intro p outcome hMem
    rcases hAsks.asked p outcome hMem with ⟨q, hLooks, rfl⟩
    refine ⟨q, hLooks, rfl, q.current_not_mem_normalize, by simp,
      ?_, Path.parent_mem_normalize_iff⟩
    intro hRelative
    rw [Path.isAbsolute_normalize] at hRelative
    cases hLooks with
    | source p hPath =>
        rw [Path.isAbsolute_resolve p hDirectory] at hRelative
        cases hRelative
    | reference d dir reference hStored hDir =>
        rw [Path.isAbsolute_join, Bool.or_eq_false_iff] at hRelative
        exact hAsks.relative d hStored dir hDir hRelative.2
  · intro p first q second hP hQ hSame
    rcases hAsks.asked p first hP with ⟨_, _, rfl⟩
    rcases hAsks.asked q second hQ with ⟨_, _, rfl⟩
    exact (Path.normal_normalize _).eq_of_same
      (Path.normal_normalize _) hSame

/-
  The same reference is sought outside of the file system
  from the relative directory of the options, and above its
  root from an absolute directory.
-/
theorem compile_asked_path_relative :
    let schema := Json.object [("$ref", .string "../../a.json")]
    let setting (dir : Path) : Setting :=
      ⟨{ baseDir := some dir }, Loader.memory [], .expanding, 9⟩
    let journal (dir : Path) :=
      (compileWith (setting dir) ⟨"/work"⟩
        (.value schema)).final.journal
    (⟨"/work"⟩ : Path).isAbsolute = true ∧
      .asked ⟨"../a.json"⟩ .nothing ∈ journal ⟨"schemas"⟩ ∧
      .asked ⟨"/../a.json"⟩ .nothing ∈ journal ⟨"/dir"⟩ ∧
      (∃ q : Path,
        q.normalize = ⟨"../a.json"⟩ ∧
          q.isAbsolute = false ∧ q.climbs ≠ 0) ∧
      ∃ q : Path,
        q.normalize = ⟨"/../a.json"⟩ ∧
          q.isAbsolute = true ∧ q.climbs ≠ 0 := by
  intro schema setting journal
  have hDirectory : (⟨"/work"⟩ : Path).isAbsolute = true := by
    decide +kernel
  have hRelative :
      .asked ⟨"../a.json"⟩ .nothing ∈ journal ⟨"schemas"⟩ := by
    decide +kernel
  have hAbove :
      .asked ⟨"/../a.json"⟩ .nothing ∈ journal ⟨"/dir"⟩ := by
    decide +kernel
  refine ⟨hDirectory, hRelative, hAbove, ?_, ?_⟩
  · rcases (compile_asked_path _ _ hDirectory).1 _ _ hRelative with
      ⟨q, _, hSame, _, hAbsolute, _, hClimbs⟩
    refine ⟨q, hSame.symm, ?_, hClimbs.mp (by decide +kernel)⟩
    rw [← Bool.not_eq_true, ← hAbsolute]
    decide +kernel
  · rcases (compile_asked_path _ _ hDirectory).1 _ _ hAbove with
      ⟨q, _, hSame, _, hAbsolute, _, hClimbs⟩
    exact ⟨q, hSame.symm, hAbsolute.mp (by decide +kernel),
      hClimbs.mp (by decide +kernel)⟩

end SchemaGraph
