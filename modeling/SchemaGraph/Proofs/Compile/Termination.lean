import Mathlib
import SchemaGraph.Proofs.Compile.Fuel
import SchemaGraph.Proofs.Compile.Resolve

/-
  Compilation terminates.  The documents that a compilation
  can reach are the source, the registered documents and
  the documents that the loader serves.  The nodes of these
  documents bound how deeply nodes are nested in each other
  and how many ancestors a chain has.

  Main declarations:
    * `Loader.ServesOnly`
    * `reachablePositions`
    * `Sourced.positions_le`
    * `compile_terminates`
-/

namespace SchemaGraph

variable {options : Options}
variable {loader : Loader}
variable {engine : Pattern.Engine}
variable {source : Source}
variable {workingDir : Path}
variable {paths : Finset Path}

------------------------------------------------------------
-- Reachable Documents
------------------------------------------------------------

/- The positions of the document at a path, if there is one. -/
def Loader.positionsAt
    (loader : Loader)
    (p : Path) : Nat :=
  match loader.load p with
  | .ok (some root) => root.positions
  | _ => 0

/- Under normal paths there are documents at the given ones only. -/
def Loader.ServesOnly
    (loader : Loader)
    (paths : Finset Path) : Prop :=
  ∀ p root, p.Normal → loader.load p = .ok (some root) → p ∈ paths

/- The positions of all documents that can be reached. -/
def reachablePositions
    (options : Options)
    (loader : Loader)
    (source : Source)
    (paths : Finset Path) : Nat :=
  source.positions
    + (options.subSchemas.map (fun e => e.2.positions)).sum
    + ∑ p ∈ paths, loader.positionsAt p

/- The positions of the document with an origin. -/
def Origin.positions
    (options : Options)
    (loader : Loader)
    (source : Source) : Origin → Nat
  | .inline => source.positions
  | .file p => loader.positionsAt p
  | .registry name =>
      ((options.subSchema? name).map Json.positions).getD 0

/- A document that is what its origin says has its positions. -/
theorem Document.Served.positions_eq
    {budget : Nat}
    {d : Document}
    (hServed : d.Served ⟨options, loader, engine, budget⟩ source) :
    d.root.positions = d.origin.positions options loader source := by
  unfold Document.Served at hServed
  unfold Origin.positions
  cases hOrigin : d.origin with
  | inline =>
      simp only [hOrigin] at hServed
      rw [hServed]
      rfl
  | file p =>
      simp only [hOrigin] at hServed
      simp only [Loader.positionsAt, hServed.1]
  | registry name =>
      simp only [hOrigin] at hServed
      simp only [hServed, Option.map_some, Option.getD_some]

------------------------------------------------------------
-- Counting
------------------------------------------------------------

/- The origins of all documents that can be reached. -/
def reachableOrigins
    (options : Options)
    (paths : Finset Path) : Finset Origin :=
  {Origin.inline}
    ∪ (options.subSchemas.map (·.1)).toFinset.image Origin.registry
    ∪ paths.image Origin.file

/- Stored documents have reachable origins. -/
theorem Sourced.mem_reachableOrigins
    {budget : Nat}
    {store : Store}
    {d : Document}
    (hSourced :
      Sourced ⟨options, loader, engine, budget⟩ source store)
    (hServes : loader.ServesOnly paths)
    (hDoc : d ∈ store.documents) :
    d.origin ∈ reachableOrigins options paths := by
  have hServed := hSourced.served d hDoc
  unfold Document.Served at hServed
  unfold reachableOrigins
  cases hOrigin : d.origin with
  | inline => simp
  | file p =>
      simp only [hOrigin] at hServed
      have hPath : p ∈ paths :=
        hServes p d.root hServed.2 hServed.1
      apply Finset.mem_union_right
      exact Finset.mem_image_of_mem Origin.file hPath
  | registry name =>
      simp only [hOrigin] at hServed
      have hName :
          name ∈ (options.subSchemas.map (·.1)).toFinset := by
        rw [List.mem_toFinset, List.mem_map]
        exact ⟨_, mem_of_lookup_eq_some hServed, rfl⟩
      apply Finset.mem_union_left
      apply Finset.mem_union_right
      exact Finset.mem_image_of_mem Origin.registry hName

/- A sum over a union is at most the sum of the sums. -/
theorem sum_union_le_sum_add_sum
    (weight : Origin → Nat)
    (some others : Finset Origin) :
    ∑ origin ∈ some ∪ others, weight origin ≤
      ∑ origin ∈ some, weight origin +
        ∑ origin ∈ others, weight origin := by
  rw [← Finset.sum_union_inter]
  exact Nat.le_add_right _ _

/- All reachable origins together have the reachable positions. -/
theorem sum_reachableOrigins_le
    (options : Options)
    (loader : Loader)
    (source : Source)
    (paths : Finset Path) :
    ∑ origin ∈ reachableOrigins options paths,
        origin.positions options loader source ≤
      reachablePositions options loader source paths := by
  let weight := Origin.positions options loader source
  let names := (options.subSchemas.map (·.1)).toFinset
  have hFiles :
      ∑ origin ∈ paths.image Origin.file, weight origin =
        ∑ p ∈ paths, loader.positionsAt p :=
    Finset.sum_image (fun _ _ _ _ hSame => Origin.file.inj hSame)
  have hEntries :
      ∑ origin ∈ names.image Origin.registry, weight origin =
        ∑ name ∈ names,
          ((options.subSchema? name).map Json.positions).getD 0 :=
    Finset.sum_image (fun _ _ _ _ hSame => Origin.registry.inj hSame)
  have hInline :
      ∑ origin ∈ {Origin.inline}, weight origin = source.positions :=
    Finset.sum_singleton _ _
  have hRegistry :=
    sum_lookup_le Json.positions options.subSchemas
  calc ∑ origin ∈ reachableOrigins options paths, weight origin
      ≤ ∑ origin ∈ {Origin.inline} ∪ names.image Origin.registry,
            weight origin +
          ∑ origin ∈ paths.image Origin.file, weight origin :=
        sum_union_le_sum_add_sum weight _ _
    _ ≤ source.positions +
            ∑ name ∈ names,
              ((options.subSchema? name).map Json.positions).getD 0 +
          ∑ p ∈ paths, loader.positionsAt p := by
        rw [hFiles, ← hInline, ← hEntries]
        apply Nat.add_le_add_right
        exact sum_union_le_sum_add_sum weight _ _
    _ ≤ reachablePositions options loader source paths := by
        apply Nat.add_le_add_right
        exact Nat.add_le_add_left hRegistry _

/- Stored documents have at most the reachable positions. -/
theorem Sourced.positions_le
    {budget : Nat}
    {store : Store}
    (hSourced :
      Sourced ⟨options, loader, engine, budget⟩ source store)
    (hServes : loader.ServesOnly paths) :
    store.positions ≤
      reachablePositions options loader source paths := by
  let weight := Origin.positions options loader source
  let origins := store.documents.map Document.origin
  have hListed :
      origins.toFinset ⊆ reachableOrigins options paths := by
    intro origin hMem
    rcases List.mem_map.mp (List.mem_toFinset.mp hMem) with
      ⟨d, hDoc, rfl⟩
    exact hSourced.mem_reachableOrigins hServes hDoc
  calc store.positions
      = (origins.map weight).sum := by
        rw [Store.positions, List.map_map]
        congr 1
        apply List.map_congr_left
        intro d hDoc
        exact (hSourced.served d hDoc).positions_eq
    _ = ∑ origin ∈ origins.toFinset, weight origin :=
        (List.sum_toFinset weight hSourced.distinct).symm
    _ ≤ ∑ origin ∈ reachableOrigins options paths,
          weight origin :=
        Finset.sum_le_sum_of_subset hListed
    _ ≤ reachablePositions options loader source paths :=
        sum_reachableOrigins_le options loader source paths

------------------------------------------------------------
-- Termination
------------------------------------------------------------

/- With enough budget there are never too many nodes. -/
theorem compileSteps_ne_tooManyNodes
    {budget : Nat}
    (workingDir : Path)
    (hServes : loader.ServesOnly paths)
    (hBudget :
      reachablePositions options loader source paths ≤ budget + 1)
    (t : State) :
    compileSteps ⟨options, loader, engine, budget⟩ Watch.never
        workingDir source State.initial ≠
      .error .tooManyNodes t := by
  intro hSteps
  rcases compileSteps_error hSteps with
    ⟨hSource, _⟩ | ⟨doc, r, u, hRooted, hReaches, hEnded, _⟩
  · cases hSource
  · have hSound := Reaches.sound hReaches hRooted.sound
    have hFew := hSound.sourced.positions_le hServes
    have hOver : budget + 1 < u.store.positions :=
      hEnded.justified (Watch.quiet_never _ source)
    omega

/- All budgets that are enough give the same compilation. -/
theorem compileWith_eq_of_enough
    {some other : Nat}
    (workingDir : Path)
    (hServes : loader.ServesOnly paths)
    (hSome :
      reachablePositions options loader source paths ≤ some + 1)
    (hOther :
      reachablePositions options loader source paths ≤ other + 1) :
    compileWith ⟨options, loader, engine, some⟩ workingDir source =
      compileWith ⟨options, loader, engine, other⟩ workingDir
        source := by
  rcases Nat.le_total some other with hLe | hLe
  · exact
      (compileWith_eq_of_le hLe
        (compileSteps_ne_tooManyNodes workingDir hServes
          hSome)).symm
  · exact
      compileWith_eq_of_le hLe
        (compileSteps_ne_tooManyNodes workingDir hServes hOther)

/- The budget that is chosen is enough if the loader's extent is. -/
theorem reachablePositions_le_nodeBudget
    (options : Options)
    (source : Source)
    (hExtent : ∑ p ∈ paths, loader.positionsAt p ≤ loader.extent) :
    reachablePositions options loader source paths ≤
      nodeBudget options loader source + 1 := by
  unfold reachablePositions nodeBudget
  rw [← List.sum_eq_foldl]
  omega

/-
  For a loader with finitely many documents, the nodes of the
  documents that can be reached bound both the nesting of
  nodes and the length of every chain of ancestors: a budget
  of that size is never exceeded, and every other such
  budget gives the same result, the chosen one included.
-/
theorem compile_terminates
    {budget : Nat}
    (engine : Pattern.Engine)
    (workingDir : Path)
    (hServes : loader.ServesOnly paths)
    (hBudget :
      reachablePositions options loader source paths ≤ budget + 1) :
    (compileWith ⟨options, loader, engine, budget⟩ workingDir
          source).result ≠
        .error .tooManyNodes ∧
      (∀ more, budget ≤ more →
        compileWith ⟨options, loader, engine, more⟩ workingDir
            source =
          compileWith ⟨options, loader, engine, budget⟩ workingDir
            source) ∧
      ∀ workspace : Workspace,
        options.loaderIn workspace = loader →
          workspace.directory = workingDir →
            ∑ p ∈ paths, loader.positionsAt p ≤ loader.extent →
              compile workspace options source =
                compileWith ⟨options, loader, .expanding, budget⟩
                  workingDir source := by
  refine ⟨?_, ?_, ?_⟩
  · intro hResult
    unfold compileWith compileWatched at hResult
    split at hResult
    case h_1 => cases hResult
    case h_2 e t hSteps =>
      cases hResult
      exact
        compileSteps_ne_tooManyNodes workingDir hServes hBudget t
          hSteps
  · intro more hLe
    exact
      compileWith_eq_of_enough workingDir hServes
        (Nat.le_trans hBudget (Nat.add_le_add_right hLe 1)) hBudget
  · rintro workspace rfl rfl hExtent
    exact
      compileWith_eq_of_enough workspace.directory hServes
        (reachablePositions_le_nodeBudget options source hExtent)
        hBudget

/- Two documents that extend each other. -/
def Loader.twins : Loader where
  load := fun p =>
    if p = ⟨"/first.json"⟩ then
      .ok (some (.object
        [("extends", .object [("$ref", .string "second.json")]),
          ("type", .string "object")]))
    else if p = ⟨"/second.json"⟩ then
      .ok (some (.object
        [("extends", .object [("$ref", .string "first.json")]),
          ("type", .string "object")]))
    else
      .ok none
  extent := 8

/- The two documents are served under two paths. -/
theorem Loader.servesOnly_twins :
    Loader.twins.ServesOnly {⟨"/first.json"⟩, ⟨"/second.json"⟩} := by
  intro p root _ hLoad
  by_cases hFirst : p = ⟨"/first.json"⟩
  · simp [hFirst]
  · by_cases hSecond : p = ⟨"/second.json"⟩
    · simp [hSecond]
    · simp [Loader.twins, hFirst, hSecond] at hLoad

/- A schema that extends a document that extends it is compiled. -/
theorem compile_terminates_twins :
    let options : Options := { loader := some Loader.twins }
    let source := Source.path ⟨"/first.json"⟩
    (compileWith ⟨options, Loader.twins, .expanding, 7⟩ ⟨"/"⟩
          source).result ≠
        .error .tooManyNodes ∧
      compile ⟨⟨"/"⟩, FileTree.empty⟩ options source =
        compileWith ⟨options, Loader.twins, .expanding, 7⟩ ⟨"/"⟩
          source := by
  intro options source
  have hBudget :
      reachablePositions options Loader.twins source
          {⟨"/first.json"⟩, ⟨"/second.json"⟩} ≤
        7 + 1 := by
    decide +kernel
  rcases compile_terminates .expanding ⟨"/"⟩
    Loader.servesOnly_twins hBudget
    with ⟨hEnds, _, hCompile⟩
  exact ⟨hEnds, hCompile _ rfl rfl (by decide +kernel)⟩

end SchemaGraph
