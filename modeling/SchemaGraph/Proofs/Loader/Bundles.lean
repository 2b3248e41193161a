import Mathlib
import SchemaGraph.Proofs.Loader.Preloading

/-
  Bundles of files behind a mount point.  A path below the
  mount point is read by cutting off the normal form of the
  mount point; what is left must be the path of a file.  It
  comes to the same as keeping every file under the normal
  form of its path, continued from the mount point: the path
  of a file goes down along names only, and so it neither
  takes back a name of the mount point nor has an idle part.

  Main declarations:
    * `Path.Descends`
    * `Path.Descends.components_normalize_join`
    * `Path.Descends.stripLeading?_eq_iff`
    * `Loader.Bundled`
    * `Loader.mounted`
    * `Loader.bundled_bundle`
    * `Loader.load_embedded_eq_some_iff`
    * `Loader.load_embedded_eq_load_memory`
-/

namespace SchemaGraph

namespace Path

------------------------------------------------------------
-- Paths of Names
------------------------------------------------------------

/- The path goes down along names. -/
def Descends
    (p : Path) : Prop :=
  ∀ c ∈ p.components, ∃ name, c = .name name

section Names

variable {base p q : Path}

/- A path of names is relative. -/
theorem Descends.isAbsolute_eq
    (hDescends : p.Descends) :
    p.isAbsolute = false := by
  rw [Bool.eq_false_iff]
  intro hAbsolute
  rcases hDescends .root (isAbsolute_iff.mp hAbsolute) with
    ⟨name, hName⟩
  cases hName

/- The components of a path of names are those of its parts. -/
theorem Descends.filterMap_slashParts
    (hDescends : p.Descends) :
    (Pointer.slashParts p.text).filterMap ofPart = p.components := by
  unfold Descends at hDescends
  unfold components at hDescends ⊢
  split
  case h_1 next rest hParts =>
    simp only [hParts] at hDescends
    rcases hDescends .root List.mem_cons_self with ⟨name, hName⟩
    cases hName
  case h_2 rest hParts =>
    simp only [hParts] at hDescends
    rcases hDescends .current List.mem_cons_self with ⟨name, hName⟩
    cases hName
  case h_3 => rfl

/- Names are added to what was normalized before. -/
theorem foldl_normalizeStep_names
    (done : List Component)
    {cs : List Component}
    (hNames : ∀ c ∈ cs, ∃ name, c = .name name) :
    cs.foldl normalizeStep done = done ++ cs := by
  induction cs generalizing done with
  | nil => exact (List.append_nil done).symm
  | cons c rest ih =>
      rcases hNames c List.mem_cons_self with ⟨name, rfl⟩
      rw [List.foldl_cons,
        ih _ (fun d hMem => hNames d (List.mem_cons_of_mem _ hMem))]
      exact List.append_assoc done [_] rest

/- A path of names is added to the normal form that it continues. -/
theorem Descends.components_normalize_join
    (base : Path)
    (hDescends : p.Descends) :
    (base.join p).normalize.components =
      base.normalize.components ++ p.components := by
  rw [components_normalize, components_normalize,
    normalizeComponents_join hDescends.isAbsolute_eq,
    hDescends.filterMap_slashParts]
  exact foldl_normalizeStep_names _ hDescends

/- What is left behind leading components. -/
theorem stripLeading?_eq_some_iff
    {lead cs rest : List Component} :
    stripLeading? lead cs = some rest ↔ cs = lead ++ rest := by
  constructor
  · intro hRest
    induction lead generalizing cs with
    | nil => exact Option.some.inj hRest
    | cons c lead ih =>
        cases cs with
        | nil => cases hRest
        | cons d cs =>
            by_cases hSame : c = d
            · rw [stripLeading?, if_pos hSame] at hRest
              rw [List.cons_append, hSame, ih hRest]
            · rw [stripLeading?, if_neg hSame] at hRest
              cases hRest
  · rintro rfl
    exact stripLeading?_append lead rest

/-
  A path of names is left of a path exactly if it leads there
  from what was cut off.
-/
theorem Descends.stripLeading?_eq_iff
    (hDescends : p.Descends) :
    stripLeading? base.normalize.components q.normalize.components =
        some p.components ↔
      (base.join p).normalize = q.normalize := by
  rw [stripLeading?_eq_some_iff, ← Loader.same_normalize_iff, Same,
    hDescends.components_normalize_join, eq_comm]

/- Paths of names that lead to one place have the same components. -/
theorem Descends.same_of_normalize_join
    (hP : p.Descends)
    (hQ : q.Descends)
    (hSame : (base.join p).normalize = (base.join q).normalize) :
    p.Same q := by
  have hComponents := congrArg components hSame
  rw [hP.components_normalize_join, hQ.components_normalize_join]
    at hComponents
  exact List.append_cancel_left hComponents

end Names

end Path

------------------------------------------------------------
-- Bundles
------------------------------------------------------------

/-
  The files of a tree, each under the names that lead to it
  with slashes between them.
-/
def FileTree.bundle
    (tree : FileTree) : List (Path × ByteArray) :=
  tree.files.map (fun file =>
    (⟨String.intercalate "/" file.1⟩, file.2))

namespace Loader

/-
  The files of a directory: each one once, under the names
  that lead to it.
-/
structure Bundled
    (bundle : List (Path × ByteArray)) : Prop where
  descends : ∀ file ∈ bundle, file.1.Descends
  apart : bundle.Pairwise (fun a b => ¬ a.1.Same b.1)

/-
  The documents of the files that hold one, each under the
  path of its file, continued from a mount point.
-/
def mounted
    (mount : Path)
    (bundle : List (Path × ByteArray)) : List (Path × Json) :=
  bundle.filterMap (fun file =>
    (Json.ofBytes? file.2).map (fun d => (mount.join file.1, d)))

/- The files of a tree make a bundle. -/
theorem bundled_bundle
    {tree : FileTree}
    (hNamed :
      ∀ file ∈ tree.files, ∀ name ∈ file.1, Path.IsEntryName name)
    (hOnce : (tree.files.map (·.1)).Nodup) :
    Bundled tree.bundle where
  descends := by
    intro entry hMem
    rcases List.mem_map.mp hMem with ⟨file, hFile, rfl⟩
    rw [Path.Descends, Path.components_intercalate (hNamed file hFile)]
    intro c hName
    rcases List.mem_map.mp hName with ⟨name, _, rfl⟩
    exact ⟨name, rfl⟩
  apart := by
    rw [FileTree.bundle, List.pairwise_map]
    refine (List.pairwise_map.mp hOnce).imp_of_mem ?_
    intro file other hFile hOther hApart hSame
    rw [Path.Same, Path.components_intercalate (hNamed file hFile),
      Path.components_intercalate (hNamed other hOther)] at hSame
    exact hApart (Path.map_name_inj.mp hSame)

section Bundles

variable {mount p : Path}
variable {bundle : List (Path × ByteArray)}
variable {file : Path × ByteArray}
variable {documents : List (Path × Json)}
variable {d : Json}

/- Files are loaded from below the mount point. -/
theorem load_embedded_of_mem
    (hBundle : Bundled bundle)
    (hFile : file ∈ bundle)
    (hPath : (mount.join file.1).normalize = p.normalize)
    (hHolds : Json.ofBytes? file.2 = some d) :
    (embedded mount bundle).load p = .ok (some d) := by
  have hRest :=
    (hBundle.descends file hFile).stripLeading?_eq_iff.mpr hPath
  -- No file before it has the same components.
  have hFound :
      bundle.find? (fun e => e.1.components = file.1.components) =
        some file := by
    rw [List.find?_eq_some_iff_append]
    rcases List.append_of_mem hFile with ⟨before, after, hBundled⟩
    refine ⟨by simp, before, after, hBundled, ?_⟩
    intro other hOther
    have hApart := hBundle.apart
    rw [hBundled] at hApart
    have hOnly :=
      (List.pairwise_append.mp hApart).2.2 other hOther file
        List.mem_cons_self
    simpa [Path.Same] using hOnly
  rcases Option.bind_eq_some_iff.mp hHolds with ⟨text, hText, hRead⟩
  simp only [embedded, hRest, hFound, hText, parse, hRead]

/- Nothing is loaded where no file is. -/
theorem load_embedded_of_forall_ne
    (hBundle : Bundled bundle)
    (hNone :
      ∀ file ∈ bundle, (mount.join file.1).normalize ≠ p.normalize) :
    (embedded mount bundle).load p = .ok none := by
  cases hRest :
      Path.stripLeading? mount.normalize.components
        p.normalize.components with
  | none => simp only [embedded, hRest]
  | some relative =>
      have hFound :
          bundle.find? (fun e => e.1.components = relative) = none := by
        rw [List.find?_eq_none]
        intro file hFile hSame
        apply hNone file hFile
        rw [← (hBundle.descends file hFile).stripLeading?_eq_iff, hRest,
          of_decide_eq_true hSame]
      simp only [embedded, hRest, hFound]

/- A document is loaded exactly where a file that holds it is. -/
theorem load_embedded_eq_some_iff
    (hBundle : Bundled bundle)
    (hHold : ∀ file ∈ bundle, (Json.ofBytes? file.2).isSome) :
    (embedded mount bundle).load p = .ok (some d) ↔
      ∃ file ∈ bundle,
        (mount.join file.1).normalize = p.normalize ∧
          Json.ofBytes? file.2 = some d := by
  constructor
  · intro hLoad
    by_cases hFile :
        ∃ file ∈ bundle, (mount.join file.1).normalize = p.normalize
    · rcases hFile with ⟨file, hMem, hPath⟩
      rcases Option.isSome_iff_exists.mp (hHold file hMem) with
        ⟨held, hHolds⟩
      rw [load_embedded_of_mem hBundle hMem hPath hHolds] at hLoad
      cases hLoad
      exact ⟨file, hMem, hPath, hHolds⟩
    · rw [load_embedded_of_forall_ne hBundle
        (fun file hMem hPath => hFile ⟨file, hMem, hPath⟩)] at hLoad
      cases hLoad
  · rintro ⟨file, hMem, hPath, hHolds⟩
    exact load_embedded_of_mem hBundle hMem hPath hHolds

------------------------------------------------------------
-- Mounted Documents
------------------------------------------------------------

/- A document is mounted for every file that holds it. -/
theorem mem_mounted
    (hFile : file ∈ bundle)
    (hHolds : Json.ofBytes? file.2 = some d) :
    (mount.join file.1, d) ∈ mounted mount bundle :=
  List.mem_filterMap.mpr ⟨file, hFile, by rw [hHolds]; rfl⟩

/- Every document is mounted for a file. -/
theorem exists_of_mem_mounted
    {e : Path × Json}
    (hMem : e ∈ mounted mount bundle) :
    ∃ file ∈ bundle, e.1 = mount.join file.1 := by
  rcases List.mem_filterMap.mp hMem with ⟨file, hFile, hEntry⟩
  rcases Option.map_eq_some_iff.mp hEntry with ⟨_, _, rfl⟩
  exact ⟨file, hFile, rfl⟩

/- No two documents are mounted under one normal form. -/
theorem pairwise_mounted
    (mount : Path)
    (hBundle : Bundled bundle) :
    (mounted mount bundle).Pairwise
      (fun a b => a.1.normalize ≠ b.1.normalize) := by
  rw [mounted, List.pairwise_filterMap]
  refine hBundle.apart.imp_of_mem ?_
  intro file other hFile hOther hApart e hEntry e' hEntry' hSame
  rcases Option.map_eq_some_iff.mp hEntry with ⟨_, _, rfl⟩
  rcases Option.map_eq_some_iff.mp hEntry' with ⟨_, _, rfl⟩
  exact hApart
    ((hBundle.descends file hFile).same_of_normalize_join
      (hBundle.descends other hOther) hSame)

/- In whatever order documents are kept, a mounted one is found. -/
theorem load_memory_of_mounted
    (hBundle : Bundled bundle)
    (hMounted : documents.Perm (mounted mount bundle))
    (hFile : file ∈ bundle)
    (hPath : (mount.join file.1).normalize = p.normalize)
    (hHolds : Json.ofBytes? file.2 = some d) :
    (memory documents).load p = .ok (some d) := by
  rw [load_memory_eq_some_iff]
  rcases List.append_of_mem
    (hMounted.mem_iff.mpr (mem_mounted hFile hHolds)) with
    ⟨before, after, hDocuments⟩
  have hApart :=
    (hMounted.pairwise_iff (fun hOther => Ne.symm hOther)).mpr
      (pairwise_mounted mount hBundle)
  rw [hDocuments] at hApart
  refine ⟨before, mount.join file.1, after, hDocuments, hPath, ?_⟩
  intro e hLater
  rw [← hPath]
  have hRest := (List.pairwise_append.mp hApart).2.1
  exact ((List.pairwise_cons.mp hRest).1 e hLater).symm

/-
  A bundle of files that all hold documents serves what is
  served when every document is kept under the path of its
  file, continued from the mount point: the same document, or
  none, under every path, however the mount point and the
  path are written and in whatever order the documents were
  put there.  It is the document of the file whose continued
  path has the normal form of the path.
-/
theorem load_embedded_eq_load_memory
    (hBundle : Bundled bundle)
    (hHold : ∀ file ∈ bundle, (Json.ofBytes? file.2).isSome)
    (hMounted : documents.Perm (mounted mount bundle))
    (p : Path) :
    (embedded mount bundle).load p = (memory documents).load p ∧
      ∀ d,
        (embedded mount bundle).load p = .ok (some d) ↔
          ∃ file ∈ bundle,
            (mount.join file.1).normalize = p.normalize ∧
              Json.ofBytes? file.2 = some d := by
  refine ⟨?_, fun _ => load_embedded_eq_some_iff hBundle hHold⟩
  by_cases hFile :
      ∃ file ∈ bundle, (mount.join file.1).normalize = p.normalize
  · rcases hFile with ⟨file, hMem, hPath⟩
    rcases Option.isSome_iff_exists.mp (hHold file hMem) with
      ⟨d, hHolds⟩
    rw [load_embedded_of_mem hBundle hMem hPath hHolds,
      load_memory_of_mounted hBundle hMounted hMem hPath hHolds]
  · have hNone :
        ∀ file ∈ bundle,
          (mount.join file.1).normalize ≠ p.normalize :=
      fun file hMem hPath => hFile ⟨file, hMem, hPath⟩
    rw [load_embedded_of_forall_ne hBundle hNone, eq_comm,
      load_memory_eq_none_iff]
    intro e hEntry
    rcases exists_of_mem_mounted (hMounted.mem_iff.mp hEntry) with
      ⟨file, hMem, hPath⟩
    rw [hPath]
    exact hNone file hMem

end Bundles

/- Two files, one of them in a directory of its own. -/
def nestedFiles : FileTree :=
  ⟨[(["c.json"], "true".toUTF8), (["n", "b.json"], "[true]".toUTF8)],
    []⟩

/- The bundle of these files. -/
def nestedBundle : List (Path × ByteArray) :=
  nestedFiles.bundle

/- Their documents, continued from a mount point as it is written. -/
def nestedDocuments : List (Path × Json) :=
  [(⟨"/m/./x/../n/b.json"⟩, .array [.bool true]),
    (⟨"/m/./x/../c.json"⟩, .bool true)]

/-
  Neither the mount point nor the path is in normal form, and
  the documents are kept in another order.
-/
theorem load_embedded_eq_load_memory_nested :
    let mount : Path := ⟨"/m/./x/.."⟩
    let p : Path := ⟨"/m/c.json/.././n/b.json"⟩
    Bundled nestedBundle ∧
      (∀ file ∈ nestedBundle, (Json.ofBytes? file.2).isSome) ∧
      nestedDocuments.Perm (mounted mount nestedBundle) ∧
      (embedded mount nestedBundle).load p =
        (memory nestedDocuments).load p ∧
      (embedded mount nestedBundle).load p =
        .ok (some (.array [.bool true])) := by
  intro mount p
  have hBool : Json.ofBytes? "true".toUTF8 = some (.bool true) := by
    rfl
  have hArray :
      Json.ofBytes? "[true]".toUTF8 = some (.array [.bool true]) := by
    rfl
  have hBundle : Bundled nestedBundle :=
    bundled_bundle (by decide) (by decide)
  have hHold :
      ∀ file ∈ nestedBundle, (Json.ofBytes? file.2).isSome := by
    intro file hFile
    rcases List.mem_map.mp hFile with ⟨entry, hEntry, rfl⟩
    rcases List.mem_cons.mp hEntry with rfl | hLast
    · rw [hBool]
      rfl
    · rw [List.mem_singleton.mp hLast, hArray]
      rfl
  have hJoined :
      mount.join ⟨"c.json"⟩ = ⟨"/m/./x/../c.json"⟩ ∧
        mount.join ⟨"n/b.json"⟩ = ⟨"/m/./x/../n/b.json"⟩ := by
    decide
  have hMounted :
      nestedDocuments.Perm (mounted mount nestedBundle) := by
    have hNames :
        String.intercalate "/" ["c.json"] = "c.json" ∧
          String.intercalate "/" ["n", "b.json"] = "n/b.json" := by
      decide
    simp only [mounted, nestedBundle, FileTree.bundle, nestedFiles,
      nestedDocuments, List.map_cons, List.map_nil, hNames,
      List.filterMap_cons, hBool, hArray, Option.map_some, hJoined,
      List.filterMap_nil]
    exact List.Perm.swap _ _ _
  rcases load_embedded_eq_load_memory hBundle hHold hMounted p with
    ⟨hSame, hServes⟩
  refine ⟨hBundle, hHold, hMounted, hSame, (hServes _).mpr ?_⟩
  refine ⟨(⟨"n/b.json"⟩, "[true]".toUTF8), ?_, by decide, hArray⟩
  exact List.mem_cons_of_mem _ List.mem_cons_self

end Loader

end SchemaGraph
