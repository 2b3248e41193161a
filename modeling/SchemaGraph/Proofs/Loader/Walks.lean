import Mathlib
import SchemaGraph.FileTree
import SchemaGraph.Proofs.Json.Members
import SchemaGraph.Proofs.Path.Entries

/-
  Walks through trees of files.  In a tree in which nothing
  is below a file, a walk lists every file below a directory
  once, in the order of the names that lead there.

  Main declarations:
    * `FileTree.places`
    * `FileTree.WellFormed`
    * `FileTree.mem_namesIn_iff`
    * `FileTree.Lists`
    * `FileTree.exists_walkAt`
    * `FileTree.exists_walk`
-/

namespace SchemaGraph

namespace FileTree

/- The locations of all files, and of directories that are listed. -/
def places
    (tree : FileTree) : List Location :=
  tree.files.map (·.1) ++ tree.directories

/- Entries have names that paths can go along, and files have no entries. -/
structure WellFormed
    (tree : FileTree) : Prop where
  named :
    ∀ place ∈ tree.places, ∀ name ∈ place, Path.IsEntryName name
  closed :
    ∀ place, (tree.bytesAt? place).isSome →
      ∀ other ∈ tree.places, place <+: other → other = place

section Walks

variable {tree : FileTree}
variable {here : Location}

------------------------------------------------------------
-- Places
------------------------------------------------------------

/- A file is at a place. -/
theorem mem_places_of_isSome
    (hFile : (tree.bytesAt? here).isSome) :
    here ∈ tree.places := by
  rcases Option.isSome_iff_exists.mp hFile with ⟨bytes, hBytes⟩
  rcases List.lookup_eq_some_iff.mp hBytes with
    ⟨before, after, hFiles, _⟩
  simp [places, hFiles]

/- No place is longer than the tree is high. -/
theorem length_le_height
    (hPlace : here ∈ tree.places) :
    here.length ≤ tree.height := by
  have hFold :
      ∀ (places : List Location) (n : Nat),
        n ≤ places.foldl (fun n l => max n l.length) n ∧
          ∀ place ∈ places,
            place.length ≤
              places.foldl (fun n l => max n l.length) n := by
    intro places
    induction places with
    | nil => intro n; simp
    | cons first rest ih =>
        intro n
        rcases ih (max n first.length) with ⟨hLeast, hRest⟩
        rw [List.foldl_cons]
        refine ⟨(le_max_left _ _).trans hLeast, ?_⟩
        intro place hMem
        rcases List.mem_cons.mp hMem with rfl | hLater
        · exact (le_max_right _ _).trans hLeast
        · exact hRest place hLater
  exact (hFold tree.places 0).2 here hPlace

/- The names in a directory are those on the way to a place. -/
theorem mem_namesIn_iff
    {name : String} :
    name ∈ tree.namesIn here ↔
      ∃ place ∈ tree.places, here ++ [name] <+: place := by
  -- The name that follows on the way to a place, if there is one.
  have hBelow :
      ∀ place : Location,
        (if here.isPrefixOf place then
            (place.drop here.length).head?
          else
            none) = some name ↔
          here ++ [name] <+: place := by
    intro place
    constructor
    · intro hNext
      split at hNext
      case isTrue hPrefix =>
        rcases List.isPrefixOf_iff_prefix.mp hPrefix with
          ⟨rest, rfl⟩
        rw [List.drop_left] at hNext
        rcases List.head?_eq_some_iff.mp hNext with ⟨more, rfl⟩
        exact ⟨more, by simp⟩
      case isFalse => cases hNext
    · rintro ⟨more, rfl⟩
      rw [List.append_assoc, if_pos (by simp), List.drop_left]
      rfl
  unfold namesIn
  dsimp only
  constructor
  · intro hMem
    rcases List.mem_map.mp hMem with ⟨entry, hEntry, rfl⟩
    rcases List.mem_map.mp (Members.mem_of_mem_ofList hEntry) with
      ⟨name, hName, rfl⟩
    rcases List.mem_filterMap.mp hName with ⟨place, hPlace, hNext⟩
    exact ⟨place, hPlace, (hBelow place).mp hNext⟩
  · rintro ⟨place, hPlace, hPrefix⟩
    have hPair :
        (name, ()) ∈
          (tree.places.filterMap (fun place =>
              if here.isPrefixOf place then
                (place.drop here.length).head?
              else
                none)).map (fun n => (n, ())) :=
      List.mem_map_of_mem
        (List.mem_filterMap.mpr
          ⟨place, hPlace, (hBelow place).mpr hPrefix⟩)
    rcases Members.exists_mem_ofList hPair with ⟨held, hHeld⟩
    exact List.mem_map.mpr ⟨(name, held), hHeld, rfl⟩

/- The names in a directory are in order. -/
theorem sorted_namesIn
    (tree : FileTree)
    (here : Location) :
    (tree.namesIn here).Pairwise (· < ·) := by
  unfold namesIn
  exact List.pairwise_map.mpr (Members.sorted_ofList _)

------------------------------------------------------------
-- Walks
------------------------------------------------------------

/- Every entry is walked on its own. -/
theorem walkNames_eq
    (tree : FileTree)
    (depth : Nat)
    (p : Path)
    (here : Location)
    (names : List String) :
    tree.walkNames depth p here names =
      names.flatMap (fun name =>
        tree.walkAt depth (p.join ⟨name⟩) (here ++ [name])) := by
  induction names with
  | nil => rw [walkNames]; rfl
  | cons name rest ih => rw [walkNames, ih]; rfl

/-
  The lists of names are those that lead to the files below a
  location within a number of names, in order.
-/
structure Lists
    (tree : FileTree)
    (here : Location)
    (depth : Nat)
    (lists : List (List String)) : Prop where
  sorted : lists.Pairwise (· < ·)
  mem_iff :
    ∀ names,
      names ∈ lists ↔
        names.length < depth ∧
          (tree.bytesAt? (here ++ names)).isSome

/- A file is the only one below its own location. -/
theorem lists_of_file
    (hTree : tree.WellFormed)
    (depth : Nat)
    (hFile : (tree.bytesAt? here).isSome) :
    tree.Lists here (depth + 1) [[]] where
  sorted := List.pairwise_singleton _ _
  mem_iff := by
    intro names
    rw [List.mem_singleton]
    constructor
    · rintro rfl
      simpa using hFile
    · rintro ⟨_, hBelow⟩
      have hSame :=
        hTree.closed here hFile _ (mem_places_of_isSome hBelow)
          (List.prefix_append here names)
      simpa using hSame

/- Below a directory there are the files below its entries. -/
theorem lists_of_entries
    {depth : Nat}
    {lists : String → List (List String)}
    (hDirectory : ¬ (tree.bytesAt? here).isSome)
    (hLists :
      ∀ name, tree.Lists (here ++ [name]) depth (lists name)) :
    tree.Lists here (depth + 1)
      ((tree.namesIn here).flatMap (fun name =>
        (lists name).map (name :: ·))) where
  sorted := by
    rw [List.pairwise_flatMap]
    constructor
    · intro name _
      exact List.pairwise_map.mpr
        ((hLists name).sorted.imp (fun hLess => List.Lex.cons hLess))
    · refine (sorted_namesIn tree here).imp ?_
      rintro a b hLess _ hFirst _ hSecond
      rcases List.mem_map.mp hFirst with ⟨_, _, rfl⟩
      rcases List.mem_map.mp hSecond with ⟨_, _, rfl⟩
      exact List.Lex.rel hLess
  mem_iff := by
    intro names
    cases names with
    | nil =>
        rw [List.append_nil]
        simp [hDirectory]
    | cons name rest =>
        have hPlace :
            (tree.bytesAt? (here ++ name :: rest)).isSome →
              name ∈ tree.namesIn here :=
          fun hFile =>
            mem_namesIn_iff.mpr
              ⟨_, mem_places_of_isSome hFile, rest, by simp⟩
        have hRest := (hLists name).mem_iff rest
        rw [List.append_assoc] at hRest
        rw [List.mem_flatMap, List.length_cons,
          Nat.add_lt_add_iff_right]
        constructor
        · rintro ⟨_, _, hMapped⟩
          rcases List.mem_map.mp hMapped with ⟨_, hMem, hSame⟩
          cases hSame
          exact hRest.mp hMem
        · intro hFile
          exact ⟨name, hPlace hFile.2,
            List.mem_map.mpr ⟨rest, hRest.mpr hFile, rfl⟩⟩

/- A walk goes to the files that lists of names lead to. -/
theorem exists_walkAt
    (hTree : tree.WellFormed)
    (depth : Nat)
    (p : Path)
    (here : Location) :
    ∃ lists : List (List String),
      tree.walkAt depth p here =
          lists.map (fun names => (p.below names, here ++ names)) ∧
        tree.Lists here depth lists := by
  induction depth generalizing p here with
  | zero =>
      refine ⟨[], by rw [walkAt]; rfl, List.Pairwise.nil, ?_⟩
      intro names
      simp
  | succ depth ih =>
      rw [walkAt]
      by_cases hFile : (tree.bytesAt? here).isSome
      · refine ⟨[[]], ?_, lists_of_file hTree depth hFile⟩
        rw [if_pos hFile]
        simp [Path.below]
      · choose lists hWalk hLists using fun name =>
          ih (p.join ⟨name⟩) (here ++ [name])
        refine ⟨_, ?_, lists_of_entries hFile hLists⟩
        rw [if_neg hFile, walkNames_eq, List.map_flatMap]
        congr 1
        funext name
        rw [hWalk, List.map_map]
        apply List.map_congr_left
        intro names _
        simp [Path.below]

/- A walk lists the files below a directory, in order. -/
theorem exists_walk
    (hTree : tree.WellFormed)
    {workingDir p : Path}
    (hHere : tree.locate? workingDir p = some here) :
    ∃ lists : List (List String),
      tree.walk workingDir p =
          lists.map (fun names => (p.below names, here ++ names)) ∧
        lists.Pairwise (· < ·) ∧
        ∀ names,
          names ∈ lists ↔ (tree.bytesAt? (here ++ names)).isSome := by
  rcases exists_walkAt hTree (tree.height + 1) p here with
    ⟨lists, hWalk, hLists⟩
  refine ⟨lists, ?_, hLists.sorted, ?_⟩
  · rw [walk, hHere]
    exact hWalk
  · intro names
    rw [hLists.mem_iff, and_iff_right_iff_imp]
    intro hFile
    have hHeight := length_le_height (mem_places_of_isSome hFile)
    rw [List.length_append] at hHeight
    omega

end Walks

end FileTree

end SchemaGraph
