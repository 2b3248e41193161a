import Mathlib
import SchemaGraph.Proofs.Inheritance.Requirements

/-
  The requirement lists of a node settle the presence of
  every collected property, and nothing else.  The names,
  the rules and what is said of `null` stay, and so does
  every validator that was there before: a property that is
  marked gets a copy of its own.  Of the lists only the
  entries count that name a property, each once.

  Main declarations:
    * `Json.countedNames`
    * `Json.AsksAlike`
    * `Graph.HasPresence`
    * `Graph.markKeyword_eq_foldl`
    * `Graph.applyRequirements_exact`
-/

namespace SchemaGraph

------------------------------------------------------------
-- Entries That Count
------------------------------------------------------------

namespace Json

/-
  The entries of the list of a keyword that name a property,
  each of them where it comes first.
-/
def countedNames
    (node : Json)
    (keyword : String)
    (properties : PropertyMap) : List String :=
  match node.member? keyword with
  | some (.array names) =>
      ((names.filterMap text?).filter (fun name =>
        (properties.lookup name).isSome)).eraseDups
  | _ => []

/-
  The lists of two nodes have the same entries that count,
  or both nodes make every property optional.
-/
structure AsksAlike
    (properties : PropertyMap)
    (node other : Json) : Prop where
  all : node.optsAll = other.optsAll
  listed :
    ∀ keyword ∈ ["optional", "required", "forbidden"],
      node.countedNames keyword properties =
        other.countedNames keyword properties

end Json

------------------------------------------------------------
-- Marking Again
------------------------------------------------------------

namespace Graph

/- The property of a name has a presence, if there is one. -/
def HasPresence
    (presence : Presence)
    (state : Graph × PropertyMap)
    (name : String) : Prop :=
  ∀ id, state.2.lookup name = some id →
    ∃ v, state.1.node? id = some v ∧ v.presence = presence

variable {presence : Presence}
variable {state : Graph × PropertyMap}
variable {name other : String}

/- A chosen presence is the one that the property gets. -/
theorem Marks.hasPresence
    {choose : String → Option Presence}
    {before after : Graph × PropertyMap}
    (hMarks : Marks choose before after)
    (hChosen : choose name = some presence) :
    HasPresence presence after name := by
  intro copy hCopy
  cases hOld : before.2.lookup name with
  | none =>
      rw [hMarks.missing name hOld] at hCopy
      cases hCopy
  | some id =>
      rcases hMarks.marked name id hOld with
        ⟨held, hHeld, ⟨v, _, hNode⟩, _⟩
      rw [hCopy] at hHeld
      cases hHeld
      rw [hChosen] at hNode
      exact ⟨_, hNode, rfl⟩

/- A presence stays while others get the same one. -/
theorem HasPresence.markName
    (hPresence : HasPresence presence state name)
    (hHolds : Holds state) :
    HasPresence presence (Graph.markName presence state other)
      name := by
  have hMarks := markName_marks presence other hHolds
  by_cases hSame : name = other
  · exact hMarks.hasPresence (if_pos hSame)
  · intro copy hCopy
    cases hOld : state.2.lookup name with
    | none =>
        rw [hMarks.missing name hOld] at hCopy
        cases hCopy
    | some id =>
        rcases hMarks.marked name id hOld with
          ⟨held, hHeld, _, hKept⟩
        rw [hCopy] at hHeld
        cases hHeld
        rw [hKept (if_neg hSame)]
        rcases hPresence id hOld with ⟨v, hNode, hIs⟩
        exact ⟨v, (extends_of_addsCopies hMarks.copies).node id v
          hNode, hIs⟩

/- Giving a property the presence that it has changes nothing. -/
theorem HasPresence.markName_eq
    (hPresence : HasPresence presence state name)
    (hSorted : Members.Sorted state.2) :
    Graph.markName presence state name = state := by
  rcases state with ⟨g, properties⟩
  unfold Graph.markName
  cases hFound : properties.lookup name with
  | none => rfl
  | some id =>
      rcases hPresence id hFound with ⟨v, hNode, hIs⟩
      have hSame : g.withPresence id presence = (id, g) := by
        unfold withPresence
        simp only [hNode, hIs, if_true]
      simp only [hSame, Members.insert_of_lookup hSorted hFound]

/- Marking keeps the names. -/
theorem names_markName
    (presence : Presence)
    (name : String)
    (hSorted : Members.Sorted state.2) :
    (markName presence state name).2.map (fun e => e.1) =
      state.2.map (fun e => e.1) := by
  unfold markName
  split
  case h_1 id hFound =>
    exact Members.names_insert _ hSorted (by simp [hFound])
  case h_2 => rfl

/- Marking one after another keeps the names. -/
theorem names_foldl_markName
    (presence : Presence)
    (names : List String)
    (hSorted : Members.Sorted state.2)
    (hHolds : Holds state) :
    (names.foldl (markName presence) state).2.map (fun e => e.1) =
      state.2.map (fun e => e.1) := by
  induction names generalizing state with
  | nil => rfl
  | cons name rest ih =>
      have hMarks := markName_marks presence name hHolds
      rw [List.foldl_cons, ih (hMarks.sorted hSorted) hMarks.holds,
        names_markName presence name hSorted]

/- Names without a property need not be marked. -/
theorem foldl_markName_filter_known
    (presence : Presence)
    (names : List String)
    (known : String → Bool)
    (hHolds : Holds state)
    (hKnown :
      ∀ name, known name = false → state.2.lookup name = none) :
    (names.filter known).foldl (markName presence) state =
      names.foldl (markName presence) state := by
  induction names generalizing state with
  | nil => rfl
  | cons name rest ih =>
      cases hName : known name with
      | true =>
          have hMarks := markName_marks presence name hHolds
          rw [List.filter_cons_of_pos hName, List.foldl_cons,
            List.foldl_cons]
          exact ih hMarks.holds (fun other hOther =>
            hMarks.missing other (hKnown other hOther))
      | false =>
          have hSame : markName presence state name = state := by
            unfold markName
            rw [hKnown name hName]
          rw [List.filter_cons_of_neg (by simp [hName]),
            List.foldl_cons, hSame]
          exact ih hHolds hKnown

/- A name that is marked already need not be marked. -/
theorem HasPresence.foldl_markName_filter
    (names : List String)
    (hPresence : HasPresence presence state name)
    (hSorted : Members.Sorted state.2)
    (hHolds : Holds state) :
    (names.filter (fun other => !other == name)).foldl
        (Graph.markName presence) state =
      names.foldl (Graph.markName presence) state := by
  induction names generalizing state with
  | nil => rfl
  | cons first rest ih =>
      by_cases hSame : first = name
      · subst hSame
        rw [List.filter_cons_of_neg (by simp), List.foldl_cons,
          hPresence.markName_eq hSorted]
        exact ih hPresence hSorted hHolds
      · have hMarks := markName_marks presence first hHolds
        rw [List.filter_cons_of_pos (by simpa using hSame),
          List.foldl_cons, List.foldl_cons]
        exact ih (hPresence.markName hHolds) (hMarks.sorted hSorted)
          hMarks.holds

/- Names need to be marked once. -/
theorem foldl_markName_eraseDups
    (presence : Presence)
    (names : List String)
    (hSorted : Members.Sorted state.2)
    (hHolds : Holds state) :
    names.eraseDups.foldl (markName presence) state =
      names.foldl (markName presence) state := by
  -- The duplicates of the first name are erased from the rest.
  induction hLength : names.length using Nat.strong_induction_on
    generalizing names state with
  | _ n ih =>
      cases names with
      | nil => rfl
      | cons name rest =>
          have hMarks := markName_marks presence name hHolds
          have hPresence :
              HasPresence presence (markName presence state name)
                name :=
            hMarks.hasPresence (if_pos rfl)
          have hShorter :
              (rest.filter (fun other => !other == name)).length <
                n := by
            rw [← hLength]
            exact Nat.lt_succ_of_le (List.length_filter_le _ rest)
          rw [List.eraseDups_cons, List.foldl_cons, List.foldl_cons,
            ih _ hShorter _ (hMarks.sorted hSorted) hMarks.holds rfl]
          exact hPresence.foldl_markName_filter rest
            (hMarks.sorted hSorted) hMarks.holds

------------------------------------------------------------
-- Lists of a Node
------------------------------------------------------------

/- The list of a keyword marks the names that count. -/
theorem markKeyword_eq_foldl
    {properties : PropertyMap}
    (presence : Presence)
    (keyword : String)
    (node : Json)
    (hSorted : Members.Sorted state.2)
    (hHolds : Holds state)
    (hNames :
      ∀ name, properties.lookup name = none →
        state.2.lookup name = none) :
    markKeyword presence keyword node state =
      (node.countedNames keyword properties).foldl
        (markName presence) state := by
  unfold markKeyword
  split
  case h_1 names hList =>
    have hCounted :
        node.countedNames keyword properties =
          ((names.filterMap Json.text?).filter (fun name =>
            (properties.lookup name).isSome)).eraseDups := by
      simp only [Json.countedNames, hList]
    rw [hCounted, foldl_markName_eraseDups presence _ hSorted hHolds,
      foldl_markName_filter_known presence _ _ hHolds]
    · rfl
    · intro name hUnknown
      apply hNames
      simpa using hUnknown
  case h_2 hOther =>
    have hNone : node.countedNames keyword properties = [] := by
      unfold Json.countedNames
      split
      case h_1 names hList => exact absurd hList (hOther names)
      case h_2 => rfl
    rw [hNone, List.foldl_nil]

/- The list of a keyword keeps the names. -/
theorem names_markKeyword
    (presence : Presence)
    (keyword : String)
    (node : Json)
    (hSorted : Members.Sorted state.2)
    (hHolds : Holds state) :
    (markKeyword presence keyword node state).2.map (fun e => e.1) =
      state.2.map (fun e => e.1) := by
  unfold markKeyword
  split
  case h_1 => exact names_foldl_markName presence _ hSorted hHolds
  case h_2 => rfl

/- The optional keyword keeps the names. -/
theorem names_markOptional
    (node : Json)
    (hSorted : Members.Sorted state.2)
    (hHolds : Holds state) :
    (markOptional node state).2.map (fun e => e.1) =
      state.2.map (fun e => e.1) := by
  unfold markOptional
  split
  case h_1 => exact names_foldl_markName .optional _ hSorted hHolds
  case h_2 => exact names_markKeyword _ _ node hSorted hHolds

/- Lists with the same entries that count mark the same. -/
theorem markKeyword_congr
    {properties : PropertyMap}
    {node other : Json}
    {keyword : String}
    (presence : Presence)
    (hSame :
      node.countedNames keyword properties =
        other.countedNames keyword properties)
    (hSorted : Members.Sorted state.2)
    (hHolds : Holds state)
    (hNames :
      ∀ name, properties.lookup name = none →
        state.2.lookup name = none) :
    markKeyword presence keyword other state =
      markKeyword presence keyword node state := by
  rw [markKeyword_eq_foldl presence keyword other hSorted hHolds
      hNames,
    markKeyword_eq_foldl presence keyword node hSorted hHolds
      hNames,
    hSame]

------------------------------------------------------------
-- Requirements of a Node
------------------------------------------------------------

/- The requirement lists keep the names. -/
theorem names_applyRequirements
    {g : Graph}
    {properties : PropertyMap}
    (node : Json)
    (hSorted : Members.Sorted properties)
    (hHolds : Holds (g, properties)) :
    (g.applyRequirements node properties).2.map (fun e => e.1) =
      properties.map (fun e => e.1) := by
  have hOptional := markOptional_marks node hHolds
  have hRequired :=
    markKeyword_marks .required "required" node hOptional.holds
  have hSortedOptional := hOptional.sorted hSorted
  calc (g.applyRequirements node properties).2.map (fun e => e.1)
      = (markKeyword .required "required" node
          (markOptional node (g, properties))).2.map
            (fun e => e.1) :=
        names_markKeyword .forbidden _ node
          (hRequired.sorted hSortedOptional) hRequired.holds
    _ = (markOptional node (g, properties)).2.map (fun e => e.1) :=
        names_markKeyword .required _ node hSortedOptional
          hOptional.holds
    _ = properties.map (fun e => e.1) :=
        names_markOptional node hSorted hHolds

/- Only the entries that count make a difference. -/
theorem applyRequirements_congr
    {g : Graph}
    {properties : PropertyMap}
    {node other : Json}
    (hAlike : node.AsksAlike properties other)
    (hSorted : Members.Sorted properties)
    (hHolds : Holds (g, properties)) :
    g.applyRequirements other properties =
      g.applyRequirements node properties := by
  have hOptional := markOptional_marks node hHolds
  have hRequired :=
    markKeyword_marks .required "required" node hOptional.holds
  have hSortedOptional := hOptional.sorted hSorted
  have hFirst :
      markOptional other (g, properties) =
        markOptional node (g, properties) := by
    rw [markOptional_eq, markOptional_eq, hAlike.all,
      markKeyword_congr .optional
        (hAlike.listed "optional" (by simp)) hSorted hHolds
        (fun _ hNone => hNone)]
  unfold applyRequirements
  rw [hFirst,
    markKeyword_congr .required (hAlike.listed "required" (by simp))
      hSortedOptional hOptional.holds hOptional.missing,
    markKeyword_congr .forbidden
      (hAlike.listed "forbidden" (by simp))
      (hRequired.sorted hSortedOptional) hRequired.holds
      (fun name hNone =>
        hRequired.missing name (hOptional.missing name hNone))]

/-
  The requirement lists of a node settle the presences of the
  collected properties: forbidden goes before required, and
  required before optional.  Names, rules and `null` stay;
  entries that are no text, name no property or come again
  count for nothing; and the graph keeps every validator.
-/
theorem applyRequirements_exact
    (node : Json)
    (g : Graph)
    (properties : PropertyMap)
    (hSorted : Members.Sorted properties)
    (hHolds : Holds (g, properties)) :
    let after := g.applyRequirements node properties
    after.2.map (fun e => e.1) = properties.map (fun e => e.1) ∧
      (∀ name id, properties.lookup name = some id →
        ∃ v copy,
          g.node? id = some v ∧
            after.2.lookup name = some copy ∧
            after.1.node? copy =
              some { v with
                presence :=
                  (node.requirement? name).getD v.presence } ∧
            (node.requirement? name = none → copy = id)) ∧
      (∀ other : Json, node.AsksAlike properties other →
        g.applyRequirements other properties = after) ∧
      (∀ id v, g.node? id = some v → after.1.node? id = some v) ∧
      after.1.cells = g.cells := by
  intro after
  have hMarks : Marks node.requirement? (g, properties) after :=
    applyRequirements_marks node hHolds
  have hGrows : g.Extends after.1 := extends_of_addsCopies hMarks.copies
  refine ⟨names_applyRequirements node hSorted hHolds, ?_,
    fun _ hAlike => applyRequirements_congr hAlike hSorted hHolds,
    hGrows.node, cells_of_addsCopies hMarks.copies⟩
  intro name id hId
  rcases hMarks.marked name id hId with
    ⟨copy, hCopy, ⟨v, hNode, hMarked⟩, hKept⟩
  have hBefore : g.node? id = some v := by
    rcases exists_node?_of_lt (hHolds name id hId) with ⟨w, hOld⟩
    rw [hGrows.node id w hOld] at hNode
    cases hNode
    exact hOld
  exact ⟨v, copy, hBefore, hCopy, hMarked, hKept⟩

/- Two properties that share a validator. -/
def sharing : Graph × PropertyMap :=
  (⟨#[{ rule := .boolean }], #[]⟩, [("a", ⟨0⟩), ("b", ⟨0⟩)])

/- A node with everything optional, and two more lists. -/
def wanting
    (required forbidden : List Json) : Json :=
  .object
    [("forbidden", .array forbidden), ("optional", .string "*"),
      ("required", .array required)]

/-
  One property is required and the other one forbidden; the
  validator that they shared is still optional.
-/
theorem applyRequirements_exact_sharing :
    let crowded :=
      wanting [.string "b", .string "a", .string "c", .string "a"]
        [.string "b", .null, .string "b"]
    let needed :=
      wanting [.string "b", .string "a"] [.string "b"]
    let after := sharing.1.applyRequirements crowded sharing.2
    Members.Sorted sharing.2 ∧
      Holds sharing ∧
      crowded.AsksAlike sharing.2 needed ∧
      sharing.1.applyRequirements needed sharing.2 = after ∧
      after.2.map (fun e => e.1) = ["a", "b"] ∧
      (∃ copy,
        after.2.lookup "a" = some copy ∧
          after.1.node? copy = some ⟨.boolean, .required, false⟩) ∧
      (∃ copy,
        after.2.lookup "b" = some copy ∧
          after.1.node? copy = some ⟨.boolean, .forbidden, false⟩) ∧
      after.1.node? ⟨0⟩ = some ⟨.boolean, .optional, false⟩ := by
  intro crowded needed after
  have hSorted : Members.Sorted sharing.2 := by
    decide +kernel
  have hHolds : Holds sharing := by
    intro name id hFound
    have hMem : (name, id) ∈ sharing.2 := mem_of_lookup_eq_some hFound
    have hShared : id = ⟨0⟩ := by
      rcases List.mem_cons.mp hMem with hFirst | hSecond
      · cases hFirst
        rfl
      · cases List.mem_singleton.mp hSecond
        rfl
    rw [hShared]
    exact Nat.zero_lt_one
  have hAlike : crowded.AsksAlike sharing.2 needed := by
    refine ⟨rfl, ?_⟩
    decide +kernel
  rcases applyRequirements_exact crowded sharing.1 sharing.2 hSorted
      hHolds with
    ⟨hNames, hMarked, hSame, hKept, _⟩
  have hRequired : crowded.requirement? "a" = some .required := by
    decide +kernel
  have hForbidden : crowded.requirement? "b" = some .forbidden := by
    decide +kernel
  refine ⟨hSorted, hHolds, hAlike, hSame needed hAlike, hNames, ?_,
    ?_, hKept ⟨0⟩ _ rfl⟩
  · rcases hMarked "a" ⟨0⟩ rfl with ⟨v, copy, hNode, hCopy, hIs, _⟩
    cases hNode
    rw [hRequired] at hIs
    exact ⟨copy, hCopy, hIs⟩
  · rcases hMarked "b" ⟨0⟩ rfl with ⟨v, copy, hNode, hCopy, hIs, _⟩
    cases hNode
    rw [hForbidden] at hIs
    exact ⟨copy, hCopy, hIs⟩

end Graph

end SchemaGraph
