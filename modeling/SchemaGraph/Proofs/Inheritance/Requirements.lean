import Mathlib
import SchemaGraph.Compile.Inheritance
import SchemaGraph.Proofs.Graph.Growth
import SchemaGraph.Proofs.Json.Members

/-
  What requirement lists do to collected properties: every
  name keeps its validator's rule and gets the presence that
  the last list naming it gives.

  Main declarations:
    * `Json.requirement?`
    * `Graph.Marks`
    * `Graph.applyRequirements_marks`
-/

namespace SchemaGraph

------------------------------------------------------------
-- Requirements of a Node
------------------------------------------------------------

namespace Json

/- The list of a keyword names a property. -/
def lists
    (node : Json)
    (keyword name : String) : Bool :=
  match node.member? keyword with
  | some (.array names) => decide (name ∈ names.filterMap text?)
  | _ => false

/- The optional keyword is `*`. -/
def optsAll
    (node : Json) : Bool :=
  match node.member? "optional" with
  | some (.string "*") => true
  | _ => false

/- The presence that the lists of a node give to a name. -/
def requirement?
    (node : Json)
    (name : String) : Option Presence :=
  if node.lists "forbidden" name then
    some .forbidden
  else if node.lists "required" name then
    some .required
  else if node.optsAll || node.lists "optional" name then
    some .optional
  else
    none

end Json

------------------------------------------------------------
-- Marked Properties
------------------------------------------------------------

namespace Graph

/-
  The properties get the presences that are chosen for their
  names, where one is chosen; the others stay as they are.
-/
structure Marks
    (choose : String → Option Presence)
    (before after : Graph × PropertyMap) : Prop where
  copies : AddsCopies before.1 after.1
  sorted : Members.Sorted before.2 → Members.Sorted after.2
  missing :
    ∀ name, before.2.lookup name = none →
      after.2.lookup name = none
  marked :
    ∀ name id, before.2.lookup name = some id →
      ∃ copy, after.2.lookup name = some copy ∧
        after.1.Derives (Validator.marked (choose name)) id copy ∧
        (choose name = none → copy = id)

/- Every property has a validator of the graph. -/
def Holds
    (state : Graph × PropertyMap) : Prop :=
  ∀ name id, state.2.lookup name = some id →
    id.index < state.1.size

namespace Marks

variable {choose later : String → Option Presence}
variable {first second third : Graph × PropertyMap}

/- Marked properties have validators of the graph. -/
theorem holds
    (hMarks : Marks choose first second) :
    Holds second := by
  intro name copy hCopy
  cases hOld : first.2.lookup name with
  | none =>
      rw [hMarks.missing name hOld] at hCopy
      cases hCopy
  | some id =>
      rcases hMarks.marked name id hOld with
        ⟨other, hOther, hDerives, _⟩
      rw [hCopy] at hOther
      cases hOther
      exact hDerives.lt_size

/- Choosing no presence changes nothing. -/
theorem refl
    (hHolds : Holds first) :
    Marks (fun _ => none) first first :=
  ⟨Relation.ReflTransGen.refl, fun hSorted => hSorted,
    fun _ hNone => hNone,
    fun name id hId =>
      ⟨id, hId, Derives.refl (hHolds name id hId),
        fun _ => rfl⟩⟩

/- A later choice goes before an earlier one. -/
theorem trans
    (hFirst : Marks choose first second)
    (hSecond : Marks later second third) :
    Marks (fun name => later name <|> choose name) first third := by
  refine ⟨hFirst.copies.trans hSecond.copies,
    fun hSorted => hSecond.sorted (hFirst.sorted hSorted),
    ?_, ?_⟩
  · intro name hNone
    exact hSecond.missing name (hFirst.missing name hNone)
  · intro name id hId
    rcases hFirst.marked name id hId with
      ⟨mid, hMid, hOne, hSame⟩
    rcases hSecond.marked name mid hMid with
      ⟨copy, hCopy, hTwo, hAlso⟩
    refine ⟨copy, hCopy, ?_, ?_⟩
    · have hGrown :=
        hOne.mono (extends_of_addsCopies hSecond.copies)
      rcases hGrown with ⟨v, hNode, hMarked⟩
      rcases hTwo with ⟨w, hOther, hTwice⟩
      rw [hMarked] at hOther
      cases hOther
      rw [Validator.marked_marked] at hTwice
      exact ⟨v, hNode, hTwice⟩
    · intro hNone
      have hBoth : later name = none ∧ choose name = none := by
        simpa using hNone
      rw [hAlso hBoth.1, hSame hBoth.2]

/- Only the choices for the collected names matter. -/
theorem congr
    (hMarks : Marks choose first second)
    (hSame :
      ∀ name, first.2.lookup name ≠ none →
        choose name = later name) :
    Marks later first second := by
  refine ⟨hMarks.copies, hMarks.sorted, hMarks.missing, ?_⟩
  intro name id hId
  have hChoice := hSame name (by rw [hId]; simp)
  rw [← hChoice]
  exact hMarks.marked name id hId

end Marks

variable {state : Graph × PropertyMap}

/- Giving one property a presence. -/
theorem markName_marks
    (presence : Presence)
    (name : String)
    (hHolds : Holds state) :
    Marks
      (fun other => if other = name then some presence else none)
      state (markName presence state name) := by
  rcases state with ⟨g, properties⟩
  unfold markName
  cases hOld : properties.lookup name with
  | none =>
      refine (Marks.refl hHolds).congr ?_
      intro other hOther
      rw [if_neg]
      rintro rfl
      exact hOther hOld
  | some id =>
      have hCopies := withPresence_addsCopies g id presence
      refine ⟨hCopies, Members.sorted_insert name _, ?_, ?_⟩
      · intro other hNone
        rw [Members.lookup_insert, if_neg]
        · exact hNone
        · rintro rfl
          rw [hOld] at hNone
          cases hNone
      · intro other old hOther
        rw [Members.lookup_insert]
        by_cases hSame : other = name
        · subst hSame
          rw [hOld] at hOther
          cases hOther
          simp only [if_true]
          exact ⟨_, rfl,
            withPresence_derives presence (hHolds other _ hOld),
            nofun⟩
        · simp only [if_neg hSame]
          refine ⟨old, hOther, ?_, fun _ => rfl⟩
          exact (Derives.refl (hHolds other old hOther)).mono
            (extends_of_addsCopies hCopies)

/- Giving properties a presence, one after another. -/
theorem foldl_markName_marks
    (presence : Presence)
    (names : List String)
    (hHolds : Holds state) :
    Marks
      (fun other => if other ∈ names then some presence else none)
      state (names.foldl (markName presence) state) := by
  induction names generalizing state with
  | nil => simpa using Marks.refl hHolds
  | cons name rest ih =>
      have hFirst := markName_marks presence name hHolds
      refine (hFirst.trans (ih hFirst.holds)).congr ?_
      intro other _
      by_cases hRest : other ∈ rest
      · simp [hRest]
      · simp [hRest]

/- Applying the list of a keyword. -/
theorem markKeyword_marks
    (presence : Presence)
    (keyword : String)
    (node : Json)
    (hHolds : Holds state) :
    Marks
      (fun name =>
        if node.lists keyword name then some presence else none)
      state (markKeyword presence keyword node state) := by
  unfold markKeyword
  split
  case h_1 names hList =>
    refine (foldl_markName_marks presence
      (names.filterMap Json.text?) hHolds).congr ?_
    intro name _
    simp [Json.lists, hList]
  case h_2 hOther =>
    refine (Marks.refl hHolds).congr ?_
    intro name _
    unfold Json.lists
    split
    case h_1 names hList => exact absurd hList (hOther names)
    case h_2 => rfl

/- The optional keyword marks everything, or what it lists. -/
theorem markOptional_eq
    (node : Json)
    (state : Graph × PropertyMap) :
    markOptional node state =
      if node.optsAll then
        markAll .optional state
      else
        markKeyword .optional "optional" node state := by
  unfold markOptional
  split
  case h_1 hAll => simp [Json.optsAll, hAll]
  case h_2 hOther =>
    have hNot : node.optsAll = false := by
      unfold Json.optsAll
      split
      case h_1 hAll => exact absurd hAll hOther
      case h_2 => rfl
    rw [hNot, if_neg Bool.false_ne_true]

/- Applying the list of optional properties, or `*`. -/
theorem markOptional_marks
    (node : Json)
    (hHolds : Holds state) :
    Marks
      (fun name =>
        if node.optsAll || node.lists "optional" name then
          some .optional
        else
          none)
      state (markOptional node state) := by
  rw [markOptional_eq]
  cases node.optsAll with
  | true =>
      refine (foldl_markName_marks .optional
        (state.2.map (fun e => e.1)) hHolds).congr ?_
      intro name hName
      have hMem : name ∈ state.2.map (fun e => e.1) := by
        by_contra hMissing
        exact hName
          ((Members.lookup_eq_none_iff_not_mem name state.2).mpr
            hMissing)
      rw [if_pos hMem]
      rfl
  | false =>
      exact markKeyword_marks .optional "optional" node hHolds

/- Applying all requirement lists of a node. -/
theorem applyRequirements_marks
    (node : Json)
    {g : Graph}
    {properties : PropertyMap}
    (hHolds : Holds (g, properties)) :
    Marks node.requirement? (g, properties)
      (g.applyRequirements node properties) := by
  have hOptional := markOptional_marks node hHolds
  have hRequired :=
    hOptional.trans
      (markKeyword_marks .required "required" node hOptional.holds)
  have hForbidden :=
    hRequired.trans
      (markKeyword_marks .forbidden "forbidden" node
        hRequired.holds)
  apply hForbidden.congr
  intro name _
  unfold Json.requirement?
  cases node.lists "forbidden" name <;>
    cases node.lists "required" name <;> simp

------------------------------------------------------------
-- Copies
------------------------------------------------------------

/- Giving properties a presence only adds copies. -/
theorem foldl_markName_addsCopies
    (presence : Presence)
    (names : List String)
    (state : Graph × PropertyMap) :
    AddsCopies state.1
      (names.foldl (markName presence) state).1 := by
  induction names generalizing state with
  | nil => exact Relation.ReflTransGen.refl
  | cons name rest ih =>
      have hFirst :
          AddsCopies state.1 (markName presence state name).1 := by
        unfold markName
        split
        case h_1 id _ => exact withPresence_addsCopies _ id presence
        case h_2 => exact Relation.ReflTransGen.refl
      exact hFirst.trans (ih _)

/- Applying the list of a keyword only adds copies. -/
theorem markKeyword_addsCopies
    (presence : Presence)
    (keyword : String)
    (node : Json)
    (state : Graph × PropertyMap) :
    AddsCopies state.1
      (markKeyword presence keyword node state).1 := by
  unfold markKeyword
  split
  case h_1 => exact foldl_markName_addsCopies presence _ state
  case h_2 => exact Relation.ReflTransGen.refl

/-
  Applying requirement lists only adds copies, whatever the
  properties are.
-/
theorem applyRequirements_addsCopies
    (node : Json)
    (g : Graph)
    (properties : PropertyMap) :
    AddsCopies g (g.applyRequirements node properties).1 := by
  have hOptional :
      AddsCopies g (markOptional node (g, properties)).1 := by
    unfold markOptional
    split
    case h_1 =>
      exact foldl_markName_addsCopies .optional _ (g, properties)
    case h_2 =>
      exact markKeyword_addsCopies .optional _ node (g, properties)
  have hRequired :=
    hOptional.trans
      (markKeyword_addsCopies .required "required" node _)
  exact hRequired.trans
    (markKeyword_addsCopies .forbidden "forbidden" node _)

end Graph

end SchemaGraph
