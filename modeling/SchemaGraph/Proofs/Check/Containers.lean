import Mathlib
import SchemaGraph.Check

/-
  What the rules for containers say of a container besides
  its parts.  Their counts are complained about if they are
  below or above their bounds, and every item that repeats
  an earlier one is, with the first one that it repeats.

  Main declarations:
    * `countComplaints`
    * `ObjectRule.checkCount_eq`
    * `HoldSame`
    * `pairwise_same_iff`
    * `RepeatsFrom`
    * `exists_repeatsFrom`
    * `ArrayRule.exists_checkItems_eq`
-/

namespace SchemaGraph

------------------------------------------------------------
-- Counts
------------------------------------------------------------

/- The complaints about a count with bounds. -/
def countComplaints
    (few many : Nat → Complaint)
    (least most : Option Nat)
    (count : Nat) : List Complaint :=
  ((least.filter (fun n => count < n)).map few).toList
    ++ ((most.filter (fun n => n < count)).map many).toList

/- These are complaints about one of the bounds. -/
theorem mem_countComplaints
    {few many : Nat → Complaint}
    {least most : Option Nat}
    {count : Nat}
    {c : Complaint}
    (hMem : c ∈ countComplaints few many least most count) :
    ∃ n, c = few n ∨ c = many n := by
  rcases List.mem_append.mp hMem with hFew | hMany
  · rcases Option.map_eq_some_iff.mp (Option.mem_toList.mp hFew) with
      ⟨n, _, rfl⟩
    exact ⟨n, Or.inl rfl⟩
  · rcases Option.map_eq_some_iff.mp (Option.mem_toList.mp hMany) with
      ⟨n, _, rfl⟩
    exact ⟨n, Or.inr rfl⟩

/- A bound is complained about if it is exceeded. -/
theorem complaintIf_eq
    (path : String)
    (complain : Nat → Complaint)
    (exceeds : Nat → Bool)
    (n : Nat) :
    complaintIf path (exceeds n) (complain n) =
      (((some n).filter exceeds).map complain).toList.map
        (Violation.of path) := by
  cases hExceeds : exceeds n <;>
    simp [complaintIf, hExceeds, Option.filter]

/- The keys are counted. -/
theorem ObjectRule.checkCount_eq
    (rule : ObjectRule)
    (count : Nat)
    (path : String) :
    rule.checkCount count path =
      (countComplaints .tooFewKeys .tooManyKeys rule.minProperties
        rule.maxProperties count).map (Violation.of path) := by
  have hFew := complaintIf_eq path .tooFewKeys (fun n => count < n)
  have hMany := complaintIf_eq path .tooManyKeys (fun n => n < count)
  unfold ObjectRule.checkCount countComplaints
  rw [List.map_append]
  cases rule.minProperties <;> cases rule.maxProperties <;>
    simp only [hFew, hMany, gt_iff_lt] <;> rfl

------------------------------------------------------------
-- Repeated Items
------------------------------------------------------------

/- Two positions hold the same value. -/
def HoldSame
    (items : List Json)
    (j i : Nat) : Prop :=
  ∃ x y, items[j]? = some x ∧ items[i]? = some y ∧ x.same y = true

/- No item is the same as a later one. -/
theorem pairwise_same_iff
    {items : List Json} :
    items.Pairwise (fun x y => x.same y = false) ↔
      ∀ i j, j < i → ¬ HoldSame items j i := by
  rw [List.pairwise_iff_getElem]
  constructor
  · rintro hDistinct i j hBefore ⟨x, y, hFirst, hSecond, hSame⟩
    rcases List.getElem?_eq_some_iff.mp hFirst with ⟨hJ, rfl⟩
    rcases List.getElem?_eq_some_iff.mp hSecond with ⟨hI, rfl⟩
    rw [hDistinct j i hJ hI hBefore] at hSame
    cases hSame
  · intro hNone j i hJ hI hBefore
    rw [← Bool.not_eq_true]
    intro hSame
    exact hNone i j hBefore
      ⟨_, _, List.getElem?_eq_getElem hJ,
        List.getElem?_eq_getElem hI, hSame⟩

/-
  The positions, from one on, that repeat an earlier one, in
  their order, each with the first one that it repeats.
-/
structure RepeatsFrom
    (start : Nat)
    (items : List Json)
    (found : List (Nat × Nat)) : Prop where
  ordered : found.Pairwise (fun e f => e.1 < f.1)
  complete :
    ∀ i j, start ≤ i → j < i → HoldSame items j i →
      ∃ first, (i, first) ∈ found
  first :
    ∀ i first, (i, first) ∈ found →
      start ≤ i ∧ first < i ∧ HoldSame items first i ∧
        ∀ j < first, ¬ HoldSame items j i

variable {start : Nat}
variable {items : List Json}
variable {found : List (Nat × Nat)}

/- There is nothing behind the last position. -/
theorem repeatsFrom_nil
    (items : List Json) :
    RepeatsFrom items.length items [] := by
  refine ⟨List.Pairwise.nil, ?_, ?_⟩
  · rintro i j hStart _ ⟨x, y, _, hItem, _⟩
    rw [List.getElem?_eq_none hStart] at hItem
    cases hItem
  · intro i first hMem
    cases hMem

/- A position that repeats no earlier one is not listed. -/
theorem RepeatsFrom.skip
    (hRest : RepeatsFrom (start + 1) items found)
    (hNone : ∀ j < start, ¬ HoldSame items j start) :
    RepeatsFrom start items found := by
  refine ⟨hRest.ordered, ?_, ?_⟩
  · intro i j hStart hBefore hSame
    rcases Nat.eq_or_lt_of_le hStart with rfl | hLater
    · exact absurd hSame (hNone j hBefore)
    · exact hRest.complete i j hLater hBefore hSame
  · intro i first hMem
    rcases hRest.first i first hMem with ⟨hStart, hFirst⟩
    exact ⟨Nat.le_of_succ_le hStart, hFirst⟩

/- A position that repeats an earlier one is listed. -/
theorem RepeatsFrom.cons
    {first : Nat}
    (hRest : RepeatsFrom (start + 1) items found)
    (hBefore : first < start)
    (hSame : HoldSame items first start)
    (hLeast : ∀ j < first, ¬ HoldSame items j start) :
    RepeatsFrom start items ((start, first) :: found) := by
  refine ⟨List.pairwise_cons.mpr ⟨?_, hRest.ordered⟩, ?_, ?_⟩
  · rintro ⟨i, other⟩ hMem
    exact (hRest.first i other hMem).1
  · intro i j hStart hEarlier hHold
    rcases Nat.eq_or_lt_of_le hStart with rfl | hLater
    · exact ⟨first, List.mem_cons_self⟩
    · rcases hRest.complete i j hLater hEarlier hHold with
        ⟨other, hMem⟩
      exact ⟨other, List.mem_cons_of_mem _ hMem⟩
  · intro i other hMem
    rcases List.mem_cons.mp hMem with hHere | hLater
    · cases hHere
      exact ⟨Nat.le_refl _, hBefore, hSame, hLeast⟩
    · rcases hRest.first i other hLater with ⟨hStart, hOther⟩
      exact ⟨Nat.le_of_succ_le hStart, hOther⟩

/- An item is compared with those before it. -/
theorem holdSame_append_cons_iff
    {earlier rest : List Json}
    {x : Json}
    {j : Nat}
    (hBefore : j < earlier.length) :
    HoldSame (earlier ++ x :: rest) j earlier.length ↔
      earlier[j].same x = true := by
  simp [HoldSame, List.getElem?_append_left hBefore, hBefore]

/- Repeated items are reported at their own paths, in order. -/
theorem exists_repeatsFrom
    (earlier items : List Json) :
    ∃ found,
      RepeatsFrom earlier.length (earlier ++ items) found ∧
        ∀ path,
          duplicates path earlier items =
            found.map (fun e =>
              Violation.of (Violation.itemPath path e.1)
                (.duplicateOf e.2)) := by
  induction items generalizing earlier with
  | nil =>
      refine ⟨[], ?_, fun _ => rfl⟩
      rw [List.append_nil]
      exact repeatsFrom_nil earlier
  | cons x rest ih =>
      rcases ih (earlier ++ [x]) with ⟨found, hRepeats, hReport⟩
      rw [List.append_assoc, List.singleton_append,
        List.length_append, List.length_singleton] at hRepeats
      cases hFirst : earlier.findIdx? (fun y => y.same x) with
      | none =>
          refine ⟨found, hRepeats.skip ?_, ?_⟩
          · intro j hBefore
            rw [holdSame_append_cons_iff hBefore, Bool.not_eq_true]
            exact List.findIdx?_eq_none_iff.mp hFirst _
              (List.getElem_mem hBefore)
          · intro path
            rw [duplicates, hFirst, hReport, List.nil_append]
      | some first =>
          rcases List.findIdx?_eq_some_iff_getElem.mp hFirst with
            ⟨hBefore, hSame, hLeast⟩
          refine ⟨(earlier.length, first) :: found,
            hRepeats.cons hBefore
              ((holdSame_append_cons_iff hBefore).mpr hSame) ?_, ?_⟩
          · intro j hEarlier
            rw [holdSame_append_cons_iff (hEarlier.trans hBefore)]
            exact hLeast j hEarlier
          · intro path
            rw [duplicates, hFirst, hReport, List.map_cons,
              List.singleton_append]

/- A number repeats itself in whatever form it is written. -/
example :
    duplicates "/list" []
        [.ofInt 1, .string "x", .number (.real 1.0), .string "x",
          .ofInt 1] =
      [.of "/list/2" (.duplicateOf 0), .of "/list/3" (.duplicateOf 1),
        .of "/list/4" (.duplicateOf 0)] := by
  rfl

/-
  What is said of an array besides its items: its length,
  and then each repeated item.
-/
theorem ArrayRule.exists_checkItems_eq
    (rule : ArrayRule)
    (items : List Json) :
    ∃ found,
      RepeatsFrom 0 items found ∧
        ∀ path,
          rule.checkItems items path =
            (countComplaints .tooFewItems .tooManyItems
                rule.minItems rule.maxItems items.length).map
              (Violation.of path) ++
            if rule.unique then
              found.map (fun e =>
                Violation.of (Violation.itemPath path e.1)
                  (.duplicateOf e.2))
            else
              [] := by
  rcases exists_repeatsFrom [] items with ⟨found, hRepeats, hReport⟩
  refine ⟨found, hRepeats, ?_⟩
  intro path
  have hFew :=
    complaintIf_eq path .tooFewItems (fun n => items.length < n)
  have hMany :=
    complaintIf_eq path .tooManyItems (fun n => n < items.length)
  unfold ArrayRule.checkItems countComplaints
  rw [hReport, List.map_append]
  cases rule.minItems <;> cases rule.maxItems <;>
    simp only [hFew, hMany, gt_iff_lt] <;> rfl

end SchemaGraph
