import Mathlib
import SchemaGraph.Proofs.Check.Containers
import SchemaGraph.Proofs.Check.Outcomes

/-
  What an array rule makes of an array.  The array is
  accepted exactly if the validator of the items accepts each
  of them, there are neither too few nor too many, and no two
  of them are the same where they have to differ.  Otherwise
  everything that is wrong is reported: in the items, in
  their number, and for every item that repeats an earlier
  one, with the first one that it repeats.

  Main declarations:
    * `Graph.MeetsArray`
    * `Graph.KeepsItems`
    * `Graph.itemViolations`
    * `Graph.checkArray_exact`
-/

namespace SchemaGraph

namespace Graph

variable {g : Graph}
variable {now : Calendar.Instant}
variable {rule : ArrayRule}
variable {items : List Json}
variable {path : String}
variable {options : CheckOptions}

------------------------------------------------------------
-- Items
------------------------------------------------------------

/- The check of every item ends. -/
def ItemsEnd
    (g : Graph)
    (now : Calendar.Instant)
    (rule : ArrayRule)
    (items : List Json)
    (path : String)
    (options : CheckOptions) : Prop :=
  ∀ id i x,
    rule.items = some id → items[i]? = some x →
      (g.check now id (some x) (Violation.itemPath path i)
        options).isSome

/- Every item is accepted by the validator of the items. -/
def ItemsPass
    (g : Graph)
    (now : Calendar.Instant)
    (rule : ArrayRule)
    (items : List Json)
    (path : String)
    (options : CheckOptions) : Prop :=
  ∀ id i x,
    rule.items = some id → items[i]? = some x →
      ∃ kept,
        g.check now id (some x) (Violation.itemPath path i) options =
          some (Verdict.accept kept)

/- What the validator of the items reports, in their order. -/
def itemViolations
    (g : Graph)
    (now : Calendar.Instant)
    (rule : ArrayRule)
    (items : List Json)
    (path : String)
    (options : CheckOptions) : List Violation :=
  match rule.items with
  | none => []
  | some id =>
      items.zipIdx.flatMap (fun entry =>
        Verdict.reported
          (g.check now id (some entry.1)
            (Violation.itemPath path entry.2) options))

/-
  What is kept of an array: every item, as the validator of
  the items accepts it, or as it is if there is none.
-/
structure KeepsItems
    (g : Graph)
    (now : Calendar.Instant)
    (rule : ArrayRule)
    (items held : List Json)
    (path : String)
    (options : CheckOptions) : Prop where
  length : held.length = items.length
  judged :
    ∀ (id : ValidatorId) (i : Nat) (x y : Json),
      rule.items = some id →
        items[i]? = some x → held[i]? = some y →
          g.check now id (some x) (Violation.itemPath path i)
              options =
            some (Verdict.accept y)
  free :
    ∀ (i : Nat) (x y : Json),
      rule.items = none →
        items[i]? = some x → held[i]? = some y → y = x

/- The array is as the rule asks. -/
structure MeetsArray
    (g : Graph)
    (now : Calendar.Instant)
    (rule : ArrayRule)
    (items : List Json)
    (path : String)
    (options : CheckOptions) : Prop where
  pass : g.ItemsPass now rule items path options
  least : ∀ n, rule.minItems = some n → n ≤ items.length
  most : ∀ n, rule.maxItems = some n → items.length ≤ n
  distinct :
    rule.unique = true → ∀ i j, j < i → ¬ HoldSame items j i

/- All answers on items are there if all checks end. -/
theorem isSome_itemVerdict_iff :
    (∀ entry ∈ items.zipIdx,
      (itemVerdict (g.check now) rule path options entry.1
        entry.2).isSome) ↔
      g.ItemsEnd now rule items path options := by
  constructor
  · intro hEach id i x hRule hItem
    have hEnds := hEach (x, i)
      (List.mk_mem_zipIdx_iff_getElem?.mpr hItem)
    simpa only [itemVerdict, hRule] using hEnds
  · rintro hEnds ⟨x, i⟩ hMem
    have hItem := List.mk_mem_zipIdx_iff_getElem?.mp hMem
    unfold itemVerdict
    cases hRule : rule.items with
    | none => rfl
    | some id => exact hEnds id i x hRule hItem

/- All items pass if no answer on one has a violation. -/
theorem clean_itemVerdict_iff :
    (∀ entry ∈ items.zipIdx,
      ∃ verdict,
        itemVerdict (g.check now) rule path options entry.1
            entry.2 =
          some verdict ∧
          verdict.violations = []) ↔
      g.ItemsPass now rule items path options := by
  constructor
  · intro hEach id i x hRule hItem
    have hClean :=
      hEach (x, i) (List.mk_mem_zipIdx_iff_getElem?.mpr hItem)
    simp only [itemVerdict, hRule] at hClean
    exact clean_check_iff.mp hClean
  · rintro hPass ⟨x, i⟩ hMem
    have hItem := List.mk_mem_zipIdx_iff_getElem?.mp hMem
    unfold itemVerdict
    cases hRule : rule.items with
    | none => exact ⟨_, rfl, rfl⟩
    | some id =>
        rcases hPass id i x hRule hItem with ⟨kept, hCheck⟩
        exact ⟨_, hCheck, rfl⟩

/- What the answers on items report. -/
theorem flatMap_itemVerdict :
    items.zipIdx.flatMap (fun entry =>
        ((itemVerdict (g.check now) rule path options entry.1
          entry.2).map Verdict.violations).getD []) =
      g.itemViolations now rule items path options := by
  unfold itemViolations itemVerdict
  cases rule.items with
  | none =>
      rw [List.flatMap_eq_nil_iff]
      intro entry _
      rfl
  | some id => rfl

/- What is kept of the items is what the answers on them accept. -/
theorem keepsItems_of_itemVerdict
    {held : List Json}
    (hLength : held.length = items.length)
    (hHeld :
      ∀ i y, held[i]? = some y →
        ∃ x,
          items[i]? = some x ∧
            itemVerdict (g.check now) rule path options x i =
              some (Verdict.accept y)) :
    g.KeepsItems now rule items held path options := by
  refine ⟨hLength, ?_, ?_⟩
  · intro id i x y hRule hItem hKept
    rcases hHeld i y hKept with ⟨same, hSame, hVerdict⟩
    rw [hItem] at hSame
    cases hSame
    simpa only [itemVerdict, hRule] using hVerdict
  · intro i x y hRule hItem hKept
    rcases hHeld i y hKept with ⟨same, hSame, hVerdict⟩
    rw [hItem] at hSame
    cases hSame
    simp only [itemVerdict, hRule, Option.some.injEq] at hVerdict
    cases hVerdict
    rfl

------------------------------------------------------------
-- Arrays
------------------------------------------------------------

/-
  An array is checked exactly as its rule says: the check
  ends if the checks of the items do, it accepts what meets
  the rule and keeps its items, and it reports everything
  that is wrong with anything else.
-/
theorem checkArray_exact
    (g : Graph)
    (now : Calendar.Instant)
    (rule : ArrayRule)
    (items : List Json)
    (path : String)
    (options : CheckOptions) :
    let outcome :=
      checkArray (g.check now) rule (.array items) path options
    (outcome.isSome ↔ g.ItemsEnd now rule items path options) ∧
      ((∃ accepted, outcome = some (.ok accepted)) ↔
        g.MeetsArray now rule items path options) ∧
      (∀ accepted, outcome = some (.ok accepted) →
        ∃ held,
          accepted = some (.array held) ∧
            g.KeepsItems now rule items held path options) ∧
      (∀ vs, outcome = some (.error vs) →
        ∃ found,
          RepeatsFrom 0 items found ∧
            vs =
              g.itemViolations now rule items path options
                ++ (countComplaints .tooFewItems .tooManyItems
                    rule.minItems rule.maxItems items.length).map
                  (Violation.of path)
                ++ if rule.unique then
                    found.map (fun e =>
                      Violation.of (Violation.itemPath path e.1)
                        (.duplicateOf e.2))
                  else
                    []) := by
  intro outcome
  have hOutcome : outcome = _ := checkArray_array _ _ _ _ _
  refine ⟨?_, ?_, ?_, ?_⟩
  · rw [hOutcome, ← isSome_itemVerdict_iff]
    exact Verdict.isSome_ofParts_iff
  · rw [hOutcome]
    refine Verdict.exists_ok_ofParts_iff.trans ?_
    rw [clean_itemVerdict_iff, ArrayRule.checkItems_eq_nil_iff,
      pairwise_same_iff]
    exact ⟨fun h => ⟨h.1, h.2.1, h.2.2.1, h.2.2.2⟩,
      fun h => ⟨h.pass, h.least, h.most, h.distinct⟩⟩
  · intro accepted hOk
    rcases acceptedItems_of_checkArray (check_answers g now) hOk with
      ⟨_, held, hItems, hAccepted, _, hLength, hHeld⟩
    cases hItems
    exact ⟨held, hAccepted, keepsItems_of_itemVerdict hLength hHeld⟩
  · intro vs hError
    rcases rule.exists_checkItems_eq items with
      ⟨found, hRepeats, hReport⟩
    refine ⟨found, hRepeats, ?_⟩
    rw [hOutcome] at hError
    have hViolations := Verdict.violations_of_ofParts hError
    rw [flatMap_itemVerdict, hReport, ← List.append_assoc]
      at hViolations
    exact hViolations

end Graph

end SchemaGraph
