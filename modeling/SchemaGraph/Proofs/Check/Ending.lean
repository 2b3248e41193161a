import Mathlib
import SchemaGraph.Compiled
import SchemaGraph.Proofs.Check.Reports

/-
  Every check ends if no cycle of the graph is idle.  A check
  of a value asks for the same value along idle edges only:
  from alternatives and intersections to their branches, and
  from a deferred validator to the content of its cell.  All
  other checks that it asks for are of absent values or go
  into the value.

  Without an idle cycle, the validators that lie ahead along
  idle edges become fewer with each of them, and there are
  never more than all.  So as many steps as there are
  validators, for each level of the value, are enough.

  Main declarations:
    * `Rule.idleReferences`
    * `Graph.Idles`
    * `Graph.ahead`
    * `Graph.rank_lt_of_idles`
    * `Checker.EndsBelow`
    * `Graph.checkRule_ends`
    * `Graph.checkWithin_ends`
    * `Graph.check_ends`
-/

namespace SchemaGraph

/- The checks of a custom type end. -/
def CustomType.Ends
    (type : CustomType) : Prop :=
  ∀ now value path, ∃ vs, type.check now value path = some vs

/- A list of answers, if all of them are there. -/
theorem exists_mapM_eq_some
    {α β : Type}
    {f : α → Option β}
    {xs : List α}
    (hEach : ∀ x ∈ xs, ∃ y, f x = some y) :
    ∃ ys, xs.mapM f = some ys := by
  induction xs with
  | nil => exact ⟨[], rfl⟩
  | cons x rest ih =>
      rcases hEach x List.mem_cons_self with ⟨y, hY⟩
      rcases ih (fun other hMem =>
          hEach other (List.mem_cons_of_mem x hMem)) with
        ⟨ys, hYs⟩
      exact ⟨y :: ys, by simp [List.mapM_cons, hY, hYs]⟩

------------------------------------------------------------
-- Idle Edges
------------------------------------------------------------

/- The validators that a rule asks about the same value. -/
def Rule.idleReferences
    (g : Graph) : Rule → List ValidatorId
  | alternatives branches => branches
  | all branches => branches.flatMap Branch.references
  | deferred c => (g.cell? c).toList
  | _ => []

/- What is asked about the same value is mentioned. -/
theorem Rule.mem_references_of_idle
    {g : Graph}
    {rule : Rule}
    {id : ValidatorId}
    (hMem : id ∈ rule.idleReferences g) :
    id ∈ rule.references g := by
  cases rule with
  | alternatives branches => exact hMem
  | all branches => exact hMem
  | deferred c => exact hMem
  | _ => cases hMem

namespace Graph

/- The validators that a validator asks about the same value. -/
def idleReferences
    (g : Graph)
    (id : ValidatorId) : List ValidatorId :=
  match g.node? id with
  | some v => v.rule.idleReferences g
  | none => []

/-
  There is an edge between two validators that a check goes
  along without going into the value.
-/
def Idles
    (g : Graph)
    (id other : ValidatorId) : Prop :=
  other ∈ g.idleReferences id

variable {g : Graph}

/- The edges of a validator are those of its rule. -/
theorem idles_iff
    {id other : ValidatorId}
    {v : Validator}
    (hNode : g.node? id = some v) :
    g.Idles id other ↔ other ∈ v.rule.idleReferences g := by
  simp [Idles, idleReferences, hNode]

open Classical in
/- The validators that lie ahead along idle edges. -/
noncomputable def ahead
    (g : Graph)
    (id : ValidatorId) : Finset (Fin g.size) :=
  Finset.univ.filter (fun i => Relation.TransGen g.Idles id ⟨i⟩)

/- They are the ones that idle edges lead to. -/
@[simp] theorem mem_ahead
    {id : ValidatorId}
    {i : Fin g.size} :
    i ∈ g.ahead id ↔ Relation.TransGen g.Idles id ⟨i⟩ := by
  simp [ahead]

/- How many validators lie ahead. -/
noncomputable def rank
    (g : Graph)
    (id : ValidatorId) : Nat :=
  (g.ahead id).card

/- Fewer lie ahead behind an edge. -/
theorem rank_lt_of_idles
    {id other : ValidatorId}
    (hAcyclic : ∀ id, ¬ Relation.TransGen g.Idles id id)
    (hOther : other.index < g.size)
    (hEdge : g.Idles id other) :
    g.rank other < g.rank id := by
  apply Finset.card_lt_card
  rw [Finset.ssubset_iff_of_subset]
  · refine ⟨⟨other.index, hOther⟩, ?_, ?_⟩
    · exact mem_ahead.mpr (Relation.TransGen.single hEdge)
    · exact fun hMem => hAcyclic other (mem_ahead.mp hMem)
  · intro i hMem
    exact mem_ahead.mpr
      (Relation.TransGen.head hEdge (mem_ahead.mp hMem))

/- A validator does not lie ahead of itself. -/
theorem rank_lt_size
    {id : ValidatorId}
    (hAcyclic : ∀ id, ¬ Relation.TransGen g.Idles id id)
    (hId : id.index < g.size) :
    g.rank id < g.size := by
  calc
    (g.ahead id).card
        < (Finset.univ : Finset (Fin g.size)).card := by
      apply Finset.card_lt_card
      rw [Finset.ssubset_iff_of_subset (Finset.subset_univ _)]
      exact ⟨⟨id.index, hId⟩, Finset.mem_univ _,
        fun hMem => hAcyclic id (mem_ahead.mp hMem)⟩
    _ = g.size := by simp

/- A graph whose edges go down has no cycle. -/
theorem acyclic_of_idles_lt
    (measure : ValidatorId → Nat)
    (hDown :
      ∀ i < g.size, ∀ other ∈ g.idleReferences ⟨i⟩,
        measure other < measure ⟨i⟩) :
    ∀ id, ¬ Relation.TransGen g.Idles id id := by
  have hEdge :
      ∀ id other, g.Idles id other →
        measure other < measure id := by
    intro id other hIdles
    by_cases hId : id.index < g.size
    · exact hDown id.index hId other hIdles
    · have hNone : g.node? id = none :=
        Array.getElem?_eq_none (Nat.le_of_not_lt hId)
      simp [Idles, idleReferences, hNone] at hIdles
  have hPath :
      ∀ id other, Relation.TransGen g.Idles id other →
        measure other < measure id := by
    intro id other hPath
    induction hPath with
    | single hIdles => exact hEdge _ _ hIdles
    | tail _ hIdles ih => exact (hEdge _ _ hIdles).trans ih
  intro id hCycle
  exact Nat.lt_irrefl _ (hPath id id hCycle)

end Graph

------------------------------------------------------------
-- Rules
------------------------------------------------------------

/-
  Whatever the check of a value against a rule asks for ends.
-/
structure Checker.EndsBelow
    (g : Graph)
    (rule : Rule)
    (value : Json)
    (inner : Checker) : Prop where
  /- The same value. -/
  idle :
    ∀ id ∈ rule.idleReferences g, ∀ path options,
      ∃ verdict, inner id (some value) path options = some verdict
  /- What is inside the value. -/
  deeper :
    ∀ id ∈ rule.references g, ∀ (x : Json) path options,
      x.depth < value.depth →
        ∃ verdict, inner id (some x) path options = some verdict
  /- What an object lacks. -/
  absent :
    ∀ id ∈ rule.references g, ∀ path options,
      0 < value.depth →
        ∃ verdict, inner id none path options = some verdict

namespace Graph

variable {g : Graph}
variable {now : Calendar.Instant}
variable {inner : Checker}
variable {value : Json}

/- Checks of objects end. -/
theorem checkObject_ends
    {rule : ObjectRule}
    (hInner : inner.EndsBelow g (.object rule) value)
    (path : String)
    (options : CheckOptions) :
    ∃ verdict,
      checkObject inner rule value path options = some verdict := by
  cases value with
  | object members =>
      have hDeclared :
          ∃ declared,
            declaredVerdicts inner members path options
                (rule.properties.getD []) =
              some declared := by
        apply exists_mapM_eq_some
        rintro ⟨name, id⟩ hProperty
        have hId : id ∈ (Rule.object rule).references g :=
          List.mem_append_left _ (List.mem_map_of_mem hProperty)
        simp only [Option.map_eq_some_iff]
        cases hMember : members.lookup name with
        | none =>
            rcases hInner.absent id hId
                (Violation.memberPath path name) options
                (Nat.succ_pos _) with ⟨verdict, hVerdict⟩
            exact ⟨_, verdict, hVerdict, rfl⟩
        | some x =>
            rcases hInner.deeper id hId x
                (Violation.memberPath path name) options
                (Json.depth_lt_of_mem_members
                  (mem_of_lookup_eq_some hMember)) with
              ⟨verdict, hVerdict⟩
            exact ⟨_, verdict, hVerdict, rfl⟩
      have hUnknown :
          ∃ unknown,
            unknownVerdicts inner rule path options members =
              some unknown := by
        apply exists_mapM_eq_some
        rintro ⟨name, x⟩ hMem
        have hMember := List.mem_of_mem_filter hMem
        have hKey :
            ∃ verdict,
              unknownVerdict inner rule path options name x =
                some verdict := by
          unfold unknownVerdict
          cases hPolicy : rule.unknown with
          | schema id =>
              exact hInner.deeper id
                (by simp [Rule.references, hPolicy]) x _ options
                (Json.depth_lt_of_mem_members hMember)
          | _ =>
              rcases options with ⟨strip⟩
              cases rule.properties <;> cases strip <;>
                exact ⟨_, rfl⟩
        rcases hKey with ⟨verdict, hVerdict⟩
        exact ⟨_, Option.map_eq_some_iff.mpr
          ⟨verdict, hVerdict, rfl⟩⟩
      rcases hDeclared with ⟨declared, hDeclared⟩
      rcases hUnknown with ⟨unknown, hUnknown⟩
      exact ⟨_, by simp [checkObject, hDeclared, hUnknown]; rfl⟩
  | _ => exact ⟨_, rfl⟩

/- Checks of arrays end. -/
theorem checkArray_ends
    {rule : ArrayRule}
    (hInner : inner.EndsBelow g (.array rule) value)
    (path : String)
    (options : CheckOptions) :
    ∃ verdict,
      checkArray inner rule value path options = some verdict := by
  cases value with
  | array items =>
      have hItems :
          ∃ verdicts,
            items.zipIdx.mapM (fun entry =>
                itemVerdict inner rule path options entry.1
                  entry.2) =
              some verdicts := by
        apply exists_mapM_eq_some
        rintro ⟨x, i⟩ hAt
        have hGiven := List.mk_mem_zipIdx_iff_getElem?.mp hAt
        unfold itemVerdict
        cases hRule : rule.items with
        | none => exact ⟨_, rfl⟩
        | some id =>
            exact hInner.deeper id
              (by simp [Rule.references, hRule]) x _ options
              (Json.depth_lt_of_mem_items
                (List.mem_of_getElem? hGiven))
      rcases hItems with ⟨verdicts, hItems⟩
      rw [checkArray_array, hItems]
      exact ⟨_, rfl⟩
  | _ => exact ⟨_, rfl⟩

/- Alternatives are tried to the end. -/
theorem checkAlternatives_ends
    {branches : List ValidatorId}
    {path : String}
    {options : CheckOptions}
    (hEach :
      ∀ id ∈ branches, ∃ verdict,
        inner id (some value) path options = some verdict) :
    ∃ verdict,
      checkAlternatives inner value path options branches =
        some verdict := by
  induction branches with
  | nil => exact ⟨_, rfl⟩
  | cons id rest ih =>
      rcases hEach id List.mem_cons_self with ⟨first, hFirst⟩
      simp only [checkAlternatives, hFirst]
      cases first with
      | ok accepted => exact ⟨_, rfl⟩
      | error vs =>
          exact ih (fun other hMem =>
            hEach other (List.mem_cons_of_mem id hMem))

/- The parts of an intersection end, condition and side. -/
theorem branchViolations_ends
    {branch : Branch}
    {path : String}
    {options : CheckOptions}
    (hEach :
      ∀ id ∈ branch.references, ∃ verdict,
        inner id (some value) path options = some verdict) :
    ∃ vs,
      branchViolations inner value path options branch =
        some vs := by
  have hApplied :
      ∃ applied,
        effective inner value path options branch =
          some applied := by
    cases branch with
    | schema id => exact ⟨some id, rfl⟩
    | conditional test pass fail =>
        rcases hEach test (by simp [Branch.references]) with
          ⟨verdict, hVerdict⟩
        exact ⟨_, Option.map_eq_some_iff.mpr
          ⟨verdict, hVerdict, rfl⟩⟩
  rcases hApplied with ⟨applied, hApplied⟩
  cases applied with
  | none => exact ⟨[], by simp [branchViolations, hApplied]⟩
  | some id =>
      rcases hEach id (mem_references_of_effective hApplied) with
        ⟨verdict, hVerdict⟩
      exact ⟨_, by simp [branchViolations, hApplied, hVerdict]; rfl⟩

/- Checks against rules end. -/
theorem checkRule_ends
    {rule : Rule}
    (hInner : inner.EndsBelow g rule value)
    (hType : ∀ type, rule = .custom type → type.Ends)
    (path : String)
    (options : CheckOptions) :
    ∃ verdict,
      g.checkRule now inner rule value path options =
        some verdict := by
  cases rule with
  | boolean => cases value <;> exact ⟨_, rfl⟩
  | literal allowed =>
      simp only [checkRule]
      split <;> exact ⟨_, rfl⟩
  | object rule => exact checkObject_ends hInner path options
  | array rule => exact checkArray_ends hInner path options
  | alternatives branches =>
      exact checkAlternatives_ends
        (fun id hMem => hInner.idle id hMem path options)
  | all branches =>
      have hBranches :
          ∃ lists,
            branches.mapM
                (branchViolations inner value path ⟨true⟩) =
              some lists := by
        apply exists_mapM_eq_some
        intro branch hBranch
        apply branchViolations_ends
        intro id hMem
        exact hInner.idle id
          (List.mem_flatMap.mpr ⟨branch, hBranch, hMem⟩) path _
      rcases hBranches with ⟨lists, hLists⟩
      exact ⟨_, by simp [checkRule, checkAll, hLists]; rfl⟩
  | deferred c =>
      simp only [checkRule]
      cases hCell : g.cell? c with
      | none => exact ⟨_, rfl⟩
      | some target =>
          exact hInner.idle target
            (by simp [Rule.idleReferences, hCell]) path options
  | custom type =>
      rcases hType type rfl now value path with ⟨vs, hVs⟩
      exact ⟨_, by simp [checkRule, hVs]; rfl⟩
  | _ => exact ⟨_, rfl⟩

------------------------------------------------------------
-- Checks
------------------------------------------------------------

/- Checks of absent values end at once. -/
theorem checkWithin_absent_ends
    {id : ValidatorId}
    (hId : id.index < g.size)
    (now : Calendar.Instant)
    (budget : Nat)
    (path : String)
    (options : CheckOptions) :
    ∃ verdict,
      g.checkWithin now (budget + 1) id none path options =
        some verdict := by
  rcases exists_node?_of_lt hId with ⟨v, hNode⟩
  simp only [checkWithin, checkNode, hNode]
  split <;> exact ⟨_, rfl⟩

/- A validator ends if whatever its rule asks for does. -/
theorem checkNode_ends
    {id : ValidatorId}
    {v : Validator}
    (hNode : g.node? id = some v)
    (hTypes : g.AllTypes CustomType.Ends)
    (hInner : inner.EndsBelow g v.rule value)
    (path : String)
    (options : CheckOptions) :
    ∃ verdict,
      g.checkNode now inner id (some value) path options =
        some verdict := by
  unfold checkNode
  simp only [hNode]
  split
  case isTrue => exact ⟨_, rfl⟩
  case isFalse =>
    split
    · exact ⟨_, rfl⟩
    · exact checkRule_ends hInner (hTypes id v · hNode) path options

/-
  A check ends within as many steps as there are validators
  for each level inside the value, and one for each validator
  that lies ahead.
-/
theorem checkWithin_ends
    {id : ValidatorId}
    {steps : Nat}
    (hClosed : g.Closed)
    (hAcyclic : ∀ id, ¬ Relation.TransGen g.Idles id id)
    (hTypes : g.AllTypes CustomType.Ends)
    (hId : id.index < g.size)
    (hSteps : value.depth * g.size + g.rank id < steps)
    (now : Calendar.Instant)
    (path : String)
    (options : CheckOptions) :
    ∃ verdict,
      g.checkWithin now steps id (some value) path options =
        some verdict := by
  induction steps generalizing id value path options with
  | zero => exact absurd hSteps (Nat.not_lt_zero _)
  | succ steps ih =>
      rcases exists_node?_of_lt hId with ⟨v, hNode⟩
      rw [checkWithin]
      refine checkNode_ends hNode hTypes ?_ path options
      have hRange :
          ∀ other ∈ v.rule.references g, other.index < g.size :=
        fun other => hClosed.lt_size_of_mem_references hNode
      constructor
      · intro other hMem path options
        have hOther :=
          hRange other (Rule.mem_references_of_idle hMem)
        have hRank :=
          rank_lt_of_idles hAcyclic hOther
            ((idles_iff hNode).mpr hMem)
        exact ih hOther (by omega) path options
      · intro other hMem x path options hDeeper
        have hOther := hRange other hMem
        have hRank := rank_lt_size hAcyclic hOther
        have hLevel : (x.depth + 1) * g.size ≤ value.depth * g.size :=
          Nat.mul_le_mul_right _ hDeeper
        rw [Nat.add_mul, Nat.one_mul] at hLevel
        exact ih hOther (by omega) path options
      · intro other hMem path options hDeep
        have hOther := hRange other hMem
        have hLevel : 1 * g.size ≤ value.depth * g.size :=
          Nat.mul_le_mul_right _ hDeep
        have hPos : steps = steps - 1 + 1 := by omega
        rw [hPos]
        exact checkWithin_absent_ends hOther now _ path options

/- The steps that a check may nest if no cycle is idle. -/
def nesting
    (g : Graph) : Option Json → Nat
  | none => 1
  | some value => (value.depth + 1) * g.size

/-
  Without an idle cycle every check ends, and within as many
  nested steps as there are validators for each level of the
  value.
-/
theorem check_ends
    {id : ValidatorId}
    (hClosed : g.Closed)
    (hAcyclic : ∀ id, ¬ Relation.TransGen g.Idles id id)
    (hTypes : g.AllTypes CustomType.Ends)
    (hId : id.index < g.size)
    (now : Calendar.Instant)
    (asked : Option Json)
    (path : String)
    (options : CheckOptions) :
    ∃ verdict,
      g.checkWithin now (g.nesting asked) id asked path options =
          some verdict ∧
        g.check now id asked path options = some verdict := by
  have hEnds :
      ∃ verdict,
        g.checkWithin now (g.nesting asked) id asked path options =
          some verdict := by
    cases asked with
    | none => exact checkWithin_absent_ends hId now 0 path options
    | some value =>
        have hRank := rank_lt_size hAcyclic hId
        apply checkWithin_ends hClosed hAcyclic hTypes hId
        rw [nesting, Nat.add_mul, Nat.one_mul]
        omega
  rcases hEnds with ⟨verdict, hVerdict⟩
  exact ⟨verdict, hVerdict, check_eq_some_iff.mpr ⟨_, hVerdict⟩⟩

end Graph

/- As a custom type, such a schema ends, too. -/
theorem Compiled.ends_toCustomType
    {schema : Compiled}
    (hClosed : schema.graph.Closed)
    (hAcyclic :
      ∀ id, ¬ Relation.TransGen schema.graph.Idles id id)
    (hTypes : schema.graph.AllTypes CustomType.Ends)
    (hRoot : schema.root.index < schema.graph.size) :
    schema.toCustomType.Ends := by
  intro now value path
  rcases Graph.check_ends hClosed hAcyclic hTypes hRoot now
      (some value) path {} with ⟨verdict, _, hVerdict⟩
  exact ⟨_, Option.map_eq_some_iff.mpr ⟨verdict, hVerdict, rfl⟩⟩

end SchemaGraph
