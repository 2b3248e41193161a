import Mathlib
import SchemaGraph.Proofs.Check.Budget
import SchemaGraph.Proofs.Graph.Deferral

/-
  What a check of a closed graph looks at.  A validator asks
  for the verdicts of the validators that it mentions and of
  no others.  In a closed graph these exist, so the verdicts
  do not depend on what might stand behind the last
  validator or the last cell.

  A validator that does not defer mentions earlier ones
  only, so there is a deferred one on every cycle.

  Main declarations:
    * `Graph.Mentions`
    * `Graph.Closed.exists_deferred_of_cycle`
    * `Graph.checkRule_congr`
    * `Graph.followedBy`
    * `Graph.Closed.checkWithin_followedBy`
-/

namespace SchemaGraph

namespace Graph

variable {g : Graph}

------------------------------------------------------------
-- Mentioned Validators
------------------------------------------------------------

/- A check of the validator may ask for the other one. -/
def Mentions
    (g : Graph)
    (id other : ValidatorId) : Prop :=
  other ∈ g.references id

instance
    (g : Graph)
    (id other : ValidatorId) :
    Decidable (g.Mentions id other) :=
  inferInstanceAs (Decidable (other ∈ g.references id))

/- What mentions another validator is in the graph. -/
theorem Mentions.exists_node?
    {id other : ValidatorId}
    (hMentions : g.Mentions id other) :
    ∃ v, g.node? id = some v ∧ other ∈ v.rule.references g := by
  unfold Mentions references at hMentions
  cases hNode : g.node? id with
  | none => simp [hNode] at hMentions
  | some v =>
      simp only [hNode] at hMentions
      exact ⟨v, rfl, hMentions⟩

/- What a rule of a closed graph mentions is in the graph. -/
theorem Closed.lt_size_of_mem_references
    {id other : ValidatorId}
    {v : Validator}
    (hClosed : g.Closed)
    (hNode : g.node? id = some v)
    (hMem : other ∈ v.rule.references g) :
    other.index < g.size := by
  by_cases hDefers : ∃ c, v.rule = .deferred c
  · rcases hDefers with ⟨c, hRule⟩
    rw [hRule] at hMem
    exact hClosed.contents c other (Option.mem_toList.mp hMem)
  · exact (hClosed.mentions_size hNode).lt_of_mem_references
      (not_exists.mp hDefers) hMem

/- What is mentioned, however far away, is in the graph. -/
theorem Closed.lt_size_of_mentioned
    {id other : ValidatorId}
    (hClosed : g.Closed)
    (hId : id.index < g.size)
    (hPath : Relation.ReflTransGen g.Mentions id other) :
    other.index < g.size := by
  induction hPath with
  | refl => exact hId
  | tail _ hStep _ =>
      rcases hStep.exists_node? with ⟨v, hNode, hMem⟩
      exact hClosed.lt_size_of_mem_references hNode hMem

/- A validator defers, or it mentions earlier validators only. -/
theorem Closed.defers_or_lt
    {id other : ValidatorId}
    (hClosed : g.Closed)
    (hMentions : g.Mentions id other) :
    (∃ c, g.deferredCell? id = some c) ∨
      other.index < id.index := by
  rcases hMentions.exists_node? with ⟨v, hNode, hMem⟩
  by_cases hDefers : ∃ c, v.rule = .deferred c
  · rcases hDefers with ⟨c, hRule⟩
    exact Or.inl
      ⟨c, deferredCell?_eq_some_iff.mpr ⟨v, hNode, hRule⟩⟩
  · exact Or.inr
      ((hClosed.mentions id v hNode).lt_of_mem_references
        (not_exists.mp hDefers) hMem)

/- On the way to a later validator there is one that defers. -/
theorem Closed.exists_deferred_of_path
    {id last : ValidatorId}
    (hClosed : g.Closed)
    (hPath : Relation.TransGen g.Mentions id last)
    (hLast : id.index ≤ last.index) :
    ∃ mid c,
      Relation.ReflTransGen g.Mentions id mid ∧
        Relation.TransGen g.Mentions mid last ∧
        g.deferredCell? mid = some c := by
  induction hPath using Relation.TransGen.head_induction_on with
  | @single id hStep =>
      rcases hClosed.defers_or_lt hStep with ⟨c, hCell⟩ | hLt
      · exact ⟨id, c, Relation.ReflTransGen.refl,
          Relation.TransGen.single hStep, hCell⟩
      · omega
  | @head id next hStep hRest ih =>
      rcases hClosed.defers_or_lt hStep with ⟨c, hCell⟩ | hLt
      · exact ⟨id, c, Relation.ReflTransGen.refl,
          Relation.TransGen.head hStep hRest, hCell⟩
      · have hLater : next.index ≤ last.index := by omega
        rcases ih hLater with ⟨mid, c, hMid, hOn, hCell⟩
        exact ⟨mid, c, Relation.ReflTransGen.head hStep hMid, hOn,
          hCell⟩

/- A validator of a closed graph defers to a cell of it. -/
theorem Closed.lt_cells_of_deferred
    {id : ValidatorId}
    {c : CellId}
    (hClosed : g.Closed)
    (hDefers : g.deferredCell? id = some c) :
    c.index < g.cells.size := by
  rcases deferredCell?_eq_some_iff.mp hDefers with
    ⟨v, hNode, hRule⟩
  have hBelow := hClosed.mentions id v hNode
  rw [hRule] at hBelow
  exact hBelow

/- There is a validator that defers on every cycle. -/
theorem Closed.exists_deferred_of_cycle
    {id : ValidatorId}
    (hClosed : g.Closed)
    (hCycle : Relation.TransGen g.Mentions id id) :
    ∃ mid c,
      Relation.ReflTransGen g.Mentions id mid ∧
        Relation.TransGen g.Mentions mid id ∧
        g.deferredCell? mid = some c ∧
        c.index < g.cells.size := by
  rcases hClosed.exists_deferred_of_path hCycle (Nat.le_refl _)
    with ⟨mid, c, hMid, hBack, hCell⟩
  exact ⟨mid, c, hMid, hBack, hCell,
    hClosed.lt_cells_of_deferred hCell⟩

------------------------------------------------------------
-- Verdicts that are Asked for
------------------------------------------------------------

variable {inner outer : Checker}

/- An object rule asks for its properties and its schema of keys. -/
theorem checkObject_congr
    {rule : ObjectRule}
    (hSame :
      ∀ id ∈ (Rule.object rule).references g, inner id = outer id)
    (value : Json)
    (path : String)
    (options : CheckOptions) :
    checkObject inner rule value path options =
      checkObject outer rule value path options := by
  have hDeclared :
      ∀ members,
        declaredVerdicts inner members path options
            (rule.properties.getD []) =
          declaredVerdicts outer members path options
            (rule.properties.getD []) := by
    intro members
    apply mapM_congr
    rintro ⟨name, id⟩ hMem
    have hId : inner id = outer id := by
      apply hSame
      exact List.mem_append_left _ (List.mem_map_of_mem hMem)
    simp only [hId]
  have hUnknown :
      unknownVerdict inner rule path options =
        unknownVerdict outer rule path options := by
    funext name x
    unfold unknownVerdict
    cases hKeys : rule.unknown with
    | schema id =>
        have hId : inner id = outer id := by
          apply hSame
          simp [Rule.references, hKeys]
        simp only [hId]
    | _ => rfl
  unfold checkObject unknownVerdicts
  cases value with
  | object members => simp only [hDeclared, hUnknown]
  | _ => rfl

/- Alternatives ask for each other in turn. -/
theorem checkAlternatives_congr
    {branches : List ValidatorId}
    (hSame : ∀ id ∈ branches, inner id = outer id)
    (value : Json)
    (path : String)
    (options : CheckOptions) :
    checkAlternatives inner value path options branches =
      checkAlternatives outer value path options branches := by
  induction branches with
  | nil => rfl
  | cons id rest ih =>
      have hRest := ih (fun other hMem =>
        hSame other (List.mem_cons_of_mem id hMem))
      simp only [checkAlternatives, hSame id List.mem_cons_self,
        hRest]

/- A part of an intersection asks for what it mentions. -/
theorem branchViolations_congr
    {branch : Branch}
    (hSame : ∀ id ∈ branch.references, inner id = outer id)
    (value : Json)
    (path : String)
    (options : CheckOptions) :
    branchViolations inner value path options branch =
      branchViolations outer value path options branch := by
  unfold branchViolations
  cases branch with
  | schema id =>
      have hId : inner id = outer id :=
        hSame id (by simp [Branch.references])
      simp [effective, hId]
  | conditional test pass fail =>
      have hTest : inner test = outer test :=
        hSame test (by simp [Branch.references])
      have hPass : ∀ id, pass = some id → inner id = outer id := by
        rintro id rfl
        exact hSame id (by simp [Branch.references])
      have hFail : ∀ id, fail = some id → inner id = outer id := by
        rintro id rfl
        exact hSame id (by simp [Branch.references])
      simp only [effective, hTest]
      cases outer test (some value) path options with
      | none => rfl
      | some verdict =>
          cases verdict with
          | ok accepted =>
              cases pass with
              | none => rfl
              | some id => simp [hPass id rfl]
          | error vs =>
              cases fail with
              | none => rfl
              | some id => simp [hFail id rfl]

/- A rule asks for the verdicts of what it mentions. -/
theorem checkRule_congr
    {rule : Rule}
    (hSame : ∀ id ∈ rule.references g, inner id = outer id)
    (now : Calendar.Instant)
    (value : Json)
    (path : String)
    (options : CheckOptions) :
    g.checkRule now inner rule value path options =
      g.checkRule now outer rule value path options := by
  cases rule with
  | object rule => exact checkObject_congr hSame value path options
  | array rule =>
      have hItem :
          itemVerdict inner rule path options =
            itemVerdict outer rule path options := by
        funext x i
        unfold itemVerdict
        cases hItems : rule.items with
        | none => rfl
        | some id =>
            have hId : inner id = outer id :=
              hSame id (by simp [Rule.references, hItems])
            simp only [hId]
      simp only [checkRule, checkArray, hItem]
  | alternatives branches =>
      exact checkAlternatives_congr hSame value path options
  | all branches =>
      have hBranches :
          branches.mapM (branchViolations inner value path ⟨true⟩) =
            branches.mapM
              (branchViolations outer value path ⟨true⟩) := by
        apply mapM_congr
        intro branch hMem
        apply branchViolations_congr
        intro id hId
        exact hSame id (List.mem_flatMap.mpr ⟨branch, hMem, hId⟩)
      simp only [checkRule, checkAll, hBranches]
  | deferred c =>
      simp only [checkRule]
      cases hCell : g.cell? c with
      | none => rfl
      | some target =>
          have hId : inner target = outer target :=
            hSame target (by simp [Rule.references, hCell])
          simp only [hId]
  | _ => rfl

------------------------------------------------------------
-- Larger Graphs
------------------------------------------------------------

/- The graph with more validators and more cells behind its own. -/
def followedBy
    (g : Graph)
    (nodes : Array Validator)
    (cells : Array (Option ValidatorId)) : Graph :=
  ⟨g.nodes ++ nodes, g.cells ++ cells⟩

/- The validators of the graph stay where they are. -/
theorem node?_followedBy
    {id : ValidatorId}
    (hId : id.index < g.size)
    (nodes : Array Validator)
    (cells : Array (Option ValidatorId)) :
    (g.followedBy nodes cells).node? id = g.node? id := by
  simp only [followedBy, node?]
  exact Array.getElem?_append_left hId

/- The cells of the graph stay where they are. -/
theorem cell?_followedBy
    {c : CellId}
    (hCell : c.index < g.cells.size)
    (nodes : Array Validator)
    (cells : Array (Option ValidatorId)) :
    (g.followedBy nodes cells).cell? c = g.cell? c := by
  simp only [followedBy, cell?]
  rw [Array.getElem?_append_left hCell]

/- A rule looks at no other cell than the one it defers to. -/
theorem checkRule_followedBy
    {rule : Rule}
    {bound : Nat}
    (hBelow : g.MentionsBelow bound rule)
    (nodes : Array Validator)
    (cells : Array (Option ValidatorId))
    (now : Calendar.Instant)
    (value : Json)
    (path : String)
    (options : CheckOptions) :
    (g.followedBy nodes cells).checkRule now inner rule value path
        options =
      g.checkRule now inner rule value path options := by
  cases rule with
  | deferred c =>
      have hCell : c.index < g.cells.size := hBelow
      simp only [checkRule, cell?_followedBy hCell]
  | _ => rfl

/-
  In a closed graph a check does not depend on what stands
  behind the last validator and the last cell.
-/
theorem Closed.checkWithin_followedBy
    {id : ValidatorId}
    (hClosed : g.Closed)
    (hId : id.index < g.size)
    (nodes : Array Validator)
    (cells : Array (Option ValidatorId))
    (now : Calendar.Instant)
    (budget : Nat) :
    (g.followedBy nodes cells).checkWithin now budget id =
      g.checkWithin now budget id := by
  induction budget generalizing id with
  | zero => rfl
  | succ budget ih =>
      rcases exists_node?_of_lt hId with ⟨v, hNode⟩
      -- What the validator mentions is in the graph, too.
      have hInner :
          ∀ other ∈ v.rule.references g,
            (g.followedBy nodes cells).checkWithin now budget
                other =
              g.checkWithin now budget other := by
        intro other hMem
        exact ih (hClosed.lt_size_of_mem_references hNode hMem)
      have hRule :
          ∀ value path options,
            (g.followedBy nodes cells).checkRule now
                ((g.followedBy nodes cells).checkWithin now budget)
                v.rule value path options =
              g.checkRule now (g.checkWithin now budget) v.rule
                value path options := by
        intro value path options
        rw [checkRule_followedBy (hClosed.mentions id v hNode)]
        exact checkRule_congr hInner now value path options
      funext asked path options
      simp only [checkWithin, checkNode,
        node?_followedBy hId nodes cells, hNode, hRule]

end Graph

end SchemaGraph
