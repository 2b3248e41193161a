import Mathlib
import SchemaGraph.Proofs.Graph.Growth

/-
  A deferred validator forwards to the content of its cell.
  Forwarding from the content of a cell never comes back to
  the cell: this holds of the empty graph, and filling a
  cell keeps it, since a content that leads back is refused.

  The search for a cell that a validator leads back to is
  bounded by the number of cells.  The bound is never
  reached: the cells passed on the way are distinct.

  Main declarations:
    * `Graph.Forwards`
    * `Graph.LeadsBack`
    * `Graph.Acyclic`
    * `Graph.leadsTo_iff`
    * `Graph.Acyclic.setCell`
-/

namespace SchemaGraph

namespace Graph

------------------------------------------------------------
-- Forwarding
------------------------------------------------------------

/- The validator defers to a cell that holds the next one. -/
def Forwards
    (g : Graph)
    (id next : ValidatorId) : Prop :=
  ∃ c, g.deferredCell? id = some c ∧ g.cell? c = some next

/-
  Forwarding from the validator reaches one that defers to
  the cell.
-/
def LeadsBack
    (g : Graph)
    (id : ValidatorId)
    (c : CellId) : Prop :=
  ∃ last,
    Relation.ReflTransGen g.Forwards id last ∧
      g.deferredCell? last = some c

/- No cell holds a validator that leads back to the cell. -/
def Acyclic
    (g : Graph) : Prop :=
  ∀ c id, g.cell? c = some id → ¬ g.LeadsBack id c

/- A growing graph keeps forwarding. -/
theorem Forwards.mono
    {g h : Graph}
    {id next : ValidatorId}
    (hForwards : g.Forwards id next)
    (hGrows : g.Extends h) :
    h.Forwards id next := by
  rcases hForwards with ⟨c, hDefers, hCell⟩
  exact
    ⟨c, hGrows.deferredCell? hDefers, hGrows.cell c next hCell⟩

/- A growing graph keeps what leads back. -/
theorem LeadsBack.mono
    {g h : Graph}
    {id : ValidatorId}
    {c : CellId}
    (hLeads : g.LeadsBack id c)
    (hGrows : g.Extends h) :
    h.LeadsBack id c := by
  rcases hLeads with ⟨last, hPath, hLast⟩
  exact
    ⟨last,
      Relation.ReflTransGen.mono
        (fun _ _ hStep => Forwards.mono hStep hGrows)
        _ _ hPath,
      hGrows.deferredCell? hLast⟩

/- What leads back does so from every validator before it. -/
theorem LeadsBack.of_forwards
    {g : Graph}
    {id next : ValidatorId}
    {c : CellId}
    (hLeads : g.LeadsBack next c)
    (hPath : Relation.ReflTransGen g.Forwards id next) :
    g.LeadsBack id c := by
  rcases hLeads with ⟨last, hRest, hLast⟩
  exact ⟨last, hPath.trans hRest, hLast⟩

/-
  A validator leads back to the cell it defers to, and else
  to where the content of that cell leads.
-/
theorem leadsBack_iff_of_deferredCell?
    {g : Graph}
    {id : ValidatorId}
    {c own : CellId}
    (hOwn : g.deferredCell? id = some own) :
    g.LeadsBack id c ↔
      own = c ∨
        ∃ next, g.cell? own = some next ∧ g.LeadsBack next c := by
  constructor
  · rintro ⟨last, hPath, hLast⟩
    rcases Relation.ReflTransGen.cases_head hPath with
      rfl | ⟨next, ⟨first, hFirst, hCell⟩, hRest⟩
    · rw [hOwn] at hLast
      exact Or.inl (Option.some.inj hLast)
    · rw [hOwn] at hFirst
      cases hFirst
      exact Or.inr ⟨next, hCell, last, hRest, hLast⟩
  · rintro (rfl | ⟨next, hCell, hLeads⟩)
    · exact ⟨id, Relation.ReflTransGen.refl, hOwn⟩
    · exact hLeads.of_forwards
        (Relation.ReflTransGen.single ⟨own, hOwn, hCell⟩)

/- A validator that does not defer leads back nowhere. -/
theorem not_leadsBack_of_deferredCell?_eq_none
    {g : Graph}
    {id : ValidatorId}
    {c : CellId}
    (hNone : g.deferredCell? id = none) :
    ¬ g.LeadsBack id c := by
  rintro ⟨last, hPath, hLast⟩
  rcases Relation.ReflTransGen.cases_head hPath with
    rfl | ⟨next, ⟨own, hOwn, _⟩, _⟩
  · rw [hNone] at hLast
    cases hLast
  · rw [hNone] at hOwn
    cases hOwn

/- What defers alike leads back to the same cells. -/
theorem LeadsBack.of_deferredCell?_eq
    {g : Graph}
    {id other : ValidatorId}
    {c : CellId}
    (hLeads : g.LeadsBack id c)
    (hSame : g.deferredCell? other = g.deferredCell? id) :
    g.LeadsBack other c := by
  cases hOwn : g.deferredCell? id with
  | none =>
      exact absurd hLeads
        (not_leadsBack_of_deferredCell?_eq_none hOwn)
  | some own =>
      rw [leadsBack_iff_of_deferredCell? hOwn] at hLeads
      rw [leadsBack_iff_of_deferredCell? (hSame.trans hOwn)]
      exact hLeads

/- A validator forwards to one validator at most. -/
theorem rightUnique_forwards
    (g : Graph) :
    Relator.RightUnique g.Forwards := by
  rintro id next other ⟨c, hDefers, hCell⟩ ⟨d, hAlso, hOther⟩
  rw [hDefers] at hAlso
  cases hAlso
  rw [hCell] at hOther
  exact Option.some.inj hOther

/- Forwarding stops at an empty cell. -/
theorem eq_of_forwards_of_empty
    {g : Graph}
    {id last : ValidatorId}
    {c : CellId}
    (hDefers : g.deferredCell? id = some c)
    (hEmpty : g.cell? c = none)
    (hPath : Relation.ReflTransGen g.Forwards id last) :
    id = last := by
  rcases Relation.ReflTransGen.cases_head hPath with
    hSame | ⟨next, ⟨own, hOwn, hCell⟩, _⟩
  · exact hSame
  · rw [hDefers] at hOwn
    cases hOwn
    rw [hEmpty] at hCell
    cases hCell

/- A validator leads back to one empty cell at most. -/
theorem LeadsBack.unique
    {g : Graph}
    {id : ValidatorId}
    {c d : CellId}
    (hFirst : g.LeadsBack id c)
    (hSecond : g.LeadsBack id d)
    (hC : g.cell? c = none)
    (hD : g.cell? d = none) :
    c = d := by
  rcases hFirst with ⟨first, hFirstPath, hFirstCell⟩
  rcases hSecond with ⟨second, hSecondPath, hSecondCell⟩
  have hSame : first = second := by
    rcases Relation.ReflTransGen.total_of_right_unique
      (rightUnique_forwards g) hFirstPath hSecondPath with
      hOn | hBack
    · exact eq_of_forwards_of_empty hFirstCell hC hOn
    · exact (eq_of_forwards_of_empty hSecondCell hD hBack).symm
  subst hSame
  rw [hFirstCell] at hSecondCell
  exact Option.some.inj hSecondCell

------------------------------------------------------------
-- The Search for a Cell
------------------------------------------------------------

/- A search that ends without the cell does not miss it. -/
theorem not_leadsBack_of_meetsCell
    {g : Graph}
    {c : CellId}
    {steps : Nat}
    {id : ValidatorId}
    (hMeets : g.meetsCell c steps id = false) :
    ¬ g.LeadsBack id c := by
  induction steps generalizing id with
  | zero => simp [meetsCell] at hMeets
  | succ steps ih =>
      simp only [meetsCell] at hMeets
      cases hOwn : g.deferredCell? id with
      | none => exact not_leadsBack_of_deferredCell?_eq_none hOwn
      | some own =>
          rw [leadsBack_iff_of_deferredCell? hOwn]
          simp only [hOwn] at hMeets
          rintro (rfl | ⟨next, hCell, hLeads⟩)
          · simp at hMeets
          · by_cases hSame : own = c
            · simp [hSame] at hMeets
            · simp only [hSame, if_false, hCell] at hMeets
              exact ih hMeets hLeads

/- Distinct filled cells are at most as many as there are cells. -/
theorem length_le_of_filled
    {g : Graph}
    {cells : List CellId}
    (hNodup : cells.Nodup)
    (hFilled : ∀ c ∈ cells, ∃ id, g.cell? c = some id) :
    cells.length ≤ g.cells.size := by
  have hIndexes : (cells.map CellId.index).Nodup := by
    apply hNodup.map_on
    rintro ⟨i⟩ _ ⟨j⟩ _ hIndex
    exact congrArg CellId.mk hIndex
  have hListed :
      cells.map CellId.index ⊆ List.range g.cells.size := by
    intro i hMem
    rcases List.mem_map.mp hMem with ⟨c, hCell, rfl⟩
    rcases hFilled c hCell with ⟨id, hContent⟩
    exact List.mem_range.mpr (lt_cells_of_cell? hContent)
  have hBound := (hIndexes.subperm hListed).length_le
  simpa using hBound

/-
  A search that ends with the cell has found it, or it has
  run out of steps.  Then it has passed distinct cells, each
  of them filled, and each leading to where the search is.
-/
theorem leadsBack_of_meetsCell
    {g : Graph}
    (hAcyclic : g.Acyclic)
    {c : CellId}
    {steps : Nat}
    {id : ValidatorId}
    {passed : List CellId}
    (hNodup : passed.Nodup)
    (hPassed :
      ∀ p ∈ passed, ∃ first,
        g.cell? p = some first ∧
          Relation.ReflTransGen g.Forwards first id)
    (hSteps : steps + passed.length = g.cells.size + 1)
    (hMeets : g.meetsCell c steps id = true) :
    g.LeadsBack id c := by
  induction steps generalizing id passed with
  | zero =>
      -- More distinct cells than there are cannot be passed.
      have hBound : passed.length ≤ g.cells.size := by
        apply length_le_of_filled hNodup
        intro p hp
        rcases hPassed p hp with ⟨first, hFirst, _⟩
        exact ⟨first, hFirst⟩
      omega
  | succ steps ih =>
      simp only [meetsCell] at hMeets
      cases hOwn : g.deferredCell? id with
      | none => simp [hOwn] at hMeets
      | some own =>
          rw [leadsBack_iff_of_deferredCell? hOwn]
          simp only [hOwn] at hMeets
          by_cases hSame : own = c
          · exact Or.inl hSame
          · simp only [hSame, if_false] at hMeets
            cases hCell : g.cell? own with
            | none => simp [hCell] at hMeets
            | some next =>
                simp only [hCell] at hMeets
                have hStep : g.Forwards id next :=
                  ⟨own, hOwn, hCell⟩
                have hNew : own ∉ passed := by
                  intro hMem
                  rcases hPassed own hMem with
                    ⟨first, hFirst, hPath⟩
                  exact hAcyclic own first hFirst
                    ⟨id, hPath, hOwn⟩
                have hOnward :
                    ∀ p ∈ own :: passed, ∃ first,
                      g.cell? p = some first ∧
                        Relation.ReflTransGen g.Forwards first
                          next := by
                  intro p hp
                  rcases List.mem_cons.mp hp with rfl | hp
                  · exact
                      ⟨next, hCell, Relation.ReflTransGen.refl⟩
                  · rcases hPassed p hp with
                      ⟨first, hFirst, hPath⟩
                    exact ⟨first, hFirst, hPath.tail hStep⟩
                have hCount :
                    steps + (own :: passed).length =
                      g.cells.size + 1 := by
                  simp only [List.length_cons]
                  omega
                exact Or.inr ⟨next, rfl,
                  ih (List.nodup_cons.mpr ⟨hNew, hNodup⟩)
                    hOnward hCount hMeets⟩

/- In an acyclic graph the search is right both ways. -/
theorem leadsTo_iff
    {g : Graph}
    (hAcyclic : g.Acyclic)
    {id : ValidatorId}
    {c : CellId} :
    g.leadsTo id c = true ↔ g.LeadsBack id c := by
  constructor
  · intro hMeets
    exact leadsBack_of_meetsCell hAcyclic List.nodup_nil
      (fun p hp => by cases hp) rfl hMeets
  · intro hLeads
    by_contra hMisses
    exact not_leadsBack_of_meetsCell
      (by simpa [leadsTo] using hMisses) hLeads

------------------------------------------------------------
-- Operations
------------------------------------------------------------

/- Old validators defer as before an addition. -/
theorem deferredCell?_push_of_lt
    {g : Graph}
    {id : ValidatorId}
    (v : Validator)
    (hId : id.index < g.size) :
    (g.push v).2.deferredCell? id = g.deferredCell? id :=
  (Extends.push g v).deferredCell?_eq hId

/- The graph without validators is acyclic. -/
theorem Acyclic.empty : Acyclic empty := by
  intro c id hCell
  simp [cell?, Graph.empty] at hCell

/- Forwarding stays inside a closed graph. -/
theorem Closed.lt_size_of_forwards
    {g : Graph}
    (hClosed : g.Closed)
    {id next : ValidatorId}
    (hId : id.index < g.size)
    (hPath : Relation.ReflTransGen g.Forwards id next) :
    next.index < g.size := by
  induction hPath with
  | refl => exact hId
  | tail _ hStep _ =>
      rcases hStep with ⟨c, _, hCell⟩
      exact hClosed.contents c _ hCell

/- What leads back after an addition did so before. -/
theorem leadsBack_of_push
    {g : Graph}
    (hClosed : g.Closed)
    {v : Validator}
    {id : ValidatorId}
    {c : CellId}
    (hId : id.index < g.size)
    (hLeads : (g.push v).2.LeadsBack id c) :
    g.LeadsBack id c := by
  rcases hLeads with ⟨last, hPath, hLast⟩
  have hOld : Relation.ReflTransGen g.Forwards id last := by
    clear hLast
    induction hPath with
    | refl => exact Relation.ReflTransGen.refl
    | tail _ hStep ih =>
        rcases hStep with ⟨own, hOwn, hCell⟩
        rw [deferredCell?_push_of_lt v
          (hClosed.lt_size_of_forwards hId ih)] at hOwn
        exact ih.tail ⟨own, hOwn, hCell⟩
  rw [deferredCell?_push_of_lt v
    (hClosed.lt_size_of_forwards hId hOld)] at hLast
  exact ⟨last, hOld, hLast⟩

/- Adding a validator makes no cycle. -/
theorem Acyclic.push
    {g : Graph}
    (hAcyclic : g.Acyclic)
    (hClosed : g.Closed)
    (v : Validator) :
    (g.push v).2.Acyclic := by
  intro c id hCell hLeads
  rw [cell?_push] at hCell
  exact hAcyclic c id hCell
    (leadsBack_of_push hClosed (hClosed.contents c id hCell)
      hLeads)

/- A new cell leaves forwarding alone. -/
theorem forwards_newCell
    (g : Graph) :
    g.newCell.2.Forwards = g.Forwards := by
  funext id next
  simp only [Forwards, cell?_newCell]
  rfl

/- Adding a cell makes no cycle. -/
theorem Acyclic.newCell
    {g : Graph}
    (hAcyclic : g.Acyclic) :
    g.newCell.2.Acyclic := by
  intro c id hCell hLeads
  rw [cell?_newCell] at hCell
  rw [LeadsBack, forwards_newCell] at hLeads
  exact hAcyclic c id hCell hLeads

/-
  After a cell is set, a validator leads back to a cell as
  before, or it led to the cell that was set and the new
  content leads on.
-/
theorem leadsBack_of_setCell
    {g : Graph}
    {c target : CellId}
    {id content : ValidatorId}
    (hLeads : (g.setCell c content).LeadsBack id target) :
    g.LeadsBack id target ∨
      (g.LeadsBack id c ∧
        (g.setCell c content).LeadsBack content target) := by
  rcases hLeads with ⟨last, hPath, hLast⟩
  induction hPath using Relation.ReflTransGen.head_induction_on with
  | refl =>
      exact Or.inl ⟨last, Relation.ReflTransGen.refl, hLast⟩
  | @head here next hStep hRest ih =>
      rcases hStep with ⟨own, hOwn, hCell⟩
      have hOld : g.deferredCell? here = some own := hOwn
      by_cases hSame : own = c
      · subst hSame
        have hLt : own.index < g.cells.size := by
          simpa [Graph.setCell] using lt_cells_of_cell? hCell
        rw [cell?_setCell_self content hLt] at hCell
        cases hCell
        exact Or.inr
          ⟨⟨here, Relation.ReflTransGen.refl, hOld⟩,
            last, hRest, hLast⟩
      · rw [cell?_setCell_of_ne content hSame] at hCell
        have hFirst :
            Relation.ReflTransGen g.Forwards here next :=
          Relation.ReflTransGen.single ⟨own, hOld, hCell⟩
        rcases ih with hLeft | ⟨hBack, hOn⟩
        · exact Or.inl (hLeft.of_forwards hFirst)
        · exact Or.inr ⟨hBack.of_forwards hFirst, hOn⟩

/-
  Setting a cell to a validator that does not lead back to
  it makes no cycle.
-/
theorem Acyclic.setCell
    {g : Graph}
    (hAcyclic : g.Acyclic)
    {c : CellId}
    {content : ValidatorId}
    (hFresh : ¬ g.LeadsBack content c) :
    (g.setCell c content).Acyclic := by
  -- From the new content, nothing is reached through the set cell.
  have hContent :
      ∀ target,
        (g.setCell c content).LeadsBack content target →
          g.LeadsBack content target := by
    intro target hLeads
    rcases leadsBack_of_setCell hLeads with hOld | ⟨hBack, _⟩
    · exact hOld
    · exact absurd hBack hFresh
  intro target id hCell hLeads
  by_cases hSame : target = c
  · subst hSame
    have hLt : target.index < g.cells.size := by
      simpa [Graph.setCell] using lt_cells_of_cell? hCell
    rw [cell?_setCell_self content hLt] at hCell
    cases hCell
    exact hFresh (hContent target hLeads)
  · rw [cell?_setCell_of_ne content hSame] at hCell
    rcases leadsBack_of_setCell hLeads with
      hOld | ⟨⟨last, hPath, hLast⟩, hOn⟩
    · exact hAcyclic target id hCell hOld
    · -- The content leads to the target, whose content leads on to
      -- the set cell: the content led back to it before.
      rcases hContent target hOn with ⟨mid, hMid, hTarget⟩
      exact hFresh
        ⟨last, (hMid.tail ⟨target, hTarget, hCell⟩).trans hPath,
          hLast⟩

end Graph

end SchemaGraph
