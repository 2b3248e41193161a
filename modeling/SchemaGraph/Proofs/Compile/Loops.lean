import Mathlib
import SchemaGraph.Proofs.Compile.Transparency

/-
  Loops of references.  A cell stays empty exactly if its
  node is a reference that leads through references only
  back to itself.

  A cell is made for a node in progress that is asked for.
  Of the nodes in progress every reference cites the next
  one, so either a node that is no reference is met above
  the node of the cell, or the references above it lead back
  to it.  In the first case the content of the cell never
  leads back to the cell.  In the second case it does: by
  the time the node is done, all other nodes of the loop
  lead to the cell.

  Main declarations:
    * `State.Grounded`
    * `State.Circles`
    * `Threaded`
    * `Sound.leadsBack_of_circles`
    * `Step.threaded`
    * `State.Follows`
    * `compile_cell_eq_none_iff`
-/

namespace SchemaGraph

variable {setting : Setting}
variable {source : Source}
variable {workingDir : Path}
variable {s t : State}

------------------------------------------------------------
-- Chains of References
------------------------------------------------------------

/- References lead from the node to one that is no reference. -/
def State.Grounded
    (setting : Setting)
    (s : State)
    (key : NodeKey) : Prop :=
  ∃ last,
    Relation.ReflTransGen (s.Cites setting) key last ∧
      s.Present last ∧ s.reference? last = none

/-
  References lead from the node back to it, and not through
  the given nodes.
-/
def State.Circles
    (setting : Setting)
    (s : State)
    (below : List NodeKey)
    (key : NodeKey) : Prop :=
  ∃ last,
    Relation.ReflTransGen
        (fun first next =>
          s.Cites setting first next ∧ next ∉ below)
        key last ∧
      s.Cites setting last key

/- A node that is no reference cites nothing. -/
theorem State.not_cites_of_reference?_eq_none
    {key target : NodeKey}
    (hNone : s.reference? key = none) :
    ¬ s.Cites setting key target := by
  rintro ⟨text, hText, _⟩
  rw [hNone] at hText
  cases hText

/- Nodes go on to be led to others that are no references. -/
theorem State.Grounded.mono
    {key : NodeKey}
    (hGrounded : s.Grounded setting key)
    (hGrows : Grows setting s t) :
    t.Grounded setting key := by
  rcases hGrounded with ⟨last, hPath, hPresent, hNone⟩
  refine ⟨last, ?_, hGrows.present hPresent, ?_⟩
  · exact Relation.ReflTransGen.mono
      (fun _ _ hCites => hCites.mono hGrows) _ _ hPath
  · rw [hGrows.reference? hPresent]
    exact hNone

/- References go on to lead back to a node. -/
theorem State.Circles.mono
    {below : List NodeKey}
    {key : NodeKey}
    (hCircles : s.Circles setting below key)
    (hGrows : Grows setting s t) :
    t.Circles setting below key := by
  rcases hCircles with ⟨last, hPath, hLast⟩
  refine ⟨last, ?_, hLast.mono hGrows⟩
  exact Relation.ReflTransGen.mono
    (fun _ _ hStep => ⟨hStep.1.mono hGrows, hStep.2⟩) _ _ hPath

/- References go on to lead to a node. -/
theorem Grows.leadsOn
    {key other : NodeKey}
    (hGrows : Grows setting s t)
    (hPath : Relation.TransGen (s.Cites setting) key other) :
    Relation.TransGen (t.Cites setting) key other :=
  Relation.TransGen.mono
    (fun _ _ hCites => State.Cites.mono hCites hGrows) _ _ hPath

/-
  On the way from a loop of references there are references
  only.
-/
theorem State.not_grounded_of_loop
    {key : NodeKey}
    (hLoop : Relation.TransGen (s.Cites setting) key key) :
    ¬ s.Grounded setting key := by
  rintro ⟨last, hPath, _, hNone⟩
  induction hPath using Relation.ReflTransGen.head_induction_on with
  | refl =>
      rcases Relation.TransGen.head'_iff.mp hLoop with
        ⟨next, hCites, _⟩
      exact State.not_cites_of_reference?_eq_none hNone hCites
  | head hCites _ ih =>
      -- The next node is on the loop, too.
      rcases Relation.TransGen.head'_iff.mp hLoop with
        ⟨next, hFirst, hRest⟩
      have hSame := hFirst.unique hCites
      subst hSame
      exact ih (Relation.TransGen.tail' hRest hCites)

------------------------------------------------------------
-- Nodes in Progress
------------------------------------------------------------

/-
  The nodes in progress and the cells follow the references.
  A reference in progress cites the next node in progress.
  A remembered node whose validator defers to a cell leads
  to the node of that cell.  From a node with a cell, either
  references lead to a node that is no reference, or the
  cell is empty; while such a node is in progress, they lead
  back to it through later nodes.
-/
structure Threaded
    (setting : Setting)
    (s : State) : Prop where
  stacked :
    ∀ above upper lower below,
      s.progress = above ++ upper :: lower :: below →
        s.reference? lower ≠ none →
          s.Cites setting lower upper
  deferring :
    ∀ key id c,
      s.resolved.lookup key = some id →
        s.graph.deferredCell? id = some c →
          ∃ other,
            Relation.TransGen (s.Cites setting) key other ∧
              s.cells.lookup other = some c
  celled :
    ∀ key c,
      s.cells.lookup key = some c →
        s.Grounded setting key ∨
          (s.graph.cell? c = none ∧
            ∀ above below,
              s.progress = above ++ key :: below →
                s.Circles setting below key)

/-
  The nodes in progress above a node: one of them is no
  reference, or references lead from the node up to the top.
-/
theorem Threaded.grounded_or_climbs
    {above below outer : List NodeKey}
    {key : NodeKey}
    (hThreaded : Threaded setting s)
    (hNested : Nested s)
    (hStack : s.progress = above ++ key :: below)
    (hOuter : outer ⊆ below) :
    s.Grounded setting key ∨
      ∃ top,
        s.progress.head? = some top ∧
          s.reference? top ≠ none ∧
          Relation.ReflTransGen
            (fun first next =>
              s.Cites setting first next ∧ next ∉ outer)
            key top := by
  have hPresent : s.Present key :=
    hNested.present key (by rw [hStack]; simp)
  by_cases hReference : s.reference? key = none
  · exact Or.inl ⟨key, Relation.ReflTransGen.refl, hPresent,
      hReference⟩
  -- From the bottom to the top: the node above comes next.
  induction above using List.reverseRecOn
    generalizing key below with
  | nil =>
      refine Or.inr
        ⟨key, ?_, hReference, Relation.ReflTransGen.refl⟩
      rw [hStack]
      rfl
  | append_singleton above upper ih =>
      have hNext : s.progress = above ++ upper :: key :: below := by
        rw [hStack, List.append_assoc, List.singleton_append]
      have hCites := hThreaded.stacked above upper key below hNext
        hReference
      have hDistinct := hNested.distinct
      rw [hNext, List.nodup_append] at hDistinct
      have hNew : upper ∉ key :: below :=
        (List.nodup_cons.mp hDistinct.2.1).1
      have hUpper : upper ∉ outer := fun hMem =>
        hNew (List.mem_cons_of_mem key (hOuter hMem))
      have hUpperPresent : s.Present upper :=
        hNested.present upper (by rw [hNext]; simp)
      by_cases hUpperReference : s.reference? upper = none
      · exact Or.inl
          ⟨upper, Relation.ReflTransGen.single hCites,
            hUpperPresent, hUpperReference⟩
      rcases ih hNext (List.subset_cons_of_subset key hOuter)
          hUpperPresent hUpperReference with
        ⟨last, hPath, hLast⟩ | ⟨top, hTop, hText, hPath⟩
      · exact Or.inl
          ⟨last, Relation.ReflTransGen.head hCites hPath, hLast⟩
      · exact Or.inr ⟨top, hTop, hText,
          Relation.ReflTransGen.head ⟨hCites, hUpper⟩ hPath⟩

/- What a node in progress that is asked for is met by. -/
theorem Threaded.circles_of_asks
    {above below : List NodeKey}
    {key : NodeKey}
    (hThreaded : Threaded setting s)
    (hNested : Nested s)
    (hAsks : s.Asks setting key)
    (hStack : s.progress = above ++ key :: below)
    (hGrounded : ¬ s.Grounded setting key) :
    s.Circles setting below key := by
  rcases hThreaded.grounded_or_climbs hNested hStack
      (List.Subset.refl below) with
    hMet | ⟨top, hTop, hReference, hPath⟩
  · exact absurd hMet hGrounded
  · exact ⟨top, hPath, hAsks top hTop hReference⟩

------------------------------------------------------------
-- Filling Cells
------------------------------------------------------------

/-
  A reference leads back to a cell if whatever stands for
  its target does.
-/
theorem Reply.leadsBack_of_cites
    {key next : NodeKey}
    {id : ValidatorId}
    {c : CellId}
    (hReply : Reply setting s key id)
    (hCites : s.Cites setting key next)
    (hNext :
      ∀ declared, s.StandsFor next declared →
        s.graph.LeadsBack declared c) :
    s.graph.LeadsBack id c := by
  rcases hCites with ⟨text, hText, hLeads⟩
  rcases State.reference?_eq_some_iff.mp hText with
    ⟨node, hNode, hKind⟩
  rcases hReply.of_kind hNode hKind with ⟨v, hOf⟩
  rcases hOf.reference text rfl with
    ⟨target, declared, hTarget, hStands, hDerives⟩
  have hUnique := hTarget.unique hLeads
  subst hUnique
  exact (hNext declared hStands).of_deferredCell?_eq
    (hDerives.deferredCell?_eq (fun _ => rfl))

/-
  Whatever stands for a reference that is not in progress
  leads back to an empty cell if whatever stands for its
  target does.
-/
theorem Sound.leadsBack_of_cites
    {key next : NodeKey}
    {id : ValidatorId}
    {c : CellId}
    (hSound : Sound setting source s)
    (hEmpty : s.graph.cell? c = none)
    (hDone : key ∉ s.progress)
    (hCites : s.Cites setting key next)
    (hNext :
      ∀ declared, s.StandsFor next declared →
        s.graph.LeadsBack declared c)
    (hStands : s.StandsFor key id) :
    s.graph.LeadsBack id c := by
  have hRemembered :
      ∀ held, s.resolved.lookup key = some held →
        s.graph.LeadsBack held c :=
    fun held hResolved =>
      (hSound.truthful.replies key held
        hResolved).leadsBack_of_cites hCites hNext
  rcases hStands with hResolved | ⟨own, hOwn, hNode⟩
  · exact hRemembered id hResolved
  · have hDefers : s.graph.deferredCell? id = some own :=
      Graph.deferredCell?_eq_some_iff.mpr ⟨_, hNode, rfl⟩
    rcases hSound.celled.pending key own hOwn with
      ⟨hOpen, _⟩ | ⟨held, hResolved, hHolds | ⟨hVacant, hBack⟩⟩
    · exact absurd hOpen hDone
    · exact (hRemembered held hResolved).of_forwards
        (Relation.ReflTransGen.single ⟨own, hDefers, hHolds⟩)
    · -- Both cells are empty, so they are the same one.
      have hSame :=
        hBack.unique (hRemembered held hResolved) hVacant hEmpty
      subst hSame
      exact ⟨id, Relation.ReflTransGen.refl, hDefers⟩

/-
  When the node on top is done, and references lead back to
  it, its validator leads back to its cell.
-/
theorem Sound.leadsBack_of_circles
    {key : NodeKey}
    {rest : List NodeKey}
    {id : ValidatorId}
    {c : CellId}
    (hSound : Sound setting source s)
    (hTop : s.progress = key :: rest)
    (hCell : s.cells.lookup key = some c)
    (hReply : Reply setting s key id)
    (hCircles : s.Circles setting rest key) :
    s.graph.LeadsBack id c := by
  have hResolved : s.resolved.lookup key = none :=
    hSound.nested.unresolved key (by rw [hTop]; simp)
  have hEmpty : s.graph.cell? c = none :=
    hSound.celled.empty_of_unresolved hResolved hCell
  have hOwn :
      ∀ declared, s.StandsFor key declared →
        s.graph.LeadsBack declared c := by
    rintro declared (hSome | ⟨own, hOwn, hNode⟩)
    · rw [hResolved] at hSome
      cases hSome
    · rw [hCell] at hOwn
      cases hOwn
      exact ⟨declared, Relation.ReflTransGen.refl,
        Graph.deferredCell?_eq_some_iff.mpr ⟨_, hNode, rfl⟩⟩
  rcases hCircles with ⟨last, hPath, hLast⟩
  -- Back along the loop, every target leads to the cell.
  have hTargets :
      ∀ here,
        Relation.ReflTransGen
            (fun first next =>
              s.Cites setting first next ∧ next ∉ rest)
            here last →
          ∃ next,
            s.Cites setting here next ∧
              ∀ declared, s.StandsFor next declared →
                s.graph.LeadsBack declared c := by
    intro here hPath
    induction hPath using
      Relation.ReflTransGen.head_induction_on with
    | refl => exact ⟨key, hLast, hOwn⟩
    | @head here next hStep _ ih =>
        rcases ih with ⟨target, hTarget, hLeads⟩
        refine ⟨next, hStep.1, ?_⟩
        by_cases hSame : next = key
        · rw [hSame]
          exact hOwn
        · have hDone : next ∉ s.progress := by
            rw [hTop, List.mem_cons, not_or]
            exact ⟨hSame, hStep.2⟩
          intro declared hStands
          exact hSound.leadsBack_of_cites hEmpty hDone hTarget
            hLeads hStands
  rcases hTargets key hPath with ⟨next, hCites, hLeads⟩
  exact hReply.leadsBack_of_cites hCites hLeads

------------------------------------------------------------
-- Steps
------------------------------------------------------------

/- References in progress go on to cite the next node. -/
theorem Threaded.cites_of_grows
    {above below : List NodeKey}
    {upper lower : NodeKey}
    (hThreaded : Threaded setting s)
    (hNested : Nested s)
    (hGrows : Grows setting s t)
    (hStack : s.progress = above ++ upper :: lower :: below)
    (hReference : t.reference? lower ≠ none) :
    t.Cites setting lower upper := by
  have hPresent : s.Present lower :=
    hNested.present lower (by rw [hStack]; simp)
  rw [hGrows.reference? hPresent] at hReference
  exact (hThreaded.stacked above upper lower below hStack
    hReference).mono hGrows

/- Remembered nodes go on to lead to where they defer. -/
theorem Threaded.leads_of_grows
    {key : NodeKey}
    {id : ValidatorId}
    {c : CellId}
    (hThreaded : Threaded setting s)
    (hTruthful : Truthful setting s)
    (hGrows : Grows setting s t)
    (hResolved : s.resolved.lookup key = some id)
    (hDefers : t.graph.deferredCell? id = some c) :
    ∃ other,
      Relation.TransGen (t.Cites setting) key other ∧
        t.cells.lookup other = some c := by
  have hId := (hTruthful.replies key id hResolved).lt_size
  rw [hGrows.graph.deferredCell?_eq hId] at hDefers
  rcases hThreaded.deferring key id c hResolved hDefers with
    ⟨other, hPath, hCell⟩
  exact ⟨other, hGrows.leadsOn hPath, hGrows.cells other c hCell⟩

/-
  A cell that keeps its content keeps its threads, if there
  is nothing new below its node.
-/
theorem Threaded.celled_of_grows
    {key : NodeKey}
    {c : CellId}
    (hThreaded : Threaded setting s)
    (hGrows : Grows setting s t)
    (hCell : s.cells.lookup key = some c)
    (hContent : t.graph.cell? c = s.graph.cell? c)
    (hStack :
      ∀ above below, t.progress = above ++ key :: below →
        ∃ higher, s.progress = higher ++ key :: below) :
    t.Grounded setting key ∨
      (t.graph.cell? c = none ∧
        ∀ above below,
          t.progress = above ++ key :: below →
            t.Circles setting below key) := by
  rcases hThreaded.celled key c hCell with
    hGrounded | ⟨hEmpty, hCircles⟩
  · exact Or.inl (hGrounded.mono hGrows)
  · refine Or.inr ⟨hContent.trans hEmpty, ?_⟩
    intro above below hProgress
    rcases hStack above below hProgress with ⟨higher, hOld⟩
    exact (hCircles higher below hOld).mono hGrows

/-
  A step that leaves the nodes in progress, the memory and
  the cells alone keeps the threads.
-/
theorem Threaded.of_same
    (hThreaded : Threaded setting s)
    (hSound : Sound setting source s)
    (hGrows : Grows setting s t)
    (hProgress : t.progress = s.progress)
    (hResolved : t.resolved = s.resolved)
    (hCells : t.cells = s.cells)
    (hContents : ∀ c, t.graph.cell? c = s.graph.cell? c) :
    Threaded setting t := by
  constructor
  · rw [hProgress]
    intro above upper lower below hStack hReference
    exact hThreaded.cites_of_grows hSound.nested hGrows hStack
      hReference
  · rw [hResolved]
    intro key id c hSome hDefers
    exact hThreaded.leads_of_grows hSound.truthful hGrows hSome
      hDefers
  · rw [hCells]
    intro key c hCell
    refine hThreaded.celled_of_grows hGrows hCell (hContents c) ?_
    rw [hProgress]
    exact fun above below hStack => ⟨above, hStack⟩

/- A node in progress that is asked for may get a cell. -/
theorem Threaded.newCell
    {key : NodeKey}
    (hThreaded : Threaded setting s)
    (hSound : Sound setting source s)
    (hAsks : s.Asks setting key)
    (hFresh : s.cells.lookup key = none)
    (hGrows :
      Grows setting s
        { s with
          graph := s.graph.newCell.2
          cells := (key, s.graph.newCell.1) :: s.cells }) :
    Threaded setting
      { s with
        graph := s.graph.newCell.2
        cells := (key, s.graph.newCell.1) :: s.cells } := by
  constructor
  · intro above upper lower below hStack hReference
    exact hThreaded.cites_of_grows hSound.nested hGrows hStack
      hReference
  · intro other id c hResolved hDefers
    exact hThreaded.leads_of_grows hSound.truthful hGrows hResolved
      hDefers
  · intro other c hCell
    rw [lookup_cons_eq_ite] at hCell
    by_cases hSame : other = key
    · subst hSame
      rw [if_pos rfl] at hCell
      cases hCell
      have hEmpty :
          s.graph.newCell.2.cell? s.graph.newCell.1 = none := by
        simp [Graph.newCell, Graph.cell?]
      by_cases hGrounded : s.Grounded setting other
      · exact Or.inl (hGrounded.mono hGrows)
      · refine Or.inr ⟨hEmpty, ?_⟩
        intro above below hStack
        exact (hThreaded.circles_of_asks hSound.nested hAsks hStack
          hGrounded).mono hGrows
    · rw [if_neg hSame] at hCell
      exact hThreaded.celled_of_grows hGrows hCell
        (Graph.cell?_newCell s.graph c)
        (fun above below hStack => ⟨above, hStack⟩)

/- A node that is asked for may be begun. -/
theorem Threaded.begin
    {key : NodeKey}
    (hThreaded : Threaded setting s)
    (hSound : Sound setting source s)
    (hAsks : s.Asks setting key)
    (hProgress : key ∉ s.progress)
    (hResolved : s.resolved.lookup key = none)
    (hGrows : Grows setting s (s.beginning key)) :
    Threaded setting (s.beginning key) := by
  constructor
  · intro above upper lower below hStack hReference
    cases above with
    | nil =>
        -- The new node is asked for by the one below it.
        injection hStack with hKey hRest
        subst hKey
        have hTop : s.progress.head? = some lower := by
          rw [hRest]
          rfl
        have hPresent : s.Present lower :=
          hSound.nested.present lower (List.mem_of_mem_head? hTop)
        rw [hGrows.reference? hPresent] at hReference
        exact (hAsks lower hTop hReference).mono hGrows
    | cons first above =>
        injection hStack with _ hRest
        exact hThreaded.cites_of_grows hSound.nested hGrows hRest
          hReference
  · intro other id c hSome hDefers
    exact hThreaded.leads_of_grows hSound.truthful hGrows hSome
      hDefers
  · intro other c hCell
    have hOther : other ≠ key := by
      rintro rfl
      rcases hSound.celled.pending other c hCell with
        ⟨hOpen, _⟩ | ⟨id, hSome, _⟩
      · exact hProgress hOpen
      · rw [hResolved] at hSome
        cases hSome
    refine hThreaded.celled_of_grows hGrows hCell rfl ?_
    intro above below hStack
    cases above with
    | nil =>
        injection hStack with hKey _
        exact absurd hKey.symm hOther
    | cons first above =>
        injection hStack with _ hRest
        exact ⟨above, hRest⟩

/- A reply leads to where it defers. -/
theorem Threaded.leads_of_reply
    {key : NodeKey}
    {id : ValidatorId}
    {c : CellId}
    (hThreaded : Threaded setting s)
    (hReply : Reply setting s key id)
    (hDefers : s.graph.deferredCell? id = some c) :
    ∃ other,
      Relation.TransGen (s.Cites setting) key other ∧
        s.cells.lookup other = some c := by
  rcases hReply with ⟨node, kind, v, hOf⟩
  rcases hOf.solid with ⟨text, rfl⟩ | hSolid
  · rcases hOf.reference text rfl with
      ⟨target, declared, hLeads, hStands, hDerives⟩
    have hCites : s.Cites setting key target :=
      ⟨text,
        State.reference?_eq_some_iff.mpr
          ⟨node, hOf.found, hOf.classified⟩,
        hLeads⟩
    rw [hDerives.deferredCell?_eq (fun _ => rfl)] at hDefers
    rcases hStands with hResolved | ⟨own, hOwn, hNode⟩
    · rcases hThreaded.deferring target declared c hResolved hDefers
        with ⟨other, hPath, hCell⟩
      exact ⟨other, Relation.TransGen.head hCites hPath, hCell⟩
    · rw [Graph.deferredCell?_eq_some_iff] at hDefers
      rcases hDefers with ⟨w, hOther, hRule⟩
      rw [hNode] at hOther
      cases hOther
      cases hRule
      exact ⟨target, Relation.TransGen.single hCites, hOwn⟩
  · rcases Graph.deferredCell?_eq_some_iff.mp hDefers with
      ⟨w, hOther, hRule⟩
    rw [hOf.validator] at hOther
    cases hOther
    exact absurd hRule (hSolid c)

/- The node on top may be done. -/
theorem Threaded.finish
    {key : NodeKey}
    {rest : List NodeKey}
    {id : ValidatorId}
    (hThreaded : Threaded setting s)
    (hSound : Sound setting source s)
    (hTop : s.progress = key :: rest)
    (hReply : Reply setting s key id)
    (hGrows : Grows setting s (s.finishing key rest id)) :
    Threaded setting (s.finishing key rest id) := by
  constructor
  · intro above upper lower below hStack hReference
    have hOld :
        s.progress =
          (key :: above) ++ upper :: lower :: below := by
      rw [hTop, List.cons_append, ← hStack]
      rfl
    exact hThreaded.cites_of_grows hSound.nested hGrows hOld
      hReference
  · intro other held c hSome hDefers
    by_cases hSame : other = key
    · subst hSame
      have hHeld : id = held := by
        simpa [State.finishing] using hSome
      subst hHeld
      rw [hGrows.graph.deferredCell?_eq hReply.lt_size] at hDefers
      rcases hThreaded.leads_of_reply hReply hDefers with
        ⟨next, hPath, hCell⟩
      exact ⟨next, hGrows.leadsOn hPath, hCell⟩
    · have hOld : s.resolved.lookup other = some held := by
        simpa [State.finishing, lookup_cons_eq_ite, hSame] using
          hSome
      exact hThreaded.leads_of_grows hSound.truthful hGrows hOld
        hDefers
  · intro other c hCell
    have hStack :
        ∀ above below,
          rest = above ++ other :: below →
            ∃ higher, s.progress = higher ++ other :: below := by
      intro above below hRest
      exact ⟨key :: above, by rw [hTop, hRest, List.cons_append]⟩
    by_cases hSame : other = key
    · subst hSame
      by_cases hGrounded : s.Grounded setting other
      · exact Or.inl (hGrounded.mono hGrows)
      -- Filling the cell is refused.
      rcases hThreaded.celled other c hCell with
        hMet | ⟨hEmpty, hCircles⟩
      · exact absurd hMet hGrounded
      have hOwn : s.cells.lookup other = some c := hCell
      have hLeads :=
        hSound.leadsBack_of_circles hTop hOwn hReply
          (hCircles [] rest hTop)
      have hKept : s.filled other id = s.graph := by
        rw [State.filled_of_some id hOwn,
          if_pos ((Graph.leadsTo_iff hSound.graph.acyclic).mpr
            hLeads)]
      refine hThreaded.celled_of_grows hGrows hCell ?_ hStack
      simp only [State.finishing, hKept]
    · have hContent :
          (s.filled key id).cell? c = s.graph.cell? c := by
        rcases State.cell?_filled key id hSound.graph hSound.celled
            c with
          ⟨hKept, _⟩ | ⟨hOwn, _⟩
        · exact hKept
        · exact absurd (hSound.celled.own other key c hCell hOwn)
            hSame
      exact hThreaded.celled_of_grows hGrows hCell hContent hStack

/- A step keeps the threads. -/
theorem Step.threaded
    (hStep : Step setting s t)
    (hSound : Sound setting source s)
    (hThreaded : Threaded setting s) :
    Threaded setting t := by
  have hGrows := hStep.grows
  have hSame := hThreaded.of_same hSound hGrows
  cases hStep with
  | celled key hAsks _ hFresh =>
      exact hThreaded.newCell hSound hAsks hFresh hGrows
  | began key hAsks _ _ hProgress hResolved =>
      exact hThreaded.begin hSound hAsks hProgress hResolved hGrows
  | finished key rest id hTop hReply =>
      exact hThreaded.finish hSound hTop hReply hGrows
  | copied g hCopy =>
      rcases hCopy with ⟨id, v, presence, allowNull, _, rfl⟩
      exact hSame rfl rfl rfl (fun _ => rfl)
  | entered => exact hSame rfl rfl rfl (fun _ => rfl)
  | left => exact hSame rfl rfl rfl (fun _ => rfl)
  | missed => exact hSame rfl rfl rfl (fun _ => rfl)
  | registered => exact hSame rfl rfl rfl (fun _ => rfl)
  | loaded => exact hSame rfl rfl rfl (fun _ => rfl)
  | followed => exact hSame rfl rfl rfl (fun _ => rfl)
  | pushed => exact hSame rfl rfl rfl (fun _ => rfl)
  | answered => exact hSame rfl rfl rfl (fun _ => rfl)

/- Steps keep the threads. -/
theorem Reaches.threaded
    (hReaches : Reaches setting s t)
    (hSound : Sound setting source s)
    (hThreaded : Threaded setting s) :
    Threaded setting t := by
  induction hReaches with
  | refl => exact hThreaded
  | tail hSteps hStep ih =>
      exact hStep.threaded (Reaches.sound hSteps hSound) ih

/- Before the root is compiled there is nothing to follow. -/
theorem Rooted.threaded
    {doc : DocId}
    (hRooted : Rooted setting source doc s) :
    Threaded setting s := by
  constructor
  · intro above upper lower below hStack
    rw [hRooted.progress] at hStack
    simp at hStack
  · intro key id c hResolved
    rw [hRooted.resolved] at hResolved
    cases hResolved
  · intro key c hCell
    rw [hRooted.cells] at hCell
    cases hCell

/- A compilation that succeeds keeps the threads to its end. -/
theorem threaded_of_compileWith
    {schema : Compiled}
    {final : State}
    (hCompiled :
      compileWith setting workingDir source = ⟨.ok schema, final⟩) :
    Threaded setting final := by
  unfold compileWith compileWatched at hCompiled
  split at hCompiled
  case h_1 id t hSteps =>
    cases hCompiled
    rcases compileSteps_ok hSteps with ⟨doc, r, hRooted, hRun, _⟩
    exact Reaches.threaded hRun.reaches hRooted.sound
      hRooted.threaded
  case h_2 => cases hCompiled

------------------------------------------------------------
-- Empty Cells
------------------------------------------------------------

/-
  What a remembered validator leads back to is the cell of a
  node that references lead to.
-/
theorem Threaded.leads_of_leadsBack
    {key : NodeKey}
    {held : ValidatorId}
    {c : CellId}
    (hThreaded : Threaded setting s)
    (hCelled : Celled s)
    (hHeld : s.resolved.lookup key = some held)
    (hLeads : s.graph.LeadsBack held c) :
    ∃ other,
      Relation.TransGen (s.Cites setting) key other ∧
        s.cells.lookup other = some c := by
  rcases hLeads with ⟨last, hPath, hLast⟩
  induction hPath using Relation.ReflTransGen.head_induction_on
    generalizing key with
  | refl => exact hThreaded.deferring key last c hHeld hLast
  | head hStep _ ih =>
      rcases hStep with ⟨own, hDefers, hContent⟩
      rcases hThreaded.deferring key _ own hHeld hDefers with
        ⟨mid, hFirst, hMid⟩
      rcases hCelled.content own _ hContent with
        ⟨same, hSame, hNext⟩
      have hKey := hCelled.own same mid own hSame hMid
      subst hKey
      rcases ih hNext with ⟨other, hRest, hCell⟩
      exact ⟨other, hFirst.trans hRest, hCell⟩

/- The cell of a remembered node is empty exactly for a loop. -/
theorem Threaded.cell?_eq_none_iff
    {key : NodeKey}
    {held : ValidatorId}
    {c : CellId}
    (hThreaded : Threaded setting s)
    (hSound : Sound setting source s)
    (hHeld : s.resolved.lookup key = some held)
    (hCell : s.cells.lookup key = some c) :
    s.graph.cell? c = none ↔
      Relation.TransGen (s.Cites setting) key key := by
  constructor
  · intro hEmpty
    rcases hSound.celled.pending key c hCell with
      ⟨hOpen, _⟩ | ⟨id, hResolved, hHolds | ⟨_, hLeads⟩⟩
    · have hNone := hSound.nested.unresolved key hOpen
      rw [hHeld] at hNone
      cases hNone
    · rw [hEmpty] at hHolds
      cases hHolds
    · rcases hThreaded.leads_of_leadsBack hSound.celled hResolved
          hLeads with
        ⟨other, hPath, hOther⟩
      have hSame := hSound.celled.own other key c hOther hCell
      subst hSame
      exact hPath
  · intro hLoop
    rcases hThreaded.celled key c hCell with
      hGrounded | ⟨hEmpty, _⟩
    · exact absurd hGrounded (State.not_grounded_of_loop hLoop)
    · exact hEmpty

/- The node is a reference, and it is followed to the target. -/
def State.Follows
    (setting : Setting)
    (s : State)
    (key target : NodeKey) : Prop :=
  ∃ text t,
    s.reference? key = some text ∧
      followReference setting text { s with scope := [key.doc] } =
        .ok target t

/- A reference is followed to the node that it cites. -/
theorem State.Cites.follows
    {key target : NodeKey}
    (hCites : s.Cites setting key target) :
    s.Follows setting key target := by
  rcases hCites.present.stored with ⟨d, hDoc⟩
  rcases hCites with ⟨text, hText, hLeads⟩
  rcases hLeads.exists_followReference (u := { s with
    scope := [key.doc] }) hDoc rfl rfl with ⟨t, hRun⟩
  exact ⟨text, t, hText, hRun⟩

/-
  A remembered reference is followed to the node that it
  cites, which is remembered, too.
-/
theorem Settled.cites_of_follows
    {key target : NodeKey}
    {held : ValidatorId}
    (hSettled : Settled setting source s)
    (hHeld : s.resolved.lookup key = some held)
    (hFollows : s.Follows setting key target) :
    s.Cites setting key target ∧
      ∃ next, s.resolved.lookup target = some next := by
  rcases hFollows with ⟨text, t, hText, hRun⟩
  rcases State.reference?_eq_some_iff.mp hText with
    ⟨node, hNode, hKind⟩
  rcases hSettled.sound.derives_of_reference hNode hKind hHeld with
    ⟨cited, declared, hLeads, hStands, _⟩
  rcases State.Present.stored ⟨node, hNode⟩ with ⟨d, hDoc⟩
  have hSame : target = cited :=
    hLeads.eq_of_followReference
      (u := { s with scope := [key.doc] }) hDoc rfl rfl hRun
  subst hSame
  rcases hSettled.sameOnPresent hStands with ⟨next, hNext, _⟩
  exact ⟨⟨text, hText, hLeads⟩, next, hNext⟩

/- Following from a remembered node meets remembered nodes. -/
theorem Settled.leadsOn_of_follows
    {key last : NodeKey}
    {held : ValidatorId}
    (hSettled : Settled setting source s)
    (hHeld : s.resolved.lookup key = some held)
    (hPath : Relation.ReflTransGen (s.Follows setting) key last) :
    Relation.ReflTransGen (s.Cites setting) key last ∧
      ∃ next, s.resolved.lookup last = some next := by
  induction hPath with
  | refl => exact ⟨Relation.ReflTransGen.refl, held, hHeld⟩
  | tail _ hStep ih =>
      rcases ih with ⟨hCited, mid, hMid⟩
      rcases hSettled.cites_of_follows hMid hStep with
        ⟨hCites, hNext⟩
      exact ⟨hCited.tail hCites, hNext⟩

/- A remembered node is on a loop whichever way it is read. -/
theorem Settled.loop_iff
    {key : NodeKey}
    {held : ValidatorId}
    (hSettled : Settled setting source s)
    (hHeld : s.resolved.lookup key = some held) :
    Relation.TransGen (s.Cites setting) key key ↔
      Relation.TransGen (s.Follows setting) key key := by
  constructor
  · intro hLoop
    exact Relation.TransGen.mono
      (fun _ _ hCites => State.Cites.follows hCites) _ _ hLoop
  · intro hLoop
    rcases Relation.TransGen.tail'_iff.mp hLoop with
      ⟨last, hPath, hLast⟩
    rcases hSettled.leadsOn_of_follows hHeld hPath with
      ⟨hCited, mid, hMid⟩
    exact Relation.TransGen.tail' hCited
      (hSettled.cites_of_follows hMid hLast).1

/- What stands for a node with an empty cell accepts anything. -/
theorem Settled.check_of_empty
    {key : NodeKey}
    {id : ValidatorId}
    {c : CellId}
    (hSettled : Settled setting source s)
    (hCell : s.cells.lookup key = some c)
    (hEmpty : s.graph.cell? c = none)
    (hStands : s.StandsFor key id)
    (now : Calendar.Instant)
    (value : Json)
    (path : String)
    (options : CheckOptions) :
    s.graph.check now id (some value) path options =
      some (Verdict.accept value) := by
  have hSound := hSettled.sound
  rcases hSettled.sameOnPresent hStands with ⟨held, hHeld, hSame⟩
  rw [hSame now value path options]
  rcases hSound.celled.pending key c hCell with
    ⟨hOpen, _⟩ | ⟨other, hOther, hHolds | ⟨_, hLeads⟩⟩
  · rw [hSettled.idle] at hOpen
    cases hOpen
  · rw [hEmpty] at hHolds
    cases hHolds
  · rw [hHeld] at hOther
    cases hOther
    have hPermits :=
      (hSound.truthful.replies key held hHeld).permits
    exact Graph.check_leadsBack hLeads hEmpty
      (fun _ hPath => hSound.permits_of_forwards hPermits hPath)
      now value path options

/-
  Which cells stay empty.  After a compilation that succeeds,
  the cell of a node holds the validator remembered for the
  node, or it is empty.  It is empty exactly if the node is a
  reference that is followed through references only and
  back to the node; then everything that was answered for
  the node accepts every present value.  If a node that is
  no reference is met, the cell is filled.
-/
theorem compile_cell_eq_none_iff
    {schema : Compiled}
    {final : State}
    {key : NodeKey}
    {c : CellId}
    (hCompiled :
      compileWith setting workingDir source = ⟨.ok schema, final⟩)
    (hCell : final.cells.lookup key = some c) :
    c.index < schema.graph.cells.size ∧
      ∃ held,
        final.resolved.lookup key = some held ∧
          (schema.graph.cell? c = some held ∨
            schema.graph.cell? c = none) ∧
          (schema.graph.cell? c = none ↔
            Relation.TransGen (final.Follows setting) key key) ∧
          (schema.graph.cell? c = none →
            ∀ id, Event.answered key id ∈ final.history →
              ∀ now value path options,
                schema.graph.check now id (some value) path
                    options =
                  some (Verdict.accept value)) ∧
          ∀ last,
            Relation.ReflTransGen (final.Follows setting) key
                last →
              final.reference? last = none →
                schema.graph.cell? c = some held := by
  rcases settled_of_compileWith hCompiled with ⟨hSettled, hGraph⟩
  have hThreaded := threaded_of_compileWith hCompiled
  have hSound := hSettled.sound
  rw [← hGraph]
  have hDone :
      ∃ held,
        final.resolved.lookup key = some held ∧
          (final.graph.cell? c = some held ∨
            (final.graph.cell? c = none ∧
              final.graph.LeadsBack held c)) := by
    rcases hSound.celled.pending key c hCell with ⟨hOpen, _⟩ | hDone
    · rw [hSettled.idle] at hOpen
      cases hOpen
    · exact hDone
  rcases hDone with ⟨held, hHeld, hContent⟩
  have hLoop := hThreaded.cell?_eq_none_iff hSound hHeld hCell
  refine ⟨hSound.celled.bound key c hCell, held, hHeld, ?_, ?_, ?_,
    ?_⟩
  · rcases hContent with hHolds | ⟨hEmpty, _⟩
    · exact Or.inl hHolds
    · exact Or.inr hEmpty
  · exact hLoop.trans (hSettled.loop_iff hHeld)
  · intro hEmpty id hAnswered now value path options
    have hStands :=
      hSound.truthful.answers key id (List.mem_reverse.mp hAnswered)
    exact hSettled.check_of_empty hCell hEmpty hStands now value
      path options
  · intro last hPath hNone
    rcases hContent with hHolds | ⟨hEmpty, _⟩
    · exact hHolds
    · -- A loop meets references only.
      rcases hSettled.leadsOn_of_follows hHeld hPath with
        ⟨hCited, next, hNext⟩
      have hPresent :=
        (hSound.truthful.replies last next hNext).present
      exact absurd ⟨last, hCited, hPresent, hNone⟩
        (State.not_grounded_of_loop (hLoop.mp hEmpty))

/-
  Two properties that refer to each other, and one that
  refers to the object.
-/
def Json.circling : Json :=
  .object
    [("properties", .object
      [("first", .object [("$ref", .string "#/properties/second")]),
      ("second", .object [("$ref", .string "#/properties/first")]),
      ("whole", .object [("$ref", .string "#")])]),
    ("type", .string "object")]

/-
  The cell of the first property stays empty, as the two
  references lead back to it.  The cell of the object is
  filled.
-/
theorem compile_cell_eq_none_iff_circling :
    let final := (compileAlone Json.circling).final
    let first :=
      ((NodeKey.root ⟨0⟩).child "properties").child "first"
    ∃ schema,
      (compileAlone Json.circling).result = .ok schema ∧
        schema.graph.cell? ⟨0⟩ = none ∧
        Relation.TransGen (final.Follows Setting.alone) first
          first ∧
        schema.graph.cell? ⟨1⟩ = some ⟨2⟩ := by
  intro final first
  rcases Compilation.exists_eq_of_isOk
    (c := compileAlone Json.circling) (by decide +kernel) with
    ⟨schema, hCompiled⟩
  have hGraph : final.graph = schema.graph :=
    (settled_of_compileWith hCompiled).2
  have hFirst : final.cells.lookup first = some ⟨0⟩ := by
    decide +kernel
  have hWhole :
      final.cells.lookup (NodeKey.root ⟨0⟩) = some ⟨1⟩ := by
    decide +kernel
  have hEmpty : schema.graph.cell? ⟨0⟩ = none := by
    rw [← hGraph]
    decide +kernel
  rcases compile_cell_eq_none_iff hCompiled hFirst with
    ⟨_, _, _, _, hLoop, _, _⟩
  rcases compile_cell_eq_none_iff hCompiled hWhole with
    ⟨_, held, hHeld, _, _, _, hFilled⟩
  have hRoot :
      final.resolved.lookup (NodeKey.root ⟨0⟩) = some ⟨2⟩ := by
    decide +kernel
  have hObject : final.reference? (NodeKey.root ⟨0⟩) = none := by
    decide +kernel
  have hSame : held = ⟨2⟩ :=
    Option.some.inj (hHeld.symm.trans hRoot)
  subst hSame
  exact ⟨schema, by rw [hCompiled], hEmpty, hLoop.mp hEmpty,
    hFilled _ Relation.ReflTransGen.refl hObject⟩

end SchemaGraph
