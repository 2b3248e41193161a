import Mathlib
import SchemaGraph.Proofs.Compile.Reference
import SchemaGraph.Proofs.Graph.Deferral

/-
  Growing states.  A compilation only adds: documents,
  validators, contents of empty cells, memory and events.
  What holds of a node, of a reference or of an answer goes
  on to hold.

  Main declarations:
    * `Grows`
    * `Grows.node?`
    * `Grows.leads`
    * `State.Cites`
    * `State.Asks`
    * `State.StandsFor`
    * `State.StandsFor.mono`
-/

namespace SchemaGraph

/- A state with everything that another one has. -/
structure Grows
    (setting : Setting)
    (s t : State) : Prop where
  store : StoreGrows setting s.store t.store
  graph : s.graph.Extends t.graph
  resolved :
    ∀ key id, s.resolved.lookup key = some id →
      t.resolved.lookup key = some id
  cells :
    ∀ key c, s.cells.lookup key = some c →
      t.cells.lookup key = some c
  journal : s.journal <:+ t.journal

variable {setting : Setting}
variable {s t u : State}

namespace Grows

/- Every state grows into itself. -/
theorem refl
    (setting : Setting)
    (s : State) :
    Grows setting s s :=
  ⟨StoreGrows.refl setting s.store, Graph.Extends.refl s.graph,
    fun _ _ h => h, fun _ _ h => h, List.suffix_refl _⟩

/- Growing twice is growing. -/
theorem trans
    (hFirst : Grows setting s t)
    (hSecond : Grows setting t u) :
    Grows setting s u :=
  ⟨hFirst.store.trans hSecond.store,
    hFirst.graph.trans hSecond.graph,
    fun key id h =>
      hSecond.resolved key id (hFirst.resolved key id h),
    fun key c h => hSecond.cells key c (hFirst.cells key c h),
    hFirst.journal.trans hSecond.journal⟩

/- The nodes of a stored document stay as they are. -/
theorem node?_eq
    {key : NodeKey}
    {d : Document}
    (hGrows : Grows setting s t)
    (hDoc : s.store.get? key.doc = some d) :
    t.node? key = s.node? key := by
  simp only [State.node?, hDoc, hGrows.store.get? hDoc]

/- Nodes stay. -/
theorem node?
    {key : NodeKey}
    {node : Json}
    (hGrows : Grows setting s t)
    (hNode : s.node? key = some node) :
    t.node? key = some node := by
  rcases State.Present.stored ⟨node, hNode⟩ with ⟨d, hDoc⟩
  rw [hGrows.node?_eq hDoc, hNode]

/- Existing nodes go on to exist. -/
theorem present
    {key : NodeKey}
    (hGrows : Grows setting s t)
    (hPresent : s.Present key) :
    t.Present key := by
  rcases hPresent with ⟨node, hNode⟩
  exact ⟨node, hGrows.node? hNode⟩

/- References of existing nodes go on to lead where they do. -/
theorem leads
    {key : NodeKey}
    {reference : String}
    {target : NodeKey}
    (hGrows : Grows setting s t)
    (hPresent : s.Present key)
    (hLeads : Leads setting s key.doc reference target) :
    Leads setting t key.doc reference target := by
  rcases hPresent.stored with ⟨d, hDoc⟩
  exact hLeads.mono hGrows.store hDoc

end Grows

------------------------------------------------------------
-- References
------------------------------------------------------------

/- The text of the reference that a node is, if it is one. -/
def State.reference?
    (s : State)
    (key : NodeKey) : Option String :=
  (s.node? key).bind (fun node =>
    match classify node with
    | .ok (.reference text) => some text
    | _ => none)

/- A node with a reference text is a reference. -/
theorem State.reference?_eq_some_iff
    {key : NodeKey}
    {text : String} :
    s.reference? key = some text ↔
      ∃ node,
        s.node? key = some node ∧
          classify node = .ok (.reference text) := by
  unfold State.reference?
  rw [Option.bind_eq_some_iff]
  apply exists_congr
  intro node
  apply and_congr_right
  intro _
  constructor
  · intro hText
    split at hText
    case h_1 other hKind =>
      cases hText
      exact hKind
    case h_2 => cases hText
  · intro hKind
    rw [hKind]

/- A node of another kind is no reference. -/
theorem State.reference?_eq_none
    {key : NodeKey}
    {node : Json}
    {kind : Discriminator}
    (hNode : s.node? key = some node)
    (hKind : classify node = .ok kind)
    (hOther : ∀ text, kind ≠ .reference text) :
    s.reference? key = none := by
  cases hText : s.reference? key with
  | none => rfl
  | some text =>
      rcases State.reference?_eq_some_iff.mp hText with
        ⟨same, hSame, hReference⟩
      rw [hNode] at hSame
      cases hSame
      rw [hKind] at hReference
      cases hReference
      exact absurd rfl (hOther text)

/- Nodes stay the references that they are. -/
theorem Grows.reference?
    {key : NodeKey}
    (hGrows : Grows setting s t)
    (hPresent : s.Present key) :
    t.reference? key = s.reference? key := by
  rcases hPresent with ⟨node, hNode⟩
  simp only [State.reference?, hNode, hGrows.node? hNode]

/- The node is a reference, and it leads to the target. -/
def State.Cites
    (setting : Setting)
    (s : State)
    (key target : NodeKey) : Prop :=
  ∃ text,
    s.reference? key = some text ∧
      Leads setting s key.doc text target

/- A node cites one node at most. -/
theorem State.Cites.unique
    {key first second : NodeKey}
    (hFirst : s.Cites setting key first)
    (hSecond : s.Cites setting key second) :
    first = second := by
  rcases hFirst with ⟨text, hText, hLeads⟩
  rcases hSecond with ⟨other, hOther, hAlso⟩
  rw [hText] at hOther
  cases hOther
  exact hLeads.unique hAlso

/- A node that cites another one is there. -/
theorem State.Cites.present
    {key target : NodeKey}
    (hCites : s.Cites setting key target) :
    s.Present key := by
  rcases hCites with ⟨text, hText, _⟩
  rcases State.reference?_eq_some_iff.mp hText with ⟨node, hNode, _⟩
  exact ⟨node, hNode⟩

/- Nodes go on to cite what they cite. -/
theorem State.Cites.mono
    {key target : NodeKey}
    (hCites : s.Cites setting key target)
    (hGrows : Grows setting s t) :
    t.Cites setting key target := by
  have hPresent := hCites.present
  rcases hCites with ⟨text, hText, hLeads⟩
  exact ⟨text, (hGrows.reference? hPresent).trans hText,
    hGrows.leads hPresent hLeads⟩

/-
  The node may be asked for: if the node on top of those in
  progress is a reference, then it cites the node.
-/
def State.Asks
    (setting : Setting)
    (s : State)
    (key : NodeKey) : Prop :=
  ∀ top,
    s.progress.head? = some top →
      s.reference? top ≠ none →
        s.Cites setting top key

------------------------------------------------------------
-- Answers
------------------------------------------------------------

/-
  A validator that stands for a node: the one remembered for
  it, or one that defers to its cell.
-/
def State.StandsFor
    (s : State)
    (key : NodeKey)
    (id : ValidatorId) : Prop :=
  s.resolved.lookup key = some id ∨
    ∃ c, s.cells.lookup key = some c ∧
      s.graph.node? id = some ⟨.deferred c, .optional, false⟩

/- What stands for a node goes on to stand for it. -/
theorem State.StandsFor.mono
    {key : NodeKey}
    {id : ValidatorId}
    (hStands : s.StandsFor key id)
    (hGrows : Grows setting s t) :
    t.StandsFor key id := by
  rcases hStands with hResolved | ⟨c, hCell, hNode⟩
  · exact Or.inl (hGrows.resolved key id hResolved)
  · exact Or.inr
      ⟨c, hGrows.cells key c hCell, hGrows.graph.node id _ hNode⟩

end SchemaGraph
