import Mathlib
import SchemaGraph.Graph.Listing

/-
  Validator graphs only grow.  Validators are added at the
  end and stay as they are, cells are added empty, and a
  filled cell keeps its content.

  A graph is closed when every validator mentions earlier
  validators and existing cells only, and every cell holds
  an existing validator.  It is ordered when object rules
  list their properties in order, each name once.

  Main declarations:
    * `Graph.Extends`
    * `Graph.Derives`
    * `Graph.AddsCopies`
    * `Graph.Closed`
    * `Graph.Ordered`
-/

namespace SchemaGraph

------------------------------------------------------------
-- Changed Validators
------------------------------------------------------------

namespace Validator

/- A validator with a given presence, or with its own. -/
def marked
    (mark : Option Presence)
    (v : Validator) : Validator :=
  ⟨v.rule, mark.getD v.presence, v.allowNull⟩

/- A validator that accepts `null`, too, if that is wanted. -/
def orNull
    (wanted : Bool)
    (v : Validator) : Validator :=
  ⟨v.rule, v.presence, v.allowNull || wanted⟩

/- Marking with nothing changes nothing. -/
@[simp] theorem marked_none
    (v : Validator) :
    v.marked none = v := rfl

/- The later of two marks decides. -/
theorem marked_marked
    (first second : Option Presence)
    (v : Validator) :
    (v.marked first).marked second =
      v.marked (second <|> first) := by
  cases second <;> rfl

/- Not wanting `null` changes nothing. -/
@[simp] theorem orNull_false
    (v : Validator) :
    v.orNull false = v := by
  simp [orNull]

end Validator

/-
  The properties of an object rule are in the order of their
  names, each name once.
-/
def Rule.Ordered : Rule → Prop
  | .object rule =>
      ∀ properties, rule.properties = some properties →
        Members.Sorted properties
  | _ => True

namespace Graph

------------------------------------------------------------
-- Validators and Cells after an Operation
------------------------------------------------------------

/- A validator of the graph has a position in it. -/
theorem node?_eq_some_iff
    {g : Graph}
    {id : ValidatorId}
    {v : Validator} :
    g.node? id = some v ↔
      ∃ h : id.index < g.nodes.size, g.nodes[id.index] = v := by
  rw [node?]
  exact Array.getElem?_eq_some_iff

/- A position of the graph has a validator. -/
theorem exists_node?_of_lt
    {g : Graph}
    {id : ValidatorId}
    (hId : id.index < g.size) :
    ∃ v, g.node? id = some v :=
  ⟨g.nodes[id.index], node?_eq_some_iff.mpr ⟨hId, rfl⟩⟩

/- A validator is inside the graph. -/
theorem lt_size_of_node?
    {g : Graph}
    {id : ValidatorId}
    {v : Validator}
    (hNode : g.node? id = some v) :
    id.index < g.size :=
  (node?_eq_some_iff.mp hNode).1

/- An added validator is found under its number. -/
@[simp] theorem node?_push_self
    (g : Graph)
    (v : Validator) :
    (g.push v).2.node? (g.push v).1 = some v := by
  simp [push, node?]

/- Adding a validator keeps the others. -/
theorem node?_push_of_some
    {g : Graph}
    {id : ValidatorId}
    {v : Validator}
    (added : Validator)
    (hNode : g.node? id = some v) :
    (g.push added).2.node? id = some v := by
  have hLt : id.index < g.nodes.size := lt_size_of_node? hNode
  have hGet : g.nodes[id.index]? = some v := hNode
  simp [push, node?, Array.getElem?_push, hLt.ne, hGet]

/- A validator after an addition is an old one or the new one. -/
theorem node?_push_cases
    {g : Graph}
    {id : ValidatorId}
    {v added : Validator}
    (hNode : (g.push added).2.node? id = some v) :
    g.node? id = some v ∨ (id.index = g.size ∧ v = added) := by
  simp only [push, node?, Array.getElem?_push] at hNode
  split at hNode
  case isTrue hIndex =>
    exact Or.inr ⟨hIndex, (Option.some.inj hNode).symm⟩
  case isFalse => exact Or.inl hNode

/- Adding a validator leaves the cells alone. -/
@[simp] theorem cell?_push
    (g : Graph)
    (v : Validator)
    (c : CellId) :
    (g.push v).2.cell? c = g.cell? c := rfl

/- A new cell leaves the validators alone. -/
@[simp] theorem node?_newCell
    (g : Graph)
    (id : ValidatorId) :
    g.newCell.2.node? id = g.node? id := rfl

/- A new cell is empty and leaves the others alone. -/
@[simp] theorem cell?_newCell
    (g : Graph)
    (c : CellId) :
    g.newCell.2.cell? c = g.cell? c := by
  simp only [newCell, cell?, Array.getElem?_push]
  split
  case isTrue hIndex => simp [hIndex]
  case isFalse => rfl

/- A new cell comes after the others. -/
theorem size_cells_newCell
    (g : Graph) :
    g.newCell.2.cells.size = g.cells.size + 1 := by
  simp [newCell]

/- A filled cell exists. -/
theorem lt_cells_of_cell?
    {g : Graph}
    {c : CellId}
    {id : ValidatorId}
    (hCell : g.cell? c = some id) :
    c.index < g.cells.size := by
  by_contra hLe
  simp [cell?, Array.getElem?_eq_none (Nat.le_of_not_lt hLe)]
    at hCell

/- The graph with a cell set to a validator. -/
def setCell
    (g : Graph)
    (c : CellId)
    (id : ValidatorId) : Graph :=
  ⟨g.nodes, g.cells.setIfInBounds c.index (some id)⟩

/- Setting a cell leaves the validators alone. -/
@[simp] theorem node?_setCell
    (g : Graph)
    (c : CellId)
    (id other : ValidatorId) :
    (g.setCell c id).node? other = g.node? other := rfl

/- A set cell holds what it was set to. -/
theorem cell?_setCell_self
    {g : Graph}
    {c : CellId}
    (id : ValidatorId)
    (hCell : c.index < g.cells.size) :
    (g.setCell c id).cell? c = some id := by
  simp [setCell, cell?, hCell]

/- Setting a cell leaves the other cells alone. -/
theorem cell?_setCell_of_ne
    {g : Graph}
    {c other : CellId}
    (id : ValidatorId)
    (hNe : other ≠ c) :
    (g.setCell c id).cell? other = g.cell? other := by
  have hIndex : c.index ≠ other.index := by
    intro hEq
    cases c
    cases other
    exact hNe (congrArg CellId.mk hEq.symm)
  simp [setCell, cell?, hIndex]

/- Filling a cell sets it or does nothing. -/
theorem fillCell_snd
    (g : Graph)
    (c : CellId)
    (id : ValidatorId) :
    (g.fillCell c id).2 =
      if g.leadsTo id c then g else g.setCell c id := by
  unfold fillCell setCell
  split <;> rfl

------------------------------------------------------------
-- Growth
------------------------------------------------------------

/- A graph with all validators and contents of another one. -/
structure Extends
    (g h : Graph) : Prop where
  node :
    ∀ id v, g.node? id = some v → h.node? id = some v
  cell :
    ∀ c id, g.cell? c = some id → h.cell? c = some id
  cells : g.cells.size ≤ h.cells.size

namespace Extends

/- Every graph extends itself. -/
theorem refl
    (g : Graph) :
    Extends g g :=
  ⟨fun _ _ h => h, fun _ _ h => h, Nat.le_refl _⟩

/- Growing twice is growing. -/
theorem trans
    {g h k : Graph}
    (hFirst : Extends g h)
    (hSecond : Extends h k) :
    Extends g k :=
  ⟨fun id v hNode => hSecond.node id v (hFirst.node id v hNode),
    fun c id hCell => hSecond.cell c id (hFirst.cell c id hCell),
    Nat.le_trans hFirst.cells hSecond.cells⟩

/- Adding a validator is growth. -/
theorem push
    (g : Graph)
    (v : Validator) :
    Extends g (g.push v).2 :=
  ⟨fun _ _ hNode => node?_push_of_some v hNode,
    fun _ _ hCell => hCell, Nat.le_refl _⟩

/- Adding a cell is growth. -/
theorem newCell
    (g : Graph) :
    Extends g g.newCell.2 :=
  ⟨fun _ _ hNode => hNode,
    fun c id hCell => by rwa [cell?_newCell],
    by simp [Graph.newCell]⟩

/- Setting an empty cell is growth. -/
theorem setCell
    {g : Graph}
    {c : CellId}
    (id : ValidatorId)
    (hEmpty : g.cell? c = none) :
    Extends g (g.setCell c id) := by
  refine ⟨fun _ _ hNode => hNode, ?_, ?_⟩
  · intro other held hHeld
    have hNe : other ≠ c := by
      rintro rfl
      rw [hEmpty] at hHeld
      cases hHeld
    rw [cell?_setCell_of_ne id hNe]
    exact hHeld
  · simp [Graph.setCell]

/- Growth keeps what is inside the graph inside. -/
theorem lt_size
    {g h : Graph}
    {id : ValidatorId}
    (hGrows : Extends g h)
    (hId : id.index < g.size) :
    id.index < h.size := by
  rcases exists_node?_of_lt hId with ⟨v, hNode⟩
  exact lt_size_of_node? (hGrows.node id v hNode)

/- Growth keeps the cells that validators defer to. -/
theorem deferredCell?
    {g h : Graph}
    {id : ValidatorId}
    {c : CellId}
    (hGrows : Extends g h)
    (hDefers : g.deferredCell? id = some c) :
    h.deferredCell? id = some c := by
  unfold Graph.deferredCell? at hDefers ⊢
  cases hNode : g.node? id with
  | none => simp [hNode] at hDefers
  | some v =>
      rw [hGrows.node id v hNode]
      simpa [hNode] using hDefers

/- Old validators go on to defer as they do. -/
theorem deferredCell?_eq
    {g h : Graph}
    {id : ValidatorId}
    (hGrows : Extends g h)
    (hId : id.index < g.size) :
    h.deferredCell? id = g.deferredCell? id := by
  rcases exists_node?_of_lt hId with ⟨v, hNode⟩
  simp only [Graph.deferredCell?, hNode, hGrows.node id v hNode]

end Extends

/- What a validator that defers to a cell looks like. -/
theorem deferredCell?_eq_some_iff
    {g : Graph}
    {id : ValidatorId}
    {c : CellId} :
    g.deferredCell? id = some c ↔
      ∃ v, g.node? id = some v ∧ v.rule = .deferred c := by
  unfold deferredCell?
  cases hNode : g.node? id with
  | none => simp
  | some v =>
      rcases v with ⟨rule, presence, allowNull⟩
      cases rule <;> simp

------------------------------------------------------------
-- Derived Validators
------------------------------------------------------------

/- A validator that is a changed copy of another one. -/
def Derives
    (g : Graph)
    (change : Validator → Validator)
    (id copy : ValidatorId) : Prop :=
  ∃ v, g.node? id = some v ∧ g.node? copy = some (change v)

/- Derived validators stay derived. -/
theorem Derives.mono
    {g h : Graph}
    {change : Validator → Validator}
    {id copy : ValidatorId}
    (hDerives : g.Derives change id copy)
    (hGrows : Extends g h) :
    h.Derives change id copy := by
  rcases hDerives with ⟨v, hNode, hCopy⟩
  exact ⟨v, hGrows.node id v hNode, hGrows.node copy _ hCopy⟩

/- A copy with the same rule defers as the validator does. -/
theorem Derives.deferredCell?_eq
    {g : Graph}
    {change : Validator → Validator}
    {id copy : ValidatorId}
    (hDerives : g.Derives change id copy)
    (hRule : ∀ v, (change v).rule = v.rule) :
    g.deferredCell? copy = g.deferredCell? id := by
  rcases hDerives with ⟨v, hNode, hCopy⟩
  apply Option.ext
  intro c
  rw [deferredCell?_eq_some_iff, deferredCell?_eq_some_iff]
  simp [hNode, hCopy, hRule]

/- Every validator is a copy of itself. -/
theorem Derives.refl
    {g : Graph}
    {id : ValidatorId}
    (hId : id.index < g.size) :
    g.Derives (fun v => v) id id := by
  rcases exists_node?_of_lt hId with ⟨v, hNode⟩
  exact ⟨v, hNode, hNode⟩

/- A copy is inside the graph. -/
theorem Derives.lt_size
    {g : Graph}
    {change : Validator → Validator}
    {id copy : ValidatorId}
    (hDerives : g.Derives change id copy) :
    copy.index < g.size := by
  rcases hDerives with ⟨v, _, hCopy⟩
  exact lt_size_of_node? hCopy

/- Setting a presence gives a marked copy in a grown graph. -/
theorem withPresence_derives
    {g : Graph}
    {id : ValidatorId}
    (presence : Presence)
    (hId : id.index < g.size) :
    (g.withPresence id presence).2.Derives
      (Validator.marked (some presence)) id
      (g.withPresence id presence).1 := by
  rcases exists_node?_of_lt hId with ⟨v, hNode⟩
  unfold withPresence
  by_cases hSame : v.presence = presence
  · simp only [hNode, hSame, if_true]
    refine ⟨v, hNode, ?_⟩
    rw [hNode, ← hSame]
    rfl
  · simp only [hNode, hSame, if_false]
    exact ⟨v, node?_push_of_some _ hNode, node?_push_self g _⟩

/- Allowing `null` gives such a copy in a grown graph. -/
theorem allowingNull_derives
    {g : Graph}
    {id : ValidatorId}
    (hId : id.index < g.size) :
    (g.allowingNull id).2.Derives (Validator.orNull true) id
      (g.allowingNull id).1 := by
  rcases exists_node?_of_lt hId with ⟨v, hNode⟩
  unfold allowingNull
  by_cases hNull : v.allowNull = true
  · simp only [hNode, hNull, if_true]
    refine ⟨v, hNode, ?_⟩
    rw [hNode]
    simp [Validator.orNull, ← hNull]
  · simp only [hNode, hNull]
    refine ⟨v, node?_push_of_some _ hNode, ?_⟩
    simp [Validator.orNull]

/- One changed copy of a validator is added, with its rule. -/
def AddsCopy
    (g h : Graph) : Prop :=
  ∃ id v presence allowNull,
    g.node? id = some v ∧
      h = (g.push ⟨v.rule, presence, allowNull⟩).2

/- Changed copies of validators are added. -/
abbrev AddsCopies : Graph → Graph → Prop :=
  Relation.ReflTransGen AddsCopy

/- Adding copies is growth. -/
theorem extends_of_addsCopies
    {g h : Graph}
    (hCopies : AddsCopies g h) :
    Extends g h := by
  induction hCopies with
  | refl => exact Extends.refl g
  | tail _ hStep ih =>
      rcases hStep with ⟨id, v, presence, allowNull, _, rfl⟩
      exact ih.trans (Extends.push _ _)

/- Adding copies leaves the cells alone. -/
theorem cells_of_addsCopies
    {g h : Graph}
    (hCopies : AddsCopies g h) :
    h.cells = g.cells := by
  induction hCopies with
  | refl => rfl
  | tail _ hStep ih =>
      rcases hStep with ⟨id, v, presence, allowNull, _, rfl⟩
      exact ih

/- Setting a presence adds a copy or nothing. -/
theorem withPresence_addsCopies
    (g : Graph)
    (id : ValidatorId)
    (presence : Presence) :
    AddsCopies g (g.withPresence id presence).2 := by
  unfold withPresence
  cases hNode : g.node? id with
  | none => exact Relation.ReflTransGen.refl
  | some v =>
      simp only
      split
      case isTrue => exact Relation.ReflTransGen.refl
      case isFalse =>
        exact Relation.ReflTransGen.single
          ⟨id, v, presence, v.allowNull, hNode, rfl⟩

/- Allowing `null` adds a copy or nothing. -/
theorem allowingNull_addsCopies
    (g : Graph)
    (id : ValidatorId) :
    AddsCopies g (g.allowingNull id).2 := by
  unfold allowingNull
  cases hNode : g.node? id with
  | none => exact Relation.ReflTransGen.refl
  | some v =>
      simp only
      split
      case isTrue => exact Relation.ReflTransGen.refl
      case isFalse =>
        exact Relation.ReflTransGen.single
          ⟨id, v, v.presence, true, hNode, rfl⟩

------------------------------------------------------------
-- Closed Graphs
------------------------------------------------------------

/- Every validator that a rule mentions is before a position. -/
def MentionsBelow
    (g : Graph)
    (bound : Nat) : Rule → Prop
  | .deferred c => c.index < g.cells.size
  | rule => ∀ id ∈ rule.references g, id.index < bound

/- What a rule mentions stays where it is. -/
theorem MentionsBelow.mono
    {g h : Graph}
    {bound more : Nat}
    {rule : Rule}
    (hBelow : g.MentionsBelow bound rule)
    (hMore : bound ≤ more)
    (hCells : g.cells.size ≤ h.cells.size) :
    h.MentionsBelow more rule := by
  cases rule with
  | deferred c => exact Nat.lt_of_lt_of_le hBelow hCells
  | _ => exact fun id hId => (hBelow id hId).trans_le hMore

/- What a rule that does not defer mentions. -/
theorem MentionsBelow.lt_of_mem_references
    {g : Graph}
    {bound : Nat}
    {rule : Rule}
    {id : ValidatorId}
    (hBelow : g.MentionsBelow bound rule)
    (hPlain : ∀ c, rule ≠ .deferred c)
    (hMem : id ∈ rule.references g) :
    id.index < bound := by
  cases rule with
  | deferred c => exact absurd rfl (hPlain c)
  | _ => exact hBelow id hMem

/-
  Every validator mentions earlier validators and existing
  cells, and every cell holds an existing validator.
-/
structure Closed
    (g : Graph) : Prop where
  mentions :
    ∀ id v, g.node? id = some v →
      g.MentionsBelow id.index v.rule
  contents :
    ∀ c id, g.cell? c = some id → id.index < g.size

namespace Closed

variable {g : Graph}

/- The graph without validators is closed. -/
theorem empty : Closed empty :=
  ⟨fun id v hNode => by simp [node?, Graph.empty] at hNode,
    fun c id hCell => by simp [cell?, Graph.empty] at hCell⟩

/- What a validator of the graph mentions is in the graph. -/
theorem mentions_size
    (hClosed : g.Closed)
    {id : ValidatorId}
    {v : Validator}
    (hNode : g.node? id = some v) :
    g.MentionsBelow g.size v.rule :=
  (hClosed.mentions id v hNode).mono
    (Nat.le_of_lt (lt_size_of_node? hNode)) (Nat.le_refl _)

/- A validator that mentions the graph may be added. -/
theorem push
    (hClosed : g.Closed)
    {v : Validator}
    (hBelow : g.MentionsBelow g.size v.rule) :
    (g.push v).2.Closed := by
  constructor
  · intro id w hNode
    rcases node?_push_cases hNode with hOld | ⟨hIndex, rfl⟩
    · exact (hClosed.mentions id w hOld).mono
        (Nat.le_refl _) (Nat.le_refl _)
    · exact hBelow.mono (Nat.le_of_eq hIndex.symm)
        (Nat.le_refl _)
  · intro c id hCell
    exact (Extends.push g v).lt_size
      (hClosed.contents c id hCell)

/- A cell may be added. -/
theorem newCell
    (hClosed : g.Closed) :
    g.newCell.2.Closed := by
  constructor
  · intro id v hNode
    exact (hClosed.mentions id v hNode).mono
      (Nat.le_refl _) (Extends.newCell g).cells
  · intro c id hCell
    rw [cell?_newCell] at hCell
    exact hClosed.contents c id hCell

/- A cell may be set to a validator of the graph. -/
theorem setCell
    (hClosed : g.Closed)
    (c : CellId)
    {id : ValidatorId}
    (hId : id.index < g.size) :
    (g.setCell c id).Closed := by
  constructor
  · intro other v hNode
    exact (hClosed.mentions other v hNode).mono
      (Nat.le_refl _) (by simp [Graph.setCell])
  · intro other held hCell
    by_cases hSame : other = c
    · subst hSame
      have hLt : other.index < g.cells.size := by
        simpa [Graph.setCell] using lt_cells_of_cell? hCell
      rw [cell?_setCell_self id hLt] at hCell
      cases hCell
      exact hId
    · rw [cell?_setCell_of_ne id hSame] at hCell
      exact hClosed.contents other held hCell

end Closed

------------------------------------------------------------
-- Ordered Properties
------------------------------------------------------------

/- The properties of every object rule are in order. -/
def Ordered
    (g : Graph) : Prop :=
  ∀ id v, g.node? id = some v → v.rule.Ordered

end Graph

end SchemaGraph
