import Mathlib
import SchemaGraph.Proofs.Graph.Deferral

/-
  What every sequence of graph operations keeps.  Starting
  from the graph without validators, each operation is
  given validators and cells that exist; cells may be filled
  in any order, and filled again.

  The graph stays closed, and forwarding from a validator
  ends: each step passes another cell, so there are at most
  as many steps as there are cells.  For the same reason the
  search for a cell finds its answer before it runs out of
  steps.

  Main declarations:
    * `Graph.Sound`
    * `Graph.Operation`
    * `Graph.Operation.sound_apply`
    * `Graph.sound_perform`
    * `Graph.follow`
    * `Graph.Acyclic.exists_end`
    * `Graph.perform_forwarding_ends`
-/

namespace SchemaGraph

namespace Graph

------------------------------------------------------------
-- Sound Graphs
------------------------------------------------------------

/- The graph is closed, and deferring makes no cycles. -/
structure Sound
    (g : Graph) : Prop where
  closed : g.Closed
  acyclic : g.Acyclic

namespace Sound

variable {g : Graph}

/- The graph without validators is sound. -/
theorem empty : Graph.empty.Sound :=
  ⟨Graph.Closed.empty, Graph.Acyclic.empty⟩

/- A validator that mentions the graph may be added. -/
theorem push
    {v : Validator}
    (hSound : g.Sound)
    (hBelow : g.MentionsBelow g.size v.rule) :
    (g.push v).2.Sound :=
  ⟨hSound.closed.push hBelow, hSound.acyclic.push hSound.closed v⟩

/- A changed copy may be added. -/
theorem addsCopy
    {h : Graph}
    (hSound : g.Sound)
    (hCopy : AddsCopy g h) :
    h.Sound := by
  rcases hCopy with ⟨id, v, presence, allowNull, hNode, rfl⟩
  have hBelow : g.MentionsBelow g.size v.rule :=
    hSound.closed.mentions_size hNode
  exact hSound.push hBelow

/- Changed copies may be added. -/
theorem addsCopies
    {h : Graph}
    (hSound : g.Sound)
    (hCopies : AddsCopies g h) :
    h.Sound := by
  induction hCopies with
  | refl => exact hSound
  | tail _ hCopy ih => exact ih.addsCopy hCopy

/- A cell may be added. -/
theorem newCell
    (hSound : g.Sound) :
    g.newCell.2.Sound :=
  ⟨hSound.closed.newCell, hSound.acyclic.newCell⟩

/- A cell may be filled, also again. -/
theorem fillCell
    {id : ValidatorId}
    (hSound : g.Sound)
    (c : CellId)
    (hId : id.index < g.size) :
    (g.fillCell c id).2.Sound := by
  rw [fillCell_snd]
  split
  case isTrue => exact hSound
  case isFalse hLeads =>
    refine ⟨hSound.closed.setCell c hId,
      hSound.acyclic.setCell ?_⟩
    rw [← leadsTo_iff hSound.acyclic]
    exact hLeads

end Sound

------------------------------------------------------------
-- Operations
------------------------------------------------------------

/- One operation on a graph, with its arguments. -/
inductive Operation where
  | push (v : Validator)
  | derive (id : ValidatorId) (change : Validator → Validator)
  | withPresence (id : ValidatorId) (presence : Presence)
  | allowingNull (id : ValidatorId)
  | newCell
  | fillCell (c : CellId) (id : ValidatorId)

namespace Operation

/- The graph after an operation. -/
def apply
    (g : Graph) : Operation → Graph
  | push v => (g.push v).2
  | derive id change => (g.derive id change).2
  | withPresence id presence => (g.withPresence id presence).2
  | allowingNull id => (g.allowingNull id).2
  | newCell => g.newCell.2
  | fillCell c id => (g.fillCell c id).2

/-
  The arguments exist: the validators and cells that are
  given, and those that a new validator mentions.
-/
def Fits
    (g : Graph) : Operation → Prop
  | push v => g.MentionsBelow g.size v.rule
  | derive id change =>
      ∃ v, g.node? id = some v ∧
        g.MentionsBelow g.size (change v).rule
  | withPresence id _ => id.index < g.size
  | allowingNull id => id.index < g.size
  | newCell => True
  | fillCell c id => c.index < g.cells.size ∧ id.index < g.size

/- An operation whose arguments exist keeps a graph sound. -/
theorem sound_apply
    {g : Graph}
    {operation : Operation}
    (hSound : g.Sound)
    (hFits : operation.Fits g) :
    (operation.apply g).Sound := by
  cases operation with
  | push v => exact hSound.push hFits
  | derive id change =>
      rcases hFits with ⟨v, hNode, hBelow⟩
      simp only [apply, Graph.derive, hNode]
      exact hSound.push hBelow
  | withPresence id presence =>
      exact hSound.addsCopies
        (withPresence_addsCopies g id presence)
  | allowingNull id =>
      exact hSound.addsCopies (allowingNull_addsCopies g id)
  | newCell => exact hSound.newCell
  | fillCell c id => exact hSound.fillCell c hFits.2

/- An operation leaves the validators of the graph alone. -/
theorem node?_apply
    {g : Graph}
    {id : ValidatorId}
    {v : Validator}
    (operation : Operation)
    (hNode : g.node? id = some v) :
    (operation.apply g).node? id = some v := by
  cases operation with
  | push added => exact node?_push_of_some added hNode
  | derive other change =>
      simp only [apply, Graph.derive]
      split
      case h_1 => exact node?_push_of_some _ hNode
      case h_2 => exact hNode
  | withPresence other presence =>
      exact (extends_of_addsCopies
        (withPresence_addsCopies g other presence)).node id v hNode
  | allowingNull other =>
      exact (extends_of_addsCopies
        (allowingNull_addsCopies g other)).node id v hNode
  | newCell => exact hNode
  | fillCell c other =>
      simp only [apply, fillCell_snd]
      split
      case isTrue => exact hNode
      case isFalse => exact hNode

end Operation

/- The graph after a list of operations. -/
def perform
    (g : Graph)
    (operations : List Operation) : Graph :=
  operations.foldl Operation.apply g

/- The arguments of each operation exist when it is performed. -/
def Performs
    (g : Graph) : List Operation → Prop
  | [] => True
  | operation :: rest =>
      operation.Fits g ∧ (operation.apply g).Performs rest

/- Operations whose arguments exist keep a graph sound. -/
theorem sound_perform
    {g : Graph}
    {operations : List Operation}
    (hSound : g.Sound)
    (hPerforms : g.Performs operations) :
    (g.perform operations).Sound := by
  induction operations generalizing g with
  | nil => exact hSound
  | cons operation rest ih =>
      rcases hPerforms with ⟨hFits, hRest⟩
      exact ih (Operation.sound_apply hSound hFits) hRest

/- More operations are performed after the others. -/
theorem perform_append
    (g : Graph)
    (first second : List Operation) :
    g.perform (first ++ second) =
      (g.perform first).perform second :=
  List.foldl_append

/- More operations find their arguments after the others. -/
theorem performs_append
    {g : Graph}
    {first second : List Operation} :
    g.Performs (first ++ second) ↔
      g.Performs first ∧ (g.perform first).Performs second := by
  induction first generalizing g with
  | nil => simp [Performs, perform]
  | cons operation rest ih =>
      simp only [List.cons_append, Performs, ih, and_assoc]
      rfl

/- The graph is sound after each operation. -/
theorem sound_perform_take
    {operations : List Operation}
    (hPerforms : empty.Performs operations)
    (n : Nat) :
    (empty.perform (operations.take n)).Sound := by
  rw [← List.take_append_drop n operations, performs_append]
    at hPerforms
  exact sound_perform Sound.empty hPerforms.1

------------------------------------------------------------
-- Following Cells
------------------------------------------------------------

/- The content of the cell that a validator defers to. -/
def forward?
    (g : Graph)
    (id : ValidatorId) : Option ValidatorId :=
  (g.deferredCell? id).bind g.cell?

/-
  Where following deferred validators and their cells leads
  in a number of steps, if it goes on for so long.
-/
def follow
    (g : Graph) : Nat → ValidatorId → Option ValidatorId
  | 0, id => some id
  | steps + 1, id => (g.forward? id).bind (g.follow steps)

/- One step is forwarding. -/
theorem forward?_eq_some_iff
    {g : Graph}
    {id next : ValidatorId} :
    g.forward? id = some next ↔ g.Forwards id next :=
  Option.bind_eq_some_iff

/- Following is forwarding any number of times. -/
theorem exists_follow_iff
    {g : Graph}
    {id last : ValidatorId} :
    (∃ steps, g.follow steps id = some last) ↔
      Relation.ReflTransGen g.Forwards id last := by
  constructor
  · rintro ⟨steps, hFollow⟩
    induction steps generalizing id with
    | zero =>
        cases hFollow
        exact Relation.ReflTransGen.refl
    | succ steps ih =>
        rcases Option.bind_eq_some_iff.mp hFollow with
          ⟨next, hNext, hRest⟩
        exact Relation.ReflTransGen.head
          (forward?_eq_some_iff.mp hNext) (ih hRest)
  · intro hPath
    induction hPath using
      Relation.ReflTransGen.head_induction_on with
    | refl => exact ⟨0, rfl⟩
    | head hStep _ ih =>
        rcases ih with ⟨steps, hFollow⟩
        refine ⟨steps + 1, ?_⟩
        rw [follow, forward?_eq_some_iff.mpr hStep,
          Option.bind_some, hFollow]

/- A validator leads back to a cell if following meets it. -/
theorem leadsBack_iff_exists_follow
    {g : Graph}
    {id : ValidatorId}
    {c : CellId} :
    g.LeadsBack id c ↔
      ∃ steps last,
        g.follow steps id = some last ∧
          g.deferredCell? last = some c := by
  constructor
  · rintro ⟨last, hPath, hLast⟩
    rcases exists_follow_iff.mpr hPath with ⟨steps, hFollow⟩
    exact ⟨steps, last, hFollow, hLast⟩
  · rintro ⟨steps, last, hFollow, hLast⟩
    exact ⟨last, exists_follow_iff.mp ⟨steps, hFollow⟩, hLast⟩

/- The cells that are passed on the way are distinct and filled. -/
theorem Acyclic.exists_passed
    {g : Graph}
    {steps : Nat}
    {id last : ValidatorId}
    (hAcyclic : g.Acyclic)
    (hFollow : g.follow steps id = some last) :
    ∃ passed : List CellId,
      passed.length = steps ∧
        passed.Nodup ∧
        ∀ c ∈ passed,
          g.LeadsBack id c ∧ ∃ held, g.cell? c = some held := by
  induction steps generalizing id with
  | zero =>
      exact ⟨[], rfl, List.nodup_nil, fun c hMem => by cases hMem⟩
  | succ steps ih =>
      rcases Option.bind_eq_some_iff.mp hFollow with
        ⟨next, hNext, hRest⟩
      rcases forward?_eq_some_iff.mp hNext with
        ⟨own, hOwn, hCell⟩
      rcases ih hRest with ⟨passed, hLength, hNodup, hPassed⟩
      -- The first cell is not met again: its content leads on.
      have hNew : own ∉ passed := fun hMem =>
        hAcyclic own next hCell (hPassed own hMem).1
      refine ⟨own :: passed, by simp [hLength],
        List.nodup_cons.mpr ⟨hNew, hNodup⟩, ?_⟩
      intro c hMem
      rcases List.mem_cons.mp hMem with rfl | hLater
      · exact
          ⟨⟨id, Relation.ReflTransGen.refl, hOwn⟩, next, hCell⟩
      · rcases hPassed c hLater with ⟨hLeads, hFilled⟩
        exact
          ⟨hLeads.of_forwards
            (Relation.ReflTransGen.single ⟨own, hOwn, hCell⟩),
            hFilled⟩

/- There are no more steps than cells. -/
theorem Acyclic.steps_le
    {g : Graph}
    {steps : Nat}
    {id last : ValidatorId}
    (hAcyclic : g.Acyclic)
    (hFollow : g.follow steps id = some last) :
    steps ≤ g.cells.size := by
  rcases hAcyclic.exists_passed hFollow with
    ⟨passed, rfl, hNodup, hPassed⟩
  exact length_le_of_filled hNodup (fun c hMem => (hPassed c hMem).2)

/- More steps than cells cannot be followed. -/
theorem Acyclic.follow_eq_none
    {g : Graph}
    (hAcyclic : g.Acyclic)
    (id : ValidatorId) :
    g.follow (g.cells.size + 1) id = none := by
  cases hFollow : g.follow (g.cells.size + 1) id with
  | none => rfl
  | some last =>
      have hSteps := hAcyclic.steps_le hFollow
      omega

/- Where following stops early, it ends. -/
theorem exists_end_of_follow_eq_none
    {g : Graph}
    {steps : Nat}
    {id : ValidatorId}
    (hFollow : g.follow steps id = none) :
    ∃ less last,
      less < steps ∧
        g.follow less id = some last ∧
        g.forward? last = none := by
  induction steps generalizing id with
  | zero => cases hFollow
  | succ steps ih =>
      cases hNext : g.forward? id with
      | none => exact ⟨0, id, Nat.succ_pos _, rfl, hNext⟩
      | some next =>
          rw [follow, hNext, Option.bind_some] at hFollow
          rcases ih hFollow with ⟨less, last, hLess, hLast, hEnd⟩
          refine ⟨less + 1, last, Nat.succ_lt_succ hLess, ?_, hEnd⟩
          rw [follow, hNext, Option.bind_some, hLast]

/- Following ends after at most as many steps as there are cells. -/
theorem Acyclic.exists_end
    {g : Graph}
    (hAcyclic : g.Acyclic)
    (id : ValidatorId) :
    ∃ steps last,
      steps ≤ g.cells.size ∧
        g.follow steps id = some last ∧
        g.forward? last = none := by
  rcases exists_end_of_follow_eq_none (hAcyclic.follow_eq_none id)
    with ⟨steps, last, hLess, hFollow, hEnd⟩
  exact ⟨steps, last, Nat.le_of_lt_succ hLess, hFollow, hEnd⟩

------------------------------------------------------------
-- Running out of Steps
------------------------------------------------------------

/-
  The search for a cell, as in `meetsCell`, with the answer
  that it is to give when it runs out of steps.
-/
def meetsCellOr
    (g : Graph)
    (target : CellId)
    (spent : Bool) : Nat → ValidatorId → Bool
  | 0, _ => spent
  | steps + 1, id =>
      match g.deferredCell? id with
      | none => false
      | some c =>
          if c = target then
            true
          else
            match g.cell? c with
            | some next => g.meetsCellOr target spent steps next
            | none => false

/- Running out of steps counts as meeting the cell. -/
theorem meetsCell_eq_meetsCellOr
    (g : Graph)
    (target : CellId)
    (steps : Nat)
    (id : ValidatorId) :
    g.meetsCell target steps id =
      g.meetsCellOr target true steps id := by
  induction steps generalizing id with
  | zero => rfl
  | succ steps ih =>
      rw [meetsCell, meetsCellOr]
      cases g.deferredCell? id with
      | none => rfl
      | some c =>
          by_cases hSame : c = target
          · simp only [hSame, if_true]
          · cases hCell : g.cell? c with
            | none => simp only [hSame, if_false, hCell]
            | some next => simp only [hSame, if_false, hCell, ih]

/- A search that ends does not run out of steps. -/
theorem meetsCellOr_congr
    {g : Graph}
    {steps : Nat}
    {id : ValidatorId}
    (hFollow : g.follow steps id = none)
    (target : CellId)
    (spent other : Bool) :
    g.meetsCellOr target spent steps id =
      g.meetsCellOr target other steps id := by
  induction steps generalizing id with
  | zero => cases hFollow
  | succ steps ih =>
      rw [follow, forward?] at hFollow
      simp only [meetsCellOr]
      cases hOwn : g.deferredCell? id with
      | none => rfl
      | some own =>
          cases hCell : g.cell? own with
          | none => simp only [hCell]
          | some next =>
              have hRest : g.follow steps next = none := by
                simpa [hOwn, hCell] using hFollow
              simp only [hCell, ih hRest]

------------------------------------------------------------
-- Forwarding after Operations
------------------------------------------------------------

/- Following stays inside a closed graph. -/
theorem Closed.exists_node?_of_follow
    {g : Graph}
    {steps : Nat}
    {id last : ValidatorId}
    (hClosed : g.Closed)
    (hId : id.index < g.size)
    (hFollow : g.follow steps id = some last) :
    ∃ v, g.node? last = some v :=
  exists_node?_of_lt
    (hClosed.lt_size_of_forwards hId
      (exists_follow_iff.mp ⟨steps, hFollow⟩))

/-
  After any sequence of operations whose arguments exist,
  following deferred validators ends at a validator that
  does not defer or whose cell is empty, after at most as
  many steps as there are cells.

  Filling a cell is refused exactly when following its
  content meets a validator that defers to the cell, and
  then changes nothing; whatever the search for the cell is
  to answer when it runs out of steps, it answers the same.
-/
theorem perform_forwarding_ends
    {operations : List Operation}
    (hPerforms : Graph.empty.Performs operations) :
    let g := Graph.empty.perform operations
    (∀ id, id.index < g.size →
      ∃ steps last v,
        steps ≤ g.cells.size ∧
          g.follow steps id = some last ∧
          g.node? last = some v ∧
          ∀ c, v.rule = .deferred c →
            c.index < g.cells.size ∧ g.cell? c = none) ∧
      ∀ c id,
        ((g.fillCell c id).1 = false ↔
            ∃ steps last,
              g.follow steps id = some last ∧
                g.deferredCell? last = some c) ∧
          ((g.fillCell c id).1 = false →
            (g.fillCell c id).2 = g) ∧
          ∀ spent,
            g.leadsTo id c =
              g.meetsCellOr c spent (g.cells.size + 1) id := by
  intro g
  have hSound : g.Sound := sound_perform Sound.empty hPerforms
  refine ⟨?_, ?_⟩
  · intro id hId
    rcases hSound.acyclic.exists_end id with
      ⟨steps, last, hSteps, hFollow, hEnd⟩
    rcases hSound.closed.exists_node?_of_follow hId hFollow with
      ⟨v, hNode⟩
    refine ⟨steps, last, v, hSteps, hFollow, hNode, ?_⟩
    intro c hRule
    have hBelow := hSound.closed.mentions last v hNode
    rw [hRule] at hBelow
    have hDefers : g.deferredCell? last = some c :=
      deferredCell?_eq_some_iff.mpr ⟨v, hNode, hRule⟩
    rw [forward?, hDefers, Option.bind_some] at hEnd
    exact ⟨hBelow, hEnd⟩
  · intro c id
    have hRefused :
        (g.fillCell c id).1 = false ↔ g.leadsTo id c = true := by
      unfold fillCell
      split <;> simp_all
    refine ⟨?_, ?_, ?_⟩
    · rw [hRefused, leadsTo_iff hSound.acyclic,
        leadsBack_iff_exists_follow]
    · intro hFalse
      rw [fillCell_snd, if_pos (hRefused.mp hFalse)]
    · intro spent
      rw [leadsTo, meetsCell_eq_meetsCellOr]
      exact meetsCellOr_congr (hSound.acyclic.follow_eq_none id) c
        true spent

/-
  Two cells, a validator that defers to each, and one that
  accepts anything.  The first cell is filled twice.
-/
def Operation.refilling : List Operation :=
  [.newCell, .push { rule := .deferred ⟨0⟩ },
    .newCell, .push { rule := .deferred ⟨1⟩ },
    .push { rule := .any },
    .fillCell ⟨0⟩ ⟨2⟩, .fillCell ⟨0⟩ ⟨1⟩]

/-
  The first validator leads on to the second one, whose cell
  is empty.  This cell cannot be filled with either of them.
-/
theorem perform_forwarding_ends_refilling :
    let g := Graph.empty.perform Operation.refilling
    Graph.empty.Performs Operation.refilling ∧
      g.follow 1 ⟨0⟩ = some ⟨1⟩ ∧
      (∃ steps last v,
        steps ≤ 2 ∧
          g.follow steps ⟨0⟩ = some last ∧
          g.node? last = some v ∧
          ∀ c, v.rule = .deferred c →
            c.index < 2 ∧ g.cell? c = none) ∧
      (g.fillCell ⟨1⟩ ⟨0⟩).1 = false ∧
      (g.fillCell ⟨1⟩ ⟨0⟩).2 = g := by
  intro g
  have hPerforms : Graph.empty.Performs Operation.refilling := by
    refine ⟨trivial, ?_, trivial, ?_, ?_, ?_, ?_, trivial⟩
    · exact Nat.lt_succ_self 0
    · exact Nat.lt_succ_self 1
    · exact fun id hMem => by cases hMem
    · exact ⟨by decide, by decide⟩
    · exact ⟨by decide, by decide⟩
  rcases perform_forwarding_ends hPerforms with ⟨hEnds, hFills⟩
  rcases hFills ⟨1⟩ ⟨0⟩ with ⟨hRefused, hUnchanged, _⟩
  have hFalse : (g.fillCell ⟨1⟩ ⟨0⟩).1 = false :=
    hRefused.mpr ⟨1, ⟨1⟩, by decide, by decide⟩
  exact
    ⟨hPerforms, by decide, hEnds ⟨0⟩ (by decide), hFalse,
      hUnchanged hFalse⟩

end Graph

end SchemaGraph
