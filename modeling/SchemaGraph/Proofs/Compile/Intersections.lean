import Mathlib
import SchemaGraph.Proofs.Check.Accepted
import SchemaGraph.Proofs.Compile.Transparency

/-
  What an intersection makes of a value.  Its verdict is put
  together from the verdicts of the nodes that its entries
  choose: a conditional entry chooses one of its sides, or
  nothing, and any other entry its own node.  All of them
  look at the value with undeclared keys dropped, and none is
  left out after another one failed.

  An entry that is an intersection itself may be replaced
  with its entries.

  Main declarations:
    * `State.verdict?`
    * `State.chosen?`
    * `State.complaints?`
    * `State.violations?`
    * `State.Fulfils`
    * `Flattens`
    * `Settled.check_intersection`
    * `compile_intersection`
-/

namespace SchemaGraph

variable {setting : Setting}
variable {source : Source}
variable {workingDir : Path}
variable {s : State}
variable {now : Calendar.Instant}
variable {value : Json}
variable {path : String}

------------------------------------------------------------
-- Verdicts of Slots
------------------------------------------------------------

section Verdicts

variable (s : State)
variable (now : Calendar.Instant)
variable (value : Json)
variable (path : String)

/- What a compiled node makes of a value, without undeclared keys. -/
def State.verdict?
    (key : NodeKey) : Option Verdict :=
  (s.resolved.lookup key).bind (fun id =>
    s.graph.check now id (some value) path ⟨true⟩)

/- The node that a slot chooses for a value, if it chooses one. -/
def State.chosen?
    (slot : Slot) : Option (Option NodeKey) :=
  if slot.entry.Conditional then
    (s.verdict? now value path (slot.key.child "if")).map
      (fun verdict =>
        match verdict with
        | .ok _ => slot.side? "then"
        | .error _ => slot.side? "else")
  else
    some (some slot.key)

/- The violations that a node finds in a value, if there is one. -/
def State.found? : Option NodeKey → Option (List Violation)
  | none => some []
  | some key => (s.verdict? now value path key).map Verdict.violations

/- The violations that a slot finds in a value. -/
def State.complaints?
    (slot : Slot) : Option (List Violation) :=
  (s.chosen? now value path slot).bind (s.found? now value path)

/- The violations that slots find in a value, in their order. -/
def State.violations?
    (slots : List Slot) : Option (List Violation) :=
  (slots.mapM (s.complaints? now value path)).map List.flatten

/- The node of a key accepts the value. -/
def State.Accepts
    (key : NodeKey) : Prop :=
  ∃ accepted, s.verdict? now value path key = some (.ok accepted)

/- The node of a key refuses the value. -/
def State.Refuses
    (key : NodeKey) : Prop :=
  ∃ vs, s.verdict? now value path key = some (.error vs)

/- The value is as a slot wants it. -/
inductive State.Fulfils
    (slot : Slot) : Prop where
  /- The node of the entry accepts it. -/
  | always
      (hPlain : ¬ slot.entry.Conditional)
      (hAccepts : s.Accepts now value path slot.key)
  /- It meets the condition, and the first side accepts it. -/
  | pass
      (hConditional : slot.entry.Conditional)
      (hTest : s.Accepts now value path (slot.key.child "if"))
      (hSide :
        ∀ key, slot.side? "then" = some key →
          s.Accepts now value path key)
  /- It fails the condition, and the other side accepts it. -/
  | fail
      (hConditional : slot.entry.Conditional)
      (hTest : s.Refuses now value path (slot.key.child "if"))
      (hSide :
        ∀ key, slot.side? "else" = some key →
          s.Accepts now value path key)

end Verdicts

/- A verdict without violations is one that accepts. -/
theorem State.accepts_iff
    {key : NodeKey} :
    s.Accepts now value path key ↔
      ∃ verdict,
        s.verdict? now value path key = some verdict ∧
          verdict.violations = [] := by
  constructor
  · rintro ⟨accepted, hVerdict⟩
    exact ⟨_, hVerdict, rfl⟩
  · rintro ⟨verdict, hVerdict, hNone⟩
    rcases Option.bind_eq_some_iff.mp hVerdict with ⟨id, _, hCheck⟩
    rcases (s.graph.check_answers now id _ _ _ _ hCheck).exists_ok
      hNone with ⟨accepted, rfl, _⟩
    exact ⟨accepted, hVerdict⟩

/- A chosen node finds nothing exactly if it accepts. -/
theorem State.found?_eq_nil_iff
    {side : Option NodeKey} :
    s.found? now value path side = some [] ↔
      ∀ key, side = some key → s.Accepts now value path key := by
  cases side with
  | none => simp [State.found?]
  | some key => simp [State.found?, State.accepts_iff]

/- A slot finds nothing in a value that is as it wants it. -/
theorem State.complaints?_eq_nil_iff
    {slot : Slot} :
    s.complaints? now value path slot = some [] ↔
      s.Fulfils now value path slot := by
  unfold State.complaints? State.chosen?
  by_cases hConditional : slot.entry.Conditional
  · rw [if_pos hConditional]
    constructor
    · intro hNone
      cases hTest :
          s.verdict? now value path (slot.key.child "if") with
      | none =>
          rw [hTest] at hNone
          cases hNone
      | some verdict =>
          rw [hTest] at hNone
          cases verdict with
          | ok accepted =>
              exact .pass hConditional ⟨accepted, hTest⟩
                (State.found?_eq_nil_iff.mp hNone)
          | error vs =>
              exact .fail hConditional ⟨vs, hTest⟩
                (State.found?_eq_nil_iff.mp hNone)
    · intro hFulfils
      cases hFulfils with
      | always hPlain => exact absurd hConditional hPlain
      | pass _ hTest hSide =>
          rcases hTest with ⟨accepted, hTest⟩
          rw [hTest]
          exact State.found?_eq_nil_iff.mpr hSide
      | fail _ hTest hSide =>
          rcases hTest with ⟨vs, hTest⟩
          rw [hTest]
          exact State.found?_eq_nil_iff.mpr hSide
  · rw [if_neg hConditional, Option.bind_some,
      State.found?_eq_nil_iff]
    constructor
    · intro hAccepts
      exact .always hConditional (hAccepts slot.key rfl)
    · intro hFulfils
      cases hFulfils with
      | always _ hAccepts =>
          rintro key ⟨⟩
          exact hAccepts
      | pass hOther => exact absurd hOther hConditional
      | fail hOther => exact absurd hOther hConditional

------------------------------------------------------------
-- Lists of Slots
------------------------------------------------------------

/- Slots find what the first one finds, and what the others find. -/
theorem State.violations?_cons
    (slot : Slot)
    (rest : List Slot) :
    s.violations? now value path (slot :: rest) =
      (s.complaints? now value path slot).bind (fun vs =>
        (s.violations? now value path rest).map (vs ++ ·)) := by
  unfold State.violations?
  cases hFirst : s.complaints? now value path slot <;>
    cases hRest : rest.mapM (s.complaints? now value path) <;>
      simp [hFirst, hRest]

/- Slots in two lists find what either list finds. -/
theorem State.violations?_append
    (slots more : List Slot) :
    s.violations? now value path (slots ++ more) =
      (s.violations? now value path slots).bind (fun vs =>
        (s.violations? now value path more).map (vs ++ ·)) := by
  unfold State.violations?
  cases hSlots : slots.mapM (s.complaints? now value path) <;>
    cases hMore : more.mapM (s.complaints? now value path) <;>
      simp [List.mapM_append, hSlots, hMore]

/- The violations of slots are those of each of them, in order. -/
theorem State.violations?_eq_some_iff
    {slots : List Slot}
    {vs : List Violation} :
    s.violations? now value path slots = some vs ↔
      ∃ lists,
        List.Forall₂
            (fun slot list =>
              s.complaints? now value path slot = some list)
            slots lists ∧
          vs = lists.flatten := by
  induction slots generalizing vs with
  | nil => simp [State.violations?, eq_comm]
  | cons slot rest ih =>
      rw [State.violations?_cons]
      constructor
      · intro hAll
        rcases Option.bind_eq_some_iff.mp hAll with
          ⟨first, hFirst, hRest⟩
        rcases Option.map_eq_some_iff.mp hRest with
          ⟨others, hOthers, rfl⟩
        rcases ih.mp hOthers with ⟨lists, hLists, rfl⟩
        exact ⟨first :: lists, .cons hFirst hLists, rfl⟩
      · rintro ⟨_, hLists, rfl⟩
        cases hLists with
        | cons hFirst hRest =>
            rw [hFirst, Option.bind_some, ih.mpr ⟨_, hRest, rfl⟩]
            rfl

/- Slots find nothing exactly if none of them does. -/
theorem State.violations?_eq_nil_iff
    {slots : List Slot} :
    s.violations? now value path slots = some [] ↔
      ∀ slot ∈ slots, s.Fulfils now value path slot := by
  induction slots with
  | nil => simp [State.violations?]
  | cons slot rest ih =>
      rw [State.violations?_cons, List.forall_mem_cons, ← ih,
        ← State.complaints?_eq_nil_iff]
      constructor
      · intro hAll
        rcases Option.bind_eq_some_iff.mp hAll with
          ⟨first, hFirst, hRest⟩
        rcases Option.map_eq_some_iff.mp hRest with
          ⟨others, hOthers, hNone⟩
        rcases List.append_eq_nil_iff.mp hNone with ⟨rfl, rfl⟩
        exact ⟨hFirst, hOthers⟩
      · rintro ⟨hFirst, hOthers⟩
        rw [hFirst, hOthers]
        rfl

------------------------------------------------------------
-- Compiled Intersections
------------------------------------------------------------

/- The node of a key is an intersection and is compiled. -/
structure State.Intersects
    (s : State)
    (key : NodeKey)
    (entries : List Json)
    (id : ValidatorId) : Prop where
  classified :
    ∃ node,
      s.node? key = some node ∧
        classify node = .ok (.allOf entries)
  resolved : s.resolved.lookup key = some id

/- The nodes that a slot may choose or ask. -/
def Slot.nodes
    (slot : Slot) : List NodeKey :=
  if slot.entry.Conditional then
    slot.key.child "if" ::
      ((slot.side? "then").toList ++ (slot.side? "else").toList)
  else
    [slot.key]

/- The slot holds its entry, and its nodes are compiled. -/
structure State.Filled
    (s : State)
    (slot : Slot) : Prop where
  entry : s.node? slot.key = some slot.entry
  compiled :
    ∀ key ∈ slot.nodes, ∃ id, s.resolved.lookup key = some id

/- An entry that is an intersection is not conditional. -/
theorem not_conditional_of_classify
    {entry : Json}
    {entries : List Json}
    (hKind : classify entry = .ok (.allOf entries)) :
    ¬ entry.Conditional := by
  intro hConditional
  rw [(Json.conditional_iff_classify.mp hConditional).2] at hKind
  cases hKind

/- What stands for a node gives the verdict of the node. -/
theorem Settled.check_of_standsFor
    {key : NodeKey}
    {id : ValidatorId}
    (hSettled : Settled setting source s)
    (hStands : s.StandsFor key id) :
    s.graph.check now id (some value) path ⟨true⟩ =
      s.verdict? now value path key := by
  rcases hSettled.sameOnPresent hStands with ⟨held, hHeld, hSame⟩
  rw [State.verdict?, hHeld, Option.bind_some, hSame]

/- What a validator finds in a value, if there is one. -/
def Checker.found?
    (inner : Checker)
    (value : Json)
    (path : String) : Option ValidatorId → Option (List Violation)
  | none => some []
  | some id =>
      (inner id (some value) path ⟨true⟩).map Verdict.violations

/- A part finds what its validator that applies finds. -/
theorem Graph.branchViolations_eq_bind
    (inner : Checker)
    (value : Json)
    (path : String)
    (part : Branch) :
    branchViolations inner value path ⟨true⟩ part =
      (effective inner value path ⟨true⟩ part).bind
        (inner.found? value path) := by
  unfold branchViolations
  cases effective inner value path ⟨true⟩ part with
  | none => rfl
  | some id? =>
      cases id? with
      | none => rfl
      | some id => simp [Checker.found?, Option.map_eq_bind]

/- The validator of a side finds what the node of the side finds. -/
theorem Settled.found?_eq
    {key? : Option NodeKey}
    {id? : Option ValidatorId}
    (hSettled : Settled setting source s)
    (hSide : Option.Rel s.StandsFor key? id?) :
    Checker.found? (s.graph.check now) value path id? =
      s.found? now value path key? := by
  cases hSide with
  | none => rfl
  | some hStands =>
      simp only [State.found?, Checker.found?,
        hSettled.check_of_standsFor hStands]

/- A part finds in a value what its slot finds. -/
theorem Settled.branchViolations_eq
    {slot : Slot}
    {part : Branch}
    (hSettled : Settled setting source s)
    (hPart : s.PartFor slot part) :
    Graph.branchViolations (s.graph.check now) value path ⟨true⟩
        part =
      s.complaints? now value path slot := by
  rw [Graph.branchViolations_eq_bind, State.complaints?]
  cases hPart with
  | schema id hPlain hStands =>
      rw [State.chosen?, if_neg hPlain]
      exact hSettled.found?_eq (.some hStands)
  | conditional test pass fail hConditional hTest hPass hFail =>
      rw [State.chosen?, if_pos hConditional, Graph.effective,
        hSettled.check_of_standsFor hTest]
      cases s.verdict? now value path (slot.key.child "if") with
      | none => rfl
      | some verdict =>
          cases verdict with
          | ok accepted => exact hSettled.found?_eq hPass
          | error vs => exact hSettled.found?_eq hFail

/- Parts find in a value what their slots find. -/
theorem Settled.mapM_branchViolations
    {slots : List Slot}
    {parts : List Branch}
    (hSettled : Settled setting source s)
    (hParts : List.Forall₂ s.PartFor slots parts) :
    parts.mapM
        (Graph.branchViolations (s.graph.check now) value path
          ⟨true⟩) =
      slots.mapM (s.complaints? now value path) := by
  induction hParts with
  | nil => rfl
  | cons hPart _ ih =>
      rw [List.mapM_cons, List.mapM_cons,
        hSettled.branchViolations_eq hPart, ih]

/- A compiled intersection has a part for every slot. -/
theorem Settled.exists_parts
    {key : NodeKey}
    {entries : List Json}
    {id : ValidatorId}
    (hSettled : Settled setting source s)
    (hIntersects : s.Intersects key entries id) :
    ∃ parts,
      s.graph.node? id = some { rule := .all parts } ∧
        List.Forall₂ s.PartFor (key.slots entries) parts := by
  rcases hIntersects.classified with ⟨node, hNode, hKind⟩
  have hReply :=
    hSettled.sound.truthful.replies key id hIntersects.resolved
  rcases hReply.of_kind hNode hKind with ⟨v, hOf⟩
  rcases hOf.intersection entries rfl with ⟨parts, rfl, hParts⟩
  exact ⟨parts, hOf.validator, hParts⟩

/-
  A compiled intersection accepts a value as it is if its
  slots find nothing in it, and otherwise refuses it for all
  that they find.
-/
theorem Settled.check_intersection
    {key : NodeKey}
    {entries : List Json}
    {id : ValidatorId}
    (hSettled : Settled setting source s)
    (hIntersects : s.Intersects key entries id)
    (now : Calendar.Instant)
    (value : Json)
    (path : String)
    (options : CheckOptions) :
    s.graph.check now id (some value) path options =
      (s.violations? now value path (key.slots entries)).map
        (Verdict.ofViolations value) := by
  rcases hSettled.exists_parts hIntersects with
    ⟨parts, hNode, hParts⟩
  rw [Graph.check_eq_checkNode,
    Graph.checkNode_of_permits hNode (by simp) (Or.inr rfl),
    Graph.checkRule, Graph.checkAll,
    hSettled.mapM_branchViolations hParts, State.violations?]
  cases (key.slots entries).mapM (s.complaints? now value path) with
  | none => rfl
  | some lists => rfl

------------------------------------------------------------
-- Filled Slots
------------------------------------------------------------

/- The nodes of a slot that has a part are compiled. -/
theorem Settled.exists_resolved_of_partFor
    {slot : Slot}
    {part : Branch}
    {key : NodeKey}
    (hSettled : Settled setting source s)
    (hPart : s.PartFor slot part)
    (hMem : key ∈ slot.nodes) :
    ∃ id, s.resolved.lookup key = some id := by
  have hResolved :
      ∀ {key id}, s.StandsFor key id →
        ∃ held, s.resolved.lookup key = some held := by
    intro key id hStands
    rcases hSettled.sameOnPresent hStands with ⟨held, hHeld, _⟩
    exact ⟨held, hHeld⟩
  have hSide :
      ∀ {key? : Option NodeKey} {id? : Option ValidatorId},
        Option.Rel s.StandsFor key? id? → key ∈ key?.toList →
          ∃ held, s.resolved.lookup key = some held := by
    intro key? id? hRel hKey
    cases hRel with
    | none => cases hKey
    | some hStands =>
        rw [List.mem_singleton.mp hKey]
        exact hResolved hStands
  unfold Slot.nodes at hMem
  cases hPart with
  | schema id hPlain hStands =>
      rw [if_neg hPlain] at hMem
      rw [List.mem_singleton.mp hMem]
      exact hResolved hStands
  | conditional test pass fail hConditional hTest hPass hFail =>
      rw [if_pos hConditional] at hMem
      rcases List.mem_cons.mp hMem with rfl | hSides
      · exact hResolved hTest
      · rcases List.mem_append.mp hSides with hThen | hElse
        · exact hSide hPass hThen
        · exact hSide hFail hElse

/- The slots of a compiled intersection are filled. -/
theorem Settled.filled_of_intersects
    {key : NodeKey}
    {entries : List Json}
    {id : ValidatorId}
    (hSettled : Settled setting source s)
    (hIntersects : s.Intersects key entries id) :
    ∀ slot ∈ key.slots entries, s.Filled slot := by
  rcases hIntersects.classified with ⟨node, hNode, hKind⟩
  rcases hSettled.exists_parts hIntersects with ⟨parts, _, hParts⟩
  have hWritten : node.member? "allOf" = some (.array entries) :=
    writtenIn_of_classify hKind
  have hList := State.node?_member hNode hWritten
  have hEach :
      List.Forall₂
        (fun slot part =>
          (∀ other ∈ slot.nodes,
            ∃ held, s.resolved.lookup other = some held) ∧
            s.PartFor slot part)
        (key.slots entries) parts := by
    apply hParts.imp
    intro slot part hPart
    exact
      ⟨fun _ hMem => hSettled.exists_resolved_of_partFor hPart hMem,
        hPart⟩
  have hCompiled := ((List.forall₂_and_left _ _).mp hEach).1
  intro slot hMem
  refine ⟨?_, hCompiled slot hMem⟩
  rcases List.mem_map.mp hMem with ⟨⟨entry, i⟩, hEntry, rfl⟩
  exact State.node?_item hList (List.mem_zipIdx_iff_getElem?.mp hEntry)

/- A filled slot with an intersection compiles to one. -/
theorem State.Filled.exists_intersects
    {slot : Slot}
    {entries : List Json}
    (hFilled : s.Filled slot)
    (hKind : classify slot.entry = .ok (.allOf entries)) :
    ∃ id, s.Intersects slot.key entries id := by
  have hMem : slot.key ∈ slot.nodes := by
    simp [Slot.nodes, not_conditional_of_classify hKind]
  rcases hFilled.compiled slot.key hMem with ⟨id, hResolved⟩
  exact ⟨id, ⟨slot.entry, hFilled.entry, hKind⟩, hResolved⟩

------------------------------------------------------------
-- Nested Intersections
------------------------------------------------------------

/- An entry that is an intersection is replaced with its entries. -/
inductive Flattens : List Slot → List Slot → Prop where
  | nested
      (before after : List Slot)
      (slot : Slot)
      (entries : List Json)
      (hKind : classify slot.entry = .ok (.allOf entries)) :
      Flattens (before ++ slot :: after)
        (before ++ slot.key.slots entries ++ after)

/- A slot with an intersection finds what the slots of it find. -/
theorem Settled.complaints?_of_nested
    {slot : Slot}
    {entries : List Json}
    (hSettled : Settled setting source s)
    (hFilled : s.Filled slot)
    (hKind : classify slot.entry = .ok (.allOf entries)) :
    s.complaints? now value path slot =
      s.violations? now value path (slot.key.slots entries) := by
  rcases hFilled.exists_intersects hKind with ⟨id, hIntersects⟩
  rw [State.complaints?, State.chosen?,
    if_neg (not_conditional_of_classify hKind), Option.bind_some,
    State.found?, State.verdict?, hIntersects.resolved,
    Option.bind_some, hSettled.check_intersection hIntersects,
    Option.map_map]
  simp [Function.comp_def]

/- Replacing a nested intersection keeps the slots filled. -/
theorem Flattens.filled
    {slots flat : List Slot}
    (hFlattens : Flattens slots flat)
    (hSettled : Settled setting source s)
    (hFilled : ∀ slot ∈ slots, s.Filled slot) :
    ∀ slot ∈ flat, s.Filled slot := by
  cases hFlattens with
  | nested before after slot entries hKind =>
      have hSlot : s.Filled slot := hFilled slot (by simp)
      rcases hSlot.exists_intersects hKind with ⟨id, hIntersects⟩
      intro other hMem
      simp only [List.mem_append] at hMem
      rcases hMem with (hBefore | hNested) | hAfter
      · exact hFilled other (by simp [hBefore])
      · exact hSettled.filled_of_intersects hIntersects other hNested
      · exact hFilled other (by simp [hAfter])

/- Replacing a nested intersection keeps what is found. -/
theorem Flattens.violations?_eq
    {slots flat : List Slot}
    (hFlattens : Flattens slots flat)
    (hSettled : Settled setting source s)
    (hFilled : ∀ slot ∈ slots, s.Filled slot) :
    s.violations? now value path flat =
      s.violations? now value path slots := by
  cases hFlattens with
  | nested before after slot entries hKind =>
      have hSlot : s.Filled slot := hFilled slot (by simp)
      rw [List.append_assoc, State.violations?_append,
        State.violations?_append, State.violations?_append,
        State.violations?_cons,
        hSettled.complaints?_of_nested hSlot hKind]

/- Replacing nested intersections keeps what is found. -/
theorem Settled.violations?_of_flattens
    {slots flat : List Slot}
    (hSettled : Settled setting source s)
    (hFilled : ∀ slot ∈ slots, s.Filled slot)
    (hFlattens : Relation.ReflTransGen Flattens slots flat) :
    (∀ slot ∈ flat, s.Filled slot) ∧
      ∀ now value path,
        s.violations? now value path flat =
          s.violations? now value path slots := by
  induction hFlattens with
  | refl => exact ⟨hFilled, fun _ _ _ => rfl⟩
  | tail _ hStep ih =>
      rcases ih with ⟨hBefore, hSame⟩
      refine ⟨hStep.filled hSettled hBefore, ?_⟩
      intro now value path
      rw [hStep.violations?_eq hSettled hBefore, hSame]

/- Two slots, of one state or two, find the same in every value. -/
def State.FindsAlike
    (s t : State)
    (slot other : Slot) : Prop :=
  ∀ now value path,
    s.complaints? now value path slot =
      t.complaints? now value path other

/- Two nodes, of one state or two, give the same verdicts. -/
def State.JudgesAlike
    (s t : State)
    (key place : NodeKey) : Prop :=
  ∀ now value path,
    s.verdict? now value path key = t.verdict? now value path place

/-
  Two slots with the same entry find the same if their nodes
  give the same verdicts.
-/
theorem State.findsAlike_of_entry
    {t : State}
    {slot other : Slot}
    (hEntry : other.entry = slot.entry)
    (hPlain :
      ¬ slot.entry.Conditional →
        s.JudgesAlike t slot.key other.key)
    (hConditional :
      slot.entry.Conditional →
        ∀ name ∈ ["if", "then", "else"],
          slot.entry.keyword? name ≠ none →
            s.JudgesAlike t (slot.key.child name)
              (other.key.child name)) :
    s.FindsAlike t slot other := by
  intro now value path
  -- A side is given by both or by neither.
  have hSide :
      slot.entry.Conditional →
        ∀ name ∈ ["if", "then", "else"],
          s.found? now value path (slot.side? name) =
            t.found? now value path (other.side? name) := by
    intro hHolds name hName
    unfold Slot.side?
    rw [hEntry]
    cases hGiven : slot.entry.keyword? name with
    | none => simp only [Option.map_none, State.found?]
    | some _ =>
        simp only [Option.map_some, State.found?]
        rw [hConditional hHolds name hName (by simp [hGiven])]
  unfold State.complaints? State.chosen?
  rw [hEntry]
  by_cases hHolds : slot.entry.Conditional
  · rw [if_pos hHolds, if_pos hHolds,
      ← hConditional hHolds "if" (by simp) hHolds.1]
    cases s.verdict? now value path (slot.key.child "if") with
    | none => simp only [Option.map_none, Option.bind_none]
    | some verdict =>
        cases verdict with
        | ok accepted => exact hSide hHolds "then" (by simp)
        | error vs => exact hSide hHolds "else" (by simp)
  · rw [if_neg hHolds, if_neg hHolds]
    simp only [Option.bind_some, State.found?]
    rw [hPlain hHolds]

/- A reference gives the verdicts of its target. -/
theorem Settled.judgesAlike_of_reference
    {key target : NodeKey}
    {text : String}
    {id : ValidatorId}
    (hSettled : Settled setting source s)
    (hText : s.reference? key = some text)
    (hStrict : (s.node? key).map allowsNull = some false)
    (hResolved : s.resolved.lookup key = some id)
    (hLeads : Leads setting s key.doc text target) :
    s.JudgesAlike s key target := by
  intro now value path
  rcases State.reference?_eq_some_iff.mp hText with
    ⟨node, hNode, hKind⟩
  have hAllows : allowsNull node = false := by
    simpa [hNode] using hStrict
  rcases hSettled.check_reference hNode hKind hResolved hLeads with
    ⟨held, hHeld, _, hSame⟩
  rw [State.verdict?, State.verdict?, hResolved, hHeld,
    Option.bind_some, Option.bind_some,
    hSame now value path ⟨true⟩ (Or.inr hAllows)]

/- Slots that find the same one by one find the same. -/
theorem State.violations?_congr
    {t : State}
    {slots others : List Slot}
    (hAlike : List.Forall₂ (s.FindsAlike t) slots others) :
    s.violations? now value path slots =
      t.violations? now value path others := by
  induction hAlike with
  | nil => simp only [State.violations?, List.mapM_nil]
  | cons hFirst _ ih =>
      rw [State.violations?_cons, State.violations?_cons,
        hFirst now value path, ih]

------------------------------------------------------------
-- Outcomes
------------------------------------------------------------

/- An intersection accepts a value that is as all slots want it. -/
theorem Settled.check_intersection_eq_ok_iff
    {key : NodeKey}
    {entries : List Json}
    {id : ValidatorId}
    {options : CheckOptions}
    {accepted : Option Json}
    (hSettled : Settled setting source s)
    (hIntersects : s.Intersects key entries id) :
    s.graph.check now id (some value) path options =
        some (.ok accepted) ↔
      accepted = some value ∧
        ∀ slot ∈ key.slots entries,
          s.Fulfils now value path slot := by
  rw [hSettled.check_intersection hIntersects,
    Option.map_eq_some_iff, ← State.violations?_eq_nil_iff]
  simp only [Verdict.ofViolations_eq_ok_iff]
  constructor
  · rintro ⟨vs, hFound, rfl, hAccepted⟩
    exact ⟨hAccepted, hFound⟩
  · rintro ⟨hAccepted, hFound⟩
    exact ⟨[], hFound, rfl, hAccepted⟩

/- An intersection refuses a value for all that its slots find. -/
theorem Settled.check_intersection_eq_error_iff
    {key : NodeKey}
    {entries : List Json}
    {id : ValidatorId}
    {options : CheckOptions}
    {vs : List Violation}
    (hSettled : Settled setting source s)
    (hIntersects : s.Intersects key entries id) :
    s.graph.check now id (some value) path options =
        some (.error vs) ↔
      vs ≠ [] ∧
        ∃ lists,
          List.Forall₂
              (fun slot list =>
                s.complaints? now value path slot = some list)
              (key.slots entries) lists ∧
            vs = lists.flatten := by
  rw [hSettled.check_intersection hIntersects,
    Option.map_eq_some_iff, ← State.violations?_eq_some_iff]
  simp only [Verdict.ofViolations_eq_error_iff]
  constructor
  · rintro ⟨found, hFound, hSome, rfl⟩
    exact ⟨hSome, hFound⟩
  · rintro ⟨hSome, hFound⟩
    exact ⟨vs, hFound, hSome, rfl⟩

/-
  What an intersection means.  Its slots are filled and what
  they may choose is compiled.  It accepts a value exactly if
  every slot is fulfilled, and then as it is; otherwise it
  gives what all its slots find, in their order.  The options
  of the check make no difference.

  Nor does it make one to replace entries that are
  intersections with their entries, to any depth: the slots
  that are left give the same outcome, and so does any
  intersection, of this compilation or another one, whose
  slots find one by one what these slots find.
-/
theorem compile_intersection
    {schema : Compiled}
    {final : State}
    {key : NodeKey}
    {entries : List Json}
    {id : ValidatorId}
    (hCompiled :
      compileWith setting workingDir source = ⟨.ok schema, final⟩)
    (hIntersects : final.Intersects key entries id) :
    (∀ slot ∈ key.slots entries, final.Filled slot) ∧
      (∀ now value path options accepted,
        schema.graph.check now id (some value) path options =
            some (.ok accepted) ↔
          accepted = some value ∧
            ∀ slot ∈ key.slots entries,
              final.Fulfils now value path slot) ∧
      (∀ now value path options vs,
        schema.graph.check now id (some value) path options =
            some (.error vs) ↔
          vs ≠ [] ∧
            ∃ lists,
              List.Forall₂
                  (fun slot list =>
                    final.complaints? now value path slot =
                      some list)
                  (key.slots entries) lists ∧
                vs = lists.flatten) ∧
      (∀ now value path options other,
        schema.graph.check now id (some value) path options =
          schema.graph.check now id (some value) path other) ∧
      ∀ slots,
        Relation.ReflTransGen Flattens (key.slots entries) slots →
          (∀ now value path options,
            schema.graph.check now id (some value) path options =
              (final.violations? now value path slots).map
                (Verdict.ofViolations value)) ∧
            ∀ {otherSetting : Setting} {otherDir : Path}
                {otherSource : Source} {otherSchema : Compiled}
                {otherFinal : State} {place : NodeKey}
                {flat : List Json} {other : ValidatorId},
              compileWith otherSetting otherDir otherSource =
                  ⟨.ok otherSchema, otherFinal⟩ →
                otherFinal.Intersects place flat other →
                  List.Forall₂ (final.FindsAlike otherFinal) slots
                      (place.slots flat) →
                    ∀ now value path options,
                      schema.graph.check now id (some value) path
                          options =
                        otherSchema.graph.check now other
                          (some value) path options := by
  rcases settled_of_compileWith hCompiled with ⟨hSettled, hGraph⟩
  have hFilled := hSettled.filled_of_intersects hIntersects
  rw [← hGraph]
  refine ⟨hFilled, ?_, ?_, ?_, ?_⟩
  · intro now value path options accepted
    exact hSettled.check_intersection_eq_ok_iff hIntersects
  · intro now value path options vs
    exact hSettled.check_intersection_eq_error_iff hIntersects
  · intro now value path options other
    rw [hSettled.check_intersection hIntersects,
      hSettled.check_intersection hIntersects]
  · intro slots hFlattens
    rcases hSettled.violations?_of_flattens hFilled hFlattens with
      ⟨_, hSame⟩
    have hCheck :
        ∀ now value path options,
          final.graph.check now id (some value) path options =
            (final.violations? now value path slots).map
              (Verdict.ofViolations value) := by
      intro now value path options
      rw [hSettled.check_intersection hIntersects, hSame]
    refine ⟨hCheck, ?_⟩
    intro otherSetting otherDir otherSource otherSchema otherFinal
      place flat other hOtherCompiled hOther hAlike now value path
      options
    rcases settled_of_compileWith hOtherCompiled with
      ⟨hOtherSettled, hOtherGraph⟩
    rw [hCheck, ← hOtherGraph,
      hOtherSettled.check_intersection hOther,
      State.violations?_congr hAlike]

------------------------------------------------------------
-- A Nested Choice
------------------------------------------------------------

/- The nodes of a document given in memory are those of the schema. -/
theorem Settled.node?_eq_of_inline
    {schema : Json}
    {key : NodeKey}
    (hSettled : Settled setting (.value schema) s)
    (hInline :
      (s.store.get? key.doc).map Document.origin = some .inline) :
    s.node? key = schema.find? key.pointer := by
  rcases Option.map_eq_some_iff.mp hInline with ⟨d, hDoc, hOrigin⟩
  have hServed :=
    hSettled.sound.sourced.served d (List.mem_of_getElem? hDoc)
  unfold Document.Served at hServed
  rw [hOrigin] at hServed
  cases hServed
  rw [State.node?, hDoc, Option.bind_some]

namespace NestedChoice

/- A list, which comes back to the nested choice. -/
def list : Json :=
  .object [("$ref", .string "#/definitions/list")]

/- A list or a flag. -/
def choice : Json :=
  .object
    [("else", .object [("$ref", .string "#/definitions/flag")]),
    ("if", list)]

/-
  Two properties with the same two entries, one of which the
  second property has in an intersection of its own.
-/
def schema : Json :=
  .object
    [("definitions", .object
      [("flag", .object [("type", .string "boolean")]),
      ("list", .object
        [("properties", .object
          [("next", .object
            [("$ref", .string "#/properties/nested")])]),
        ("type", .string "object")])]),
    ("properties", .object
      [("flat", .object [("allOf", .array [list, choice])]),
      ("nested", .object
        [("allOf", .array
          [list, .object [("allOf", .array [choice])]])])]),
    ("type", .string "object")]

/- The state after the compilation. -/
@[irreducible] def final : State :=
  (compileAlone schema).final

/- The key of the property with both entries. -/
def flat : NodeKey :=
  (NodeKey.root ⟨0⟩).property "flat"

/- The key of the property with the nested entry. -/
def nested : NodeKey :=
  (NodeKey.root ⟨0⟩).property "nested"

/- The compilation succeeds. -/
theorem compiled :
    ∃ result,
      compileWith Setting.alone ⟨"/"⟩ (.value schema) =
        ⟨.ok result, final⟩ := by
  unfold final
  exact Compilation.exists_eq_of_isOk (c := compileAlone schema)
    (by decide +kernel)

/- Nothing is in progress after the compilation. -/
theorem settled : Settled Setting.alone (.value schema) final := by
  rcases compiled with ⟨_, hCompiled⟩
  exact (settled_of_compileWith hCompiled).1

/- The key of a definition. -/
def definition
    (name : String) : NodeKey :=
  ((NodeKey.root ⟨0⟩).child "definitions").child name

/- The node is a compiled reference to a definition, and not to null. -/
def Refers
    (key : NodeKey)
    (name : String) : Prop :=
  let text := "#/definitions/" ++ name
  final.reference? key = some text ∧
    (final.node? key).map allowsNull = some false ∧
    (final.resolved.lookup key).isSome ∧
    knownDocument? Setting.alone final.store key.doc text =
      some ⟨0⟩ ∧
    targetIn final ⟨0⟩ (splitReference text).2 =
      some (definition name)

instance
    (key : NodeKey)
    (name : String) :
    Decidable (Refers key name) := by
  unfold Refers
  infer_instance

/- The key of the first entry of a property. -/
def first
    (key : NodeKey) : NodeKey :=
  (key.child "allOf").index 0

/- The key of the second entry of a property. -/
def second
    (key : NodeKey) : NodeKey :=
  (key.child "allOf").index 1

/- Where the compilation leaves the document and the properties. -/
theorem places :
    (final.store.get? ⟨0⟩).map Document.origin = some .inline ∧
      final.resolved.lookup flat = some ⟨6⟩ ∧
      final.resolved.lookup nested = some ⟨4⟩ := by
  decide +kernel

/- The references of the entries of both properties. -/
theorem references :
    (∀ key ∈
        [first flat, (second flat).child "if", first nested,
          (first (second nested)).child "if"],
      Refers key "list") ∧
      ∀ key ∈
          [(second flat).child "else",
            (first (second nested)).child "else"],
        Refers key "flag" := by
  decide +kernel

/- A reference gives the verdicts of its definition. -/
theorem Refers.judgesAlike
    {key : NodeKey}
    {name : String}
    (hRefers : Refers key name) :
    final.JudgesAlike final key (definition name) := by
  rcases hRefers with ⟨hText, hStrict, hCompiled, hKnown, hTarget⟩
  rcases Option.isSome_iff_exists.mp hCompiled with ⟨id, hResolved⟩
  exact settled.judgesAlike_of_reference hText hStrict hResolved
    ⟨⟨0⟩, hKnown, hTarget⟩

/- References to one definition give the same verdicts. -/
theorem Refers.alike
    {key place : NodeKey}
    {name : String}
    (hKey : Refers key name)
    (hPlace : Refers place name) :
    final.JudgesAlike final key place := by
  intro now value path
  rw [hKey.judgesAlike, hPlace.judgesAlike]

/- The nodes are those of the schema. -/
theorem node?_eq
    {key : NodeKey}
    (hDoc : key.doc = ⟨0⟩) :
    final.node? key = schema.find? key.pointer := by
  apply settled.node?_eq_of_inline
  rw [hDoc]
  exact places.1

/- The first property is compiled. -/
theorem flat_intersects : final.Intersects flat [list, choice] ⟨6⟩ :=
  ⟨⟨.object [("allOf", .array [list, choice])],
      node?_eq rfl, rfl⟩,
    places.2.1⟩

/- The second property is compiled. -/
theorem nested_intersects :
    final.Intersects nested
      [list, .object [("allOf", .array [choice])]] ⟨4⟩ :=
  ⟨⟨.object
      [("allOf", .array
        [list, .object [("allOf", .array [choice])]])],
      node?_eq rfl, rfl⟩,
    places.2.2⟩

/- The nested entry takes the place of the intersection around it. -/
theorem flattens :
    Relation.ReflTransGen Flattens
      (nested.slots [list, .object [("allOf", .array [choice])]])
      [⟨first nested, list⟩, ⟨first (second nested), choice⟩] :=
  .single
    (.nested [⟨first nested, list⟩] []
      ⟨second nested, .object [("allOf", .array [choice])]⟩
      [choice] rfl)

/- The entries find the same in both properties. -/
theorem findsAlike :
    List.Forall₂ (final.FindsAlike final)
      [⟨first nested, list⟩, ⟨first (second nested), choice⟩]
      [⟨first flat, list⟩, ⟨second flat, choice⟩] := by
  have hList : ¬ list.Conditional := by decide
  have hChoice : choice.Conditional := by decide
  rcases references with ⟨hLists, hFlags⟩
  refine .cons ?_ (.cons ?_ .nil)
  · refine State.findsAlike_of_entry rfl (fun _ => ?_)
      (fun hOther => absurd hOther hList)
    exact (hLists _ (by simp)).alike (hLists _ (by simp))
  · refine State.findsAlike_of_entry rfl
      (fun hOther => absurd hChoice hOther) (fun _ => ?_)
    intro name hName hGiven
    simp only [List.mem_cons, List.not_mem_nil, or_false] at hName
    rcases hName with rfl | rfl | rfl
    · exact (hLists _ (by simp)).alike (hLists _ (by simp))
    · exact absurd rfl hGiven
    · exact (hFlags _ (by simp)).alike (hFlags _ (by simp))

end NestedChoice

/-
  The property with the nested entry treats every value as
  the other property does, though the references of its
  entries close a cycle and theirs do not.
-/
theorem compile_intersection_nestedChoice :
    ∃ schema,
      (compileAlone NestedChoice.schema).result = .ok schema ∧
        schema.graph.SameOnPresent ⟨4⟩ ⟨6⟩ := by
  rcases NestedChoice.compiled with ⟨schema, hCompiled⟩
  refine ⟨schema, by rw [compileAlone, hCompiled], ?_⟩
  exact
    ((compile_intersection hCompiled
        NestedChoice.nested_intersects).2.2.2.2 _
      NestedChoice.flattens).2 hCompiled
      NestedChoice.flat_intersects NestedChoice.findsAlike

end SchemaGraph
