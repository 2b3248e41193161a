import Mathlib
import SchemaGraph.Proofs.Compile.Growth
import SchemaGraph.Proofs.Inheritance.Requirements

/-
  The chain of ancestors of an object node, and what the
  node's properties are in terms of it.

  A property is provided by the nearest level that declares
  it.  The level's own lists and those of the levels above
  it mark the property, one after another; the lists of the
  node itself come last.

  Main declarations:
    * `Level`
    * `Lineage`
    * `inherited?`
    * `provision?`
    * `Graph.Carries`
    * `Provides`
    * `Merged`
-/

namespace SchemaGraph

------------------------------------------------------------
-- Levels
------------------------------------------------------------

/- A node of a chain of ancestors. -/
structure Level where
  key : NodeKey
  node : Json

namespace Level

/- The level declares a property. -/
def declares
    (level : Level)
    (name : String) : Bool :=
  match declaredNames? level.node with
  | some names => decide (name ∈ names)
  | none => false

end Level

/- The key of a property that a node declares. -/
def NodeKey.property
    (owner : NodeKey)
    (name : String) : NodeKey :=
  (owner.child "properties").child name

/- Where a property comes from, and the presence it is marked with. -/
structure Provision where
  owner : NodeKey
  mark : Option Presence

/- A provision with a later mark. -/
def Provision.remarked
    (p : Provision)
    (mark : Option Presence) : Provision :=
  ⟨p.owner, mark <|> p.mark⟩

/- What a level makes of a property that nearer levels may provide. -/
def Level.provide
    (name : String)
    (nearer : Option Provision)
    (level : Level) : Option Provision :=
  match nearer with
  | some p => some (p.remarked (level.node.requirement? name))
  | none =>
      if level.declares name then
        some ⟨level.key, level.node.requirement? name⟩
      else
        none

/- What a chain of ancestors provides, the nearest one first. -/
def inherited?
    (ancestors : List Level)
    (name : String) : Option Provision :=
  ancestors.foldl (Level.provide name) none

/- What a node with a chain of ancestors provides. -/
def provision?
    (own : Level)
    (ancestors : List Level)
    (name : String) : Option Provision :=
  if own.declares name then
    some ⟨own.key, own.node.requirement? name⟩
  else
    (inherited? ancestors name).map
      (fun p => p.remarked (own.node.requirement? name))

------------------------------------------------------------
-- Chains
------------------------------------------------------------

/-
  The ancestors that are reached from a node by its links,
  up to a missing link or a node that was visited before.
-/
inductive Lineage
    (setting : Setting)
    (s : State) :
    NodeKey → List NodeKey → List Level → Prop where
  /- There is no link. -/
  | stop
      (key : NodeKey)
      (visited : List NodeKey)
      (hLink : linkReference? s (key.child "extends") = none) :
      Lineage setting s key visited []
  /- The link leads to a visited node. -/
  | again
      (key ancestor : NodeKey)
      (visited : List NodeKey)
      (reference : String)
      (hLink :
        linkReference? s (key.child "extends") =
          some (.string reference))
      (hLeads : Leads setting s key.doc reference ancestor)
      (hSeen : ancestor ∈ visited) :
      Lineage setting s key visited []
  /- The link leads to a new node. -/
  | climb
      (key : NodeKey)
      (ancestor : Level)
      (visited : List NodeKey)
      (above : List Level)
      (reference : String)
      (hLink :
        linkReference? s (key.child "extends") =
          some (.string reference))
      (hLeads : Leads setting s key.doc reference ancestor.key)
      (hNew : ancestor.key ∉ visited)
      (hNode : s.node? ancestor.key = some ancestor.node)
      (hAbove :
        Lineage setting s ancestor.key (ancestor.key :: visited)
          above) :
      Lineage setting s key visited (ancestor :: above)

variable {setting : Setting}
variable {s t : State}

/- The links of existing nodes stay as they are. -/
theorem Grows.linkReference?_eq
    {key : NodeKey}
    (hGrows : Grows setting s t)
    (hPresent : s.Present key) :
    linkReference? t (key.child "extends") =
      linkReference? s (key.child "extends") := by
  rcases hPresent.stored with ⟨d, hDoc⟩
  have hChild : s.store.get? (key.child "extends").doc = some d :=
    hDoc
  simp only [linkReference?, hGrows.node?_eq hChild]

/- The ancestors of an existing node stay the same. -/
theorem Lineage.mono
    {key : NodeKey}
    {visited : List NodeKey}
    {ancestors : List Level}
    (hLineage : Lineage setting s key visited ancestors)
    (hGrows : Grows setting s t)
    (hPresent : s.Present key) :
    Lineage setting t key visited ancestors := by
  induction hLineage with
  | stop key visited hLink =>
      rw [← hGrows.linkReference?_eq hPresent] at hLink
      exact .stop key visited hLink
  | again key ancestor visited reference hLink hLeads hSeen =>
      rw [← hGrows.linkReference?_eq hPresent] at hLink
      exact .again key ancestor visited reference hLink
        (hGrows.leads hPresent hLeads) hSeen
  | climb key ancestor visited above reference hLink hLeads hNew
      hNode _ ih =>
      rw [← hGrows.linkReference?_eq hPresent] at hLink
      exact .climb key ancestor visited above reference hLink
        (hGrows.leads hPresent hLeads) hNew (hGrows.node? hNode)
        (ih ⟨ancestor.node, hNode⟩)

/- A node has one chain of ancestors. -/
theorem Lineage.unique
    {key : NodeKey}
    {visited : List NodeKey}
    {first second : List Level}
    (hFirst : Lineage setting s key visited first)
    (hSecond : Lineage setting s key visited second) :
    first = second := by
  induction hFirst generalizing second with
  | stop key visited hLink =>
      cases hSecond with
      | stop => rfl
      | again => rfl
      | climb _ _ _ _ _ hOther => rw [hLink] at hOther; cases hOther
  | again key ancestor visited reference hLink hLeads hSeen =>
      cases hSecond with
      | stop => rfl
      | again => rfl
      | climb _ other _ _ _ hOther hElse hNew =>
          rw [hLink] at hOther
          cases hOther
          rw [hLeads.unique hElse] at hSeen
          exact absurd hSeen hNew
  | climb key ancestor visited above reference hLink hLeads hNew
      hNode _ ih =>
      cases hSecond with
      | stop _ _ hOther => rw [hLink] at hOther; cases hOther
      | again _ other _ _ hOther hElse hSeen =>
          rw [hLink] at hOther
          cases hOther
          rw [← hLeads.unique hElse] at hSeen
          exact absurd hSeen hNew
      | climb _ other _ more _ hOther hElse hFresh hAlso hRest =>
          rw [hLink] at hOther
          cases hOther
          have hKey := hLeads.unique hElse
          rcases ancestor with ⟨ancestorKey, ancestorNode⟩
          rcases other with ⟨otherKey, otherNode⟩
          simp only at hKey
          subst hKey
          rw [hNode] at hAlso
          cases hAlso
          rw [ih hRest]

------------------------------------------------------------
-- Provided Properties
------------------------------------------------------------

/-
  The properties follow a plan: each one is a marked copy of
  a validator that was given for the planned declaration, or
  that validator itself if there is no mark.
-/
structure Graph.Carries
    (g : Graph)
    (gives : NodeKey → ValidatorId → Prop)
    (plan : String → Option Provision)
    (properties : PropertyMap) : Prop where
  sorted : Members.Sorted properties
  missing :
    ∀ name, plan name = none → properties.lookup name = none
  found :
    ∀ name p, plan name = some p →
      ∃ declared id,
        properties.lookup name = some id ∧
          gives (p.owner.property name) declared ∧
          g.Derives (Validator.marked p.mark) declared id ∧
          (p.mark = none → id = declared)

namespace Graph.Carries

variable {g h : Graph}
variable {gives other : NodeKey → ValidatorId → Prop}
variable {plan : String → Option Provision}
variable {properties : PropertyMap}

/- Later, and with more that was given, the plan is followed. -/
theorem mono
    (hCarries : g.Carries gives plan properties)
    (hExtends : g.Extends h)
    (hGives : ∀ key id, gives key id → other key id) :
    h.Carries other plan properties := by
  refine ⟨hCarries.sorted, hCarries.missing, ?_⟩
  intro name p hPlan
  rcases hCarries.found name p hPlan with
    ⟨declared, id, hLookup, hGiven, hDerives, hSame⟩
  exact ⟨declared, id, hLookup, hGives _ _ hGiven,
    hDerives.mono hExtends, hSame⟩

/- Properties that follow one plan follow the same plan. -/
theorem congr
    {same : String → Option Provision}
    (hCarries : g.Carries gives plan properties)
    (hSame : ∀ name, plan name = same name) :
    g.Carries gives same properties := by
  have hPlan : plan = same := funext hSame
  rw [← hPlan]
  exact hCarries

/- The properties have validators of the graph. -/
theorem holds
    (hCarries : g.Carries gives plan properties) :
    Graph.Holds (g, properties) := by
  intro name id hLookup
  cases hPlan : plan name with
  | none =>
      have hMissing := hCarries.missing name hPlan
      rw [hMissing] at hLookup
      cases hLookup
  | some p =>
      rcases hCarries.found name p hPlan with
        ⟨declared, other, hOther, _, hDerives, _⟩
      rw [hOther] at hLookup
      cases hLookup
      exact hDerives.lt_size

/- Marking the properties marks their provisions. -/
theorem marked
    {choose : String → Option Presence}
    {after : Graph × PropertyMap}
    (hCarries : g.Carries gives plan properties)
    (hMarks : Graph.Marks choose (g, properties) after) :
    after.1.Carries gives
      (fun name =>
        (plan name).map (fun p => p.remarked (choose name)))
      after.2 := by
  have hGrown := Graph.extends_of_addsCopies hMarks.copies
  refine ⟨hMarks.sorted hCarries.sorted, ?_, ?_⟩
  · intro name hNone
    rw [Option.map_eq_none_iff] at hNone
    exact hMarks.missing name (hCarries.missing name hNone)
  · intro name p hSome
    rcases Option.map_eq_some_iff.mp hSome with ⟨q, hPlan, rfl⟩
    rcases hCarries.found name q hPlan with
      ⟨declared, id, hLookup, hGiven, hDerives, hSame⟩
    rcases hMarks.marked name id hLookup with
      ⟨copy, hCopy, hMarked, hKept⟩
    refine ⟨declared, copy, hCopy, hGiven, ?_, ?_⟩
    · rcases hDerives.mono hGrown with ⟨v, hNode, hOnce⟩
      rcases hMarked with ⟨w, hOther, hTwice⟩
      rw [hOnce] at hOther
      cases hOther
      rw [Validator.marked_marked] at hTwice
      exact ⟨v, hNode, hTwice⟩
    · intro hNone
      have hBoth : choose name = none ∧ q.mark = none := by
        simpa [Provision.remarked] using hNone
      rw [hKept hBoth.1, hSame hBoth.2]

end Graph.Carries

/-
  The properties follow a plan: each one is a marked copy of
  a validator that stands for the planned declaration.
-/
structure Provides
    (s : State)
    (plan : String → Option Provision)
    (properties : PropertyMap) : Prop where
  sorted : Members.Sorted properties
  missing :
    ∀ name, plan name = none → properties.lookup name = none
  found :
    ∀ name p, plan name = some p →
      ∃ declared id,
        properties.lookup name = some id ∧
          s.StandsFor (p.owner.property name) declared ∧
          s.graph.Derives (Validator.marked p.mark) declared id

/- What is carried was given for, and stands for, a declaration. -/
theorem Graph.Carries.provides
    {gives : NodeKey → ValidatorId → Prop}
    {plan : String → Option Provision}
    {properties : PropertyMap}
    (hCarries : s.graph.Carries gives plan properties)
    (hStands : ∀ key id, gives key id → s.StandsFor key id) :
    Provides s plan properties := by
  refine ⟨hCarries.sorted, hCarries.missing, ?_⟩
  intro name p hPlan
  rcases hCarries.found name p hPlan with
    ⟨declared, id, hLookup, hGiven, hDerives, _⟩
  exact ⟨declared, id, hLookup, hStands _ _ hGiven, hDerives⟩

/- Provided properties stay provided. -/
theorem Provides.mono
    {plan : String → Option Provision}
    {properties : PropertyMap}
    (hProvides : Provides s plan properties)
    (hGrows : Grows setting s t) :
    Provides t plan properties := by
  refine ⟨hProvides.sorted, hProvides.missing, ?_⟩
  intro name p hPlan
  rcases hProvides.found name p hPlan with
    ⟨declared, id, hLookup, hStands, hDerives⟩
  exact ⟨declared, id, hLookup, hStands.mono hGrows,
    hDerives.mono hGrows.graph⟩

/- Provided properties have validators of the graph. -/
theorem Provides.holds
    {plan : String → Option Provision}
    {properties : PropertyMap}
    (hProvides : Provides s plan properties) :
    Graph.Holds (s.graph, properties) := by
  intro name id hLookup
  cases hPlan : plan name with
  | none =>
      have hMissing := hProvides.missing name hPlan
      rw [hMissing] at hLookup
      cases hLookup
  | some p =>
      rcases hProvides.found name p hPlan with
        ⟨declared, other, hOther, _, hDerives⟩
      rw [hOther] at hLookup
      cases hLookup
      exact hDerives.lt_size

/-
  The properties of an object node: none when no level
  declares any, and else those that the node and its
  ancestors provide.
-/
def Merged
    (setting : Setting)
    (s : State)
    (own : Level)
    (properties : Option PropertyMap) : Prop :=
  ∃ ancestors,
    Lineage setting s own.key [own.key] ancestors ∧
      match properties with
      | none =>
          ∀ level ∈ own :: ancestors,
            declaredNames? level.node = none
      | some properties =>
          (∃ level ∈ own :: ancestors,
            declaredNames? level.node ≠ none) ∧
          Provides s (provision? own ancestors) properties

/- What merging gives, in terms of the chain of ancestors. -/
theorem Merged.of_lineage
    {own : Level}
    {ancestors : List Level}
    {properties : Option PropertyMap}
    (hMerged : Merged setting s own properties)
    (hLineage : Lineage setting s own.key [own.key] ancestors) :
    (properties = none ↔
        ∀ level ∈ own :: ancestors,
          declaredNames? level.node = none) ∧
      ∀ found, properties = some found →
        Provides s (provision? own ancestors) found := by
  rcases hMerged with ⟨others, hOthers, hProperties⟩
  rw [hOthers.unique hLineage] at hProperties
  cases properties with
  | none => exact ⟨⟨fun _ => hProperties, fun _ => rfl⟩, by simp⟩
  | some found =>
      rcases hProperties with ⟨⟨level, hMem, hDeclares⟩, hProvides⟩
      constructor
      · constructor
        · intro hNone
          cases hNone
        · intro hAll
          exact absurd (hAll level hMem) hDeclares
      · intro other hSome
        cases hSome
        exact hProvides

/- The properties of an existing node stay what they are. -/
theorem Merged.mono
    {own : Level}
    {properties : Option PropertyMap}
    (hMerged : Merged setting s own properties)
    (hGrows : Grows setting s t)
    (hPresent : s.Present own.key) :
    Merged setting t own properties := by
  rcases hMerged with ⟨ancestors, hLineage, hProperties⟩
  refine ⟨ancestors, hLineage.mono hGrows hPresent, ?_⟩
  cases properties with
  | none => exact hProperties
  | some properties =>
      exact ⟨hProperties.1, hProperties.2.mono hGrows⟩

end SchemaGraph
