import Mathlib
import SchemaGraph.Proofs.Compile.Transparency

/-
  An object that only extends another one has the properties
  of the other one, by the same names and from the same
  declarations.

  The requirement lists may have another effect.  Seen from
  the object that is extended, its own lists go before those
  of its ancestors.  Seen from the extending object, they
  come first on the way up, and every list that is met later
  goes before them.

  Main declarations:
    * `listed?`
    * `inheritedMark?`
    * `ownMark?`
    * `State.MergesTo`
    * `mergeProperties_of_extension`
    * `not_presence_eq_of_extension`
-/

namespace SchemaGraph

variable {setting : Setting}
variable {source : Source}
variable {workingDir : Path}
variable {s t : State}

------------------------------------------------------------
-- Marks along a Chain
------------------------------------------------------------

/- What the last level whose lists mention a name makes of it. -/
def listed?
    (levels : List Level)
    (name : String) : Option Presence :=
  levels.foldl
    (fun before level => level.node.requirement? name <|> before)
    none

/-
  What the lists of a chain make of an inherited property:
  those of the level that declares it and of the levels above
  count, and the last one goes before the others.
-/
def inheritedMark?
    (levels : List Level)
    (name : String) : Option Presence :=
  listed? (levels.dropWhile (fun level => !level.declares name)) name

/-
  What the lists make of a property of a node: its own lists
  go before those of its ancestors, which do not count for
  what it declares itself.
-/
def ownMark?
    (own : Level)
    (ancestors : List Level)
    (name : String) : Option Presence :=
  own.node.requirement? name <|>
    if own.declares name then
      none
    else
      inheritedMark? ancestors name

/- The nearest level that declares a name. -/
def provider?
    (levels : List Level)
    (name : String) : Option Level :=
  levels.find? (fun level => level.declares name)

/- An earlier mark counts if no list mentions the name. -/
theorem foldl_requirement?
    (levels : List Level)
    (name : String)
    (before : Option Presence) :
    levels.foldl
        (fun before level =>
          level.node.requirement? name <|> before)
        before =
      (listed? levels name <|> before) := by
  induction levels generalizing before with
  | nil => rfl
  | cons level rest ih =>
      rw [listed?, List.foldl_cons, List.foldl_cons, ih,
        ih (_ <|> none)]
      simp [Option.or_assoc]

/- The lists of the levels above go before those of the first one. -/
theorem listed?_cons
    (level : Level)
    (rest : List Level)
    (name : String) :
    listed? (level :: rest) name =
      (listed? rest name <|> level.node.requirement? name) := by
  rw [listed?, List.foldl_cons, foldl_requirement?]
  simp

/- The levels above mark what is provided already. -/
theorem foldl_provide_some
    (levels : List Level)
    (name : String)
    (p : Provision) :
    levels.foldl (Level.provide name) (some p) =
      some (p.remarked (listed? levels name)) := by
  induction levels generalizing p with
  | nil => rfl
  | cons level rest ih =>
      rw [List.foldl_cons, Level.provide, ih, listed?_cons]
      simp [Provision.remarked, Option.or_assoc]

/- A chain provides what its nearest declaring level declares. -/
theorem inherited?_eq
    (levels : List Level)
    (name : String) :
    inherited? levels name =
      (provider? levels name).map
        (fun level => ⟨level.key, inheritedMark? levels name⟩) := by
  induction levels with
  | nil => rfl
  | cons level rest ih =>
      cases hDeclares : level.declares name with
      | true =>
          simp [inherited?, provider?, inheritedMark?, Level.provide,
            hDeclares, foldl_provide_some, listed?_cons,
            Provision.remarked]
      | false =>
          have hSkip : level.provide name none = none := by
            simp [Level.provide, hDeclares]
          rw [inherited?, List.foldl_cons, hSkip, ← inherited?, ih]
          simp [provider?, inheritedMark?, hDeclares]

/- A node provides what it or its nearest ancestor declares. -/
theorem provision?_eq_map
    (own : Level)
    (ancestors : List Level)
    (name : String) :
    provision? own ancestors name =
      (provider? (own :: ancestors) name).map
        (fun level => ⟨level.key, ownMark? own ancestors name⟩) := by
  unfold provision? ownMark?
  cases hDeclares : own.declares name with
  | true => simp [provider?, hDeclares]
  | false =>
      rw [inherited?_eq]
      simp [provider?, hDeclares, Provision.remarked,
        Function.comp_def]

------------------------------------------------------------
-- Chains
------------------------------------------------------------

/- Visited nodes that are not met do not end a chain. -/
theorem Lineage.widen
    {key : NodeKey}
    {visited others : List NodeKey}
    {levels : List Level}
    (hLineage : Lineage setting s key visited levels)
    (hVisited : visited ⊆ others)
    (hOthers :
      ∀ level ∈ levels, level.key ∈ others → level.key ∈ visited) :
    Lineage setting s key others levels := by
  induction hLineage generalizing others with
  | stop key visited hLink => exact .stop key others hLink
  | again key ancestor visited reference hLink hLeads hSeen =>
      exact .again key ancestor others reference hLink hLeads
        (hVisited hSeen)
  | climb key ancestor visited above reference hLink hLeads hNew
      hNode _ ih =>
      have hApart : ancestor.key ∉ others :=
        fun hMem =>
          hNew (hOthers ancestor List.mem_cons_self hMem)
      refine .climb key ancestor others above reference hLink hLeads
        hApart hNode (ih ?_ ?_)
      · exact List.cons_subset_cons ancestor.key hVisited
      · intro level hMem hSeen
        rcases List.mem_cons.mp hSeen with hSame | hOther
        · rw [hSame]
          exact List.mem_cons_self
        · exact List.mem_cons_of_mem _
            (hOthers level (List.mem_cons_of_mem _ hMem) hOther)

/-
  A node that declares no properties, has no requirement
  lists and extends another node.
-/
structure Extension
    (setting : Setting)
    (s : State)
    (child parent : NodeKey) : Prop where
  bare :
    ∃ node,
      s.node? child = some node ∧
        ∀ keyword ∈
            ["properties", "optional", "required", "forbidden"],
          node.member? keyword = none
  link :
    ∃ reference u,
      linkReference? s (child.child "extends") =
          some (.string reference) ∧
        followReference setting reference
            { s with scope := [child.doc] } =
          .ok parent u

/-
  The chain of a node that extends another one is that one
  with its chain, unless the chain comes back to the node.
-/
theorem Extension.lineage
    {child : NodeKey}
    {parent : Level}
    {ancestors met : List Level}
    (hExtension : Extension setting s child parent.key)
    (hGrows : Grows setting s t)
    (hMet : Lineage setting s child [child] met)
    (hParent : t.node? parent.key = some parent.node)
    (hChain : Lineage setting t parent.key [parent.key] ancestors)
    (hApart : child ∉ parent.key :: ancestors.map Level.key) :
    Lineage setting t child [child] (parent :: ancestors) := by
  rcases hExtension.bare with ⟨node, hNode, _⟩
  rcases hExtension.link with ⟨reference, u, hLink, hFollow⟩
  rcases State.Present.stored ⟨node, hNode⟩ with ⟨d, hDoc⟩
  have hLeads :
      Leads setting s child.doc reference parent.key := by
    cases hMet with
    | stop _ _ hOther => rw [hLink] at hOther; cases hOther
    | again _ ancestor _ _ hOther hLeads =>
        rw [hLink] at hOther
        cases hOther
        rw [hLeads.eq_of_followReference hDoc (by rfl) (by rfl)
          hFollow]
        exact hLeads
    | climb _ ancestor _ _ _ hOther hLeads =>
        rw [hLink] at hOther
        cases hOther
        rw [hLeads.eq_of_followReference hDoc (by rfl) (by rfl)
          hFollow]
        exact hLeads
  have hNew : parent.key ∉ [child] := by
    intro hMem
    rw [List.mem_singleton] at hMem
    exact hApart (by rw [hMem]; exact List.mem_cons_self)
  refine .climb child parent [child] ancestors reference ?_
    (hGrows.leads ⟨node, hNode⟩ hLeads) hNew hParent
    (hChain.widen (by simp) ?_)
  · rw [hGrows.linkReference?_eq ⟨node, hNode⟩]
    exact hLink
  · intro level hMem hSeen
    have hOther : level.key ≠ child := by
      rintro rfl
      exact hApart
        (List.mem_cons_of_mem _ (List.mem_map_of_mem hMem))
    simpa [hOther] using hSeen

------------------------------------------------------------
-- Merged Properties
------------------------------------------------------------

/- The properties that an object node was compiled with. -/
def State.compiledProperties?
    (s : State)
    (key : NodeKey) : Option (Option PropertyMap) :=
  match (s.node? key).map classify, s.resolved.lookup key with
  | some (.ok (.typed (.string "object"))), some id =>
      match s.graph.node? id with
      | some ⟨.object rule, _, _⟩ => some rule.properties
      | _ => none
  | _, _ => none

/-
  Merging the properties of an object node gives some, when
  the node is compiled or afterwards.
-/
inductive State.MergesTo
    (setting : Setting)
    (s : State)
    (key : NodeKey) : State → Option PropertyMap → Prop where
  /- The node was compiled with the properties. -/
  | compiled
      (properties : Option PropertyMap)
      (hCompiled : s.compiledProperties? key = some properties) :
      MergesTo setting s key s properties
  /- The properties are merged now. -/
  | merged
      (node : Json)
      (properties : Option PropertyMap)
      (t : State)
      (hNode : s.node? key = some node)
      (hMerge :
        mergeProperties setting Watch.never
            (resolveWithin setting Watch.never (setting.budget + 1))
            key node s =
          .ok properties t) :
      MergesTo setting s key t properties

/- What a node was compiled with is merged. -/
theorem Sound.merged_of_compiledProperties?
    {key : NodeKey}
    {properties : Option PropertyMap}
    (hSound : Sound setting source s)
    (hCompiled : s.compiledProperties? key = some properties) :
    ∃ node,
      s.node? key = some node ∧
        Merged setting s ⟨key, node⟩ properties := by
  unfold State.compiledProperties? at hCompiled
  split at hCompiled
  case h_1 id hKind hResolved =>
    rcases hSound.truthful.replies key id hResolved with
      ⟨node, kind, v, hOf⟩
    rw [hOf.found, Option.map_some, hOf.classified] at hKind
    cases hKind
    rcases hOf.object rfl with ⟨rule, hRule, hMerged⟩
    rcases v with ⟨_, presence, allowNull⟩
    simp only at hRule
    subst hRule
    rw [hOf.validator] at hCompiled
    cases hCompiled
    exact ⟨node, hOf.found, hMerged⟩
  case h_2 => cases hCompiled

/- In a settled state any node may be asked for. -/
theorem Settled.poised
    (hSettled : Settled setting source s) :
    Poised setting source (setting.budget + 1) s := by
  refine ⟨⟨hSettled.sound, by simp [hSettled.idle], ?_⟩, ?_⟩
  · intro other hMem
    rw [hSettled.idle] at hMem
    cases hMem
  · intro top hTop
    rw [hSettled.idle] at hTop
    cases hTop

/- Merging leaves nothing in progress and merges. -/
theorem State.MergesTo.settled
    {key : NodeKey}
    {properties : Option PropertyMap}
    (hMerges : s.MergesTo setting key t properties)
    (hSettled : Settled setting source s) :
    Settled setting source t ∧ Grows setting s t ∧
      ∃ node,
        t.node? key = some node ∧
          Merged setting t ⟨key, node⟩ properties := by
  cases hMerges with
  | compiled properties hCompiled =>
      exact
        ⟨hSettled, Grows.refl setting s,
          hSettled.sound.merged_of_compiledProperties? hCompiled⟩
  | merged node properties t hNode hMerge =>
      rcases (mergeProperties_ensures
          (resolveWithin_resolves setting Watch.never source _)
          hSettled.poised hNode).ok hMerge with ⟨hRun, hMerged⟩
      refine ⟨⟨hRun.reaches.sound hSettled.sound, ?_⟩, hRun.grows,
        node, hRun.grows.node? hNode, hMerged⟩
      rw [hRun.progress, hSettled.idle]

------------------------------------------------------------
-- Overridden Presences
------------------------------------------------------------

/- The presence of a validator. -/
def Graph.presence?
    (g : Graph)
    (id : ValidatorId) : Option Presence :=
  (g.node? id).map Validator.presence

/-
  A validator judges present values as another one, unless a
  mark forbids them, and has the marked presence.  Without a
  mark it is optional if the other one is.
-/
structure Graph.Overrides
    (g : Graph)
    (mark : Option Presence)
    (held id : ValidatorId) : Prop where
  present :
    ∀ now value path options,
      g.check now id (some value) path options =
        if mark = some .forbidden then
          some (Verdict.refuse path .forbidden)
        else
          g.check now held (some value) path options
  marked : ∀ p, mark = some p → g.presence? id = some p
  unmarked :
    mark = none →
      g.presence? held = some .optional →
        g.presence? id = some .optional

/- The same mark makes the same of a validator. -/
theorem Graph.Overrides.alike
    {g : Graph}
    {mark : Option Presence}
    {held id other : ValidatorId}
    (hFirst : g.Overrides mark held id)
    (hSecond : g.Overrides mark held other) :
    g.SameOnPresent id other ∧
      (mark ≠ none ∨ g.presence? held = some .optional →
        g.presence? id = g.presence? other) := by
  constructor
  · intro now value path options
    rw [hFirst.present, hSecond.present]
  · intro hKnown
    cases mark with
    | some p => rw [hFirst.marked p rfl, hSecond.marked p rfl]
    | none =>
        have hHeld : g.presence? held = some .optional := by
          simpa using hKnown
        rw [hFirst.unmarked rfl hHeld, hSecond.unmarked rfl hHeld]

/- A marked copy of what stands for a node overrides its validator. -/
theorem Settled.overrides
    {key : NodeKey}
    {mark : Option Presence}
    {declared id : ValidatorId}
    (hSettled : Settled setting source s)
    (hStands : s.StandsFor key declared)
    (hDerives :
      s.graph.Derives (Validator.marked mark) declared id) :
    ∃ held,
      s.resolved.lookup key = some held ∧
        s.graph.Overrides mark held id := by
  have hPermits := hSettled.sound.permits_of_standsFor hStands
  rcases hSettled.sameOnPresent hStands with ⟨held, hHeld, hSame⟩
  refine ⟨held, hHeld, ?_, ?_, ?_⟩
  · intro now value path options
    rw [Graph.check_marked hDerives hPermits, hSame]
  · rintro p rfl
    rcases hDerives with ⟨v, _, hCopy⟩
    simp [Graph.presence?, hCopy, Validator.marked]
  · rintro rfl hOptional
    rcases hDerives with ⟨v, hDeclared, hCopy⟩
    rw [Validator.marked_none] at hCopy
    rcases hStands with hResolved | ⟨c, _, hNode⟩
    · rw [hHeld] at hResolved
      cases hResolved
      rw [Graph.presence?, hCopy, ← hDeclared]
      exact hOptional
    · rw [hNode] at hDeclared
      cases hDeclared
      rw [Graph.presence?, hCopy]
      rfl

------------------------------------------------------------
-- Extending Objects
------------------------------------------------------------

/- A provided property overrides what is remembered for it. -/
theorem Provides.overrides
    {plan : String → Option Provision}
    {properties : PropertyMap}
    {name : String}
    {p : Provision}
    (hProvides : Provides s plan properties)
    (hSettled : Settled setting source s)
    (hPlan : plan name = some p) :
    ∃ held id,
      s.resolved.lookup (p.owner.property name) = some held ∧
        properties.lookup name = some id ∧
        s.graph.Overrides p.mark held id := by
  rcases hProvides.found name p hPlan with
    ⟨declared, id, hLookup, hStands, hDerives⟩
  rcases hSettled.overrides hStands hDerives with
    ⟨held, hHeld, hOverrides⟩
  exact ⟨held, id, hHeld, hLookup, hOverrides⟩

/- A node without lists does not mention a name. -/
theorem Json.requirement?_of_bare
    {node : Json}
    (hBare :
      ∀ keyword ∈ ["properties", "optional", "required", "forbidden"],
        node.member? keyword = none)
    (name : String) :
    node.requirement? name = none := by
  simp [requirement?, lists, optsAll, hBare]

/- A node without properties declares none. -/
theorem declaredNames?_of_bare
    {node : Json}
    (hBare :
      ∀ keyword ∈ ["properties", "optional", "required", "forbidden"],
        node.member? keyword = none) :
    declaredNames? node = none := by
  simp [declaredNames?, hBare]

/- A bare node provides what its chain provides. -/
theorem provision?_of_bare
    {child : Level}
    (hBare :
      ∀ keyword ∈ ["properties", "optional", "required", "forbidden"],
        child.node.member? keyword = none)
    (levels : List Level)
    (name : String) :
    provision? child levels name = inherited? levels name := by
  have hDeclares : child.declares name = false := by
    simp [Level.declares, declaredNames?_of_bare hBare]
  rw [provision?, hDeclares, Json.requirement?_of_bare hBare name]
  simp [Provision.remarked]

/-
  The lists do not contradict each other about a name: those
  of the ancestors do not mention what the node declares
  itself, and its own ones do not mention what it inherits.
-/
structure ListsAgree
    (parent : Level)
    (ancestors : List Level)
    (name : String) : Prop where
  declared :
    parent.declares name = true →
      ∀ level ∈ ancestors, level.node.requirement? name = none
  inherited :
    parent.declares name = false →
      parent.node.requirement? name = none

/- Then the marks are the same from below and for the node. -/
theorem inheritedMark?_eq_ownMark?
    {parent : Level}
    {ancestors : List Level}
    {name : String}
    (hAgree : ListsAgree parent ancestors name) :
    inheritedMark? (parent :: ancestors) name =
      ownMark? parent ancestors name := by
  unfold ownMark?
  cases hDeclares : parent.declares name with
  | true =>
      have hQuiet : listed? ancestors name = none := by
        have hLists := hAgree.declared hDeclares
        clear hAgree
        induction ancestors with
        | nil => rfl
        | cons level rest ih =>
            rw [listed?_cons, hLists level List.mem_cons_self,
              ih (fun other hMem =>
                hLists other (List.mem_cons_of_mem _ hMem))]
            rfl
      simp [inheritedMark?, hDeclares, listed?_cons, hQuiet]
  | false =>
      rw [hAgree.inherited hDeclares]
      simp [inheritedMark?, hDeclares]

/-
  An object that only extends another one merges the same
  properties as the other one, by name and by declaration.
  Seen from either object, a property judges present values
  as the declared validator, unless its mark forbids them,
  and has the marked presence.  The marks are those of the
  last list on the way up for the extending object, and of
  its own lists first for the other one.  Where these agree,
  so do the properties.  They agree where the lists of the
  ancestors do not mention what the other object declares,
  and its own ones do not mention what it inherits.
-/
theorem mergeProperties_of_extension
    {schema : Compiled}
    {final u : State}
    {child : NodeKey}
    (parent : Level)
    {ancestors : List Level}
    {inherited own : Option PropertyMap}
    (hCompiled :
      compileWith setting workingDir source = ⟨.ok schema, final⟩)
    (hChild : final.MergesTo setting child t inherited)
    (hExtension : Extension setting t child parent.key)
    (hParent : t.MergesTo setting parent.key u own)
    (hNode : u.node? parent.key = some parent.node)
    (hChain : Lineage setting u parent.key [parent.key] ancestors)
    (hApart : child ∉ parent.key :: ancestors.map Level.key) :
    (inherited = none ↔ own = none) ∧
      ∀ first second,
        inherited = some first → own = some second →
          ∀ name,
            match provider? (parent :: ancestors) name with
            | none =>
                first.lookup name = none ∧
                  second.lookup name = none
            | some level =>
                ∃ held id other,
                  u.resolved.lookup (level.key.property name) =
                      some held ∧
                    first.lookup name = some id ∧
                    second.lookup name = some other ∧
                    u.graph.Overrides
                      (inheritedMark? (parent :: ancestors) name)
                      held id ∧
                    u.graph.Overrides (ownMark? parent ancestors name)
                      held other ∧
                    (inheritedMark? (parent :: ancestors) name =
                        ownMark? parent ancestors name →
                      u.graph.SameOnPresent id other ∧
                        (ownMark? parent ancestors name ≠ none ∨
                            u.graph.presence? held =
                              some .optional →
                          u.graph.presence? id =
                            u.graph.presence? other)) ∧
                    (ListsAgree parent ancestors name →
                      inheritedMark? (parent :: ancestors) name =
                        ownMark? parent ancestors name) := by
  rcases hChild.settled (settled_of_compileWith hCompiled).1 with
    ⟨hSettled, _, childNode, hChildNode, hChildMerged⟩
  rcases hParent.settled hSettled with
    ⟨hLast, hGrows, parentNode, hParentNode, hParentMerged⟩
  rw [hNode] at hParentNode
  cases hParentNode
  rcases hExtension.bare with ⟨node, hSame, hBare⟩
  rw [hChildNode] at hSame
  cases hSame
  have hLineage : Lineage setting u child [child]
      (parent :: ancestors) := by
    rcases hChildMerged with ⟨met, hMet, _⟩
    exact hExtension.lineage hGrows hMet hNode hChain hApart
  have hLater := hChildMerged.mono hGrows ⟨childNode, hChildNode⟩
  rcases hLater.of_lineage hLineage with
    ⟨hInheritsNone, hInherits⟩
  rcases hParentMerged.of_lineage hChain with ⟨hOwnNone, hOwns⟩
  constructor
  · rw [hInheritsNone, hOwnNone, List.forall_mem_cons]
    exact and_iff_right (declaredNames?_of_bare hBare)
  · intro first second hFirstMap hSecondMap name
    have hInherited := hInherits first hFirstMap
    have hOwn := hOwns second hSecondMap
    have hFirst :
        provision? ⟨child, childNode⟩ (parent :: ancestors) name =
          (provider? (parent :: ancestors) name).map
            (fun level =>
              ⟨level.key,
                inheritedMark? (parent :: ancestors) name⟩) := by
      rw [provision?_of_bare hBare, inherited?_eq]
    have hSecond := provision?_eq_map parent ancestors name
    cases hProvider : provider? (parent :: ancestors) name with
    | none =>
        rw [hProvider] at hFirst hSecond
        exact
          ⟨hInherited.missing name hFirst,
            hOwn.missing name hSecond⟩
    | some level =>
        rw [hProvider] at hFirst hSecond
        rcases hInherited.overrides hLast hFirst with
          ⟨held, id, hHeld, hId, hOverrides⟩
        rcases hOwn.overrides hLast hSecond with
          ⟨same, other, hSame, hOther, hAlso⟩
        rw [hHeld] at hSame
        cases hSame
        refine ⟨held, id, other, hHeld, hId, hOther, hOverrides,
          hAlso, ?_, inheritedMark?_eq_ownMark?⟩
        intro hMarks
        rw [← hMarks] at hAlso ⊢
        exact hOverrides.alike hAlso

------------------------------------------------------------
-- Overruled Lists
------------------------------------------------------------

/-
  An object that requires a property of its ancestor, and
  one that only extends this object.
-/
def Json.overruled : Json :=
  .object
    [("base", .object [("properties", .object [("y", .object [])])]),
    ("properties", .object
      [("middle", .object
        [("extends", .object [("$ref", .string "#/base")]),
          ("required", .array [.string "y"]),
          ("type", .string "object")]),
      ("outer", .object
        [("extends", .object
          [("$ref", .string "#/properties/middle")]),
          ("type", .string "object")])]),
    ("type", .string "object")]

/- A link that is a text is a reference. -/
theorem linkReference?_of_text
    {key : NodeKey}
    {text : String}
    (hText : (linkReference? s key).bind Json.text? = some text) :
    linkReference? s key = some (.string text) := by
  rcases Option.bind_eq_some_iff.mp hText with ⟨value, hLink, hValue⟩
  rw [hLink]
  cases value with
  | string other =>
      cases hValue
      rfl
  | null => cases hValue
  | bool b => cases hValue
  | number n => cases hValue
  | array items => cases hValue
  | object members => cases hValue

namespace Overruled

/- The state after the compilation. -/
@[irreducible] def final : State :=
  (compileAlone Json.overruled).final

/- The key of the ancestor. -/
def base : NodeKey :=
  (NodeKey.root ⟨0⟩).child "base"

/- The key of the object with the list. -/
def middle : NodeKey :=
  (NodeKey.root ⟨0⟩).property "middle"

/- The key of the extending object. -/
def outer : NodeKey :=
  (NodeKey.root ⟨0⟩).property "outer"

/- The outer object only extends the middle one. -/
theorem extension : Extension Setting.alone final outer middle := by
  have hLink :
      (linkReference? final (outer.child "extends")).bind Json.text? =
        some "#/properties/middle" := by
    decide +kernel
  have hLeads :
      Leads Setting.alone final ⟨0⟩ "#/properties/middle" middle :=
    ⟨⟨0⟩, by decide +kernel, by decide +kernel⟩
  have hBare :
      (final.node? outer).map (fun node =>
        ["properties", "optional", "required", "forbidden"].all
          (fun keyword => (node.member? keyword).isNone)) =
        some true := by
    decide +kernel
  rcases Option.map_eq_some_iff.mp hBare with ⟨node, hNode, hAll⟩
  rcases State.Present.stored ⟨node, hNode⟩ with ⟨d, hDoc⟩
  have hFollow :
      ∃ u,
        followReference Setting.alone "#/properties/middle"
            { final with scope := [outer.doc] } =
          .ok middle u :=
    hLeads.exists_followReference hDoc (by rfl) (by rfl)
  rcases hFollow with ⟨u, hFollow⟩
  refine ⟨⟨node, hNode, ?_⟩,
    "#/properties/middle", u, linkReference?_of_text hLink, hFollow⟩
  simpa using hAll

/-
  The chain of the middle object is its ancestor, which
  declares the property and has no lists.
-/
theorem chain :
    ∃ ancestor : Level,
      ancestor.key = base ∧
        ancestor.declares "y" = true ∧
        ancestor.node.requirement? "y" = none ∧
        Lineage Setting.alone final middle [middle] [ancestor] := by
  have hLevel :
      (final.node? base).map (fun node =>
          (Level.declares ⟨base, node⟩ "y",
            node.requirement? "y")) =
        some (true, none) := by
    decide +kernel
  have hLink :
      (linkReference? final (middle.child "extends")).bind
          Json.text? =
        some "#/base" := by
    decide +kernel
  have hEnd :
      (linkReference? final (base.child "extends")).isNone =
        true := by
    decide +kernel
  have hLeads : Leads Setting.alone final ⟨0⟩ "#/base" base :=
    ⟨⟨0⟩, by decide +kernel, by decide +kernel⟩
  have hNew : base ∉ [middle] := by decide
  rcases Option.map_eq_some_iff.mp hLevel with ⟨node, hBase, hPair⟩
  rcases Prod.mk.inj hPair with ⟨hDeclares, hQuiet⟩
  refine ⟨⟨base, node⟩, rfl, hDeclares, hQuiet, ?_⟩
  exact .climb middle ⟨base, node⟩ [middle] [] "#/base"
    (linkReference?_of_text hLink) hLeads hNew hBase
    (.stop base _ (by simpa using hEnd))

/- The chain does not come back to the outer object. -/
theorem apart
    {ancestor : Level}
    (hKey : ancestor.key = base) :
    outer ∉ middle :: [ancestor].map Level.key := by
  have hNew : outer ∉ [middle, base] := by decide
  simpa [hKey] using hNew

/- The compilation succeeds. -/
theorem compiled :
    ∃ schema,
      compileWith Setting.alone ⟨"/"⟩ (.value Json.overruled) =
        ⟨.ok schema, final⟩ := by
  rw [final]
  exact Compilation.exists_eq_of_isOk (by decide +kernel)

/- The outer object was compiled with the property. -/
theorem outer_properties :
    final.compiledProperties? outer = some (some [("y", ⟨0⟩)]) := by
  decide +kernel

/- The middle object was compiled with a copy of it. -/
theorem middle_properties :
    final.compiledProperties? middle = some (some [("y", ⟨1⟩)]) := by
  decide +kernel

end Overruled

/-
  Seen from both objects the property is declared by the
  ancestor; only the middle one's list makes it required.
-/
theorem mergeProperties_of_extension_overruled :
    ∃ held,
      Overruled.final.graph.Overrides none held ⟨0⟩ ∧
        Overruled.final.graph.Overrides (some .required) held
          ⟨1⟩ := by
  rcases Overruled.compiled with ⟨schema, hCompiled⟩
  rcases Overruled.chain with
    ⟨ancestor, hKey, hDeclares, hQuiet, hChain⟩
  have hMiddle :
      (Overruled.final.node? Overruled.middle).map (fun node =>
          (Level.declares ⟨Overruled.middle, node⟩ "y",
            node.requirement? "y")) =
        some (false, some .required) := by
    decide +kernel
  rcases Option.map_eq_some_iff.mp hMiddle with ⟨node, hNode, hPair⟩
  rcases Prod.mk.inj hPair with ⟨hInherits, hRequired⟩
  have hMerges :=
    (mergeProperties_of_extension ⟨Overruled.middle, node⟩ hCompiled
      (.compiled _ Overruled.outer_properties) Overruled.extension
      (.compiled _ Overruled.middle_properties) hNode hChain
      (Overruled.apart hKey)).2 _ _ rfl rfl "y"
  simp only [provider?, List.find?_cons, hInherits, hDeclares]
    at hMerges
  rcases hMerges with
    ⟨held, id, other, _, hId, hOther, hFirst, hSecond, _⟩
  cases hId
  cases hOther
  refine ⟨held, ?_, ?_⟩
  · simpa [inheritedMark?, hInherits, hDeclares, listed?_cons,
      hQuiet, listed?] using hFirst
  · simpa [ownMark?, hRequired] using hSecond

/-
  Two objects, one of which only extends the other, need not
  give a property the same presence.
-/
theorem not_presence_eq_of_extension :
    ¬ ∀ (setting : Setting) (workingDir : Path) (source : Source)
        (schema : Compiled) (final : State)
        (child parent : NodeKey) (ancestors : List Level)
        (first second : PropertyMap) (name : String)
        (id other : ValidatorId),
      compileWith setting workingDir source = ⟨.ok schema, final⟩ →
        Extension setting final child parent →
          Lineage setting final parent [parent] ancestors →
            child ∉ parent :: ancestors.map Level.key →
              final.compiledProperties? child = some (some first) →
                final.compiledProperties? parent =
                    some (some second) →
                  first.lookup name = some id →
                    second.lookup name = some other →
                      schema.graph.presence? id =
                        schema.graph.presence? other := by
  intro hAll
  rcases Overruled.compiled with ⟨schema, hCompiled⟩
  rcases Overruled.chain with ⟨ancestor, hKey, _, _, hChain⟩
  have hSame :=
    hAll Setting.alone ⟨"/"⟩ _ schema Overruled.final _ _ _ _ _ "y"
      ⟨0⟩ ⟨1⟩ hCompiled Overruled.extension hChain
      (Overruled.apart hKey)
      Overruled.outer_properties Overruled.middle_properties rfl rfl
  rw [← (settled_of_compileWith hCompiled).2] at hSame
  have hOther :
      Overruled.final.graph.presence? ⟨0⟩ ≠
        Overruled.final.graph.presence? ⟨1⟩ := by
    decide +kernel
  exact hOther hSame

end SchemaGraph
