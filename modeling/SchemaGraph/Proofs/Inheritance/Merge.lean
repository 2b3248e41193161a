import Mathlib
import SchemaGraph.Proofs.Compile.Ensures

/-
  Collecting the properties of an object node: the ancestors
  are those of its lineage, and the properties are those
  that the node and its ancestors provide.  Of each level,
  the nearest ancestor first and the node itself last, the
  declared properties are asked for one after another; what
  is collected is what was answered then.

  The climb never visits a node twice; hence it ends before
  its steps are used up, unless there are more positions
  than were foreseen.

  Main declarations:
    * `Consults`
    * `Places`
    * `collect_ensures`
    * `addDeclared_ensures`
    * `climb_ensures`
    * `merge_ensures`
    * `mergeProperties_ensures`
-/

namespace SchemaGraph

variable {setting : Setting}
variable {watch : Watch}
variable {source : Source}
variable {s t : State}
variable {n : Nat}
variable {resolve : Resolver}

------------------------------------------------------------
-- Plans
------------------------------------------------------------

/- A chain with one more level at its far end. -/
theorem inherited?_append
    (ancestors : List Level)
    (level : Level)
    (name : String) :
    inherited? (ancestors ++ [level]) name =
      level.provide name (inherited? ancestors name) := by
  rw [inherited?, List.foldl_append]
  rfl

/- A plan with the properties that a level declares. -/
def Level.declare
    (keeps : Bool)
    (level : Level)
    (plan : String → Option Provision)
    (name : String) : Option Provision :=
  if level.declares name = true ∧
      (keeps = true → plan name = none) then
    some ⟨level.key, none⟩
  else
    plan name

/- An ancestor declares what is new, and marks everything. -/
theorem Level.provide_eq
    (level : Level)
    (plan : String → Option Provision)
    (name : String) :
    level.provide name (plan name) =
      (level.declare true plan name).map
        (fun p => p.remarked (level.node.requirement? name)) := by
  unfold provide declare
  cases hPlan : plan name with
  | some p => simp
  | none =>
      cases hDeclares : level.declares name <;>
        simp [Provision.remarked]

/- A node declares its own properties, and marks everything. -/
theorem provision?_eq
    (own : Level)
    (ancestors : List Level)
    (name : String) :
    provision? own ancestors name =
      (own.declare false (inherited? ancestors) name).map
        (fun p => p.remarked (own.node.requirement? name)) := by
  unfold provision? Level.declare
  cases own.declares name <;> simp [Provision.remarked]

------------------------------------------------------------
-- Questions and Answers
------------------------------------------------------------

/- Nodes that were asked for, and what the answers were. -/
abbrev Answers := List (NodeKey × ValidatorId)

/- The validator is an answer for the node. -/
def Answers.Give
    (answers : Answers)
    (key : NodeKey)
    (id : ValidatorId) : Prop :=
  (key, id) ∈ answers

/-
  Nodes are asked for one after another, with the answers;
  what is done in between only adds.
-/
inductive Consults
    (setting : Setting)
    (resolve : Resolver) : State → Answers → State → Prop where
  | nothing
      {s t : State}
      (hRun : Run setting s t) :
      Consults setting resolve s [] t
  | ask
      {s t r u : State}
      {key : NodeKey}
      {id : ValidatorId}
      {answers : Answers}
      (hRun : Run setting s r)
      (hAnswer : resolve key r = .ok id u)
      (hRest : Consults setting resolve u answers t) :
      Consults setting resolve s ((key, id) :: answers) t

/- Something may be done before the first question. -/
theorem Consults.after
    {r : State}
    {answers : Answers}
    (hConsults : Consults setting resolve r answers t)
    (hRun : Run setting s r) :
    Consults setting resolve s answers t := by
  cases hConsults with
  | nothing hMore => exact .nothing (hRun.trans hMore)
  | ask hMore hAnswer hRest =>
      exact .ask (hRun.trans hMore) hAnswer hRest

/- More nodes may be asked for later. -/
theorem Consults.append
    {r : State}
    {first second : Answers}
    (hFirst : Consults setting resolve s first r)
    (hSecond : Consults setting resolve r second t) :
    Consults setting resolve s (first ++ second) t := by
  induction hFirst with
  | nothing hRun => exact hSecond.after hRun
  | ask hRun hAnswer _ ih => exact .ask hRun hAnswer (ih hSecond)

/-
  The nodes were asked for in the given order, and every
  answer stands for its node.
-/
structure Consulted
    (setting : Setting)
    (resolve : Resolver)
    (s : State)
    (keys : List NodeKey)
    (answers : Answers)
    (t : State) : Prop where
  consults : Consults setting resolve s answers t
  asked : answers.map Prod.fst = keys
  stands :
    ∀ key id, answers.Give key id → t.StandsFor key id

namespace Consulted

variable {r : State}
variable {keys more : List NodeKey}
variable {first second : Answers}

/- Nothing was asked for. -/
theorem nothing
    (hRun : Run setting s t) :
    Consulted setting resolve s [] [] t :=
  ⟨.nothing hRun, rfl, fun _ _ hMem => absurd hMem List.not_mem_nil⟩

/- Something may be done before the first question. -/
theorem after
    (hRest : Consulted setting resolve r keys first t)
    (hRun : Run setting s r) :
    Consulted setting resolve s keys first t :=
  ⟨hRest.consults.after hRun, hRest.asked, hRest.stands⟩

/- Nodes are asked for after others. -/
theorem append
    (hFirst : Consulted setting resolve s keys first r)
    (hSecond : Consulted setting resolve r more second t)
    (hRun : Run setting r t) :
    Consulted setting resolve s (keys ++ more) (first ++ second)
      t := by
  refine ⟨hFirst.consults.append hSecond.consults, ?_, ?_⟩
  · rw [List.map_append, hFirst.asked, hSecond.asked]
  · intro key id hMem
    rcases List.mem_append.mp hMem with hOld | hNew
    · exact (hFirst.stands key id hOld).mono hRun.grows
    · exact hSecond.stands key id hNew

/- Something may be done after the last answer. -/
theorem before
    (hFirst : Consulted setting resolve s keys first r)
    (hRun : Run setting r t) :
    Consulted setting resolve s keys first t := by
  simpa using hFirst.append (.nothing hRun) hRun

/- One node was asked for. -/
theorem single
    {key : NodeKey}
    {id : ValidatorId}
    (hAnswer : resolve key s = .ok id t)
    (hStands : t.StandsFor key id) :
    Consulted setting resolve s [key] [(key, id)] t := by
  refine ⟨.ask (Run.refl setting s) hAnswer
    (.nothing (Run.refl setting t)), rfl, ?_⟩
  intro other held hMem
  cases List.mem_singleton.mp hMem
  exact hStands

end Consulted

------------------------------------------------------------
-- Declared Properties
------------------------------------------------------------

/- The nodes of the properties that a level declares. -/
def Level.asks
    (level : Level) : List NodeKey :=
  ((declaredNames? level.node).getD []).map level.key.property

/- A way to put a property among those collected before. -/
def Places
    (keeps : Bool)
    (place : String → ValidatorId → PropertyMap → PropertyMap) :
    Prop :=
  ∀ name id properties,
    (Members.Sorted properties →
      Members.Sorted (place name id properties)) ∧
    ∀ other,
      (place name id properties).lookup other =
        if other = name ∧
            (keeps = true → properties.lookup name = none) then
          some id
        else
          properties.lookup other

/- Own properties replace inherited ones. -/
theorem places_insert : Places false Members.insert := by
  intro name id properties
  refine ⟨Members.sorted_insert name id, ?_⟩
  intro other
  simp [Members.lookup_insert]

/- Properties of ancestors leave nearer ones alone. -/
theorem places_insertNew : Places true Members.insertNew := by
  intro name id properties
  refine ⟨Members.sorted_insertNew name id, ?_⟩
  intro other
  rw [Members.lookup_insertNew]
  by_cases hSame : other = name
  · subst hSame
    cases hOld : properties.lookup other <;> simp
  · simp [hSame]

/- The properties after those of some names are collected. -/
structure Collected
    (gives : NodeKey → ValidatorId → Prop)
    (keeps : Bool)
    (owner : NodeKey)
    (names : List String)
    (before after : PropertyMap) : Prop where
  sorted : Members.Sorted before → Members.Sorted after
  taken :
    ∀ name, name ∈ names →
      (keeps = true → before.lookup name = none) →
        ∃ id, after.lookup name = some id ∧
          gives (owner.property name) id
  kept :
    ∀ name,
      ¬ (name ∈ names ∧
        (keeps = true → before.lookup name = none)) →
        after.lookup name = before.lookup name

/- With more answers the same is collected. -/
theorem Collected.mono
    {gives more : NodeKey → ValidatorId → Prop}
    {keeps : Bool}
    {owner : NodeKey}
    {names : List String}
    {before after : PropertyMap}
    (hCollected : Collected gives keeps owner names before after)
    (hMore : ∀ key id, gives key id → more key id) :
    Collected more keeps owner names before after := by
  refine ⟨hCollected.sorted, ?_, hCollected.kept⟩
  intro name hMem hFree
  rcases hCollected.taken name hMem hFree with ⟨id, hId, hGives⟩
  exact ⟨id, hId, hMore _ _ hGives⟩

/- A property is collected before those of other names. -/
theorem Collected.cons
    {gives : NodeKey → ValidatorId → Prop}
    {keeps : Bool}
    {place : String → ValidatorId → PropertyMap → PropertyMap}
    {owner : NodeKey}
    {name : String}
    {names : List String}
    {id : ValidatorId}
    {before after : PropertyMap}
    (hRest :
      Collected gives keeps owner names (place name id before) after)
    (hPlaces : Places keeps place)
    (hGiven : gives (owner.property name) id) :
    Collected gives keeps owner (name :: names) before after := by
  rcases hPlaces name id before with ⟨hSorted, hLookup⟩
  refine ⟨fun h => hRest.sorted (hSorted h), ?_, ?_⟩
  · intro other hMem hFree
    by_cases hNew :
        other ∈ names ∧
          (keeps = true →
            (place name id before).lookup other = none)
    · exact hRest.taken other hNew.1 hNew.2
    · -- The property is the one that was just placed.
      have hSame : other = name := by
        by_contra hOther
        rcases List.mem_cons.mp hMem with hName | hLater
        · exact hOther hName
        · apply hNew
          refine ⟨hLater, ?_⟩
          intro hKeeps
          rw [hLookup other, if_neg (fun h => hOther h.1)]
          exact hFree hKeeps
      subst hSame
      refine ⟨id, ?_, hGiven⟩
      rw [hRest.kept other hNew, hLookup other,
        if_pos ⟨rfl, hFree⟩]
  · intro other hOld
    have hName :
        ¬ (other = name ∧
          (keeps = true → before.lookup name = none)) := by
      rintro ⟨rfl, hFree⟩
      exact hOld ⟨by simp, hFree⟩
    rw [hRest.kept other ?_, hLookup other, if_neg hName]
    rintro ⟨hLater, hFree⟩
    apply hOld
    refine ⟨by simp [hLater], ?_⟩
    intro hKeeps
    have hNone := hFree hKeeps
    rw [hLookup other, if_neg hName] at hNone
    exact hNone

/- Compiling declared properties collects the answers. -/
theorem collect_ensures
    {keeps : Bool}
    {place : String → ValidatorId → PropertyMap → PropertyMap}
    {owner : NodeKey}
    {names : List String}
    {before : PropertyMap}
    (hResolve : Resolves setting watch source n resolve)
    (hPlaces : Places keeps place)
    (hPoised : Poised setting source n s)
    (hNames : ∀ name ∈ names, s.Present (owner.property name)) :
    Ensures setting watch source s
      (collect resolve place owner names before)
      (fun after t =>
        ∃ answers,
          Consulted setting resolve s (names.map owner.property)
            answers t ∧
          Collected answers.Give keeps owner names before after) := by
  induction names generalizing before s with
  | nil =>
      exact Ensures.pure
        ⟨[], .nothing (Run.refl setting s), fun hSorted => hSorted,
          (fun name hMem => by cases hMem), fun _ _ => rfl⟩
  | cons name rest ih =>
      rw [collect]
      refine (hResolve (owner.property name) s hPoised.toRoomy
        (hPoised.asks _) (hNames name (by simp))).recorded.bind ?_
      rintro id r hRun ⟨hAnswer, hStands⟩
      refine Ensures.mono (ih (hPoised.of_run hRun) ?_) ?_
      · intro other hMem
        exact hRun.grows.present (hNames other (by simp [hMem]))
      rintro after t hMore ⟨answers, hConsulted, hRest⟩
      refine ⟨(owner.property name, id) :: answers,
        (Consulted.single hAnswer hStands).append hConsulted hMore,
        ?_⟩
      exact (hRest.mono
        (fun _ _ hMem => List.mem_cons_of_mem _ hMem)).cons
          hPlaces List.mem_cons_self

/- The declared properties of a node are nodes. -/
theorem present_of_declaredNames?
    {key : NodeKey}
    {node : Json}
    {names : List String}
    {name : String}
    (hNode : s.node? key = some node)
    (hNames : declaredNames? node = some names)
    (hMem : name ∈ names) :
    s.Present (key.property name) := by
  rcases Option.map_eq_some_iff.mp hNames with
    ⟨members, hMembers, rfl⟩
  rcases Option.bind_eq_some_iff.mp hMembers with
    ⟨value, hValue, hObject⟩
  have hProperties := State.node?_member hNode hValue
  cases hMember : members.lookup name with
  | none =>
      rw [Members.lookup_eq_none_iff_not_mem] at hMember
      exact absurd hMem hMember
  | some declared =>
      have hMembers : value.member? name = some declared := by
        cases value with
        | object others =>
            cases hObject
            exact hMember
        | null => cases hObject
        | bool b => cases hObject
        | number k => cases hObject
        | string text => cases hObject
        | array items => cases hObject
      exact State.Present.member hProperties hMembers

/- What stands for a node is in the graph. -/
theorem Sound.lt_size_of_standsFor
    {key : NodeKey}
    {id : ValidatorId}
    (hSound : Sound setting source s)
    (hStands : s.StandsFor key id) :
    id.index < s.graph.size := by
  rcases hStands with hResolved | ⟨c, _, hNode⟩
  · exact (hSound.truthful.replies key id hResolved).lt_size
  · exact Graph.lt_size_of_node? hNode

/- A plan is free for a name that no property has. -/
theorem Graph.Carries.free_iff
    {g : Graph}
    {gives : NodeKey → ValidatorId → Prop}
    {plan : String → Option Provision}
    {properties : PropertyMap}
    (hCarries : g.Carries gives plan properties)
    (name : String) :
    plan name = none ↔ properties.lookup name = none := by
  cases hPlan : plan name with
  | none => simp [hCarries.missing name hPlan]
  | some p =>
      rcases hCarries.found name p hPlan with ⟨_, id, hLookup, _⟩
      simp [hLookup]

/- Collecting what a level declares follows the plan with it. -/
theorem Collected.carries
    {gives new : NodeKey → ValidatorId → Prop}
    {keeps : Bool}
    {level : Level}
    {names : List String}
    {before after : PropertyMap}
    {plan : String → Option Provision}
    {g : Graph}
    (hCollected :
      Collected new keeps level.key names before after)
    (hNames : declaredNames? level.node = some names)
    (hCarries : g.Carries gives plan before)
    (hNew :
      ∀ key id, new key id → gives key id ∧ id.index < g.size) :
    g.Carries gives (level.declare keeps plan) after := by
  have hDeclares :
      ∀ name, level.declares name = true ↔ name ∈ names := by
    intro name
    simp [Level.declares, hNames]
  have hKept :
      ∀ name,
        ¬ (level.declares name = true ∧
          (keeps = true → plan name = none)) →
          after.lookup name = before.lookup name := by
    intro name hOther
    rw [hDeclares, hCarries.free_iff] at hOther
    exact hCollected.kept name hOther
  refine ⟨hCollected.sorted hCarries.sorted, ?_, ?_⟩
  · intro name hNone
    unfold Level.declare at hNone
    split at hNone
    case isTrue => cases hNone
    case isFalse hOther =>
      rw [hKept name hOther]
      exact hCarries.missing name hNone
  · intro name p hSome
    unfold Level.declare at hSome
    split at hSome
    case isTrue hFree =>
      cases hSome
      rw [hDeclares, hCarries.free_iff] at hFree
      rcases hCollected.taken name hFree.1 hFree.2 with
        ⟨id, hLookup, hGives⟩
      rcases hNew _ id hGives with ⟨hGiven, hId⟩
      exact ⟨id, id, hLookup, hGiven, Graph.Derives.refl hId,
        fun _ => rfl⟩
    case isFalse hOther =>
      rcases hCarries.found name p hSome with
        ⟨declared, id, hLookup, hRest⟩
      refine ⟨declared, id, ?_, hRest⟩
      rw [hKept name hOther]
      exact hLookup

/- Adding the properties that a level declares. -/
theorem addDeclared_ensures
    {keeps : Bool}
    {place : String → ValidatorId → PropertyMap → PropertyMap}
    (level : Level)
    {inherited : Inherited}
    {plan : String → Option Provision}
    {answers : Answers}
    (hResolve : Resolves setting watch source n resolve)
    (hPlaces : Places keeps place)
    (hPoised : Poised setting source n s)
    (hNode : s.node? level.key = some level.node)
    (hCarries :
      s.graph.Carries answers.Give plan inherited.properties) :
    Ensures setting watch source s
      (addDeclared resolve place level.key level.node inherited)
      (fun result t =>
        ∃ more,
          Consulted setting resolve s level.asks more t ∧
            t.graph.Carries (answers ++ more).Give
              (level.declare keeps plan) result.properties ∧
            (result.declared = true ↔
              inherited.declared = true ∨
                declaredNames? level.node ≠ none)) := by
  unfold addDeclared Level.asks
  cases hNames : declaredNames? level.node with
  | none =>
      refine Ensures.pure
        ⟨[], .nothing (Run.refl setting s), ?_, by simp⟩
      rw [List.append_nil]
      apply hCarries.congr
      intro name
      simp [Level.declare, Level.declares, hNames]
  | some names =>
      refine (collect_ensures hResolve hPlaces hPoised
        (fun name hMem =>
          present_of_declaredNames? hNode hNames hMem)).bind ?_
      rintro after t hRun ⟨more, hConsulted, hCollected⟩
      refine Ensures.pure ⟨more, hConsulted, ?_, by simp⟩
      refine hCollected.carries hNames
        (hCarries.mono hRun.grows.graph
          (fun _ _ hMem => List.mem_append_left _ hMem)) ?_
      intro key id hGiven
      exact ⟨List.mem_append_right _ hGiven,
        (hPoised.of_run hRun).sound.lt_size_of_standsFor
          (hConsulted.stands key id hGiven)⟩

------------------------------------------------------------
-- Climbing
------------------------------------------------------------

/- Some level declares properties. -/
def AnyDeclares
    (levels : List Level) : Prop :=
  ∃ level ∈ levels, declaredNames? level.node ≠ none

/- What was collected from levels, with the answers for it. -/
structure Gathered
    (s : State)
    (levels : List Level)
    (answers : Answers)
    (inherited : Inherited) : Prop where
  carries :
    s.graph.Carries answers.Give (inherited? levels)
      inherited.properties
  declared : inherited.declared = true ↔ AnyDeclares levels

/- What was gathered stays gathered. -/
theorem Gathered.mono
    {levels : List Level}
    {answers : Answers}
    {inherited : Inherited}
    (hGathered : Gathered s levels answers inherited)
    (hGrows : Grows setting s t) :
    Gathered t levels answers inherited :=
  ⟨hGathered.carries.mono hGrows.graph (fun _ _ hGiven => hGiven),
    hGathered.declared⟩

/- What a climb from a node, after some levels, ends with. -/
def Climbed
    (setting : Setting)
    (resolve : Resolver)
    (s t : State)
    (key : NodeKey)
    (visited : List NodeKey)
    (before : List Level)
    (answers : Answers)
    (result : Inherited) : Prop :=
  ∃ above more,
    Lineage setting t key visited above ∧
      Consulted setting resolve s (above.flatMap Level.asks) more t ∧
      Gathered t (before ++ above) (answers ++ more) result

/- A climb that ends at its first level. -/
theorem Climbed.here
    {key : NodeKey}
    {visited : List NodeKey}
    {before : List Level}
    {answers : Answers}
    {inherited : Inherited}
    (hRun : Run setting s t)
    (hLineage : Lineage setting t key visited [])
    (hGathered : Gathered s before answers inherited) :
    Climbed setting resolve s t key visited before answers
      inherited := by
  refine ⟨[], [], hLineage, .nothing hRun, ?_⟩
  rw [List.append_nil, List.append_nil]
  exact hGathered.mono hRun.grows

/- A climb that goes on from an ancestor. -/
theorem Climbed.further
    {r : State}
    {key : NodeKey}
    {visited : List NodeKey}
    {before : List Level}
    {answers more : Answers}
    (ancestor : Level)
    {reference : String}
    {result : Inherited}
    (hLink :
      linkReference? t (key.child "extends") =
        some (.string reference))
    (hLeads : Leads setting t key.doc reference ancestor.key)
    (hNew : ancestor.key ∉ visited)
    (hNode : t.node? ancestor.key = some ancestor.node)
    (hConsulted :
      Consulted setting resolve s ancestor.asks more r)
    (hRun : Run setting r t)
    (hClimbed :
      Climbed setting resolve r t ancestor.key
        (ancestor.key :: visited) (before ++ [ancestor])
        (answers ++ more) result) :
    Climbed setting resolve s t key visited before answers
      result := by
  rcases hClimbed with ⟨above, last, hAbove, hLast, hGathered⟩
  rw [List.append_assoc, List.append_assoc, List.singleton_append]
    at hGathered
  refine ⟨ancestor :: above, more ++ last,
    .climb key ancestor visited above reference hLink hLeads hNew
      hNode hAbove, ?_, hGathered⟩
  rw [List.flatMap_cons]
  exact hConsulted.append hLast hRun

/- What is found at a link is written in the node of the link. -/
theorem exists_node_of_linkReference?
    {link : NodeKey}
    {value : Json}
    (hLink : linkReference? s link = some value) :
    ∃ node, s.node? link = some node ∧
      node.member? "$ref" = some value :=
  Option.bind_eq_some_iff.mp hLink

/- More steps than were foreseen visit more nodes than were. -/
theorem positions_of_visited
    {visited : List NodeKey}
    (hDistinct : visited.Nodup)
    (hPresent : ∀ key ∈ visited, s.Present key)
    (hSteps : 0 + visited.length = setting.budget + 2) :
    setting.budget + 1 < s.store.positions := by
  have hBound := State.length_le_positions hDistinct hPresent
  omega

/- Following the link of a node. -/
theorem followLink_ensures
    {key : NodeKey}
    {reference : String}
    (hLink :
      linkReference? s (key.child "extends") =
        some (.string reference)) :
    Ensures setting watch source s
      (inDocument (key.child "extends").doc
        (followWatched setting watch (key.child "extends")
          reference))
      (fun target t =>
        Leads setting t key.doc reference target ∧
          t.Present target) := by
  rcases exists_node_of_linkReference? hLink with
    ⟨linkNode, hLinkNode, hText⟩
  apply Ensures.inDocument
  · intro scope hScope _
    have hPlace :
        State.Present { s with scope := scope }
          (key.child "extends") :=
      ⟨linkNode, hLinkNode⟩
    exact followWatched_ensures hPlace hScope
      ⟨key.child "extends", linkNode, rfl, hLinkNode, hText⟩
  · intro target t scope hTarget
    exact hTarget

/- Collecting from one ancestor, before going on. -/
theorem addLevel_ensures
    {β : Type}
    {next : Inherited → Compile β}
    {post : β → State → Prop}
    {before : List Level}
    {answers : Answers}
    {inherited : Inherited}
    (level : Level)
    (hResolve : Resolves setting watch source n resolve)
    (hPoised : Poised setting source n s)
    (hNode : s.node? level.key = some level.node)
    (hGathered : Gathered s before answers inherited)
    (hNext :
      ∀ after more t,
        Run setting s t →
          Consulted setting resolve s level.asks more t →
            Gathered t (before ++ [level]) (answers ++ more) after →
              Ensures setting watch source t (next after) post) :
    Ensures setting watch source s
      (do
        let added ←
          addDeclared resolve Members.insertNew level.key level.node
            inherited
        let properties ←
          applyRequirements level.node added.properties
        next ⟨properties, added.declared⟩)
      post := by
  refine Ensures.bind
    (addDeclared_ensures level hResolve places_insertNew hPoised
      hNode hGathered.carries) ?_
  rintro added t hMore ⟨more, hConsulted, hAdded, hAny⟩
  refine Ensures.bind
    (applyRequirements_ensures level.node hAdded) ?_
  intro properties u hLast hMarked
  apply hNext _ more
  · exact hMore.trans hLast
  · exact hConsulted.before hLast
  · constructor
    · apply hMarked.congr
      intro name
      rw [inherited?_append, Level.provide_eq]
    · rw [hAny, hGathered.declared]
      simp [AnyDeclares, or_and_right, exists_or]

/- Collecting from the ancestors that a level leads to. -/
theorem climb_ensures
    (hResolve : Resolves setting watch source n resolve)
    {steps : Nat}
    {key : NodeKey}
    {visited : List NodeKey}
    {before : List Level}
    {answers : Answers}
    {inherited : Inherited}
    (hPoised : Poised setting source n s)
    (hKey : s.Present key)
    (hDistinct : visited.Nodup)
    (hPresent : ∀ other ∈ visited, s.Present other)
    (hSteps : steps + visited.length = setting.budget + 2)
    (hGathered : Gathered s before answers inherited) :
    Ensures setting watch source s
      (climb setting watch resolve steps (key.child "extends") visited
        inherited)
      (fun result t =>
        Climbed setting resolve s t key visited before answers
          result) := by
  induction steps generalizing
    s key visited before answers inherited with
  | zero =>
      exact Ensures.throw
        (positions_of_visited hDistinct hPresent hSteps)
  | succ steps ih =>
      rw [climb]
      apply Ensures.get
      cases hLink : linkReference? s (key.child "extends") with
      | none =>
          exact Ensures.pure
            (Climbed.here (Run.refl setting s)
              (.stop key visited hLink) hGathered)
      | some value =>
          cases value with
          | string reference =>
              apply (followLink_ensures hLink).bind
              rintro ancestor t hRun ⟨hLeads, node, hNode⟩
              have hGrown := hRun.grows
              have hSame :
                  linkReference? t (key.child "extends") =
                    some (.string reference) := by
                rw [hGrown.linkReference?_eq hKey]
                exact hLink
              unfold ascend
              split
              case isTrue hSeen =>
                exact Ensures.pure
                  (Climbed.here hRun
                    (.again key ancestor visited reference hSame
                      hLeads hSeen)
                    hGathered)
              case isFalse hNew =>
                apply Ensures.get
                simp only [hNode]
                have hReady := hPoised.of_run hRun
                apply addLevel_ensures ⟨ancestor, node⟩ hResolve
                  hReady hNode (hGathered.mono hGrown)
                intro after more q hRest hConsulted hLevel
                have hFinal := hRest.grows
                refine Ensures.mono
                  (ih (hReady.of_run hRest) ?_ ?_ ?_ ?_ hLevel) ?_
                · exact ⟨node, hFinal.node? hNode⟩
                · exact List.nodup_cons.mpr ⟨hNew, hDistinct⟩
                · intro other hMem
                  rcases List.mem_cons.mp hMem with rfl | hOld
                  · exact ⟨node, hFinal.node? hNode⟩
                  · exact (hGrown.trans hFinal).present
                      (hPresent other hOld)
                · simp only [List.length_cons]
                  omega
                · intro result v hClimb hClimbed
                  have hAll := hFinal.trans hClimb.grows
                  have hKeyNow := hGrown.present hKey
                  refine Climbed.further ⟨ancestor, node⟩ ?_
                    (hAll.leads hKeyNow hLeads) hNew
                    (hAll.node? hNode) (hConsulted.after hRun) hClimb
                    hClimbed
                  rw [hAll.linkReference?_eq hKeyNow]
                  exact hSame
          | _ =>
              rcases exists_node_of_linkReference? hLink with
                ⟨linkNode, hLinkNode, _⟩
              exact Ensures.throw
                ⟨key.child "extends", ⟨linkNode, hLinkNode⟩, rfl⟩

------------------------------------------------------------
-- Merging
------------------------------------------------------------

/-
  What merging gives, with the answers for the properties of
  the ancestors and of the node itself, in this order.
-/
def MergedFrom
    (setting : Setting)
    (resolve : Resolver)
    (s t : State)
    (own : Level)
    (properties : Option PropertyMap) : Prop :=
  ∃ ancestors answers,
    Lineage setting t own.key [own.key] ancestors ∧
      Consulted setting resolve s
        ((ancestors ++ [own]).flatMap Level.asks) answers t ∧
      match properties with
      | none =>
          ∀ level ∈ own :: ancestors,
            declaredNames? level.node = none
      | some properties =>
          AnyDeclares (own :: ancestors) ∧
            t.graph.Carries answers.Give (provision? own ancestors)
              properties

/- What merging gives is what the node and its ancestors provide. -/
theorem MergedFrom.merged
    {own : Level}
    {properties : Option PropertyMap}
    (hMerged : MergedFrom setting resolve s t own properties) :
    Merged setting t own properties := by
  rcases hMerged with
    ⟨ancestors, answers, hLineage, hConsulted, hProperties⟩
  refine ⟨ancestors, hLineage, ?_⟩
  cases properties with
  | none => exact hProperties
  | some properties =>
      exact ⟨hProperties.1,
        hProperties.2.provides hConsulted.stands⟩

/- The properties of an object node are merged from answers. -/
theorem merge_ensures
    {key : NodeKey}
    {node : Json}
    (hResolve : Resolves setting watch source n resolve)
    (hPoised : Poised setting source n s)
    (hNode : s.node? key = some node) :
    Ensures setting watch source s
      (mergeProperties setting watch resolve key node)
      (fun properties t =>
        MergedFrom setting resolve s t ⟨key, node⟩ properties) := by
  have hNothing : Gathered s [] [] ⟨[], false⟩ := by
    refine ⟨⟨List.Pairwise.nil, fun _ _ => rfl, ?_⟩, ?_⟩
    · intro name p hPlan
      cases hPlan
    · simp [AnyDeclares]
  unfold mergeProperties
  refine Ensures.bind
    (climb_ensures hResolve hPoised ⟨node, hNode⟩
      (List.nodup_singleton key) ?_ ?_ hNothing) ?_
  · intro other hMem
    rw [List.mem_singleton.mp hMem]
    exact ⟨node, hNode⟩
  · simp only [List.length_singleton]
  rintro inherited t hRun
    ⟨ancestors, answers, hLineage, hConsulted, hGathered⟩
  rw [List.nil_append, List.nil_append] at hGathered
  have hHere := hRun.grows.node? hNode
  refine Ensures.bind
    (addDeclared_ensures ⟨key, node⟩ hResolve places_insert
      (hPoised.of_run hRun) hHere hGathered.carries) ?_
  rintro own r hMore ⟨more, hOwnAsked, hOwn, hDeclared⟩
  refine Ensures.bind (applyRequirements_ensures node hOwn) ?_
  intro properties q hLast hMarked
  have hAfter := hMore.trans hLast
  have hLevels :
      own.declared = true ↔
        AnyDeclares (⟨key, node⟩ :: ancestors) := by
    rw [hDeclared, hGathered.declared]
    simp [AnyDeclares, or_comm]
  refine Ensures.pure
    ⟨ancestors, answers ++ more,
      hLineage.mono hAfter.grows ⟨node, hHere⟩, ?_, ?_⟩
  · rw [List.flatMap_append, List.flatMap_singleton]
    exact hConsulted.append (hOwnAsked.before hLast) hAfter
  split
  case h_1 hNone =>
    by_cases hSome : own.declared = true
    · simp [hSome] at hNone
    · rw [hLevels] at hSome
      intro level hMem
      by_contra hLevel
      exact hSome ⟨level, hMem, hLevel⟩
  case h_2 found hFound =>
    by_cases hSome : own.declared = true
    · rw [if_pos hSome] at hFound
      cases hFound
      refine ⟨hLevels.mp hSome, hMarked.congr ?_⟩
      intro name
      rw [provision?_eq]
    · rw [if_neg hSome] at hFound
      cases hFound

/- The properties of an object node are those it provides. -/
theorem mergeProperties_ensures
    {key : NodeKey}
    {node : Json}
    (hResolve : Resolves setting watch source n resolve)
    (hPoised : Poised setting source n s)
    (hNode : s.node? key = some node) :
    Ensures setting watch source s
      (mergeProperties setting watch resolve key node)
      (fun properties t =>
        Merged setting t ⟨key, node⟩ properties) :=
  (merge_ensures hResolve hPoised hNode).mono
    (fun _ _ _ hMerged => hMerged.merged)

end SchemaGraph
