import Mathlib
import SchemaGraph.Proofs.Compile.Found
import SchemaGraph.Proofs.Inheritance.Extension

/-
  What merging the properties of an object node computes.
  The names are those that the node or one of its ancestors
  declares.  Each name is defined by the answer that was
  given for the declaration of the nearest level that has
  one, where the node itself comes before its ancestors.

  The presence is that of the definition, after the lists of
  some levels were applied to it one after another: only
  those of the node for what the node declares itself, and
  for anything else those of the ancestor that declares it,
  of the ancestors above it and, last, of the node.

  Main declarations:
    * `Json.relisted`
    * `listing`
    * `MergesFrom`
    * `Watch.quiet_mismerged`
    * `mergeProperties_collects`
-/

namespace SchemaGraph

variable {setting : Setting}
variable {source : Source}
variable {resolve : Resolver}
variable {s t : State}

------------------------------------------------------------
-- Lists
------------------------------------------------------------

/-
  A presence after the lists of a node were applied to a
  name: the optional one, the required one and the forbidden
  one, in this order.
-/
def Json.relisted
    (node : Json)
    (name : String)
    (before : Presence) : Presence :=
  let first :=
    if node.optsAll || node.lists "optional" name then
      .optional
    else
      before
  let second :=
    if node.lists "required" name then .required else first
  if node.lists "forbidden" name then .forbidden else second

/- The lists of a node give what the last one of them gives. -/
theorem Json.relisted_eq
    (node : Json)
    (name : String)
    (before : Presence) :
    node.relisted name before =
      (node.requirement? name).getD before := by
  unfold relisted requirement?
  cases node.lists "forbidden" name <;>
    cases node.lists "required" name <;>
      cases node.optsAll || node.lists "optional" name <;> rfl

/- A presence after the lists of levels, one after another. -/
def relistedBy
    (levels : List Level)
    (name : String)
    (before : Presence) : Presence :=
  levels.foldl (fun p level => level.node.relisted name p) before

/- The lists of levels give what the last one of them gives. -/
theorem relistedBy_eq
    (levels : List Level)
    (name : String)
    (before : Presence) :
    relistedBy levels name before =
      (listed? levels name).getD before := by
  induction levels generalizing before with
  | nil => rfl
  | cons level rest ih =>
      have hFirst :
          relistedBy (level :: rest) name before =
            relistedBy rest name (level.node.relisted name before) :=
        rfl
      rw [hFirst, ih, Json.relisted_eq, listed?_cons]
      cases listed? rest name with
      | some p => rfl
      | none => simp

/- Lists that do not mention a name make nothing of it. -/
theorem listed?_of_quiet
    {levels : List Level}
    {name : String}
    (hQuiet :
      ∀ level ∈ levels, level.node.requirement? name = none) :
    listed? levels name = none := by
  induction levels with
  | nil => rfl
  | cons level rest ih =>
      rw [listed?_cons, hQuiet level List.mem_cons_self,
        ih (fun other hMem =>
          hQuiet other (List.mem_cons_of_mem _ hMem))]
      rfl

/-
  The levels whose lists apply to a property: the node for
  what it declares itself; for what an ancestor declares,
  the nearest such ancestor, those above it and the node.
-/
def listing
    (own : Level)
    (ancestors : List Level)
    (name : String) : List Level :=
  if own.declares name then
    [own]
  else
    ancestors.dropWhile (fun level => !level.declares name) ++ [own]

/- These levels give the mark of the property. -/
theorem listed?_listing
    (own : Level)
    (ancestors : List Level)
    (name : String) :
    listed? (listing own ancestors name) name =
      ownMark? own ancestors name := by
  unfold listing ownMark?
  cases own.declares name with
  | true => simp [listed?]
  | false => simp [listed?, inheritedMark?, List.foldl_append]

------------------------------------------------------------
-- Merged Properties
------------------------------------------------------------

/- A chain does not come back to a visited node or to its own. -/
theorem Lineage.nodup
    {key : NodeKey}
    {visited : List NodeKey}
    {ancestors : List Level}
    (hLineage : Lineage setting s key visited ancestors)
    (hVisited : visited.Nodup) :
    (visited ++ ancestors.map Level.key).Nodup := by
  induction hLineage with
  | stop => simpa using hVisited
  | again => simpa using hVisited
  | climb key ancestor visited above reference _ _ hNew _ _ ih =>
      have hAll := ih (List.nodup_cons.mpr ⟨hNew, hVisited⟩)
      rw [List.map_cons]
      exact List.nodup_middle.mpr hAll

/-
  What merging computes, in terms of the ancestors of a node
  and of what was answered for the declared properties.
-/
structure MergesFrom
    (setting : Setting)
    (resolve : Resolver)
    (s t : State)
    (own : Level)
    (properties : Option PropertyMap)
    (ancestors : List Level)
    (answers : Answers) : Prop where
  /- The ancestors end at a missing link or a visited node. -/
  lineage : Lineage setting t own.key [own.key] ancestors
  distinct : ((own :: ancestors).map Level.key).Nodup
  /- The answers were given on the way, the own ones last. -/
  consults : Consults setting resolve s answers t
  asked :
    answers.map Prod.fst =
      (ancestors ++ [own]).flatMap Level.asks
  none_iff :
    properties = none ↔
      ∀ level ∈ own :: ancestors, declaredNames? level.node = none
  sorted :
    ∀ found, properties = some found → Members.Sorted found
  names :
    ∀ found, properties = some found →
      ∀ name,
        name ∈ found.map Prod.fst ↔
          ∃ level ∈ own :: ancestors, level.declares name = true
  defined :
    ∀ found, properties = some found →
      ∀ name level,
        provider? (own :: ancestors) name = some level →
          ∃ declared id v,
            answers.Give (level.key.property name) declared ∧
              found.lookup name = some id ∧
              t.graph.node? declared = some v ∧
              t.graph.node? id =
                some
                  { v with
                    presence :=
                      relistedBy (listing own ancestors name) name
                        v.presence } ∧
              ((∀ level ∈ listing own ancestors name,
                  level.node.requirement? name = none) →
                id = declared)

/- A name is declared exactly if some level provides it. -/
theorem provider?_ne_none_iff
    (levels : List Level)
    (name : String) :
    provider? levels name ≠ none ↔
      ∃ level ∈ levels, level.declares name = true := by
  simp [provider?]

/- What merging gives is merged from the answers. -/
theorem MergedFrom.mergesFrom
    {own : Level}
    {properties : Option PropertyMap}
    (hMerged : MergedFrom setting resolve s t own properties) :
    ∃ ancestors answers,
      MergesFrom setting resolve s t own properties ancestors
        answers := by
  have hProvided := hMerged.merged
  rcases hMerged with
    ⟨ancestors, answers, hLineage, hConsulted, hProperties⟩
  have hNone := (hProvided.of_lineage hLineage).1
  have hCarries :
      ∀ found, properties = some found →
        t.graph.Carries answers.Give (provision? own ancestors)
          found := by
    rintro found rfl
    exact hProperties.2
  refine ⟨ancestors, answers, hLineage,
    hLineage.nodup (List.nodup_singleton own.key),
    hConsulted.consults, hConsulted.asked, hNone,
    fun found hFound => (hCarries found hFound).sorted, ?_, ?_⟩
  · intro found hFound name
    rw [← provider?_ne_none_iff]
    have hFree := (hCarries found hFound).free_iff name
    rw [provision?_eq_map, Option.map_eq_none_iff,
      Members.lookup_eq_none_iff_not_mem] at hFree
    rw [ne_eq, hFree, not_not]
  · intro found hFound name level hProvider
    have hPlan :
        provision? own ancestors name =
          some ⟨level.key, ownMark? own ancestors name⟩ := by
      rw [provision?_eq_map, hProvider]
      rfl
    rcases (hCarries found hFound).found name _ hPlan with
      ⟨declared, id, hLookup, hGiven, ⟨v, hDeclared, hCopy⟩, hKept⟩
    refine ⟨declared, id, v, hGiven, hLookup, hDeclared, ?_, ?_⟩
    · rw [hCopy, relistedBy_eq, listed?_listing]
      rfl
    · intro hQuiet
      apply hKept
      rw [← listed?_listing]
      exact listed?_of_quiet hQuiet

------------------------------------------------------------
-- Compilations
------------------------------------------------------------

/-
  Merging the properties of a node gives what its ancestors
  and the answers determine, whenever it gives something.
-/
def State.MergesWell
    (setting : Setting)
    (n : Nat)
    (s : State)
    (key : NodeKey) : Prop :=
  ∀ node properties t,
    s.node? key = some node →
      mergeProperties setting Watch.never
            (resolveWithin setting Watch.never n) key node s =
          .ok properties t →
        ∃ ancestors answers,
          MergesFrom setting (resolveWithin setting Watch.never n) s t
            ⟨key, node⟩ properties ancestors answers

/- It does so wherever any node may be asked for. -/
theorem Poised.mergesWell
    {n : Nat}
    (hPoised : Poised setting source n s)
    (key : NodeKey) :
    s.MergesWell setting n key := by
  intro node properties t hNode hMerge
  have hEnsures :=
    merge_ensures (resolveWithin_resolves setting Watch.never source n)
      hPoised hNode
  exact (hEnsures.ok hMerge).2.mergesFrom

/- The key is that of an object node. -/
def State.IsObject
    (s : State)
    (key : NodeKey) : Prop :=
  ∃ node,
    s.node? key = some node ∧
      classify node = .ok (.typed (.string "object"))

/-
  End a compilation with an error when an object node was
  begun that would not be merged well.  As many nodes may be
  nested in it as are left of the budget.
-/
open Classical in
noncomputable def Watch.mismerged
    (setting : Setting)
    (e : CompileError) : Watch
  | .began key, s =>
      if s.IsObject key →
          s.MergesWell setting
            (setting.budget + 1 - s.progress.length) key then
        none
      else
        some e
  | _, _ => none

/- No object node is begun that would not be merged well. -/
theorem Watch.quiet_mismerged
    (setting : Setting)
    (source : Source)
    (e : CompileError) :
    (Watch.mismerged setting e).Quiet setting source := by
  intro m s hStands
  cases m with
  | asked key => rfl
  | answered key => rfl
  | linked place reference => rfl
  | began key =>
      rcases hStands with ⟨_, hTop, n, hRoomy⟩
      refine if_pos ?_
      rintro ⟨node, hNode, hKind⟩
      have hOpened : s.Opened key :=
        ⟨node, "type", _, hNode, writtenIn_of_classify hKind, rfl⟩
      have hPoised :=
        (hRoomy hOpened).poised hNode hKind hTop (by simp)
      have hDepth : setting.budget + 1 - s.progress.length = n := by
        have hRoom := hPoised.depth
        omega
      rw [hDepth]
      exact hPoised.mergesWell key

/-
  What merging the properties of a node computes, wherever
  any node may be asked for: nothing if neither the node nor
  an ancestor declares properties, and else one property for
  each name that one of them declares.  It is the answer for
  the nearest declaration, with the presence that the lists
  which apply to it make of its own.

  So it is for every object node that a compilation begins:
  with a watch that would end it before a node is merged in
  another way, the compilation is the same.
-/
theorem mergeProperties_collects
    (setting : Setting)
    (workingDir : Path)
    (source : Source) :
    (∀ n s key,
      Poised setting source n s → s.MergesWell setting n key) ∧
      ∀ e,
        compileWatched setting (Watch.mismerged setting e) workingDir
            source =
          compileWith setting workingDir source :=
  ⟨fun _ _ key hPoised => hPoised.mergesWell key,
    fun e => compileWatched_quiet
      (Watch.quiet_mismerged setting source e) workingDir⟩

/-
  An object that extends `near`, which extends `far`, which
  extends `near` again.  The list of `near` asks for `c`
  before `c` is there.
-/
def Json.ladder : Json :=
  .object
    [("extends", .object [("$ref", .string "#/near")]),
    ("far", .object
      [("extends", .object [("$ref", .string "#/near")]),
      ("optional", .array [.string "a"]),
      ("properties", .object
        [("b", .object [("type", .string "number")]),
        ("c", .object [])])]),
    ("forbidden", .array [.string "b"]),
    ("near", .object
      [("extends", .object [("$ref", .string "#/far")]),
      ("properties", .object
        [("a", .object []),
        ("b", .object [("type", .string "string")])]),
      ("required", .array [.string "a", .string "c"])]),
    ("properties", .object [("own", .object [])]),
    ("required", .array [.string "own"]),
    ("type", .string "object")]

/- The state after the compilation. -/
@[irreducible] def ladderFinal : State :=
  (compileAlone Json.ladder).final

/- The presences of the properties that merging gives. -/
def mergedPresences
    (merged :
      EStateM.Result CompileError State (Option PropertyMap)) :
    Option (List (String × Option Presence)) :=
  match merged with
  | .ok (some found) t =>
      some (found.map (fun e => (e.1, t.graph.presence? e.2)))
  | _ => none

/-
  The object has the properties of all three levels.  What
  `near` makes required is optional because of `far`, unless
  it was not there yet, and `b` is forbidden by the object.
-/
theorem mergeProperties_collects_ladder :
    ∃ node found t ancestors answers,
      mergeProperties Setting.alone Watch.never
          (resolveWithin Setting.alone Watch.never 31)
          (NodeKey.root ⟨0⟩) node ladderFinal =
        .ok (some found) t ∧
      MergesFrom Setting.alone
        (resolveWithin Setting.alone Watch.never 31) ladderFinal t
        ⟨NodeKey.root ⟨0⟩, node⟩ (some found)
        ancestors answers ∧
      found.map (fun e => (e.1, t.graph.presence? e.2)) =
        [("a", some .optional), ("b", some .forbidden),
          ("c", some .optional), ("own", some .required)] := by
  have hCompiled :
      ∃ schema,
        compileWith Setting.alone ⟨"/"⟩ (.value Json.ladder) =
          ⟨.ok schema, ladderFinal⟩ := by
    rw [ladderFinal]
    exact Compilation.exists_eq_of_isOk (by decide +kernel)
  have hPresences :
      (ladderFinal.node? (NodeKey.root ⟨0⟩)).bind (fun node =>
          mergedPresences
            (mergeProperties Setting.alone Watch.never
              (resolveWithin Setting.alone Watch.never 31)
              (NodeKey.root ⟨0⟩) node ladderFinal)) =
        some
          [("a", some .optional), ("b", some .forbidden),
            ("c", some .optional), ("own", some .required)] := by
    decide +kernel
  rcases hCompiled with ⟨schema, hCompiled⟩
  have hPoised := (settled_of_compileWith hCompiled).1.poised
  rcases Option.bind_eq_some_iff.mp hPresences with
    ⟨node, hNode, hMerged⟩
  unfold mergedPresences at hMerged
  split at hMerged
  case h_2 => cases hMerged
  case h_1 found t hRun =>
    rcases (mergeProperties_collects Setting.alone ⟨"/"⟩
        (.value Json.ladder)).1 31 ladderFinal _ hPoised node _ t
        hNode hRun with ⟨ancestors, answers, hMerges⟩
    exact ⟨node, found, t, ancestors, answers, hRun, hMerges,
      Option.some.inj hMerged⟩

end SchemaGraph
