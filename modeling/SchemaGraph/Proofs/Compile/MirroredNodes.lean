import Mathlib
import SchemaGraph.Proofs.Compile.Mirrors

/-
  Compiling nodes with and without members that are null.
  What a node asks for is there without them, too, and
  members that are null are asked for nowhere.  So the
  program of every node is mirrored, from the items and
  properties of nodes and chains of ancestors up to the
  compilation of a source.

  Main declarations:
    * `State.Spares`
    * `State.Spares.leaves_member`
    * `climb_mirrors`
    * `resolveKind_mirrors`
    * `compileNode_mirrors`
    * `resolveWithin_mirrors`
    * `loadRoot_mirrors`
    * `compileSteps_mirrors`
-/

namespace SchemaGraph

------------------------------------------------------------
-- What May Be Left Out
------------------------------------------------------------

/-
  Only nulls are left out of the documents, no reference led
  to one of them, and the schemas that were met are spared.
-/
structure State.Spares
    (f : State)
    (cuts : Omissions) : Prop where
  nulls :
    ∀ d ∈ f.store.documents, (cuts d.origin).OnlyNulls d.root
  references : ∀ target ∈ f.targets, f.Leaves cuts target
  schemas :
    ∀ key ∈ f.places, ∀ node, f.node? key = some node →
      (f.cutAt cuts key).Spares node

variable {cuts : Omissions}
variable {f s t : State}
variable {key : NodeKey}
variable {node : Json}

namespace State.Spares

variable (hSpares : f.Spares cuts)

include hSpares

/- Only nulls are left out of a node. -/
theorem onlyNulls
    (hNode : f.node? key = some node) :
    (f.cutAt cuts key).OnlyNulls node := by
  rcases Option.bind_eq_some_iff.mp hNode with ⟨d, hDoc, hFound⟩
  rw [State.cutAt_eq cuts hDoc]
  exact (hSpares.nulls d (List.mem_of_getElem? hDoc)).behind hFound

variable (hLeaves : f.Leaves cuts key)

include hLeaves

/- A member that is not null is kept. -/
theorem leaves_member
    {name : String}
    {v : Json}
    (hNode : f.node? key = some node)
    (hMember : node.member? name = some v)
    (hSome : v ≠ .null) :
    f.Leaves cuts (key.child name) :=
  hLeaves.child
    ((hSpares.onlyNulls hNode).omits_eq_false hMember hSome)

/- A keyword that counts as given is kept. -/
theorem leaves_keyword
    {name : String}
    {v : Json}
    (hNode : f.node? key = some node)
    (hKeyword : node.keyword? name = some v) :
    f.Leaves cuts (key.child name) := by
  refine hSpares.leaves_member hLeaves hNode
    (Json.member?_of_keyword? hKeyword) ?_
  rintro rfl
  cases (Option.filter_eq_some_iff.mp hKeyword).2

/- The items of an array are kept. -/
theorem leaves_item
    {items : List Json}
    (hNode : f.node? key = some (.array items))
    (i : Nat) :
    f.Leaves cuts (key.index i) :=
  hLeaves.child (hSpares.onlyNulls hNode).omits_array

/- The items of a list that is a member are kept. -/
theorem leaves_branches
    {name : String}
    {branches : List Json}
    (hNode : f.node? key = some node)
    (hMember : node.member? name = some (.array branches))
    (i : Nat) :
    f.Leaves cuts ((key.child name).index i) :=
  hSpares.leaves_item
    (hSpares.leaves_member hLeaves hNode hMember nofun)
    (State.node?_member hNode hMember) i

/- The properties of a node that is used are kept. -/
theorem leaves_property
    {entries : List (String × Json)}
    (hPlace : key ∈ f.places)
    (hNode : f.node? key = some node)
    (hMember : node.member? "properties" = some (.object entries))
    (name : String) :
    f.Leaves cuts ((key.child "properties").child name) := by
  have hProperties :=
    hSpares.leaves_member hLeaves hNode hMember nofun
  apply hProperties.child
  rw [State.cutAt_child]
  exact (hSpares.schemas key hPlace node hNode).properties name

end State.Spares

------------------------------------------------------------
-- Nodes
------------------------------------------------------------

section Nodes

variable {narrow wide : Resolver}
variable
  (hResolve :
    ∀ key, f.Leaves cuts key →
      Mirrors cuts f (narrow key) (wide key))

include hResolve

/- Compiling the items of a list. -/
theorem resolveBranches_mirrors
    {list : NodeKey}
    (hItems : ∀ i, f.Leaves cuts (list.index i))
    (start : Nat)
    (items : List Json) :
    Mirrors cuts f (resolveBranches narrow list start items)
      (resolveBranches wide list start items) := by
  induction items generalizing start with
  | nil => exact .pure _
  | cons item rest ih =>
      rw [resolveBranches, resolveBranches]
      apply (hResolve _ (hItems start)).bind
      intro id
      apply (ih (start + 1)).bind
      intro ids
      exact .pure _

/- Compiling declared properties. -/
theorem collect_mirrors
    (place : String → ValidatorId → PropertyMap → PropertyMap)
    {owner : NodeKey}
    (hNames :
      ∀ name,
        f.Leaves cuts ((owner.child "properties").child name))
    (names : List String)
    (properties : PropertyMap) :
    Mirrors cuts f (collect narrow place owner names properties)
      (collect wide place owner names properties) := by
  induction names generalizing properties with
  | nil => exact .pure _
  | cons name rest ih =>
      rw [collect, collect]
      apply (hResolve _ (hNames name)).bind
      intro id
      exact ih _

variable (hSpares : f.Spares cuts)
variable (hLeaves : f.Leaves cuts key)
variable (hNode : f.node? key = some node)

include hSpares hLeaves hNode

/- Compiling one side of a condition. -/
theorem resolveSide_mirrors
    (side : String) :
    Mirrors cuts f (resolveSide narrow key node side)
      (resolveSide wide key node side) := by
  unfold resolveSide
  cases hSide : node.keyword? side with
  | none => exact .pure _
  | some v =>
      apply (hResolve _
        (hSpares.leaves_keyword hLeaves hNode hSide)).bind
      intro id
      exact .pure _

/- Compiling one part of an intersection. -/
theorem resolvePart_mirrors :
    Mirrors cuts f (resolvePart narrow key node)
      (resolvePart wide key node) := by
  unfold resolvePart
  split
  case isTrue hConditional =>
    have hIf := (isConditional_iff.mp hConditional).1
    rcases Option.ne_none_iff_exists'.mp hIf with ⟨v, hKeyword⟩
    apply (hResolve _
      (hSpares.leaves_keyword hLeaves hNode hKeyword)).bind
    intro test
    apply (resolveSide_mirrors hResolve hSpares hLeaves hNode
      "then").bind
    intro pass
    apply (resolveSide_mirrors hResolve hSpares hLeaves hNode
      "else").bind
    intro fail
    exact .pure _
  case isFalse =>
    apply (hResolve _ hLeaves).bind
    intro id
    exact .pure _

omit hLeaves hNode in
/- Compiling the parts of an intersection. -/
theorem resolveParts_mirrors
    {list : NodeKey}
    (hItems : ∀ i, f.Leaves cuts (list.index i))
    (start : Nat)
    (items : List Json)
    (hNodes :
      ∀ i item, items[i]? = some item →
        f.node? (list.index (start + i)) = some item) :
    Mirrors cuts f (resolveParts narrow list start items)
      (resolveParts wide list start items) := by
  induction items generalizing start with
  | nil => exact .pure _
  | cons item rest ih =>
      rw [resolveParts, resolveParts]
      apply (resolvePart_mirrors hResolve hSpares (hItems start)
        (hNodes 0 item rfl)).bind
      intro part
      have hRest :
          ∀ i other, rest[i]? = some other →
            f.node? (list.index (start + 1 + i)) = some other := by
        intro i other hOther
        have hNext := hNodes (i + 1) other (by simpa using hOther)
        rw [Nat.add_comm i 1, ← Nat.add_assoc] at hNext
        exact hNext
      apply (ih (start + 1) hRest).bind
      intro parts
      exact .pure _

/- Compiling an array node. -/
theorem arrayRule_mirrors :
    Mirrors cuts f (arrayRule narrow key node)
      (arrayRule wide key node) := by
  have hCounts :
      ∀ items,
        Mirrors cuts f (arrayCounts key node items)
          (arrayCounts key node items) :=
    Mirrors.congruence.arrayCounts key node
  unfold arrayRule
  split
  case h_1 => exact hCounts none
  case h_2 => exact hCounts none
  case h_3 v hSome hMember =>
    have hItems :=
      hSpares.leaves_member hLeaves hNode hMember
        (fun hNull => hSome (by rw [hNull]))
    apply (hResolve _ hItems).bind
    intro id
    exact hCounts (some id)

/- Compiling what an object node does with undeclared keys. -/
theorem unknownKeys_mirrors :
    Mirrors cuts f (unknownKeys narrow key node)
      (unknownKeys wide key node) := by
  unfold unknownKeys
  split
  case h_1 => exact .pure _
  case h_2 members hMember =>
    have hSchema :=
      hSpares.leaves_member hLeaves hNode hMember nofun
    apply (hResolve _ hSchema).bind
    intro id
    exact .pure _
  case h_3 =>
    split
    case isTrue => exact .pure _
    case isFalse => exact .pure _

/- Adding the properties that a node declares. -/
theorem addDeclared_mirrors
    (hPlace : key ∈ f.places)
    (place : String → ValidatorId → PropertyMap → PropertyMap)
    (inherited : Inherited) :
    Mirrors cuts f (addDeclared narrow place key node inherited)
      (addDeclared wide place key node inherited) := by
  unfold addDeclared
  split
  case h_1 names hNames =>
    have hDeclares :
        ∃ entries,
          node.member? "properties" = some (.object entries) := by
      rcases Option.map_eq_some_iff.mp hNames with
        ⟨entries, hFound, _⟩
      rcases Option.bind_eq_some_iff.mp hFound with
        ⟨v, hMember, hEntries⟩
      cases v with
      | object members => exact ⟨members, hMember⟩
      | _ => cases hEntries
    rcases hDeclares with ⟨entries, hMember⟩
    apply (collect_mirrors hResolve place
      (hSpares.leaves_property hLeaves hPlace hNode hMember) names
      _).bind
    intro properties
    exact .pure _
  case h_2 => exact .pure _

end Nodes

------------------------------------------------------------
-- References
------------------------------------------------------------

variable {setting : Setting}

/- A reference that was followed is in the journal. -/
theorem mem_targets_of_followReference
    {reference : String}
    {target : NodeKey}
    (hRun : followReference setting reference s = .ok target t) :
    target ∈ t.targets := by
  unfold followReference at hRun
  generalize splitReference reference = parts at hRun
  rcases parts with ⟨id, pointer⟩
  dsimp only at hRun
  rw [get_bind] at hRun
  cases hFind : referenceDocument? setting id reference s with
  | error e u =>
      rw [bind_of_error hFind] at hRun
      cases hRun
  | ok doc u =>
      rw [bind_of_ok hFind, get_bind] at hRun
      cases hTarget : doc.bind (fun doc => targetIn u doc pointer) with
      | none =>
          simp only [hTarget] at hRun
          cases hRun
      | some key =>
          simp only [hTarget] at hRun
          cases hRun
          exact List.mem_filterMap.mpr
            ⟨_, List.mem_cons_self, rfl⟩

/- So is one that was followed in a document. -/
theorem mem_targets_of_inDocument
    {doc : DocId}
    {reference : String}
    {target : NodeKey}
    (hRun :
      inDocument doc (followReference setting reference) s =
        .ok target t) :
    target ∈ t.targets := by
  unfold inDocument at hRun
  by_cases hTop : s.scope.head? = some doc
  · rw [if_pos hTop] at hRun
    exact mem_targets_of_followReference hRun
  · rw [if_neg hTop] at hRun
    cases hInner :
        followReference setting reference
          { s with scope := doc :: s.scope } with
    | error e u =>
        simp only [hInner] at hRun
        cases hRun
    | ok other u =>
        simp only [hInner] at hRun
        cases hRun
        have hMem := mem_targets_of_followReference hInner
        exact hMem

/- The reference of a link is left as it is. -/
theorem linkReference?_omitting
    (hSpares : f.Spares cuts)
    (hLeaves : f.Leaves cuts key)
    (hPlace : key ∈ f.places)
    (hContinues : Continues s f) :
    ∃ o : Omission,
      linkReference? (s.omitting cuts) (key.child "extends") =
        (linkReference? s (key.child "extends")).map o.apply := by
  unfold linkReference?
  rw [State.node?_child, State.node?_child,
    node?_omitting hContinues hLeaves]
  cases hNode : s.node? key with
  | none => exact ⟨.nothing, rfl⟩
  | some node =>
      have hLast := hContinues.node? hNode
      have hNulls := hSpares.onlyNulls hLast
      have hLink := (hSpares.schemas key hPlace node hLast).link
      generalize f.cutAt cuts key = o at hNulls hLink
      rw [Option.map_some, Option.bind_some, Option.bind_some]
      by_cases hOmits : o.omits "extends" = true
      · rcases hNulls.step?_eq hOmits with ⟨hBefore, hAfter⟩
        rw [hBefore, hAfter]
        exact ⟨.nothing, rfl⟩
      · rw [Omission.step?_apply (Bool.eq_false_of_not_eq_true hOmits)]
        cases node.step? "extends" with
        | none => exact ⟨.nothing, rfl⟩
        | some v =>
            have hMember :=
              Omission.member?_apply (o.inside "extends") v "$ref"
            rw [hLink, if_neg Bool.false_ne_true] at hMember
            exact ⟨_, hMember⟩

------------------------------------------------------------
-- Objects
------------------------------------------------------------

section Objects

variable {narrow wide : Resolver}
variable (hSpares : f.Spares cuts)
variable
  (hResolve :
    ∀ key, f.Leaves cuts key →
      Mirrors cuts f (narrow key) (wide key))

include hSpares hResolve

/- Going on from an ancestor that a reference led to. -/
theorem ascend_mirrors
    {below above :
      NodeKey → List NodeKey → Inherited → Compile Inherited}
    {ancestor : NodeKey}
    (hClimb :
      ∀ visited inherited,
        Mirrors cuts f
          (below (ancestor.child "extends") visited inherited)
          (above (ancestor.child "extends") visited inherited))
    (hContinues : Continues s f)
    (hLeaves : f.Leaves cuts ancestor)
    (hPlace : ancestor ∈ f.places)
    (visited : List NodeKey)
    (inherited : Inherited)
    (reference : String) :
    MirrorsAt cuts f s
      (ascend below narrow visited inherited reference ancestor)
      (ascend above wide visited inherited reference ancestor) := by
  unfold ascend
  split
  case isTrue => exact .pure _
  case isFalse =>
    apply MirrorsAt.get
    rw [node?_omitting hContinues hLeaves]
    cases hNode : s.node? ancestor with
    | none => exact .throw _
    | some node =>
        have hLast := hContinues.node? hNode
        have hNulls := hSpares.onlyNulls hLast
        have hNodeSpares := hSpares.schemas ancestor hPlace node hLast
        simp only [Option.map_some,
          addDeclared_apply hNulls hNodeSpares,
          applyRequirements_apply hNulls]
        apply (addDeclared_mirrors hResolve hSpares hLeaves hLast
          hPlace _ _ s).bind
        intro added t _
        apply (applyRequirements_mirrors _ _ t).bind
        intro properties u _
        exact hClimb _ _ u

variable (hKeeps : ∀ key, Keeps Continues (narrow key))

include hKeeps

/- Collecting from ancestors. -/
theorem climb_mirrors
    (steps : Nat)
    (hLeaves : f.Leaves cuts key)
    (hPlace : key ∈ f.places)
    (visited : List NodeKey)
    (inherited : Inherited) :
    Mirrors cuts f
      (climb setting Watch.never narrow steps
        (key.child "extends") visited inherited)
      (climb (setting.omitting cuts) Watch.never wide steps
        (key.child "extends") visited inherited) := by
  induction steps generalizing key visited inherited with
  | zero => exact .throw _
  | succ steps ih =>
      intro s
      have hClimb :=
        climb_keeps Continues.steady setting Watch.never hKeeps
      apply MirrorsAt.of_continues (hClimb _ _ _ _)
      intro hContinues
      rw [climb, climb]
      simp only [followWatched_never]
      apply MirrorsAt.get
      rcases linkReference?_omitting hSpares hLeaves hPlace
        hContinues with ⟨o, hLink⟩
      rw [hLink]
      cases linkReference? s (key.child "extends") with
      | none => exact .pure _
      | some value =>
          cases value with
          | string reference =>
              rw [Option.map_some,
                show o.apply (.string reference) = .string reference
                  by cases o <;> rfl]
              have hFollow :=
                followReference_mirrors setting hSpares.nulls
                  hSpares.references reference
              apply ((hFollow.inDocument _) s).bind
              intro ancestor t hRun
              apply MirrorsAt.of_continues
                (ascend_keeps Continues.steady hKeeps (hClimb steps)
                  _ _ _ _)
              intro hLater
              have hTarget :=
                hLater.mem_targets (mem_targets_of_inDocument hRun)
              have hThere := hSpares.references ancestor hTarget
              have hPlace := mem_places_of_mem_targets hTarget
              exact ascend_mirrors hSpares hResolve
                (ih hThere hPlace) hLater hThere hPlace _ _ _
          | _ => cases o <;> exact .throw _

variable (hLeaves : f.Leaves cuts key)
variable (hPlace : key ∈ f.places)
variable (hNode : f.node? key = some node)

include hLeaves hPlace hNode

/- Collecting the properties of an object node. -/
theorem mergeProperties_mirrors :
    Mirrors cuts f
      (mergeProperties setting Watch.never narrow key node)
      (mergeProperties (setting.omitting cuts) Watch.never wide key
        node) := by
  unfold mergeProperties
  apply (climb_mirrors hSpares hResolve hKeeps _ hLeaves hPlace _
    _).bind
  intro inherited
  apply (addDeclared_mirrors hResolve hSpares hLeaves hNode hPlace _
    _).bind
  intro own
  apply (applyRequirements_mirrors _ _).bind
  intro properties
  exact .pure _

/- Compiling an object node. -/
theorem objectRule_mirrors :
    Mirrors cuts f
      (objectRule setting Watch.never narrow key node)
      (objectRule (setting.omitting cuts) Watch.never wide key
        node) := by
  unfold objectRule
  apply (mergeProperties_mirrors hSpares hResolve hKeeps hLeaves
    hPlace hNode).bind
  intro properties
  apply (unknownKeys_mirrors hResolve hSpares hLeaves hNode).bind
  intro unknown
  apply (Mirrors.congruence.orFault key _).bind
  intro minProperties
  apply (Mirrors.congruence.orFault key _).bind
  intro maxProperties
  exact .pure _

/- Compiling a node with a type. -/
theorem resolveTyped_mirrors
    (type : Json) :
    Mirrors cuts f
      (resolveTyped setting Watch.never narrow key node type)
      (resolveTyped (setting.omitting cuts) Watch.never wide key node
        type) := by
  unfold resolveTyped
  refine Mirrors.bind ?_ (fun rule => pushNode_mirrors _)
  unfold typeRule
  split
  case h_1 =>
    exact arrayRule_mirrors hResolve hSpares hLeaves hNode
  case h_5 =>
    exact objectRule_mirrors hSpares hResolve hKeeps hLeaves hPlace
      hNode
  case h_6 => exact Mirrors.congruence.orFault key _
  case h_8 =>
    change
      Mirrors cuts f (customRule setting.options type)
        (customRule setting.options type)
    unfold customRule
    split
    case h_1 => exact .pure _
    case h_2 => exact .throw _
  all_goals exact .pure _

end Objects

------------------------------------------------------------
-- Kinds
------------------------------------------------------------

section Kinds

variable {narrow wide : Resolver}
variable
  (hResolve :
    ∀ key, f.Leaves cuts key →
      Mirrors cuts f (narrow key) (wide key))

include hResolve

/- Answering a reference. -/
theorem referTo_mirrors
    {target : NodeKey}
    (hTarget : f.Leaves cuts target) :
    Mirrors cuts f (referTo narrow node target)
      (referTo wide node target) := by
  unfold referTo
  apply Mirrors.get
  intro s
  rw [show (s.omitting cuts).progress = s.progress from rfl]
  by_cases hProgress : target ∈ s.progress
  · simp only [if_pos hProgress]
    exact (deferTo_mirrors target).bind (nullable_mirrors node) s
  · simp only [if_neg hProgress]
    exact (hResolve target hTarget).bind (nullable_mirrors node) s

variable (hSpares : f.Spares cuts)
variable (hKeeps : ∀ key, Keeps Continues (narrow key))

include hSpares hKeeps

/- Compiling a node that is a reference. -/
theorem resolveReference_mirrors
    (reference : String) :
    Mirrors cuts f
      (resolveReference setting Watch.never narrow key node
        reference)
      (resolveReference (setting.omitting cuts) Watch.never wide key
        node reference) := by
  unfold resolveReference
  simp only [followWatched_never]
  intro s
  apply (followReference_mirrors setting hSpares.nulls
    hSpares.references reference s).bind
  intro target t hRun
  apply MirrorsAt.of_continues
    (referTo_keeps Continues.steady hKeeps node target)
  intro hContinues
  have hTarget :=
    hSpares.references target
      (hContinues.mem_targets (mem_targets_of_followReference hRun))
  exact referTo_mirrors hResolve hTarget t

variable (hLeaves : f.Leaves cuts key)
variable (hPlace : key ∈ f.places)
variable (hNode : f.node? key = some node)

include hLeaves hPlace hNode

/- Compiling a node by its kind. -/
theorem resolveKind_mirrors
    {kind : Discriminator}
    (hKind : classify node = .ok kind) :
    Mirrors cuts f
      (resolveKind setting Watch.never narrow key node kind)
      (resolveKind (setting.omitting cuts) Watch.never wide key node
        kind) := by
  have hWritten := writtenIn_of_classify hKind
  cases kind with
  | typed type =>
      exact resolveTyped_mirrors hSpares hResolve hKeeps hLeaves
        hPlace hNode type
  | anyOf branches =>
      apply (resolveBranches_mirrors hResolve
        (hSpares.leaves_branches hLeaves hNode hWritten) _ _).bind
      intro ids
      exact pushNode_mirrors _
  | oneOf branches =>
      apply (resolveBranches_mirrors hResolve
        (hSpares.leaves_branches hLeaves hNode hWritten) _ _).bind
      intro ids
      exact pushNode_mirrors _
  | allOf branches =>
      have hList :
          f.node? (key.child "allOf") = some (.array branches) :=
        State.node?_member hNode hWritten
      apply (resolveParts_mirrors hResolve hSpares
        (hSpares.leaves_branches hLeaves hNode hWritten) 0 branches
        ?_).bind
      · intro parts
        exact pushNode_mirrors _
      · intro i item hItem
        rw [Nat.zero_add]
        exact State.node?_item hList hItem
  | reference text =>
      exact resolveReference_mirrors hResolve hSpares hKeeps text
  | listed values => exact pushNode_mirrors _
  | unrecognized => exact pushNode_mirrors _

/- Compiling a node that is found without what is left out. -/
theorem compileNode_mirrors :
    Mirrors cuts f
      (compileNode setting Watch.never narrow key node)
      (compileNode (setting.omitting cuts) Watch.never wide key
        ((f.cutAt cuts key).apply node)) := by
  rw [compileNode_apply (hSpares.onlyNulls hNode)
    (hSpares.schemas key hPlace node hNode)]
  unfold compileNode
  cases hKind : classify node with
  | error fault => exact .throw _
  | ok kind =>
      exact resolveKind_mirrors hResolve hSpares hKeeps hLeaves
        hPlace hNode hKind

end Kinds

------------------------------------------------------------
-- Answers
------------------------------------------------------------

section Answers

variable {narrow wide : Resolver}
variable
  (hResolve :
    ∀ key, f.Leaves cuts key →
      Mirrors cuts f (narrow key) (wide key))
variable (hSpares : f.Spares cuts)
variable (hKeeps : ∀ key, Keeps Continues (narrow key))
variable (hLeaves : f.Leaves cuts key)

include hResolve hSpares hKeeps hLeaves

/- Compiling the node of a key. -/
theorem dispatch_mirrors :
    Mirrors cuts f
      (dispatch setting Watch.never narrow key)
      (dispatch (setting.omitting cuts) Watch.never wide key) := by
  intro s
  let began := Event.began key s.currentDocument?
  have hNoted : Continues s (s.note began) :=
    Continues.steady.noted s began
  apply MirrorsAt.get
  cases hNode : s.node? key with
  | none =>
      apply MirrorsAt.of_note (Continues.steady.throw _)
      intro hContinues
      rw [node?_omitting (hNoted.trans hContinues) hLeaves, hNode]
      apply (note_mirrors began s).bind
      intro _ t _
      exact .throw _
  | some node =>
      have hCompile :
          Keeps Continues
            (compileNode setting Watch.never narrow key node) :=
        Continues.steady.bind
          (Continues.steady.congruence.orFault key _).1
          (fun kind =>
            resolveKind_keeps Continues.steady setting Watch.never
              hKeeps key node kind)
      apply MirrorsAt.of_note hCompile
      intro hContinues
      have hHere := hNoted.trans hContinues
      have hPlace : key ∈ f.places :=
        hContinues.mem_places
          (List.mem_filterMap.mpr ⟨began, List.mem_cons_self, rfl⟩)
      rw [node?_omitting hHere hLeaves, hNode]
      apply (note_mirrors began s).bind
      intro _ t _
      exact compileNode_mirrors hResolve hSpares hKeeps hLeaves
        hPlace (hHere.node? hNode) t

/- Answering a node. -/
theorem resolveStep_mirrors :
    Mirrors cuts f
      (resolveStep setting Watch.never narrow key)
      (resolveStep (setting.omitting cuts) Watch.never wide key) := by
  unfold resolveStep
  apply Mirrors.get
  intro s
  rw [show (s.omitting cuts).resolved = s.resolved from rfl,
    show (s.omitting cuts).progress = s.progress from rfl]
  cases s.resolved.lookup key with
  | some id => exact answer_mirrors key id s
  | none =>
      by_cases hProgress : key ∈ s.progress
      · simp only [if_pos hProgress]
        exact (deferTo_mirrors key).bind (answer_mirrors key) s
      · simp only [if_neg hProgress]
        have hDispatch :
            Mirrors cuts f
              (dispatch setting Watch.never narrow key)
              (dispatch (setting.omitting cuts) Watch.never wide
                key) :=
          dispatch_mirrors hResolve hSpares hKeeps hLeaves
        apply ((hDispatch.inProgress key).inDocument key.doc).bind _ s
        intro id
        apply (remember_mirrors key id).bind
        intro _
        exact answer_mirrors key id

end Answers

/- Answering a node that is kept, at any depth. -/
theorem resolveWithin_mirrors
    (hSpares : f.Spares cuts)
    (setting : Setting)
    (depth : Nat)
    (hLeaves : f.Leaves cuts key) :
    Mirrors cuts f (resolveWithin setting Watch.never depth key)
      (resolveWithin (setting.omitting cuts) Watch.never depth key) := by
  induction depth generalizing key with
  | zero => exact .throw _
  | succ depth ih =>
      rw [resolveWithin_never, resolveWithin_never]
      exact resolveStep_mirrors (fun _ => ih) hSpares
        (resolveWithin_keeps Continues.steady setting Watch.never
          depth)
        hLeaves

------------------------------------------------------------
-- Schemas
------------------------------------------------------------

/- A value that is no text is a schema. -/
theorem loadRoot_eq_loadInline
    {schema : Json}
    (hText : schema.text? = none)
    (setting : Setting)
    (workingDir : Path) :
    loadRoot setting workingDir (.value schema) =
      loadInline setting.options schema := by
  cases schema with
  | string text => cases hText
  | _ => rfl

section Roots

variable (hSpares : f.Spares cuts)
variable (setting : Setting)
variable (workingDir : Path)

include hSpares

/- Storing the document of a path. -/
theorem loadPath_mirrors
    (p : Path) :
    MirrorsAt cuts f State.initial
      (loadPath setting workingDir p)
      (loadPath (setting.omitting cuts) workingDir p) := by
  unfold loadPath
  generalize p.absolutize workingDir = q
  dsimp only
  rw [askLoader_bind, askLoader_bind]
  simp only [Setting.omitting, LoadOutcome.of_omitting]
  apply (note_mirrors _ State.initial).bind
  rintro _ _ ⟨⟩
  simp only [Loader.omitting]
  cases setting.loader.load q with
  | error e => exact .throw _
  | ok found =>
      cases found with
      | none => exact .throw _
      | some schema =>
          have hObject :=
            (Omission.sameShape_apply (cuts (.file q))
              schema).isObject_eq
          simp only [Except.map, Option.map_some, hObject]
          split
          case isFalse => exact .throw _
          case isTrue =>
            apply storeDocument_mirrors rfl
            intro hStored
            simp only [Document.omitting,
              declaredRoot?_apply (hSpares.nulls _ hStored)]

/- Storing the document of an in-memory schema. -/
theorem loadInline_mirrors
    (schema : Json) :
    MirrorsAt cuts f State.initial
      (loadInline setting.options schema)
      (loadInline (setting.omitting cuts).options
        ((cuts .inline).apply schema)) := by
  have hObject :=
    (Omission.sameShape_apply (cuts .inline) schema).isObject_eq
  unfold loadInline
  rw [hObject]
  split
  case isFalse => exact .throw _
  case isTrue =>
    apply storeDocument_mirrors rfl
    intro hStored
    have hRoot := declaredRoot?_apply (hSpares.nulls _ hStored)
    simp only [Document.omitting]
    rw [hRoot]
    rfl

/- Storing the document of a source. -/
theorem loadRoot_mirrors
    (source : Source) :
    MirrorsAt cuts f State.initial
      (loadRoot setting workingDir source)
      (loadRoot (setting.omitting cuts) workingDir
        (source.omitting cuts)) := by
  cases source with
  | path p => exact loadPath_mirrors hSpares setting workingDir p
  | value schema =>
      cases hText : schema.text? with
      | none =>
          have hAlso := Omission.text?_apply (cuts .inline) schema
          rw [hText] at hAlso
          rw [Source.omitting, loadRoot_eq_loadInline hText,
            loadRoot_eq_loadInline hAlso]
          exact loadInline_mirrors hSpares setting schema
      | some text =>
          cases schema with
          | string other =>
              have hSame :
                  (Source.value (.string other)).omitting cuts =
                    .value (.string other) := by
                unfold Source.omitting
                cases cuts .inline <;> rfl
              rw [hSame]
              exact loadPath_mirrors hSpares setting workingDir _
          | _ => cases hText

end Roots

/- Compiling a source. -/
theorem compileSteps_mirrors
    (hSpares : f.Spares cuts)
    (setting : Setting)
    (workingDir : Path)
    (source : Source) :
    MirrorsAt cuts f State.initial
      (compileSteps setting Watch.never workingDir source)
      (compileSteps (setting.omitting cuts) Watch.never workingDir
        (source.omitting cuts)) := by
  unfold compileSteps
  apply (loadRoot_mirrors hSpares setting workingDir source).bind
  intro doc t _
  exact resolveWithin_mirrors hSpares setting _
    (State.leaves_root f doc) t

/- A compilation ends in the state after its steps. -/
theorem compileWith_eq_stateAfter
    (setting : Setting)
    (workingDir : Path)
    (source : Source) :
    (compileWith setting workingDir source).final =
      stateAfter (compileSteps setting Watch.never workingDir source)
        State.initial := by
  unfold compileWith compileWatched stateAfter
  cases compileSteps setting Watch.never workingDir source
    State.initial <;> rfl

end SchemaGraph
