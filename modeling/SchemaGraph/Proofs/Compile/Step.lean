import Mathlib
import SchemaGraph.Proofs.Compile.Slots
import SchemaGraph.Proofs.Inheritance.Lineage

/-
  The steps of a compilation, with what each of them relies
  on.  Every run of a compilation is a sequence of these
  steps; what one step keeps, a run keeps.

  Main declarations:
    * `Reply`
    * `Rule.Fits`
    * `State.Writes`
    * `Step`
    * `Step.grows`
    * `Reaches`
    * `Run`
-/

namespace SchemaGraph

------------------------------------------------------------
-- Replies
------------------------------------------------------------

/-
  The validator that a node of a kind compiles to.  A
  reference gives what stands for its target; any other kind
  gives a validator of its own, which does not defer.  That
  of an intersection has a part for every slot.
-/
structure ReplyOf
    (setting : Setting)
    (s : State)
    (key : NodeKey)
    (id : ValidatorId)
    (node : Json)
    (kind : Discriminator)
    (v : Validator) : Prop where
  found : s.node? key = some node
  classified : classify node = .ok kind
  validator : s.graph.node? id = some v
  permits : v.presence ≠ .forbidden
  firm : v.presence = .required → ∀ c, v.rule ≠ .deferred c
  solid :
    (∃ text, kind = .reference text) ∨ ∀ c, v.rule ≠ .deferred c
  reference :
    ∀ text, kind = .reference text →
      ∃ target declared,
        Leads setting s key.doc text target ∧
          s.StandsFor target declared ∧
          s.graph.Derives (Validator.orNull (allowsNull node))
            declared id
  object :
    kind = .typed (.string "object") →
      ∃ rule, v.rule = .object rule ∧
        Merged setting s ⟨key, node⟩ rule.properties
  intersection :
    ∀ entries, kind = .allOf entries →
      ∃ parts, v = { rule := .all parts } ∧
        List.Forall₂ s.PartFor (key.slots entries) parts

/- The validator that a node compiles to. -/
def Reply
    (setting : Setting)
    (s : State)
    (key : NodeKey)
    (id : ValidatorId) : Prop :=
  ∃ node kind v, ReplyOf setting s key id node kind v

variable {setting : Setting}
variable {s t u : State}

/- A node goes on to compile to its validator. -/
theorem Reply.mono
    {key : NodeKey}
    {id : ValidatorId}
    (hReply : Reply setting s key id)
    (hGrows : Grows setting s t) :
    Reply setting t key id := by
  rcases hReply with ⟨node, kind, v, hOf⟩
  have hPresent : s.Present key := ⟨node, hOf.found⟩
  refine ⟨node, kind, v, hGrows.node? hOf.found, hOf.classified,
    hGrows.graph.node id v hOf.validator, hOf.permits, hOf.firm,
    hOf.solid, ?_, ?_, ?_⟩
  · intro text hKind
    rcases hOf.reference text hKind with
      ⟨target, declared, hLeads, hStands, hDerives⟩
    exact ⟨target, declared, hGrows.leads hPresent hLeads,
      hStands.mono hGrows, hDerives.mono hGrows.graph⟩
  · intro hKind
    rcases hOf.object hKind with ⟨rule, hRule, hMerged⟩
    exact ⟨rule, hRule, hMerged.mono hGrows hPresent⟩
  · intro entries hKind
    rcases hOf.intersection entries hKind with ⟨parts, hAll, hParts⟩
    exact ⟨parts, hAll,
      hParts.imp (fun _ _ hPart => hPart.mono hGrows)⟩

/- The node of a reply exists. -/
theorem Reply.present
    {key : NodeKey}
    {id : ValidatorId}
    (hReply : Reply setting s key id) :
    s.Present key := by
  rcases hReply with ⟨node, _, _, hOf⟩
  exact ⟨node, hOf.found⟩

/- A node of a known kind compiles to a validator of the kind. -/
theorem Reply.of_kind
    {key : NodeKey}
    {id : ValidatorId}
    {node : Json}
    {kind : Discriminator}
    (hReply : Reply setting s key id)
    (hNode : s.node? key = some node)
    (hKind : classify node = .ok kind) :
    ∃ v, ReplyOf setting s key id node kind v := by
  rcases hReply with ⟨other, same, v, hOf⟩
  have hFound := hOf.found
  rw [hNode] at hFound
  cases hFound
  have hClassified := hOf.classified
  rw [hKind] at hClassified
  cases hClassified
  exact ⟨v, hOf⟩

/- The validator of a reply is in the graph. -/
theorem Reply.lt_size
    {key : NodeKey}
    {id : ValidatorId}
    (hReply : Reply setting s key id) :
    id.index < s.graph.size := by
  rcases hReply with ⟨_, _, _, hOf⟩
  exact Graph.lt_size_of_node? hOf.validator

------------------------------------------------------------
-- Steps
------------------------------------------------------------

/- The graph after the cell of a node is filled, if it has one. -/
def State.filled
    (s : State)
    (key : NodeKey)
    (id : ValidatorId) : Graph :=
  match s.cells.lookup key with
  | some c => (s.graph.fillCell c id).2
  | none => s.graph

/-
  A rule as compiling makes them: the properties of an object
  are in order, and a custom type is a configured one.
-/
structure Rule.Fits
    (options : Options)
    (rule : Rule) : Prop where
  ordered : rule.Ordered
  configured :
    ∀ type, rule = .custom type →
      ∃ name, options.types.lookup name = some type

/- Rules that are neither for objects nor custom types fit. -/
theorem Rule.fits_of_ne
    {options : Options}
    {rule : Rule}
    (hObject : ∀ form, rule ≠ .object form)
    (hCustom : ∀ type, rule ≠ .custom type) :
    rule.Fits options := by
  constructor
  · cases rule with
    | object form => exact absurd rfl (hObject form)
    | _ => trivial
  · intro type hType
    exact absurd hType (hCustom type)

/- The reference is written at a node of the document. -/
def State.Writes
    (s : State)
    (doc : DocId)
    (reference : String) : Prop :=
  ∃ key node,
    key.doc = doc ∧
      s.node? key = some node ∧
      node.member? "$ref" = some (.string reference)

/- What a compilation does in one step. -/
inductive Step
    (setting : Setting) : State → State → Prop where
  /- A document is put on top of the scope. -/
  | entered
      (s : State)
      (doc : DocId) :
      Step setting s { s with scope := doc :: s.scope }
  /- The document on top of the scope is taken off. -/
  | left
      (s : State) :
      Step setting s { s with scope := s.scope.tail }
  /- The loader has no document at a path. -/
  | missed
      (s : State)
      (p : Path)
      (outcome : LoadOutcome)
      (hNormal : p.Normal)
      (hFresh : s.store.byPath? p = none)
      (hLacks : setting.loader.Lacks p)
      (hOutcome : outcome ≠ .found)
      (hSeeks : s.store.Seeks p) :
      Step setting s (s.note (.asked p outcome))
  /- A document of the registry is stored. -/
  | registered
      (s : State)
      (name : String)
      (root : Json)
      (hFresh : s.store.byRegistryId? name = none)
      (hRoot : setting.options.subSchema? name = some root) :
      Step setting s
        { s with
          store :=
            s.store.add
              ⟨root, declaredRoot? root, .registry name⟩ }
  /- A document of the loader is stored. -/
  | loaded
      (s : State)
      (p : Path)
      (root : Json)
      (hNormal : p.Normal)
      (hFresh : s.store.byPath? p = none)
      (hRoot : setting.loader.load p = .ok (some root))
      (hSeeks : s.store.Seeks p) :
      Step setting s
        { s.note (.asked p .found) with
          store := s.store.add ⟨root, p.parent?, .file p⟩ }
  /- A reference is followed. -/
  | followed
      (s : State)
      (doc found : DocId)
      (d : Document)
      (reference : String)
      (hScope : s.scope.head? = some doc)
      (hDoc : s.store.get? doc = some d)
      (hWrites : s.Writes doc reference)
      (hKnown :
        knownDocument? setting s.store doc reference =
          some found) :
      Step setting s
        (s.note
          (.followed (some doc) reference
            (targetIn s found (splitReference reference).2)))
  /- A validator is added. -/
  | pushed
      (s : State)
      (v : Validator)
      (hBelow : s.graph.MentionsBelow s.graph.size v.rule)
      (hFits : v.rule.Fits setting.options) :
      Step setting s { s with graph := (s.graph.push v).2 }
  /- Changed copies of validators are added. -/
  | copied
      (s : State)
      (g : Graph)
      (hCopy : Graph.AddsCopy s.graph g) :
      Step setting s { s with graph := g }
  /- A node in progress that is asked for gets a cell. -/
  | celled
      (s : State)
      (key : NodeKey)
      (hAsks : s.Asks setting key)
      (hProgress : key ∈ s.progress)
      (hFresh : s.cells.lookup key = none) :
      Step setting s
        { s with
          graph := s.graph.newCell.2
          cells := (key, s.graph.newCell.1) :: s.cells }
  /- A node that is asked for is begun. -/
  | began
      (s : State)
      (key : NodeKey)
      (hAsks : s.Asks setting key)
      (hPresent : s.Present key)
      (hScope : s.scope.head? = some key.doc)
      (hProgress : key ∉ s.progress)
      (hResolved : s.resolved.lookup key = none) :
      Step setting s
        { s.note (.began key (some key.doc)) with
          progress := key :: s.progress }
  /- A node is done, and its cell is filled. -/
  | finished
      (s : State)
      (key : NodeKey)
      (rest : List NodeKey)
      (id : ValidatorId)
      (hTop : s.progress = key :: rest)
      (hReply : Reply setting s key id)
      (hResolved : s.resolved.lookup key = none)
      (hEmpty :
        ∀ c, s.cells.lookup key = some c →
          s.graph.cell? c = none) :
      Step setting s
        { s with
          graph := s.filled key id
          resolved := (key, id) :: s.resolved
          progress := rest }
  /- A node is answered. -/
  | answered
      (s : State)
      (key : NodeKey)
      (id : ValidatorId)
      (hStands : s.StandsFor key id) :
      Step setting s (s.note (.answered key id))

/- What a number of steps lead to. -/
abbrev Reaches
    (setting : Setting) : State → State → Prop :=
  Relation.ReflTransGen (Step setting)

/- Without a cell nothing is filled. -/
theorem State.filled_of_none
    {key : NodeKey}
    (id : ValidatorId)
    (hCell : s.cells.lookup key = none) :
    s.filled key id = s.graph := by
  simp only [State.filled, hCell]

/- The cell is set, unless its content would lead back to it. -/
theorem State.filled_of_some
    {key : NodeKey}
    {c : CellId}
    (id : ValidatorId)
    (hCell : s.cells.lookup key = some c) :
    s.filled key id =
      if s.graph.leadsTo id c then
        s.graph
      else
        s.graph.setCell c id := by
  simp only [State.filled, hCell, Graph.fillCell_snd]

/- Filling the cell of a node is growth. -/
theorem State.extends_filled
    {key : NodeKey}
    (id : ValidatorId)
    (hEmpty :
      ∀ c, s.cells.lookup key = some c →
        s.graph.cell? c = none) :
    s.graph.Extends (s.filled key id) := by
  cases hCell : s.cells.lookup key with
  | none =>
      rw [State.filled_of_none id hCell]
      exact Graph.Extends.refl s.graph
  | some c =>
      rw [State.filled_of_some id hCell]
      split
      case isTrue => exact Graph.Extends.refl s.graph
      case isFalse =>
        exact Graph.Extends.setCell id (hEmpty c hCell)

/- States that differ in their stacks and events only. -/
theorem Grows.of_same
    (hStore : t.store = s.store)
    (hGraph : t.graph = s.graph)
    (hResolved : t.resolved = s.resolved)
    (hCells : t.cells = s.cells)
    (hJournal : s.journal <:+ t.journal) :
    Grows setting s t := by
  refine ⟨?_, ?_, ?_, ?_, hJournal⟩
  · rw [hStore]
    exact StoreGrows.refl setting s.store
  · rw [hGraph]
    exact Graph.Extends.refl s.graph
  · intro key id hFound
    rw [hResolved]
    exact hFound
  · intro key c hFound
    rw [hCells]
    exact hFound

/- States that differ in their graphs only. -/
theorem Grows.of_graph
    {g : Graph}
    (hGraph : s.graph.Extends g) :
    Grows setting s { s with graph := g } :=
  ⟨StoreGrows.refl setting s.store, hGraph,
    fun _ _ hFound => hFound, fun _ _ hFound => hFound,
    List.suffix_refl _⟩

/- Every step only adds. -/
theorem Step.grows
    (hStep : Step setting s t) :
    Grows setting s t := by
  cases hStep with
  | entered =>
      exact .of_same rfl rfl rfl rfl (List.suffix_refl _)
  | left =>
      exact .of_same rfl rfl rfl rfl (List.suffix_refl _)
  | missed =>
      exact .of_same rfl rfl rfl rfl (List.suffix_cons _ _)
  | registered name root =>
      exact ⟨StoreGrows.registered setting s.store root _ name,
        Graph.Extends.refl s.graph, fun _ _ hFound => hFound,
        fun _ _ hFound => hFound, List.suffix_refl _⟩
  | loaded p root hNormal _ hRoot =>
      exact ⟨StoreGrows.loaded s.store _ hNormal hRoot,
        Graph.Extends.refl s.graph, fun _ _ hFound => hFound,
        fun _ _ hFound => hFound, List.suffix_cons _ _⟩
  | followed =>
      exact .of_same rfl rfl rfl rfl (List.suffix_cons _ _)
  | pushed v => exact .of_graph (Graph.Extends.push s.graph v)
  | copied g hCopy =>
      exact .of_graph
        (Graph.extends_of_addsCopies
          (Relation.ReflTransGen.single hCopy))
  | celled key _ _ hFresh =>
      exact ⟨StoreGrows.refl setting s.store,
        Graph.Extends.newCell s.graph, fun _ _ hFound => hFound,
        fun _ _ hFound => lookup_of_fresh hFresh hFound,
        List.suffix_refl _⟩
  | began =>
      exact .of_same rfl rfl rfl rfl (List.suffix_cons _ _)
  | finished key rest id _ _ hResolved hEmpty =>
      exact ⟨StoreGrows.refl setting s.store,
        State.extends_filled id hEmpty,
        fun _ _ hFound => lookup_of_fresh hResolved hFound,
        fun _ _ hFound => hFound, List.suffix_refl _⟩
  | answered =>
      exact .of_same rfl rfl rfl rfl (List.suffix_cons _ _)

/- Steps only add. -/
theorem Reaches.grows
    (hReaches : Reaches setting s t) :
    Grows setting s t := by
  induction hReaches with
  | refl => exact Grows.refl setting s
  | tail _ hStep ih => exact ih.trans hStep.grows

------------------------------------------------------------
-- Runs
------------------------------------------------------------

/- Steps that leave the stacks as they were. -/
structure Run
    (setting : Setting)
    (s t : State) : Prop where
  reaches : Reaches setting s t
  scope : t.scope = s.scope
  progress : t.progress = s.progress

namespace Run

/- Doing nothing is a run. -/
theorem refl
    (setting : Setting)
    (s : State) :
    Run setting s s :=
  ⟨Relation.ReflTransGen.refl, rfl, rfl⟩

/- Runs one after another are a run. -/
theorem trans
    (hFirst : Run setting s t)
    (hSecond : Run setting t u) :
    Run setting s u :=
  ⟨hFirst.reaches.trans hSecond.reaches,
    hSecond.scope.trans hFirst.scope,
    hSecond.progress.trans hFirst.progress⟩

/- A step that leaves the stacks alone is a run. -/
theorem single
    (hStep : Step setting s t)
    (hScope : t.scope = s.scope)
    (hProgress : t.progress = s.progress) :
    Run setting s t :=
  ⟨Relation.ReflTransGen.single hStep, hScope, hProgress⟩

/- Runs only add. -/
theorem grows
    (hRun : Run setting s t) :
    Grows setting s t :=
  Reaches.grows hRun.reaches

/- Adding copies is a run. -/
theorem of_addsCopies
    {g : Graph}
    (hCopies : Graph.AddsCopies s.graph g) :
    Run setting s { s with graph := g } := by
  induction hCopies with
  | refl => exact refl setting s
  | @tail mid last _ hCopy ih =>
      exact ih.trans
        (single
          (Step.copied { s with graph := mid } last hCopy)
          rfl rfl)

/- Finding the document of a reference is a run. -/
theorem of_located
    {doc found : DocId}
    {reference : String}
    (hLocated : Located setting s doc reference found t) :
    Run setting s t := by
  cases hLocated with
  | known => exact refl setting s
  | missed p outcome _ hNormal hFresh hLacks hOutcome hSeeks =>
      exact single
        (.missed s p outcome hNormal hFresh hLacks hOutcome hSeeks)
        rfl rfl
  | registered name root _ hFresh hRoot =>
      exact single (.registered s name root hFresh hRoot) rfl rfl
  | loaded p root _ hPath hNormal hFresh hRoot =>
      exact single
        (.loaded s p root hNormal hFresh hRoot
          ⟨doc, reference, hPath⟩)
        rfl rfl

end Run

end SchemaGraph
