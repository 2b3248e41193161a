import Mathlib
import SchemaGraph.Proofs.Compile.Congruence
import SchemaGraph.Proofs.Compile.Reference
import SchemaGraph.Proofs.Compile.Watching

/-
  What every part of a compilation keeps.  A relation of
  states is steady if it holds of each small change that is
  made, one after another, and ignores what is put on a
  stack and taken off again.  Every program that answers a
  node, started in any state whatever, keeps such a relation,
  also when it ends with an error.

  Main declarations:
    * `stateAfter`
    * `Steady`
    * `Keeps`
    * `Steady.bind`
    * `followReference_keeps`
    * `climb_keeps`
    * `resolveWithin_keeps`
-/

namespace SchemaGraph

variable {α β : Type}

------------------------------------------------------------
-- Steady Relations
------------------------------------------------------------

/- The state that a program ends in, also with an error. -/
def stateAfter
    (program : Compile α)
    (s : State) : State :=
  match program s with
  | .ok _ t => t
  | .error _ t => t

/- The state that a successful program ends in. -/
theorem stateAfter_of_ok
    {program : Compile α}
    {s t : State}
    {a : α}
    (hRun : program s = .ok a t) :
    stateAfter program s = t := by
  simp only [stateAfter, hRun]

/- The state that a failed program ends in. -/
theorem stateAfter_of_error
    {program : Compile α}
    {s t : State}
    {e : CompileError}
    (hRun : program s = .error e t) :
    stateAfter program s = t := by
  simp only [stateAfter, hRun]

/- A relation that holds of what a compilation does to a state. -/
structure Steady
    (Related : State → State → Prop) : Prop where
  refl : ∀ s, Related s s
  trans : ∀ {s t u}, Related s t → Related t u → Related s u
  noted : ∀ s e, Related s (s.note e)
  stored :
    ∀ s d, Related s { s with store := (s.store.insert d).2 }
  built :
    ∀ s graph resolved cells,
      Related s
        { s with graph := graph, resolved := resolved, cells := cells }
  /- What is on top of the scope for a while does not count. -/
  entered :
    ∀ {s t doc},
      Related { s with scope := doc :: s.scope } t →
        Related s { t with scope := t.scope.tail }
  /- Nor does the node that is in progress for a while. -/
  begun :
    ∀ {s t key},
      Related { s with progress := key :: s.progress } t →
        Related s { t with progress := t.progress.tail }

/- The states before and after a program are always related. -/
def Keeps
    (Related : State → State → Prop)
    (program : Compile α) : Prop :=
  ∀ s, Related s (stateAfter program s)

variable {Related : State → State → Prop}

/- Reading the state first. -/
theorem Keeps.get
    {next : State → Compile β}
    (hNext : ∀ s, Keeps Related (next s)) :
    Keeps Related ((MonadState.get : Compile State) >>= next) :=
  fun s => hNext s s

/- What keeps a relation does so twice. -/
theorem Keeps.twice
    {resolve : Resolver}
    (hResolve : ∀ key, Keeps Related (resolve key))
    (key : NodeKey) :
    Keeps Related (resolve key) ∧ Keeps Related (resolve key) :=
  ⟨hResolve key, hResolve key⟩

namespace Steady

variable (hSteady : Steady Related)

include hSteady

/- Doing nothing. -/
theorem pure
    (a : α) :
    Keeps Related (Pure.pure a : Compile α) :=
  fun s => hSteady.refl s

/- Failing. -/
theorem throw
    (e : CompileError) :
    Keeps Related (MonadExcept.throw e : Compile α) :=
  fun s => hSteady.refl s

/- One program after another. -/
theorem bind
    {program : Compile α}
    {next : α → Compile β}
    (hFirst : Keeps Related program)
    (hNext : ∀ a, Keeps Related (next a)) :
    Keeps Related (program >>= next) := by
  intro s
  have hBefore := hFirst s
  cases hRun : program s with
  | error e t =>
      rw [stateAfter_of_error hRun] at hBefore
      rw [stateAfter_of_error (bind_of_error hRun)]
      exact hBefore
  | ok a t =>
      rw [stateAfter_of_ok hRun] at hBefore
      have hRest := hNext a t
      unfold stateAfter at hRest ⊢
      rw [bind_of_ok hRun]
      exact hSteady.trans hBefore hRest

/- Working with a document on top of the scope. -/
theorem inDocument
    {program : Compile α}
    (doc : DocId)
    (hInner : Keeps Related program) :
    Keeps Related (SchemaGraph.inDocument doc program) := by
  intro s
  unfold stateAfter SchemaGraph.inDocument
  by_cases hTop : s.scope.head? = some doc
  · rw [if_pos hTop]
    exact hInner s
  · rw [if_neg hTop]
    have hWithin := hInner { s with scope := doc :: s.scope }
    cases hRun : program { s with scope := doc :: s.scope } with
    | error e t =>
        rw [stateAfter_of_error hRun] at hWithin
        exact hSteady.entered hWithin
    | ok a t =>
        rw [stateAfter_of_ok hRun] at hWithin
        exact hSteady.entered hWithin

/- Working with a node in progress. -/
theorem inProgress
    {program : Compile α}
    (key : NodeKey)
    (hInner : Keeps Related program) :
    Keeps Related (SchemaGraph.inProgress key program) := by
  intro s
  unfold stateAfter SchemaGraph.inProgress
  have hWithin := hInner { s with progress := key :: s.progress }
  cases hRun : program { s with progress := key :: s.progress } with
  | error e t =>
      rw [stateAfter_of_error hRun] at hWithin
      exact hSteady.begun hWithin
  | ok a t =>
      rw [stateAfter_of_ok hRun] at hWithin
      exact hSteady.begun hWithin

/- Steady relations are kept by doing one thing after another. -/
theorem congruence :
    Congruence
      (fun _ first second =>
        Keeps Related first ∧ Keeps Related second) :=
  ⟨fun a => ⟨hSteady.pure a, hSteady.pure a⟩,
    fun e => ⟨hSteady.throw e, hSteady.throw e⟩,
    fun hFirst hNext =>
      ⟨hSteady.bind hFirst.1 (fun a => (hNext a).1),
        hSteady.bind hFirst.2 (fun a => (hNext a).2)⟩⟩

end Steady

------------------------------------------------------------
-- Steps
------------------------------------------------------------

variable (hSteady : Steady Related)

include hSteady

/- Noting an event. -/
theorem note_keeps
    (e : Event) :
    Keeps Related (note e) :=
  fun s => hSteady.noted s e

/- Adding a validator. -/
theorem pushNode_keeps
    (v : Validator) :
    Keeps Related (pushNode v) :=
  fun s => hSteady.built s _ s.resolved s.cells

/- Allowing `null`. -/
theorem allowNull_keeps
    (id : ValidatorId) :
    Keeps Related (allowNull id) :=
  fun s => hSteady.built s _ s.resolved s.cells

/- Applying requirement lists. -/
theorem applyRequirements_keeps
    (node : Json)
    (properties : PropertyMap) :
    Keeps Related
      (applyRequirements node properties) :=
  fun s => hSteady.built s _ s.resolved s.cells

/- Remembering a validator. -/
theorem remember_keeps
    (key : NodeKey)
    (id : ValidatorId) :
    Keeps Related (remember key id) :=
  fun s => hSteady.built s _ _ s.cells

/- Finding or making the cell of a node. -/
theorem cellFor_keeps
    (key : NodeKey) :
    Keeps Related (cellFor key) := by
  intro s
  unfold stateAfter cellFor
  cases hCell : s.cells.lookup key with
  | some c =>
      simp only [modifyGet, MonadStateOf.modifyGet,
        EStateM.modifyGet, hCell]
      exact hSteady.refl s
  | none =>
      simp only [modifyGet, MonadStateOf.modifyGet,
        EStateM.modifyGet, hCell]
      exact hSteady.built s _ s.resolved _

/- Deferring to the cell of a node. -/
theorem deferTo_keeps
    (key : NodeKey) :
    Keeps Related (deferTo key) := by
  unfold deferTo
  apply hSteady.bind (cellFor_keeps hSteady key)
  intro c
  exact pushNode_keeps hSteady _

------------------------------------------------------------
-- References
------------------------------------------------------------

/- Storing a document. -/
theorem storeDocument_keeps
    (d : Document) :
    Keeps Related (storeDocument d) :=
  fun s => hSteady.stored s d

/- Asking the loader. -/
theorem askLoader_keeps
    (loader : Loader)
    (p : Path) :
    Keeps Related (askLoader loader p) :=
  fun s => hSteady.noted s _

variable (setting : Setting)

/- Looking an identifier up in the registry. -/
theorem registryStep_keeps
    (id : String) :
    Keeps Related (registryStep setting id) := by
  unfold registryStep
  split
  case isTrue => exact hSteady.pure _
  case isFalse =>
    unfold registryDocument?
    split
    case h_1 => exact hSteady.pure _
    case h_2 name _ =>
      apply Keeps.get
      intro s
      cases s.store.byRegistryId? name with
      | some doc => exact hSteady.pure _
      | none =>
          cases setting.options.subSchema? name with
          | none => exact hSteady.pure _
          | some root =>
              apply hSteady.bind (storeDocument_keeps hSteady _)
              intro doc
              exact hSteady.pure _

/- Looking a file up. -/
theorem fileStep_keeps
    (id reference : String) :
    Keeps Related (fileStep setting id reference) := by
  unfold fileStep
  split
  case isTrue => exact hSteady.pure _
  case isFalse =>
    unfold fileDocument?
    apply Keeps.get
    intro s
    cases s.currentDocument?.bind (baseDirOf s) with
    | none => exact hSteady.pure _
    | some dir =>
        dsimp only
        cases s.store.byPath?
          (dir.join ⟨fileNameOf id reference⟩).normalize with
        | some doc => exact hSteady.pure _
        | none =>
            apply hSteady.bind (askLoader_keeps hSteady _ _)
            intro answer
            split
            case h_1 =>
              apply hSteady.bind (storeDocument_keeps hSteady _)
              intro doc
              exact hSteady.pure _
            case h_2 => exact hSteady.pure _

/- Finding the document of a reference. -/
theorem referenceDocument?_keeps
    (id reference : String) :
    Keeps Related (referenceDocument? setting id reference) := by
  unfold referenceDocument?
  apply hSteady.bind (registryStep_keeps hSteady setting id)
  intro registered
  cases registered with
  | some doc => exact hSteady.pure _
  | none =>
      apply hSteady.bind (fileStep_keeps hSteady setting id reference)
      intro file
      cases file with
      | some doc => exact hSteady.pure _
      | none =>
          apply Keeps.get
          intro s
          exact hSteady.pure _

/- Following a reference, whether it leads anywhere or not. -/
theorem followReference_keeps
    (reference : String) :
    Keeps Related (followReference setting reference) := by
  unfold followReference
  apply Keeps.get
  intro s
  apply hSteady.bind
    (referenceDocument?_keeps hSteady setting _ reference)
  intro doc
  apply Keeps.get
  intro t
  apply hSteady.bind (note_keeps hSteady _)
  intro _
  split
  case h_1 => exact hSteady.pure _
  case h_2 => exact hSteady.throw _

/- Looking at the state. -/
theorem look_keeps
    (watch : Watch)
    (m : Moment) :
    Keeps Related (look watch m) := by
  intro s
  unfold stateAfter
  rw [look_run]
  cases watch m s with
  | none => exact hSteady.refl s
  | some e => exact hSteady.refl s

variable (watch : Watch)

/- Following the reference that is written at a place. -/
theorem followWatched_keeps
    (place : NodeKey)
    (reference : String) :
    Keeps Related
      (followWatched setting watch place reference) := by
  apply hSteady.bind (look_keeps hSteady watch _)
  intro _
  exact followReference_keeps hSteady setting reference

------------------------------------------------------------
-- Nodes
------------------------------------------------------------

section Nodes

variable {resolve : Resolver}
variable (hResolve : ∀ key, Keeps Related (resolve key))

include hResolve

/- Going on from an ancestor. -/
theorem ascend_keeps
    {climb :
      NodeKey → List NodeKey → Inherited → Compile Inherited}
    (hClimb :
      ∀ link visited inherited,
        Keeps Related (climb link visited inherited))
    (visited : List NodeKey)
    (inherited : Inherited)
    (reference : String)
    (ancestor : NodeKey) :
    Keeps Related
      (ascend climb resolve visited inherited reference
        ancestor) := by
  unfold ascend
  split
  case isTrue => exact hSteady.pure _
  case isFalse =>
    apply Keeps.get
    intro t
    split
    case h_1 => exact hSteady.throw _
    case h_2 node _ =>
      have hAdd :=
        hSteady.congruence.addDeclared (Keeps.twice hResolve)
          Members.insertNew ancestor node inherited
      apply hSteady.bind hAdd.1
      intro added
      apply hSteady.bind (applyRequirements_keeps hSteady _ _)
      intro properties
      exact hClimb _ _ _

/- Collecting from ancestors. -/
theorem climb_keeps
    (steps : Nat)
    (link : NodeKey)
    (visited : List NodeKey)
    (inherited : Inherited) :
    Keeps Related
      (climb setting watch resolve steps link visited
        inherited) := by
  induction steps generalizing link visited inherited with
  | zero => exact hSteady.throw _
  | succ steps ih =>
      rw [climb]
      apply Keeps.get
      intro s
      split
      case h_1 => exact hSteady.pure _
      case h_2 reference _ =>
        apply hSteady.bind
          (hSteady.inDocument link.doc
            (followWatched_keeps hSteady setting watch link
              reference))
        intro ancestor
        exact ascend_keeps hSteady hResolve ih visited inherited
          reference ancestor
      case h_3 => exact hSteady.throw _

/- Collecting the properties of an object node. -/
theorem mergeProperties_keeps
    (key : NodeKey)
    (node : Json) :
    Keeps Related
      (mergeProperties setting watch resolve key node) := by
  unfold mergeProperties
  apply hSteady.bind
    (climb_keeps hSteady setting watch hResolve _ _ _ _)
  intro inherited
  have hAdd :=
    hSteady.congruence.addDeclared (Keeps.twice hResolve)
      Members.insert key node inherited
  apply hSteady.bind hAdd.1
  intro own
  apply hSteady.bind (applyRequirements_keeps hSteady _ _)
  intro properties
  exact hSteady.pure _

/- Compiling an object node. -/
theorem objectRule_keeps
    (key : NodeKey)
    (node : Json) :
    Keeps Related
      (objectRule setting watch resolve key node) := by
  unfold objectRule
  apply hSteady.bind
    (mergeProperties_keeps hSteady setting watch hResolve key node)
  intro properties
  have hUnknown :=
    hSteady.congruence.unknownKeys (Keeps.twice hResolve) key node
  apply hSteady.bind hUnknown.1
  intro unknown
  apply hSteady.bind (hSteady.congruence.orFault key _).1
  intro minProperties
  apply hSteady.bind (hSteady.congruence.orFault key _).1
  intro maxProperties
  exact hSteady.pure _

/- Compiling a node with a type. -/
theorem resolveTyped_keeps
    (key : NodeKey)
    (node type : Json) :
    Keeps Related
      (resolveTyped setting watch resolve key node type) := by
  unfold resolveTyped
  refine hSteady.bind ?_ (fun rule => pushNode_keeps hSteady _)
  unfold typeRule
  split
  case h_1 =>
    have hArray :=
      hSteady.congruence.arrayRule (Keeps.twice hResolve) key node
    exact hArray.1
  case h_5 =>
    exact objectRule_keeps hSteady setting watch hResolve key node
  case h_6 => exact (hSteady.congruence.orFault key _).1
  case h_8 =>
    unfold customRule
    split
    case h_1 => exact hSteady.pure _
    case h_2 => exact hSteady.throw _
  all_goals exact hSteady.pure _

/- Answering a reference. -/
theorem referTo_keeps
    (node : Json)
    (target : NodeKey) :
    Keeps Related (referTo resolve node target) := by
  unfold referTo
  apply Keeps.get
  intro s
  have hNull : ∀ id, Keeps Related (nullable node id) := by
    intro id
    unfold nullable
    split
    case isTrue => exact allowNull_keeps hSteady id
    case isFalse => exact hSteady.pure id
  by_cases hProgress : target ∈ s.progress
  · simp only [if_pos hProgress]
    exact hSteady.bind (deferTo_keeps hSteady target) hNull
  · simp only [if_neg hProgress]
    exact hSteady.bind (hResolve target) hNull

/- Compiling a node by its kind. -/
theorem resolveKind_keeps
    (key : NodeKey)
    (node : Json)
    (kind : Discriminator) :
    Keeps Related
      (resolveKind setting watch resolve key node kind) := by
  have hTwice := Keeps.twice hResolve
  have hCongruence := hSteady.congruence
  cases kind with
  | typed type =>
      exact resolveTyped_keeps hSteady setting watch hResolve key node
        type
  | anyOf branches =>
      apply hSteady.bind
        (hCongruence.resolveBranches hTwice _ _ _).1
      intro ids
      exact pushNode_keeps hSteady _
  | oneOf branches =>
      apply hSteady.bind
        (hCongruence.resolveBranches hTwice _ _ _).1
      intro ids
      exact pushNode_keeps hSteady _
  | allOf branches =>
      apply hSteady.bind (hCongruence.resolveParts hTwice _ _ _).1
      intro parts
      exact pushNode_keeps hSteady _
  | reference text =>
      apply hSteady.bind
        (followWatched_keeps hSteady setting watch key text)
      intro target
      exact referTo_keeps hSteady hResolve node target
  | listed values => exact pushNode_keeps hSteady _
  | unrecognized => exact pushNode_keeps hSteady _

/- Compiling the node of a key. -/
theorem dispatch_keeps
    (key : NodeKey) :
    Keeps Related (dispatch setting watch resolve key) := by
  unfold dispatch compileBegun
  apply Keeps.get
  intro s
  apply hSteady.bind (note_keeps hSteady _)
  intro _
  apply hSteady.bind (look_keeps hSteady watch _)
  intro _
  cases s.node? key with
  | none => exact hSteady.throw _
  | some node =>
      apply hSteady.bind (hSteady.congruence.orFault key _).1
      intro kind
      exact resolveKind_keeps hSteady setting watch hResolve key node
        kind

/- Answering a node. -/
theorem resolveStep_keeps
    (key : NodeKey) :
    Keeps Related (resolveStep setting watch resolve key) := by
  have hNote : ∀ id, Keeps Related (answer key id) := by
    intro id
    apply hSteady.bind (note_keeps hSteady _)
    intro _
    exact hSteady.pure id
  unfold resolveStep
  apply Keeps.get
  intro s
  cases s.resolved.lookup key with
  | some id => exact hNote id
  | none =>
      by_cases hProgress : key ∈ s.progress
      · simp only [if_pos hProgress]
        exact hSteady.bind (deferTo_keeps hSteady key) hNote
      · simp only [if_neg hProgress]
        have hDispatch :=
          hSteady.inDocument key.doc
            (hSteady.inProgress key
              (dispatch_keeps hSteady setting watch hResolve key))
        apply hSteady.bind hDispatch
        intro id
        apply hSteady.bind (remember_keeps hSteady key id)
        intro _
        exact hNote id

end Nodes

/- Answering a node, at any depth. -/
theorem resolveWithin_keeps
    (depth : Nat)
    (key : NodeKey) :
    Keeps Related (resolveWithin setting watch depth key) := by
  induction depth generalizing key with
  | zero => exact hSteady.throw _
  | succ depth ih =>
      apply hSteady.bind (look_keeps hSteady watch _)
      intro _
      apply hSteady.bind
        (resolveStep_keeps hSteady setting watch ih key)
      intro id
      apply hSteady.bind (look_keeps hSteady watch _)
      intro _
      exact hSteady.pure id

end SchemaGraph
