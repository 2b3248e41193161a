import Mathlib
import SchemaGraph.Proofs.Compile.Congruence
import SchemaGraph.Proofs.Compile.Reference

/-
  Budgets bound how deeply nodes nest and how far chains of
  ancestors are climbed, and do nothing else: what ends with
  one budget ends in the same way with any larger one.

  Main declarations:
    * `Sustained`
    * `Sustained.bind`
    * `Sustained.congruence`
    * `climb_sustained`
    * `resolveWithin_sustained`
    * `compileWith_eq_of_le`
-/

namespace SchemaGraph

variable {α β : Type}

/-
  The second program does what the first one does, unless
  the first one has too many nodes.
-/
def Sustained
    (narrow wide : Compile α) : Prop :=
  ∀ s, (∀ t, narrow s ≠ .error .tooManyNodes t) →
    wide s = narrow s

namespace Sustained

/- A program does what it does. -/
theorem refl
    (program : Compile α) :
    Sustained program program :=
  fun _ _ => rfl

/- A program that has too many nodes sustains nothing. -/
theorem throw
    (wide : Compile α) :
    Sustained (MonadExcept.throw CompileError.tooManyNodes)
      wide := by
  intro s hEnds
  exact absurd rfl (hEnds s)

/- One program after another. -/
theorem bind
    {narrow wide : Compile α}
    {next last : α → Compile β}
    (hFirst : Sustained narrow wide)
    (hNext : ∀ a, Sustained (next a) (last a)) :
    Sustained (narrow >>= next) (wide >>= last) := by
  intro s hEnds
  cases hRun : narrow s with
  | error e t =>
      have hNarrow : (narrow >>= next) s = .error e t :=
        bind_of_error hRun
      have hWide : wide s = .error e t := by
        rw [hFirst s ?_, hRun]
        intro u hMany
        rw [hRun] at hMany
        cases hMany
        exact hEnds t hNarrow
      rw [hNarrow]
      exact bind_of_error hWide
  | ok a t =>
      have hNarrow : (narrow >>= next) s = next a t :=
        bind_of_ok hRun
      have hWide : wide s = .ok a t := by
        rw [hFirst s ?_, hRun]
        intro u hMany
        rw [hRun] at hMany
        cases hMany
      rw [hNarrow] at hEnds ⊢
      exact (bind_of_ok hWide).trans (hNext a t hEnds)

/- Reading the state first. -/
theorem get
    {next last : State → Compile β}
    (hNext : ∀ s, Sustained (next s) (last s)) :
    Sustained ((MonadState.get : Compile State) >>= next)
      ((MonadState.get : Compile State) >>= last) :=
  (refl MonadState.get).bind hNext

/- Working with a document on top of the scope. -/
theorem inDocument
    {narrow wide : Compile α}
    (doc : DocId)
    (hInner : Sustained narrow wide) :
    Sustained (SchemaGraph.inDocument doc narrow)
      (SchemaGraph.inDocument doc wide) := by
  intro s hEnds
  unfold SchemaGraph.inDocument at hEnds ⊢
  by_cases hTop : s.scope.head? = some doc
  · simp only [if_pos hTop] at hEnds ⊢
    exact hInner s hEnds
  · simp only [if_neg hTop] at hEnds ⊢
    rw [hInner _ ?_]
    intro t hMany
    rw [hMany] at hEnds
    exact hEnds _ rfl

/- Working with a node in progress. -/
theorem inProgress
    {narrow wide : Compile α}
    (key : NodeKey)
    (hInner : Sustained narrow wide) :
    Sustained (SchemaGraph.inProgress key narrow)
      (SchemaGraph.inProgress key wide) := by
  intro s hEnds
  unfold SchemaGraph.inProgress at hEnds ⊢
  rw [hInner _ ?_]
  intro t hMany
  rw [hMany] at hEnds
  exact hEnds _ rfl

/- Sustaining is kept by doing one thing after another. -/
theorem congruence : Congruence @Sustained :=
  ⟨fun a => refl (Pure.pure a),
    fun e => refl (MonadExcept.throw e),
    fun hFirst hNext => hFirst.bind hNext⟩

end Sustained

------------------------------------------------------------
-- Nodes
------------------------------------------------------------

section Nodes

variable {options : Options}
variable {loader : Loader}
variable {engine : Pattern.Engine}
variable {watch : Watch}
variable {less more : Nat}
variable (hBudget : less ≤ more)
variable {narrow wide : Resolver}
variable (hResolve : ∀ key, Sustained (narrow key) (wide key))

include hResolve

/- Collecting from ancestors with a larger number of steps. -/
theorem climb_sustained
    {few many : Nat}
    (hSteps : few ≤ many)
    (link : NodeKey)
    (visited : List NodeKey)
    (inherited : Inherited) :
    Sustained
      (climb ⟨options, loader, engine, less⟩ watch
        narrow few link visited inherited)
      (climb ⟨options, loader, engine, more⟩ watch
        wide many link visited inherited) := by
  induction few generalizing many link visited inherited with
  | zero => exact Sustained.throw _
  | succ few ih =>
      cases many with
      | zero => omega
      | succ many =>
          rw [climb, climb]
          apply Sustained.get
          intro s
          cases linkReference? s link with
          | none => exact Sustained.refl _
          | some value =>
              cases value with
              | string reference =>
                  apply (Sustained.refl _).bind
                  intro ancestor
                  unfold ascend
                  split
                  case isTrue => exact Sustained.refl _
                  case isFalse =>
                    apply Sustained.get
                    intro t
                    cases t.node? ancestor with
                    | none => exact Sustained.refl _
                    | some node =>
                        have hAdd :=
                          Sustained.congruence.addDeclared hResolve
                            Members.insertNew ancestor node inherited
                        apply hAdd.bind
                        intro added
                        apply (Sustained.refl _).bind
                        intro properties
                        exact ih (by omega) _ _ _
              | null => exact Sustained.refl _
              | bool b => exact Sustained.refl _
              | number k => exact Sustained.refl _
              | array items => exact Sustained.refl _
              | object members => exact Sustained.refl _

/- Compiling a reference node. -/
theorem resolveReference_sustained
    (key : NodeKey)
    (node : Json)
    (reference : String) :
    Sustained
      (resolveReference ⟨options, loader, engine, less⟩ watch narrow
        key node reference)
      (resolveReference ⟨options, loader, engine, more⟩ watch wide
        key node reference) := by
  unfold resolveReference
  refine Sustained.bind (Sustained.refl _) ?_
  intro target
  unfold referTo
  apply Sustained.get
  intro s
  by_cases hProgress : target ∈ s.progress
  · simp only [if_pos hProgress]
    exact Sustained.refl _
  · simp only [if_neg hProgress]
    apply (hResolve _).bind
    intro id
    exact Sustained.refl _

include hBudget

/- Collecting the properties of an object node. -/
theorem mergeProperties_sustained
    (key : NodeKey)
    (node : Json) :
    Sustained
      (mergeProperties ⟨options, loader, engine, less⟩ watch
        narrow key node)
      (mergeProperties ⟨options, loader, engine, more⟩ watch
        wide key node) := by
  unfold mergeProperties
  refine (climb_sustained hResolve (by simpa using hBudget) _ _
    _).bind ?_
  intro inherited
  apply (Sustained.congruence.addDeclared hResolve _ _ _ _).bind
  intro own
  exact Sustained.refl _

/- Compiling an object node. -/
theorem objectRule_sustained
    (key : NodeKey)
    (node : Json) :
    Sustained
      (objectRule ⟨options, loader, engine, less⟩ watch
        narrow key node)
      (objectRule ⟨options, loader, engine, more⟩ watch
        wide key node) := by
  unfold objectRule
  apply (mergeProperties_sustained hBudget hResolve _ _).bind
  intro properties
  apply (Sustained.congruence.unknownKeys hResolve _ _).bind
  intro unknown
  exact Sustained.refl _

/- Compiling a node with a type. -/
theorem resolveTyped_sustained
    (key : NodeKey)
    (node type : Json) :
    Sustained
      (resolveTyped ⟨options, loader, engine, less⟩ watch
        narrow key node type)
      (resolveTyped ⟨options, loader, engine, more⟩ watch
        wide key node type) := by
  unfold resolveTyped
  refine Sustained.bind ?_ (fun rule => Sustained.refl _)
  unfold typeRule
  split
  case h_1 => exact Sustained.congruence.arrayRule hResolve _ _
  case h_5 => exact objectRule_sustained hBudget hResolve _ _
  all_goals exact Sustained.refl _

/- Compiling a node by its kind. -/
theorem resolveKind_sustained
    (key : NodeKey)
    (node : Json)
    (kind : Discriminator) :
    Sustained
      (resolveKind ⟨options, loader, engine, less⟩ watch
        narrow key node kind)
      (resolveKind ⟨options, loader, engine, more⟩ watch
        wide key node kind) := by
  cases kind with
  | typed type =>
      exact resolveTyped_sustained hBudget hResolve key node type
  | anyOf branches =>
      apply (Sustained.congruence.resolveBranches hResolve _ _ _).bind
      intro ids
      exact Sustained.refl _
  | oneOf branches =>
      apply (Sustained.congruence.resolveBranches hResolve _ _ _).bind
      intro ids
      exact Sustained.refl _
  | allOf branches =>
      apply (Sustained.congruence.resolveParts hResolve _ _ _).bind
      intro parts
      exact Sustained.refl _
  | reference text =>
      exact resolveReference_sustained hResolve key node text
  | listed values => exact Sustained.refl _
  | unrecognized => exact Sustained.refl _

/- Compiling the node of a key. -/
theorem dispatch_sustained
    (key : NodeKey) :
    Sustained
      (dispatch ⟨options, loader, engine, less⟩ watch narrow key)
      (dispatch ⟨options, loader, engine, more⟩ watch wide
        key) := by
  unfold dispatch compileBegun
  apply Sustained.get
  intro s
  apply (Sustained.refl _).bind
  intro _
  apply (Sustained.refl _).bind
  intro _
  cases s.node? key with
  | none => exact Sustained.refl _
  | some node =>
      apply (Sustained.refl _).bind
      intro kind
      exact resolveKind_sustained hBudget hResolve key node kind

/- Answering a node. -/
theorem resolveStep_sustained
    (key : NodeKey) :
    Sustained
      (resolveStep ⟨options, loader, engine, less⟩ watch
        narrow key)
      (resolveStep ⟨options, loader, engine, more⟩ watch
        wide key) := by
  unfold resolveStep
  apply Sustained.get
  intro s
  cases s.resolved.lookup key with
  | some id => exact Sustained.refl _
  | none =>
      by_cases hProgress : key ∈ s.progress
      · simp only [if_pos hProgress]
        exact Sustained.refl _
      · simp only [if_neg hProgress]
        refine Sustained.bind ?_ ?_
        · apply Sustained.inDocument
          apply Sustained.inProgress
          exact dispatch_sustained hBudget hResolve key
        · intro id
          exact Sustained.refl _

end Nodes

------------------------------------------------------------
-- Schemas
------------------------------------------------------------

/- Answering a node with a larger budget and more nesting. -/
theorem resolveWithin_sustained
    {options : Options}
    {loader : Loader}
    {engine : Pattern.Engine}
    {watch : Watch}
    {less more few many : Nat}
    (hBudget : less ≤ more)
    (hDepth : few ≤ many)
    (key : NodeKey) :
    Sustained
      (resolveWithin ⟨options, loader, engine, less⟩ watch
        few key)
      (resolveWithin ⟨options, loader, engine, more⟩ watch
        many key) := by
  induction few generalizing many key with
  | zero => exact Sustained.throw _
  | succ few ih =>
      cases many with
      | zero => omega
      | succ many =>
          apply (Sustained.refl _).bind
          intro _
          apply (resolveStep_sustained hBudget
            (fun other => ih (by omega) other) key).bind
          intro id
          exact Sustained.refl _

/- A compilation that ends is the same with any larger budget. -/
theorem compileWith_eq_of_le
    {options : Options}
    {loader : Loader}
    {engine : Pattern.Engine}
    {less more : Nat}
    {workingDir : Path}
    {source : Source}
    (hBudget : less ≤ more)
    (hEnds :
      ∀ t,
        compileSteps ⟨options, loader, engine, less⟩ Watch.never
            workingDir source State.initial ≠
          .error .tooManyNodes t) :
    compileWith ⟨options, loader, engine, more⟩ workingDir source =
      compileWith ⟨options, loader, engine, less⟩ workingDir
        source := by
  have hSteps :
      Sustained
        (compileSteps ⟨options, loader, engine, less⟩ Watch.never
          workingDir source)
        (compileSteps ⟨options, loader, engine, more⟩ Watch.never
          workingDir source) := by
    unfold compileSteps
    refine Sustained.bind (Sustained.refl _) ?_
    intro doc
    exact resolveWithin_sustained hBudget (by simpa using hBudget)
      (NodeKey.root doc)
  simp only [compileWith, compileWatched,
    hSteps State.initial hEnds]

end SchemaGraph
