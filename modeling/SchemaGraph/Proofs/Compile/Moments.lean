import Mathlib
import SchemaGraph.Proofs.Compile.Stacks
import SchemaGraph.Proofs.Compile.Tidy
import SchemaGraph.Proofs.Compile.Watching

/-
  The states that a compilation passes through.  Two watches
  are compared, the later of which ends nothing that the
  sooner one does not end: the compilations do the same up
  to a moment at which the sooner watch ends the first one.
  At this moment the state is tidy and the right document is
  on top of the scope, and whatever the second compilation
  does afterwards only adds to that state.

  Main declarations:
    * `Moment.InPlace`
    * `Careful`
    * `Halted`
    * `Precedes`
    * `Precedes.bind`
    * `Precedes.inDocument`
    * `Precedes.finish`
    * `Precedes.congruence`
-/

namespace SchemaGraph

variable {setting : Setting}
variable {s t u : State}
variable {key : NodeKey}
variable {α β : Type}

------------------------------------------------------------
-- Places
------------------------------------------------------------

/- The document of the node on top is on top of the scope. -/
def State.Aligned
    (s : State) : Prop :=
  ∀ top,
    s.progress.head? = some top → s.scope.head? = some top.doc

/- A node, and what its `extends` links were followed to. -/
inductive State.Ancestral
    (s : State)
    (key : NodeKey) : NodeKey → Prop where
  /- The node. -/
  | self : State.Ancestral s key key
  /- The ancestor that a link was followed to. -/
  | further
      (owner ancestor : NodeKey)
      (reference : String)
      (hOwner : State.Ancestral s key owner)
      (hLink :
        linkReference? s (owner.child "extends") =
          some (.string reference))
      (hFollowed :
        Event.followed (some owner.doc) reference (some ancestor) ∈
          s.journal) :
      State.Ancestral s key ancestor

/-
  The place is the node on top of those in progress, or the
  `extends` link of the node or of an ancestor.
-/
def State.WorksAt
    (s : State)
    (place : NodeKey) : Prop :=
  ∃ top,
    s.progress.head? = some top ∧
      (place = top ∨
        ∃ owner,
          s.Ancestral top owner ∧ place = owner.child "extends")

/-
  What is worked on at a moment is in the document on top of
  the scope.
-/
def Moment.InPlace
    (m : Moment)
    (s : State) : Prop :=
  match m with
  | .asked _ => s.Aligned
  | .answered _ => s.Aligned
  | .began key =>
      s.progress.head? = some key ∧ s.scope.head? = some key.doc
  | .linked place reference =>
      s.WorksAt place ∧
        linkReference? s place = some (.string reference) ∧
        s.scope.head? = some place.doc

/- Growth does not depend on the stacks. -/
theorem Grows.restacked
    {v w : State}
    (hGrows : Grows setting s t)
    (hFirst : v.unwound s = v)
    (hSecond : w.unwound t = w) :
    Grows setting v w := by
  rw [← hFirst, ← hSecond]
  exact ⟨hGrows.store, hGrows.graph, hGrows.resolved, hGrows.cells,
    hGrows.journal⟩

/- References that are written somewhere stay written there. -/
theorem Grows.linkReference?
    {link : NodeKey}
    {value : Json}
    (hGrows : Grows setting s t)
    (hLink : linkReference? s link = some value) :
    linkReference? t link = some value := by
  rcases exists_node_of_linkReference? hLink with
    ⟨node, hNode, hText⟩
  simp only [SchemaGraph.linkReference?, hGrows.node? hNode,
    Option.bind_some, hText]

/- Ancestors stay ancestors. -/
theorem State.Ancestral.mono
    {owner : NodeKey}
    (hAncestral : s.Ancestral key owner)
    (hGrows : Grows setting s t) :
    t.Ancestral key owner := by
  induction hAncestral with
  | self => exact .self
  | further owner ancestor reference _ hLink hFollowed ih =>
      exact .further owner ancestor reference ih
        (hGrows.linkReference? hLink)
        (hGrows.journal.subset hFollowed)

/- A tidy state with the right document on top of the scope. -/
structure State.Ready
    (s : State) : Prop where
  tidy : Tidy s
  aligned : s.Aligned

/- Proceeding leads from ready states to ready states. -/
theorem State.Ready.after
    (hReady : s.Ready)
    (hStep : Proceeds setting s t) :
    t.Ready := by
  refine ⟨hStep.tidy, ?_⟩
  intro top hTop
  rw [hStep.progress] at hTop
  rw [hStep.scope]
  exact hReady.aligned top hTop

/- A ready state in which a node is compiled. -/
structure State.Compiles
    (s : State)
    (key : NodeKey) : Prop where
  tidy : Tidy s
  top : s.progress.head? = some key
  scope : s.scope.head? = some key.doc

namespace State.Compiles

/- The node goes on to be compiled. -/
theorem after
    (hCompiles : s.Compiles key)
    (hStep : Proceeds setting s t) :
    t.Compiles key := by
  refine ⟨hStep.tidy, ?_, ?_⟩
  · rw [hStep.progress]
    exact hCompiles.top
  · rw [hStep.scope]
    exact hCompiles.scope

/- The state is ready. -/
theorem ready
    (hCompiles : s.Compiles key) :
    s.Ready := by
  refine ⟨hCompiles.tidy, ?_⟩
  intro top hTop
  rw [hCompiles.top] at hTop
  cases hTop
  exact hCompiles.scope

end State.Compiles

------------------------------------------------------------
-- Careful Programs
------------------------------------------------------------

/-
  A program that succeeds proceeds to a tidy state.  If it
  fails, the stacks are unwound from a tidy state.
-/
def Careful
    (setting : Setting)
    (s : State)
    (program : Compile α) : Prop :=
  match program s with
  | .ok _ t => Proceeds setting s t
  | .error _ t =>
      ∃ u, Tidy u ∧ Grows setting s u ∧ t = s.unwound u

namespace Careful

variable {program : Compile α}

/- A program that is known to succeed. -/
theorem of_ok
    {a : α}
    (hRun : program s = .ok a t)
    (hStep : Proceeds setting s t) :
    Careful setting s program := by
  unfold Careful
  rw [hRun]
  exact hStep

/- A program that is known to fail. -/
theorem of_error
    {e : CompileError}
    (hRun : program s = .error e t)
    (hTidy : Tidy u)
    (hGrows : Grows setting s u)
    (hUnwound : t = s.unwound u) :
    Careful setting s program := by
  unfold Careful
  rw [hRun]
  exact ⟨u, hTidy, hGrows, hUnwound⟩

/- What a successful program did. -/
theorem ok
    {a : α}
    (hCareful : Careful setting s program)
    (hRun : program s = .ok a t) :
    Proceeds setting s t := by
  unfold Careful at hCareful
  rw [hRun] at hCareful
  exact hCareful

/- What a failed program did. -/
theorem error
    {e : CompileError}
    (hCareful : Careful setting s program)
    (hRun : program s = .error e t) :
    ∃ u, Tidy u ∧ Grows setting s u ∧ t = s.unwound u := by
  unfold Careful at hCareful
  rw [hRun] at hCareful
  exact hCareful

/- Failing. -/
theorem throw
    (hTidy : Tidy s)
    (e : CompileError) :
    Careful setting s (MonadExcept.throw e : Compile α) :=
  of_error rfl hTidy (Grows.refl setting s) rfl

/- A careful program only adds, also if it fails. -/
theorem grows
    (hCareful : Careful setting s program) :
    Grows setting s (stateAfter program s) := by
  unfold stateAfter
  cases hRun : program s with
  | ok a t => exact (hCareful.ok hRun).grows
  | error e t =>
      rcases hCareful.error hRun with ⟨u, _, hGrows, rfl⟩
      exact hGrows.trans
        (.of_same rfl rfl rfl rfl (List.suffix_refl _))

end Careful

------------------------------------------------------------
-- Preceding Programs
------------------------------------------------------------

/-
  A watch ended the first program at a moment.  The state of
  the moment is tidy and in place, and the second program
  adds to it.
-/
structure Halted
    (setting : Setting)
    (watch : Watch)
    (s : State)
    (narrow wide : Compile α)
    (m : Moment)
    (u : State)
    (e : CompileError) : Prop where
  heard : watch m u = some e
  tidy : Tidy u
  inPlace : m.InPlace u
  ended : narrow s = .error e (s.unwound u)
  grows : Grows setting u (stateAfter wide s)

/- The same for programs that go on after these. -/
theorem Halted.transfer
    {watch : Watch}
    {narrow wide : Compile α}
    {first second : Compile β}
    {m : Moment}
    {e : CompileError}
    (hHalted : Halted setting watch s narrow wide m u e)
    (hEnded : first t = .error e (t.unwound u))
    (hGrows :
      Grows setting (stateAfter wide s) (stateAfter second t)) :
    Halted setting watch t first second m u e :=
  ⟨hHalted.heard, hHalted.tidy, hHalted.inPlace, hEnded,
    hHalted.grows.trans hGrows⟩

/-
  The second program is careful, and the first one does the
  same unless a watch ends it.
-/
structure Precedes
    (setting : Setting)
    (watch : Watch)
    (s : State)
    (narrow wide : Compile α) : Prop where
  careful : Careful setting s wide
  outcome :
    narrow s = wide s ∨
      ∃ m u e, Halted setting watch s narrow wide m u e

variable {sooner later : Watch}

/- A watch that ends nothing that another one does not end. -/
def Watch.Within
    (later sooner : Watch) : Prop :=
  ∀ m s, sooner m s = none → later m s = none

/- Two watches at once end nothing that the first does not end. -/
theorem Watch.within_both
    (first second : Watch) :
    (first.both second).Within first := by
  intro m s hNone
  simp only [Watch.both, hNone, Option.bind_none]

namespace Precedes

variable {narrow wide : Compile α}
variable {next last : α → Compile β}

/- A careful program without moments. -/
theorem same
    {program : Compile α}
    (hCareful : Careful setting s program) :
    Precedes setting sooner s program program :=
  ⟨hCareful, Or.inl rfl⟩

/- A program without moments that is known to succeed. -/
theorem of_ok
    {program : Compile α}
    {a : α}
    (hRun : program s = .ok a t)
    (hStep : Proceeds setting s t) :
    Precedes setting sooner s program program :=
  same (Careful.of_ok hRun hStep)

/- Doing nothing. -/
theorem pure
    (hTidy : Tidy s)
    (a : α) :
    Precedes setting sooner s (Pure.pure a) (Pure.pure a) :=
  of_ok rfl (Proceeds.refl setting hTidy)

/- Programs that do the same in the state. -/
theorem congr
    {first second : Compile α}
    (hPrecedes : Precedes setting sooner s narrow wide)
    (hNarrow : first s = narrow s)
    (hWide : second s = wide s) :
    Precedes setting sooner s first second := by
  have hAfter : stateAfter second s = stateAfter wide s := by
    unfold stateAfter
    rw [hWide]
  constructor
  · have hCareful := hPrecedes.careful
    unfold Careful at hCareful ⊢
    rw [hWide]
    exact hCareful
  · rcases hPrecedes.outcome with hSame | ⟨m, u, e, hHalted⟩
    · left
      rw [hNarrow, hWide, hSame]
    · refine Or.inr ⟨m, u, e, hHalted.transfer
        (hNarrow.trans hHalted.ended) ?_⟩
      rw [hAfter]
      exact Grows.refl setting _

/- Failing. -/
theorem throw
    (hTidy : Tidy s)
    (e : CompileError) :
    Precedes setting sooner s (MonadExcept.throw e : Compile α)
      (MonadExcept.throw e) :=
  same (Careful.throw hTidy e)

/- One program after another. -/
theorem bind
    (hFirst : Precedes setting sooner s narrow wide)
    (hNext :
      ∀ a t, wide s = .ok a t → Proceeds setting s t →
        Precedes setting sooner t (next a) (last a)) :
    Precedes setting sooner s (narrow >>= next)
      (wide >>= last) := by
  cases hWide : wide s with
  | error e t =>
      have hLast : (wide >>= last) s = .error e t :=
        bind_of_error hWide
      rcases hFirst.careful.error hWide with
        ⟨v, hTidy, hGrows, hUnwound⟩
      refine ⟨Careful.of_error hLast hTidy hGrows hUnwound, ?_⟩
      rcases hFirst.outcome with hSame | ⟨m, u, stop, hHalted⟩
      · left
        rw [hLast]
        exact bind_of_error (hSame.trans hWide)
      · refine Or.inr ⟨m, u, stop, hHalted.transfer
          (bind_of_error hHalted.ended) ?_⟩
        rw [stateAfter_of_error hWide, stateAfter_of_error hLast]
        exact Grows.refl setting t
  | ok a t =>
      have hStep := hFirst.careful.ok hWide
      have hRest := hNext a t hWide hStep
      have hLast : (wide >>= last) s = last a t :=
        bind_of_ok hWide
      have hAfter :
          stateAfter (wide >>= last) s = stateAfter (last a) t := by
        simp only [stateAfter, hLast]
      have hUnwound : ∀ v, t.unwound v = s.unwound v := by
        intro v
        simp only [State.unwound, hStep.scope, hStep.progress]
      constructor
      · cases hEnd : last a t with
        | ok b v =>
            exact Careful.of_ok (hLast.trans hEnd)
              (hStep.trans (hRest.careful.ok hEnd))
        | error e v =>
            rcases hRest.careful.error hEnd with
              ⟨w, hTidy, hGrows, hV⟩
            exact Careful.of_error (hLast.trans hEnd) hTidy
              (hStep.grows.trans hGrows)
              (hV.trans (hUnwound w))
      -- The watch ends the first part, the second one or none.
      · rcases hFirst.outcome with hSame | ⟨m, u, stop, hHalted⟩
        · have hNarrow : (narrow >>= next) s = next a t :=
            bind_of_ok (hSame.trans hWide)
          rcases hRest.outcome with hEqual | ⟨m, u, stop, hHalted⟩
          · left
            rw [hNarrow, hLast, hEqual]
          · refine Or.inr ⟨m, u, stop, hHalted.transfer ?_ ?_⟩
            · rw [hNarrow, hHalted.ended, hUnwound]
            · rw [hAfter]
              exact Grows.refl setting _
        · refine Or.inr ⟨m, u, stop, hHalted.transfer
            (bind_of_error hHalted.ended) ?_⟩
          rw [stateAfter_of_ok hWide, hAfter]
          exact hRest.careful.grows

/- Reading the state. -/
theorem get
    {next last : State → Compile β}
    (hNext : Precedes setting sooner s (next s) (last s)) :
    Precedes setting sooner s
      ((MonadState.get : Compile State) >>= next)
      ((MonadState.get : Compile State) >>= last) :=
  hNext.congr rfl rfl

/- Looking at a moment, with each of the watches. -/
theorem look
    (m : Moment)
    (hWithin : later.Within sooner)
    (hTidy : Tidy s)
    (hInPlace : m.InPlace s) :
    Precedes setting sooner s (SchemaGraph.look sooner m)
      (SchemaGraph.look later m) := by
  have hRefl := Grows.refl setting s
  have hLater := look_run later m s
  have hAfter : stateAfter (SchemaGraph.look later m) s = s := by
    unfold stateAfter
    rw [hLater]
    cases later m s <;> rfl
  constructor
  · cases hHeard : later m s with
    | none =>
        simp only [hHeard] at hLater
        exact Careful.of_ok hLater (Proceeds.refl setting hTidy)
    | some e =>
        simp only [hHeard] at hLater
        exact Careful.of_error hLater hTidy hRefl rfl
  · have hSooner := look_run sooner m s
    cases hHeard : sooner m s with
    | none =>
        left
        rw [hSooner, hLater, hWithin m s hHeard, hHeard]
    | some e =>
        simp only [hHeard] at hSooner
        refine Or.inr ⟨m, s, e, hHeard, hTidy, hInPlace, hSooner, ?_⟩
        rw [hAfter]
        exact hRefl

/- Working with a document on top of the scope. -/
theorem inDocument
    {doc : DocId}
    (hInner :
      ∀ scope, scope.head? = some doc →
        Precedes setting sooner { s with scope := scope } narrow
          wide) :
    Precedes setting sooner s (SchemaGraph.inDocument doc narrow)
      (SchemaGraph.inDocument doc wide) := by
  by_cases hTop : s.scope.head? = some doc
  · have hSame :
        ∀ program : Compile α,
          SchemaGraph.inDocument doc program s = program s := by
      intro program
      simp only [SchemaGraph.inDocument, if_pos hTop]
    exact (hInner s.scope hTop).congr (hSame narrow) (hSame wide)
  · have hPushed := hInner (doc :: s.scope) rfl
    -- The document is put on top, and taken off at the end.
    have hRun :
        ∀ program : Compile α,
          SchemaGraph.inDocument doc program s =
            match program { s with scope := doc :: s.scope } with
            | .ok a t => .ok a { t with scope := t.scope.tail }
            | .error e t =>
                .error e { t with scope := t.scope.tail } := by
      intro program
      exact if_neg hTop
    have hWide := hRun wide
    constructor
    · cases hEnd : wide { s with scope := doc :: s.scope } with
      | ok a t =>
          have hStep := hPushed.careful.ok hEnd
          simp only [hEnd] at hWide
          refine Careful.of_ok hWide
            ⟨hStep.tidy.of_same rfl rfl rfl rfl rfl, ?_, ?_,
              hStep.progress⟩
          · exact hStep.grows.restacked rfl rfl
          · simp only [hStep.scope, List.tail_cons]
      | error e t =>
          rcases hPushed.careful.error hEnd with
            ⟨v, hTidy, hGrows, rfl⟩
          simp only [hEnd] at hWide
          exact Careful.of_error hWide hTidy
            (hGrows.restacked rfl rfl) rfl
    · rcases hPushed.outcome with hSame | ⟨m, u, e, hHalted⟩
      · left
        rw [hRun narrow, hRun wide, hSame]
      · have hNarrow := hRun narrow
        simp only [hHalted.ended] at hNarrow
        have hLeft :
            ∀ t : State,
              Grows setting t { t with scope := t.scope.tail } :=
          fun t => .of_same rfl rfl rfl rfl (List.suffix_refl _)
        refine Or.inr ⟨m, u, e, hHalted.transfer hNarrow ?_⟩
        unfold stateAfter
        rw [hWide]
        cases wide { s with scope := doc :: s.scope } with
        | ok a t => exact hLeft t
        | error e t => exact hLeft t

/-
  Compiling a new node and remembering its validator.  In
  between, the node is neither in progress nor remembered.
-/
theorem finish
    {first second narrow wide : Compile ValidatorId}
    (hInner :
      Precedes setting sooner (s.beginning key) narrow wide)
    (hFirst : first s = finishWith key (narrow (s.beginning key)))
    (hSecond : second s = finishWith key (wide (s.beginning key))) :
    Precedes setting sooner s first second := by
  have hBegun : Grows setting s (s.beginning key) :=
    .of_same rfl rfl rfl rfl (List.suffix_cons _ _)
  cases hEnd : wide (s.beginning key) with
  | error e t =>
      rcases hInner.careful.error hEnd with
        ⟨v, hTidy, hGrows, rfl⟩
      rw [hEnd] at hSecond
      refine ⟨Careful.of_error hSecond hTidy (hBegun.trans hGrows)
        rfl, ?_⟩
      rcases hInner.outcome with hSame | ⟨m, u, stop, hHalted⟩
      · left
        rw [hFirst, hSame, hEnd, hSecond]
      · rw [hHalted.ended] at hFirst
        refine Or.inr ⟨m, u, stop, hHalted.transfer hFirst ?_⟩
        rw [stateAfter_of_error hEnd, stateAfter_of_error hSecond]
        exact .of_same rfl rfl rfl rfl (List.suffix_refl _)
  | ok id t =>
      have hStep := hInner.careful.ok hEnd
      have hTop : t.progress = key :: s.progress := hStep.progress
      have hFinished :
          Grows setting t (t.finishing key s.progress id) :=
        hStep.tidy.grows_finishing hTop id
      rw [hEnd] at hSecond
      have hDone :
          second s = .ok id (t.finishing key s.progress id) := by
        rw [hSecond]
        simp only [finishWith, hTop, List.tail_cons]
      refine ⟨Careful.of_ok hDone
        ⟨hStep.tidy.finishing hTop id,
          (hBegun.trans hStep.grows).trans hFinished, hStep.scope,
          rfl⟩, ?_⟩
      rcases hInner.outcome with hSame | ⟨m, u, stop, hHalted⟩
      · left
        rw [hFirst, hSame, hEnd, hSecond]
      · rw [hHalted.ended] at hFirst
        refine Or.inr ⟨m, u, stop, hHalted.transfer hFirst ?_⟩
        rw [stateAfter_of_ok hEnd, stateAfter_of_ok hDone]
        exact hFinished

/- Preceding is kept by doing one thing after another. -/
theorem congruence :
    Congruence
      (fun _ narrow wide =>
        ∀ s : State, s.Ready →
          Precedes setting sooner s narrow wide) := by
  refine ⟨?_, ?_, ?_⟩
  · intro _ a s hReady
    exact Precedes.pure hReady.tidy a
  · intro _ e s hReady
    exact Precedes.throw hReady.tidy e
  · intro _ _ narrow wide next last hFirst hNext s hReady
    apply (hFirst s hReady).bind
    intro a t _ hStep
    exact hNext a t (hReady.after hStep)

end Precedes

end SchemaGraph
