import Mathlib
import SchemaGraph.Proofs.Compile.Locality
import SchemaGraph.Proofs.Compile.Watched
import SchemaGraph.Proofs.Json.PointerTexts

/-
  No node is lost.  Every node that a compilation asks for,
  begins or answers, every node or link whose reference it
  follows and every node that a reference leads to is found
  in its document under the text of its pointer.  So there
  is always a node to compile and an ancestor to collect
  from.

  A watch that looks only for what is lost ends nothing: the
  compilation under it is the compilation.

  Main declarations:
    * `State.finds`
    * `Moment.finds`
    * `Watch.astray`
    * `compileWatched_quiet`
    * `Step.finds`
    * `CompileError.Truthful`
    * `compile_nodes_found`
-/

namespace SchemaGraph

variable {setting : Setting}
variable {source : Source}
variable {watch : Watch}
variable {s t : State}
variable {key : NodeKey}

------------------------------------------------------------
-- Lost Nodes
------------------------------------------------------------

/- The document of a key has a value at the text of its pointer. -/
def State.finds
    (s : State)
    (key : NodeKey) : Bool :=
  ((s.store.get? key.doc).bind
    (fun d => d.root.findText? key.pointer.text)).isSome

/- What is worked on at a moment is found, and so is a target. -/
def Moment.finds
    (setting : Setting)
    (s : State) : Moment → Bool
  | .asked key => s.finds key
  | .began key => s.finds key
  | .answered key => s.finds key
  | .linked place reference =>
      s.finds place &&
        match followReference setting reference s with
        | .ok target t => t.finds target
        | .error _ _ => true

/- End a compilation with an error when something is lost. -/
def Watch.astray
    (setting : Setting)
    (e : CompileError) : Watch :=
  fun m s => if m.finds setting s then none else some e

/- A node exists if it is found by the text of its pointer. -/
theorem State.finds_iff :
    s.finds key = true ↔ s.Present key := by
  simp only [finds, Json.findText?_text]
  exact Option.isSome_iff_exists

/- What a reference in a stored document leads to exists. -/
theorem present_of_followReference
    {doc : DocId}
    {d : Document}
    {reference : String}
    {target : NodeKey}
    (hScope : s.scope.head? = some doc)
    (hDoc : s.store.get? doc = some d)
    (hRun : followReference setting reference s = .ok target t) :
    t.Present target := by
  rcases followReference_run setting reference hScope with
    ⟨found, u, hLocated, hSteps⟩
  rw [hRun] at hSteps
  cases hTarget :
      targetIn u found (splitReference reference).2 with
  | none => simp [hTarget] at hSteps
  | some other =>
      simp only [hTarget] at hSteps
      cases hSteps
      rcases exists_get?_of_knownDocument?
        (hLocated.grows.get? hDoc) hLocated.isKnown with
        ⟨e, hStored⟩
      have hPresent : u.Present target :=
        State.present_of_targetIn hStored hTarget
      exact hPresent

/- Where the node of a moment stands nothing is lost. -/
theorem Moment.finds_of_stands
    {m : Moment}
    (hStands : m.Stands setting source s) :
    m.finds setting s = true := by
  cases m with
  | asked key => exact State.finds_iff.mpr hStands
  | began key => exact State.finds_iff.mpr hStands.1
  | answered key => exact State.finds_iff.mpr hStands
  | linked place reference =>
      rcases hStands with ⟨hPresent, hScope⟩
      rcases hPresent.stored with ⟨d, hDoc⟩
      rw [finds, State.finds_iff.mpr hPresent, Bool.true_and]
      cases hRun : followReference setting reference s with
      | error e t => rfl
      | ok target t =>
          exact State.finds_iff.mpr
            (present_of_followReference hScope hDoc hRun)

/- So the watch for what is lost is quiet. -/
theorem Watch.quiet_astray
    (setting : Setting)
    (source : Source)
    (e : CompileError) :
    (Watch.astray setting e).Quiet setting source := by
  intro m s hStands
  exact if_pos (Moment.finds_of_stands hStands)

------------------------------------------------------------
-- Events
------------------------------------------------------------

/- The node that was begun, or that a reference led to, is found. -/
def Event.finds
    (s : State) : Event → Bool
  | .began key _ => s.finds key
  | .followed _ _ (some target) => s.finds target
  | _ => true

/- What was found is found later. -/
theorem Event.finds_mono
    {event : Event}
    (hFinds : event.finds s = true)
    (hGrows : Grows setting s t) :
    event.finds t = true := by
  have hKey :
      ∀ key : NodeKey, s.finds key = true → t.finds key = true := by
    intro key hFound
    exact State.finds_iff.mpr
      (hGrows.present (State.finds_iff.mp hFound))
  unfold Event.finds at hFinds ⊢
  split
  case h_1 key scope => exact hKey key hFinds
  case h_2 scope reference target => exact hKey target hFinds
  case h_3 => rfl

/- What a step begins or reaches is found. -/
theorem Step.finds
    (hStep : Step setting s t)
    (hFinds : ∀ event ∈ s.journal, event.finds s = true) :
    ∀ event ∈ t.journal, event.finds t = true := by
  have hOld : ∀ event ∈ s.journal, event.finds t = true :=
    fun event hMem => Event.finds_mono (hFinds event hMem) hStep.grows
  cases hStep with
  | missed => exact List.forall_mem_cons.mpr ⟨rfl, hOld⟩
  | loaded => exact List.forall_mem_cons.mpr ⟨rfl, hOld⟩
  | answered => exact List.forall_mem_cons.mpr ⟨rfl, hOld⟩
  | began key _ hPresent =>
      exact List.forall_mem_cons.mpr
        ⟨State.finds_iff.mpr hPresent, hOld⟩
  | followed doc found d reference _ hDoc _ hKnown =>
      refine List.forall_mem_cons.mpr ⟨?_, hOld⟩
      cases hTarget :
          targetIn s found (splitReference reference).2 with
      | none => rfl
      | some target =>
          rcases exists_get?_of_knownDocument? hDoc hKnown with
            ⟨e, hStored⟩
          have hPresent : s.Present target :=
            State.present_of_targetIn hStored hTarget
          exact State.finds_iff.mpr hPresent
  | entered => exact hOld
  | left => exact hOld
  | registered => exact hOld
  | pushed => exact hOld
  | copied => exact hOld
  | celled => exact hOld
  | finished => exact hOld

/- So is what steps begin or reach one after another. -/
theorem Reaches.finds
    (hReaches : Reaches setting s t)
    (hFinds : ∀ event ∈ s.journal, event.finds s = true) :
    ∀ event ∈ t.journal, event.finds t = true := by
  induction hReaches with
  | refl => exact hFinds
  | tail _ hStep ih => exact hStep.finds ih

/- Storing the document of a source begins nothing. -/
theorem Opens.finds
    {workingDir : Path}
    (hOpens : Opens setting workingDir source s) :
    ∀ event ∈ s.journal, event.finds s = true := by
  cases hOpens with
  | asked => exact List.forall_mem_singleton.mpr rfl
  | loaded => exact List.forall_mem_singleton.mpr rfl
  | refused => exact fun _ hMem => absurd hMem List.not_mem_nil
  | kept => exact fun _ hMem => absurd hMem List.not_mem_nil

------------------------------------------------------------
-- Errors
------------------------------------------------------------

/-
  An error that tells of a reference tells of one that is
  written in a stored document, and an error that tells of an
  invalid schema gives a place that is found in one.
-/
def CompileError.Truthful
    (final : State) : CompileError → Prop
  | .referenceNotFound reference =>
      ∃ d ∈ final.store.documents, ∃ text node,
        d.root.findText? text = some node ∧
          node.member? "$ref" = some (.string reference)
  | .invalidSchema pointer _ =>
      ∃ d ∈ final.store.documents, ∃ text node,
        pointer = "#" ++ text ∧ d.root.findText? text = some node
  | _ => True

/- The value of a key is found in a stored document. -/
theorem State.exists_findText?
    {node : Json}
    (hNode : s.node? key = some node) :
    ∃ d ∈ s.store.documents,
      d.root.findText? key.pointer.text = some node := by
  rcases Option.bind_eq_some_iff.mp hNode with ⟨d, hDoc, hFound⟩
  refine ⟨d, List.mem_of_getElem? hDoc, ?_⟩
  rw [Json.findText?_text]
  exact hFound

/- An error that the documents bear out is truthful. -/
theorem Justified.truthful
    {e : CompileError}
    (hJustified : Justified setting s e)
    (hStore : t.store = s.store) :
    e.Truthful t := by
  cases e with
  | referenceNotFound reference =>
      rcases hJustified with ⟨key, node, hNode, hText⟩
      rcases State.exists_findText? hNode with ⟨d, hMem, hFound⟩
      rw [CompileError.Truthful, hStore]
      exact ⟨d, hMem, key.pointer.text, node, hFound, hText⟩
  | invalidSchema pointer fault =>
      rcases hJustified with ⟨key, ⟨node, hNode⟩, rfl⟩
      rcases State.exists_findText? hNode with ⟨d, hMem, hFound⟩
      rw [CompileError.Truthful, hStore]
      exact ⟨d, hMem, key.pointer.text, node, rfl, hFound⟩
  | _ => trivial

/- A source that cannot be stored is no matter of documents. -/
theorem CompileError.OfSource.truthful
    {e : CompileError}
    (hSource : e.OfSource)
    (final : State) :
    e.Truthful final := by
  cases e with
  | loadFailure cause => trivial
  | documentNotFound p => trivial
  | invalidArgument cause => trivial
  | _ => cases hSource

------------------------------------------------------------
-- Compilations
------------------------------------------------------------

/-
  Under a quiet watch a compilation fails for its source, or
  for a reason that its documents bear out.
-/
theorem compileWatched_justified
    (hQuiet : watch.Quiet setting source)
    {workingDir : Path}
    {e : CompileError}
    (hFailed :
      (compileWatched setting watch workingDir source).result =
        .error e) :
    e.OfSource ∨ ∃ u, Justified setting u e ∧
      (compileWatched setting watch workingDir source).final.store =
        u.store := by
  unfold compileWatched at hFailed ⊢
  cases hSteps :
      compileSteps setting watch workingDir source State.initial with
  | ok id t =>
      rw [hSteps] at hFailed
      cases hFailed
  | error other t =>
      rw [hSteps] at hFailed
      cases hFailed
      rcases compileSteps_error hSteps with
        ⟨hSource, _⟩ | ⟨_, _, u, _, _, hEnded, rfl⟩
      · exact Or.inl hSource
      · exact Or.inr ⟨u, hEnded.justified hQuiet, rfl⟩

/- The place of an invalid schema is written with a mark. -/
def CompileError.nowhere : CompileError :=
  .invalidSchema "" .extendsNotString

/- No compilation under a quiet watch fails with this error. -/
theorem compileWatched_ne_nowhere
    (hQuiet : watch.Quiet setting source)
    (workingDir : Path) :
    (compileWatched setting watch workingDir source).result ≠
      .error CompileError.nowhere := by
  intro hFailed
  rcases compileWatched_justified hQuiet hFailed with
    hSource | ⟨u, ⟨key, _, hPointer⟩, _⟩
  · exact hSource
  · have hLengths : 0 = (key.fragment).length :=
      congrArg String.length hPointer
    have hMark : "#".length = 1 := rfl
    rw [NodeKey.fragment, String.length_append, hMark] at hLengths
    omega

/- With a quiet watch a compilation is the compilation. -/
theorem compileWatched_quiet
    (hQuiet : watch.Quiet setting source)
    (workingDir : Path) :
    compileWatched setting watch workingDir source =
      compileWith setting workingDir source := by
  -- With the error that cannot be had the watch ends nothing.
  let silent : Watch :=
    fun m s => (watch m s).map (fun _ => CompileError.nowhere)
  have hStill : silent.Quiet setting source := by
    intro m s hStands
    simp only [silent, hQuiet m s hStands, Option.map_none]
  have hSilent :
      ∀ later : Watch, later.Within silent →
        compileWatched setting silent workingDir source =
          compileWatched setting later workingDir source := by
    intro later hWithin
    rcases (compileWatched_outcome setting workingDir source
      hWithin).2 with hSame | ⟨m, u, e, hHeard, hResult, _⟩
    · exact hSame
    · rcases Option.map_eq_some_iff.mp hHeard with ⟨_, _, rfl⟩
      exact absurd hResult
        (compileWatched_ne_nowhere hStill workingDir)
  have hWithin : watch.Within silent :=
    fun m s hNothing => Option.map_eq_none_iff.mp hNothing
  calc compileWatched setting watch workingDir source
      = compileWatched setting silent workingDir source :=
        (hSilent watch hWithin).symm
    _ = compileWith setting workingDir source :=
        hSilent Watch.never (fun _ _ _ => rfl)

/-
  Nothing that a compilation works on is lost: with a watch
  that would end it, by whatever error, when a node that is
  asked for, begun or answered, a place whose reference will
  be followed or the node that the reference leads to is not
  found in its document, the compilation is the same.  So
  there is always a node to begin and an ancestor to collect
  from.  What was begun and what references led to is found
  at the end, too.

  If a compilation fails because of a reference, the
  reference is written, to the letter, in a document that
  was reached.  If it fails because of an invalid schema, the
  error gives a place of such a document.
-/
theorem compile_nodes_found
    (setting : Setting)
    (workingDir : Path)
    (source : Source) :
    let whole := compileWith setting workingDir source
    (∀ e,
      compileWatched setting (Watch.astray setting e) workingDir
        source = whole) ∧
      (∀ event ∈ whole.final.journal,
        event.finds whole.final = true) ∧
      ∀ e, whole.result = .error e → e.Truthful whole.final := by
  intro whole
  refine ⟨fun e => compileWatched_quiet
    (Watch.quiet_astray setting source e) workingDir, ?_, ?_⟩
  · have hOpens := loadRoot_opens setting workingDir source
    rcases compileWith_cases setting workingDir source with
      ⟨e, hLoad⟩ |
        ⟨doc, r, u, earlier, hLoad, _, hReaches, hFinal⟩
    · rw [stateAfter_of_error hLoad] at hOpens
      exact hOpens.finds
    · rw [stateAfter_of_ok hLoad] at hOpens
      rw [show whole.final = earlier.unwound u from hFinal]
      exact fun event hMem =>
        Event.finds_mono (hReaches.finds hOpens.finds event hMem)
          (State.grows_unwound setting earlier u)
  · intro e hFailed
    rcases compileWatched_justified
      (Watch.quiet_never setting source) hFailed with
      hSource | ⟨u, hJustified, hStore⟩
    · exact hSource.truthful _
    · exact hJustified.truthful hStore

end SchemaGraph
