import Mathlib
import SchemaGraph.Proofs.Compile.Kinds

/-
  Compiling a schema.  Every answer stands for its node, at
  any depth of nesting, and the state stays sound up to the
  end of the compilation.

  Main declarations:
    * `thenRemember_inProgress`
    * `finishNode_ensures`
    * `resolveStep_resolves`
    * `resolveWithin_resolves`
    * `Rooted`
    * `loadRoot_outcome`
    * `compileSteps_ok`
    * `compileSteps_error`
-/

namespace SchemaGraph

variable {setting : Setting}
variable {watch : Watch}
variable {source : Source}
variable {s t : State}
variable {n : Nat}
variable {resolve : Resolver}
variable {key : NodeKey}

------------------------------------------------------------
-- Nodes
------------------------------------------------------------

/- The state in which a node was begun. -/
def State.beginning
    (s : State)
    (key : NodeKey) : State :=
  { s.note (.began key (some key.doc)) with
    progress := key :: s.progress }

/- The state in which the node on top is done. -/
def State.finishing
    (s : State)
    (key : NodeKey)
    (rest : List NodeKey)
    (id : ValidatorId) : State :=
  { s with
    graph := s.filled key id
    resolved := (key, id) :: s.resolved
    progress := rest }

/- Noting that a node is begun, with its document on top. -/
theorem note_began
    (hScope : s.scope.head? = some key.doc) :
    note
        (.began key
          ({ s with
            progress := key :: s.progress } :
              State).currentDocument?)
        { s with progress := key :: s.progress } =
      .ok () (s.beginning key) := by
  simp only [State.currentDocument?, hScope]
  rfl

/- A node is begun, and then compiled. -/
theorem dispatch_run
    (hScope : s.scope.head? = some key.doc) :
    dispatch setting watch resolve key
        { s with progress := key :: s.progress } =
      compileBegun setting watch resolve key (s.node? key)
        (s.beginning key) := by
  unfold dispatch
  rw [get_bind, bind_of_ok (note_began hScope)]
  rfl

/- A node that was begun compiles to its validator. -/
theorem compileBegun_ensures
    {node : Json}
    (hResolve : Resolves setting watch source n resolve)
    (hRoomy : s.Opened key → Roomy setting source n s)
    (hNode : s.node? key = some node)
    (hScope : s.scope.head? = some key.doc)
    (hTop : s.progress.head? = some key) :
    Ensures setting watch source s
      (compileBegun setting watch resolve key (some node))
      (fun id t => Reply setting t key id) := by
  have hStands : (Moment.began key).Stands setting source s :=
    ⟨⟨node, hNode⟩, hTop, n, hRoomy⟩
  unfold compileBegun
  apply (Ensures.look hStands).bind
  rintro _ _ _ rfl
  unfold compileNode
  refine Ensures.bind (orFault_ensures _ ⟨node, hNode⟩) ?_
  rintro kind _ _ ⟨rfl, hKind⟩
  exact resolveKind_ensures hResolve hRoomy hNode hKind hScope hTop

/- A node that is opened when it is begun may nest others. -/
theorem Roomy.begin
    (hRoomy : Roomy setting source (n + 1) s)
    (hSound : Sound setting source (s.beginning key))
    (hOpened : (s.beginning key).Opened key) :
    Roomy setting source n (s.beginning key) := by
  have hDepth := hRoomy.depth
  refine ⟨hSound, ?_, ?_⟩
  · simp only [State.beginning, List.length_cons]
    omega
  · intro other hMem
    rcases List.mem_cons.mp hMem with rfl | hOld
    · exact hOpened
    · exact hRoomy.opened other hOld

/- Run a program and remember what it gives. -/
def thenRemember
    (key : NodeKey)
    (program : Compile ValidatorId) : Compile ValidatorId := do
  let id ← program
  remember key id
  pure id

/- A node that was compiled is done, or the error is passed on. -/
def finishWith
    (key : NodeKey) :
    EStateM.Result CompileError State ValidatorId →
      EStateM.Result CompileError State ValidatorId
  | .ok id t => .ok id (t.finishing key t.progress.tail id)
  | .error e t => .error e { t with progress := t.progress.tail }

/- A node in progress is done when its program is. -/
theorem thenRemember_inProgress
    (key : NodeKey)
    (program : Compile ValidatorId)
    (s : State) :
    thenRemember key (inProgress key program) s =
      finishWith key
        (program { s with progress := key :: s.progress }) := by
  unfold thenRemember
  cases hRun : program { s with progress := key :: s.progress } with
  | error e t =>
      have hInner :
          inProgress key program s =
            .error e { t with progress := t.progress.tail } := by
        simp only [inProgress, hRun]
      exact bind_of_error hInner
  | ok id t =>
      have hInner :
          inProgress key program s =
            .ok id { t with progress := t.progress.tail } := by
        simp only [inProgress, hRun]
      exact bind_of_ok hInner

/- Compile a new node and remember its validator. -/
def finishNode
    (setting : Setting)
    (watch : Watch)
    (resolve : Resolver)
    (key : NodeKey) : Compile ValidatorId :=
  thenRemember key
    (inProgress key (dispatch setting watch resolve key))

/- What finishing a node does, seen from its compilation. -/
theorem finishNode_run
    (setting : Setting)
    (watch : Watch)
    (resolve : Resolver)
    (hScope : s.scope.head? = some key.doc) :
    finishNode setting watch resolve key s =
      finishWith key
        (compileBegun setting watch resolve key (s.node? key)
          (s.beginning key)) := by
  rw [finishNode, thenRemember_inProgress, dispatch_run hScope]

/- A new node is compiled and remembered. -/
theorem finishNode_ensures
    (hResolve : Resolves setting watch source n resolve)
    (hRoomy : Roomy setting source (n + 1) s)
    (hAsks : s.Asks setting key)
    (hPresent : s.Present key)
    (hScope : s.scope.head? = some key.doc)
    (hResolved : s.resolved.lookup key = none)
    (hProgress : key ∉ s.progress) :
    Ensures setting watch source s
      (finishNode setting watch resolve key)
      (fun id t => t.resolved.lookup key = some id) := by
  rcases hPresent with ⟨node, hNode⟩
  have hBegan : Step setting s (s.beginning key) :=
    Step.began s key hAsks ⟨node, hNode⟩ hScope hProgress hResolved
  have hSound := hBegan.sound hRoomy.sound
  have hCompiled :
      Ensures setting watch source (s.beginning key)
        (compileBegun setting watch resolve key (some node))
        (fun id t => Reply setting t key id) :=
    compileBegun_ensures hResolve
      (fun hOpened => hRoomy.begin hSound hOpened) hNode hScope rfl
  have hSteps := finishNode_run setting watch resolve hScope
  rw [hNode] at hSteps
  cases hRun :
      compileBegun setting watch resolve key (some node)
        (s.beginning key) with
  | error e t =>
      rcases hCompiled.error hRun with ⟨u, hReaches, hError, hT⟩
      simp only [hRun, finishWith] at hSteps
      refine Ensures.of_error hSteps
        (Relation.ReflTransGen.head hBegan hReaches) hError ?_
      rw [hT]
      rfl
  | ok id t =>
      rcases hCompiled.ok hRun with ⟨hInner, hReply⟩
      have hTop : t.progress = key :: s.progress := hInner.progress
      have hSoundNow := Reaches.sound hInner.reaches hSound
      have hUnresolved : t.resolved.lookup key = none := by
        apply hSoundNow.nested.unresolved key
        rw [hTop]
        exact List.mem_cons_self
      have hFinished :
          Step setting t (t.finishing key s.progress id) :=
        Step.finished t key s.progress id hTop hReply hUnresolved
          (fun c hCell =>
            hSoundNow.celled.empty_of_unresolved hUnresolved hCell)
      simp only [hRun, finishWith, hTop, List.tail_cons] at hSteps
      refine Ensures.of_ok hSteps ⟨?_, hInner.scope, rfl⟩ ?_
      · exact (Relation.ReflTransGen.head hBegan
          hInner.reaches).tail hFinished
      · simp [State.finishing]

/- Remembering does not depend on the scope. -/
theorem inDocument_remember
    (doc : DocId)
    (key : NodeKey)
    (program : Compile ValidatorId)
    (rest : ValidatorId → Compile ValidatorId) :
    (do
      let id ← inDocument doc program
      remember key id
      rest id) =
      inDocument doc (thenRemember key program) >>= rest := by
  funext s
  by_cases hTop : s.scope.head? = some doc
  · have hSame :
        ∀ step : Compile ValidatorId,
          inDocument doc step s = step s := by
      intro step
      simp only [inDocument, if_pos hTop]
    cases hRun : program s with
    | error e t =>
        have hFinish : thenRemember key program s = .error e t :=
          bind_of_error hRun
        rw [bind_of_error ((hSame _).trans hRun),
          bind_of_error ((hSame _).trans hFinish)]
    | ok id t =>
        have hFinish :
            thenRemember key program s =
              .ok id (t.finishing key t.progress id) :=
          bind_of_ok hRun
        rw [bind_of_ok ((hSame _).trans hRun),
          bind_of_ok ((hSame _).trans hFinish)]
        rfl
  · cases hRun : program { s with scope := doc :: s.scope } with
    | error e t =>
        have hInner :
            inDocument doc program s =
              .error e { t with scope := t.scope.tail } := by
          simp only [inDocument, if_neg hTop, hRun]
        have hOuter :
            inDocument doc (thenRemember key program) s =
              .error e { t with scope := t.scope.tail } := by
          simp only [inDocument, if_neg hTop, thenRemember,
            bind_of_error hRun]
        rw [bind_of_error hInner, bind_of_error hOuter]
    | ok id t =>
        have hInner :
            inDocument doc program s =
              .ok id { t with scope := t.scope.tail } := by
          simp only [inDocument, if_neg hTop, hRun]
        have hFinish :
            thenRemember key program
                { s with scope := doc :: s.scope } =
              .ok id (t.finishing key t.progress id) :=
          bind_of_ok hRun
        have hOuter :
            inDocument doc (thenRemember key program) s =
              .ok id
                { t.finishing key t.progress id with
                  scope := t.scope.tail } := by
          simp only [inDocument, if_neg hTop, hFinish]
          rfl
        rw [bind_of_ok hInner, bind_of_ok hOuter]
        rfl

/- One more level of nesting. -/
theorem resolveStep_resolves
    (hResolve : Resolves setting watch source n resolve) :
    Resolves setting watch source (n + 1)
      (resolveStep setting watch resolve) := by
  intro key s hRoomy hAsks hPresent
  -- An answer that stands for the node is noted.
  have hNote :
      ∀ id r, r.StandsFor key id →
        Ensures setting watch source r (answer key id)
          (fun id t => t.StandsFor key id) := by
    intro id r hStands
    have hStep : Step setting r (r.note (.answered key id)) :=
      Step.answered r key id hStands
    refine Ensures.of_ok (t := r.note (.answered key id)) rfl
      (Run.single hStep rfl rfl) ?_
    exact hStands.mono hStep.grows
  unfold resolveStep
  apply Ensures.get
  cases hResolved : s.resolved.lookup key with
  | some id => exact hNote id s (Or.inl hResolved)
  | none =>
      by_cases hProgress : key ∈ s.progress
      · simp only [if_pos hProgress]
        refine Ensures.bind
          (deferTo_ensures hRoomy.sound.celled hAsks hProgress) ?_
        intro id t _ hStands
        exact hNote id t hStands
      · simp only [if_neg hProgress]
        rw [inDocument_remember key.doc key]
        have hFinish :
            Ensures setting watch source s
              (inDocument key.doc
                (finishNode setting watch resolve key))
              (fun id t => t.resolved.lookup key = some id) := by
          apply Ensures.inDocument
          · intro scope hScope hReaches
            exact finishNode_ensures hResolve
              (hRoomy.of_reaches hReaches rfl) hAsks hPresent
              hScope hResolved hProgress
          · intro id t scope hDone
            exact hDone
        apply hFinish.bind
        intro id t _ hDone
        exact hNote id t (Or.inl hDone)

/- Nodes are compiled as before, or the watch ends it. -/
theorem Resolves.watched
    (hResolve : Resolves setting watch source n resolve) :
    Resolves setting watch source n
      (Resolver.watched watch resolve) := by
  intro key s hRoomy hAsks hPresent
  have hAsked : (Moment.asked key).Stands setting source s :=
    hPresent
  apply (Ensures.look hAsked).bind
  rintro _ _ _ rfl
  refine (hResolve key _ hRoomy hAsks hPresent).bind ?_
  intro id t hRun hStands
  have hAnswered : (Moment.answered key).Stands setting source t :=
    hRun.grows.present hPresent
  apply (Ensures.look hAnswered).bind
  rintro _ _ _ rfl
  exact Ensures.pure hStands

/- Nodes are compiled at any depth of nesting. -/
theorem resolveWithin_resolves
    (setting : Setting)
    (watch : Watch)
    (source : Source)
    (n : Nat) :
    Resolves setting watch source n
      (resolveWithin setting watch n) := by
  induction n with
  | zero =>
      intro key s hRoomy _ _
      exact Ensures.throw hRoomy.positions_of_zero
  | succ n ih => exact (resolveStep_resolves ih).watched

------------------------------------------------------------
-- Schemas
------------------------------------------------------------

/- No reference was followed yet. -/
def State.Unfollowed
    (s : State) : Prop :=
  ∀ scope reference target,
    Event.followed scope reference target ∉ s.journal

/- In the state before anything was done nothing was followed. -/
theorem State.Unfollowed.initial : State.initial.Unfollowed :=
  fun _ _ _ hMem => List.not_mem_nil hMem

/- Asking the loader follows nothing. -/
theorem State.Unfollowed.asked
    (hUnfollowed : s.Unfollowed)
    (p : Path)
    (outcome : LoadOutcome) :
    (s.note (.asked p outcome)).Unfollowed := by
  intro scope reference target hMem
  rcases List.mem_cons.mp hMem with hNew | hOld
  · cases hNew
  · exact hUnfollowed _ _ _ hOld

/- What storing the document of a source ends with. -/
structure Rooted
    (setting : Setting)
    (source : Source)
    (doc : DocId)
    (t : State) : Prop where
  sound : Sound setting source t
  progress : t.progress = []
  resolved : t.resolved = []
  cells : t.cells = []
  graph : t.graph = Graph.empty
  present : t.Present (NodeKey.root doc)
  unfollowed : t.Unfollowed

/- Asking the loader before the first document is stored. -/
theorem Sound.asked
    (hSound : Sound setting source s)
    (p : Path)
    (outcome : LoadOutcome) :
    Sound setting source (s.note (.asked p outcome)) := by
  have hGrows :
      Grows setting s (s.note (.asked p outcome)) :=
    .of_same rfl rfl rfl rfl (List.suffix_cons _ _)
  refine ⟨hSound.sourced, hSound.graph,
    hSound.nested.of_same rfl rfl hGrows,
    hSound.celled.of_same rfl rfl rfl (List.Subset.refl _),
    hSound.truthful.of_same hGrows rfl (Event.Idle.noted trivial)⟩

/- Storing the first document. -/
theorem storeDocument_rooted
    {d : Document}
    (hSound : Sound setting source s)
    (hServed : d.Served setting source)
    (hProgress : s.progress = [])
    (hResolved : s.resolved = [])
    (hCells : s.cells = [])
    (hGraph : s.graph = Graph.empty)
    (hStore : s.store = Store.empty)
    (hUnfollowed : s.Unfollowed)
    (hGrows : StoreGrows setting s.store (s.store.add d)) :
    storeDocument d s =
        .ok ⟨0⟩ { s with store := s.store.add d } ∧
      Rooted setting source ⟨0⟩
        { s with store := s.store.add d } := by
  have hNew : s.store.known? d.origin = none := by
    rw [hStore]
    cases d.origin <;> rfl
  have hStored := storeDocument_of_new hNew
  rw [hStore] at hStored
  refine ⟨by rw [hStore]; exact hStored, ?_, hProgress, hResolved,
    hCells, hGraph, ⟨d.root, ?_⟩, hUnfollowed⟩
  · refine hSound.add hServed ?_
      ⟨hGrows, Graph.Extends.refl s.graph, fun _ _ hFound => hFound,
        fun _ _ hFound => hFound, List.suffix_refl _⟩
    simp [hStore, Store.empty]
  · apply State.node?_root
    simp [Store.get?, Store.add, hStore, Store.empty]

/- The errors of a source that cannot be stored. -/
def CompileError.OfSource : CompileError → Prop
  | .loadFailure _ => True
  | .documentNotFound _ => True
  | .invalidArgument _ => True
  | _ => False

/- What storing the document of a source ends with. -/
def RootOutcome
    (setting : Setting)
    (source : Source)
    (outcome : EStateM.Result CompileError State DocId) : Prop :=
  match outcome with
  | .ok doc t => Rooted setting source doc t
  | .error e t =>
      e.OfSource ∧
        t.graph = Graph.empty ∧
        t.resolved = [] ∧
        t.Unfollowed

/- Storing the document of a path. -/
theorem loadPath_outcome
    (setting : Setting)
    (source : Source)
    (workingDir p : Path) :
    RootOutcome setting source
      (loadPath setting workingDir p State.initial) := by
  have hNormal := Path.normal_absolutize p workingDir
  unfold loadPath
  generalize p.absolutize workingDir = q at hNormal ⊢
  have hAsk := askLoader_run setting.loader State.initial q
  have hAsked := State.Unfollowed.initial.asked q
  cases hLoad : setting.loader.load q with
  | error cause =>
      rw [hLoad] at hAsk
      rw [bind_of_ok hAsk]
      exact ⟨trivial, rfl, rfl, hAsked _⟩
  | ok answer =>
      rw [hLoad] at hAsk
      cases answer with
      | none =>
          rw [bind_of_ok hAsk]
          exact ⟨trivial, rfl, rfl, hAsked _⟩
      | some schema =>
          rw [bind_of_ok hAsk]
          dsimp only [LoadOutcome.of]
          split
          case isTrue =>
            have hSound :=
              (Sound.initial setting source).asked q .found
            have hRooted :=
              storeDocument_rooted
                (d := ⟨schema, declaredRoot? schema <|> q.parent?,
                  .file q⟩)
                hSound ⟨hLoad, hNormal⟩ rfl rfl rfl rfl rfl
                (hAsked _) (StoreGrows.loaded _ _ hNormal hLoad)
            rw [hRooted.1]
            exact hRooted.2
          case isFalse =>
            exact ⟨trivial, rfl, rfl, hAsked _⟩

/- Storing the document of a source. -/
theorem loadRoot_outcome
    (setting : Setting)
    (workingDir : Path)
    (source : Source) :
    RootOutcome setting source
      (loadRoot setting workingDir source State.initial) := by
  unfold loadRoot
  split
  case h_1 p => exact loadPath_outcome setting _ workingDir p
  case h_2 text => exact loadPath_outcome setting _ workingDir ⟨text⟩
  case h_3 schema _ =>
    unfold loadInline
    split
    case isTrue =>
      have hRooted :=
        storeDocument_rooted
          (d := ⟨schema,
            declaredRoot? schema <|> setting.options.baseDir,
            .inline⟩)
          (Sound.initial setting (.value schema)) rfl rfl rfl rfl rfl
          rfl State.Unfollowed.initial
          ⟨List.prefix_append _ _, fun _ _ _ _ => rfl⟩
      rw [hRooted.1]
      exact hRooted.2
    case isFalse =>
      exact ⟨trivial, rfl, rfl, State.Unfollowed.initial⟩

/- The root is compiled with all the room that there is. -/
theorem Rooted.roomy
    {doc : DocId}
    (hRooted : Rooted setting source doc s) :
    Roomy setting source (setting.budget + 1) s := by
  refine ⟨hRooted.sound, ?_, ?_⟩
  · simp [hRooted.progress]
  · intro key hMem
    rw [hRooted.progress] at hMem
    cases hMem

/- The root may be asked for. -/
theorem Rooted.asks
    {doc : DocId}
    (hRooted : Rooted setting source doc s) :
    s.Asks setting (NodeKey.root doc) := by
  intro top hTop
  rw [hRooted.progress] at hTop
  cases hTop

/- A compilation that succeeds. -/
theorem compileSteps_ok
    {workingDir : Path}
    {id : ValidatorId}
    (hSteps :
      compileSteps setting watch workingDir source State.initial =
        .ok id t) :
    ∃ doc r,
      Rooted setting source doc r ∧ Run setting r t ∧
        t.StandsFor (NodeKey.root doc) id := by
  have hRoot := loadRoot_outcome setting workingDir source
  unfold compileSteps at hSteps
  cases hLoad : loadRoot setting workingDir source State.initial with
  | error e r =>
      rw [bind_of_error hLoad] at hSteps
      cases hSteps
  | ok doc r =>
      rw [hLoad] at hRoot
      rw [bind_of_ok hLoad] at hSteps
      have hRooted : Rooted setting source doc r := hRoot
      have hEnsures :=
        resolveWithin_resolves setting watch source
          (setting.budget + 1) (NodeKey.root doc) r hRooted.roomy
          hRooted.asks hRooted.present
      rcases hEnsures.ok hSteps with ⟨hRun, hStands⟩
      exact ⟨doc, r, hRooted, hRun, hStands⟩

/-
  A compilation that fails has no document, or is unwound
  from a state that steps led to, for a reason.
-/
theorem compileSteps_error
    {workingDir : Path}
    {e : CompileError}
    (hSteps :
      compileSteps setting watch workingDir source State.initial =
        .error e t) :
    (e.OfSource ∧ t.graph = Graph.empty ∧ t.resolved = [] ∧
        t.Unfollowed) ∨
      ∃ doc r u,
        Rooted setting source doc r ∧ Reaches setting r u ∧
          Ended setting watch source u e ∧ t = r.unwound u := by
  have hRoot := loadRoot_outcome setting workingDir source
  unfold compileSteps at hSteps
  cases hLoad : loadRoot setting workingDir source State.initial with
  | error e r =>
      rw [hLoad] at hRoot
      rw [bind_of_error hLoad] at hSteps
      cases hSteps
      exact Or.inl hRoot
  | ok doc r =>
      rw [hLoad] at hRoot
      rw [bind_of_ok hLoad] at hSteps
      have hRooted : Rooted setting source doc r := hRoot
      have hEnsures :=
        resolveWithin_resolves setting watch source
          (setting.budget + 1) (NodeKey.root doc) r hRooted.roomy
          hRooted.asks hRooted.present
      rcases hEnsures.error hSteps with ⟨u, hReaches, hError, hLast⟩
      exact Or.inr ⟨doc, r, u, hRooted, hReaches, hError, hLast⟩

end SchemaGraph
