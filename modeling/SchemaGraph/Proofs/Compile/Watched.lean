import Mathlib
import SchemaGraph.Proofs.Compile.Moments
import SchemaGraph.Proofs.Compile.Transparency

/-
  Compilations under watch.  Of two watches the later one
  ends nothing that the sooner one does not end; then every
  program under the sooner watch precedes the program under
  the later one, up to the compilation of a schema.

  Main declarations:
    * `followReference_careful`
    * `climb_precedes`
    * `resolveWithin_precedes`
    * `compile_nodes_once`
    * `compile_stacks_in_place`
-/

namespace SchemaGraph

variable {setting : Setting}
variable {sooner later : Watch}
variable {s t : State}
variable {key : NodeKey}

------------------------------------------------------------
-- Primitive Programs
------------------------------------------------------------

/- Noting an event that begins no node. -/
theorem note_precedes
    {e : Event}
    (hTidy : Tidy s)
    (hOther : e.begun? = none) :
    Precedes setting sooner s (note e) (note e) :=
  Precedes.of_ok rfl (Proceeds.note hTidy hOther)

/- Adding a validator. -/
theorem pushNode_precedes
    (hTidy : Tidy s)
    (v : Validator) :
    Precedes setting sooner s (pushNode v) (pushNode v) :=
  Precedes.of_ok rfl
    (Proceeds.of_graph hTidy (Graph.Extends.push s.graph v) rfl)

/- Making a validator accept `null`. -/
theorem allowNull_precedes
    (hTidy : Tidy s)
    (id : ValidatorId) :
    Precedes setting sooner s (allowNull id) (allowNull id) :=
  Precedes.of_ok rfl
    (Proceeds.of_addsCopies hTidy
      (Graph.allowingNull_addsCopies s.graph id))

/- Applying the requirement lists of a node. -/
theorem applyRequirements_precedes
    (hTidy : Tidy s)
    (node : Json)
    (properties : PropertyMap) :
    Precedes setting sooner s (applyRequirements node properties)
      (applyRequirements node properties) :=
  Precedes.of_ok rfl
    (Proceeds.of_addsCopies hTidy
      (Graph.applyRequirements_addsCopies node s.graph properties))

/- Deferring to the cell of a node. -/
theorem deferTo_precedes
    (hTidy : Tidy s)
    (key : NodeKey) :
    Precedes setting sooner s (deferTo key) (deferTo key) := by
  have hCell :
      Precedes setting sooner s (cellFor key) (cellFor key) := by
    cases hOld : s.cells.lookup key with
    | some c =>
        have hFound : cellFor key s = .ok c s := by
          change EStateM.Result.ok _ _ = _
          simp only [hOld]
        exact Precedes.of_ok hFound (Proceeds.refl setting hTidy)
    | none =>
        have hNew :
            cellFor key s =
              .ok s.graph.newCell.1
                { s with
                  graph := s.graph.newCell.2
                  cells := (key, s.graph.newCell.1) :: s.cells } := by
          change EStateM.Result.ok _ _ = _
          simp only [hOld]
        exact Precedes.of_ok hNew (Proceeds.newCell hTidy hOld)
  unfold deferTo
  apply hCell.bind
  intro c t _ hStep
  exact pushNode_precedes hStep.tidy _

------------------------------------------------------------
-- References
------------------------------------------------------------

/- Following a reference with a document on top of the scope. -/
theorem followReference_careful
    {doc : DocId}
    (hTidy : Tidy s)
    (hScope : s.scope.head? = some doc)
    (reference : String) :
    Careful setting s (followReference setting reference) := by
  rcases followReference_run setting reference hScope with
    ⟨found, t, hLocated, hSteps⟩
  have hFound := Proceeds.of_located hTidy hLocated
  have hNoted :
      Proceeds setting s
        (t.note
          (.followed (some doc) reference
            (targetIn t found (splitReference reference).2))) :=
    hFound.trans (Proceeds.note hFound.tidy rfl)
  cases hTarget :
      targetIn t found (splitReference reference).2 with
  | some target =>
      simp only [hTarget] at hSteps hNoted
      exact Careful.of_ok hSteps hNoted
  | none =>
      simp only [hTarget] at hSteps hNoted
      refine Careful.of_error hSteps hNoted.tidy hNoted.grows ?_
      simp only [State.unwound, State.note, ← hFound.scope,
        ← hFound.progress]

/- A reference that was followed is in the journal. -/
theorem mem_journal_of_followReference
    {doc : DocId}
    {reference : String}
    {target : NodeKey}
    (hScope : s.scope.head? = some doc)
    (hRun : followReference setting reference s = .ok target t) :
    Event.followed (some doc) reference (some target) ∈
      t.journal := by
  rcases followReference_run setting reference hScope with
    ⟨found, u, _, hSteps⟩
  rw [hRun] at hSteps
  cases hTarget :
      targetIn u found (splitReference reference).2 with
  | none => simp [hTarget] at hSteps
  | some other =>
      simp only [hTarget] at hSteps
      cases hSteps
      exact List.mem_cons_self

/- Following a reference that is written at a place. -/
theorem followWatched_precedes
    {place : NodeKey}
    {reference : String}
    (hWithin : later.Within sooner)
    (hTidy : Tidy s)
    (hInPlace : (Moment.linked place reference).InPlace s) :
    Precedes setting sooner s
      (followWatched setting sooner place reference)
      (followWatched setting later place reference) := by
  apply (Precedes.look (.linked place reference) hWithin hTidy
    hInPlace).bind
  intro _ t _ hStep
  apply Precedes.same
  apply followReference_careful hStep.tidy
  rw [hStep.scope]
  exact hInPlace.2.2

/- A reference that was followed under watch is in the journal. -/
theorem mem_journal_of_followWatched
    {watch : Watch}
    {doc : DocId}
    {place target : NodeKey}
    {reference : String}
    (hScope : s.scope.head? = some doc)
    (hRun :
      followWatched setting watch place reference s =
        .ok target t) :
    Event.followed (some doc) reference (some target) ∈
      t.journal := by
  have hLook := look_run watch (.linked place reference) s
  unfold followWatched at hRun
  cases hHeard : watch (.linked place reference) s with
  | some e =>
      simp only [hHeard] at hLook
      rw [bind_of_error hLook] at hRun
      cases hRun
  | none =>
      simp only [hHeard] at hLook
      rw [bind_of_ok hLook] at hRun
      exact mem_journal_of_followReference hScope hRun

/- So is a link that was followed in its document. -/
theorem mem_journal_of_inDocument
    {watch : Watch}
    {place target : NodeKey}
    {reference : String}
    (hRun :
      inDocument place.doc
          (followWatched setting watch place reference) s =
        .ok target t) :
    Event.followed (some place.doc) reference (some target) ∈
      t.journal := by
  unfold inDocument at hRun
  by_cases hTop : s.scope.head? = some place.doc
  · rw [if_pos hTop] at hRun
    exact mem_journal_of_followWatched hTop hRun
  · rw [if_neg hTop] at hRun
    cases hInner :
        followWatched setting watch place reference
          { s with scope := place.doc :: s.scope } with
    | error e v =>
        simp only [hInner] at hRun
        cases hRun
    | ok other v =>
        simp only [hInner] at hRun
        cases hRun
        -- Taking the document off leaves the journal as it is.
        have hThere :
            Event.followed (some place.doc) reference
              (some target) ∈ v.journal :=
          mem_journal_of_followWatched rfl hInner
        exact hThere

/- Following a link of the node on top or of an ancestor. -/
theorem followLink_precedes
    {owner : NodeKey}
    {reference : String}
    (hWithin : later.Within sooner)
    (hCompiles : s.Compiles key)
    (hOwner : s.Ancestral key owner)
    (hLink :
      linkReference? s (owner.child "extends") =
        some (.string reference)) :
    Precedes setting sooner s
      (inDocument (owner.child "extends").doc
        (followWatched setting sooner (owner.child "extends")
          reference))
      (inDocument (owner.child "extends").doc
        (followWatched setting later (owner.child "extends")
          reference)) := by
  apply Precedes.inDocument
  intro scope hScope
  have hGrows : Grows setting s { s with scope := scope } :=
    .of_same rfl rfl rfl rfl (List.suffix_refl _)
  have hWorks :
      State.WorksAt { s with scope := scope }
        (owner.child "extends") :=
    ⟨key, hCompiles.top,
      Or.inr ⟨owner, hOwner.mono hGrows, rfl⟩⟩
  exact followWatched_precedes hWithin
    (hCompiles.tidy.of_same rfl rfl rfl rfl rfl)
    ⟨hWorks, hLink, hScope⟩

------------------------------------------------------------
-- Nodes
------------------------------------------------------------

section Nodes

variable (hWithin : later.Within sooner)
variable {narrow wide : Resolver}
variable
  (hResolve :
    ∀ key s, s.Ready →
      Precedes setting sooner s (narrow key) (wide key))

include hResolve

/-
  Going on from an ancestor of the node on top.  The climb
  on one side precedes the climb on the other.
-/
theorem ascend_precedes
    {first second :
      NodeKey → List NodeKey → Inherited → Compile Inherited}
    {ancestor : NodeKey}
    (hCompiles : s.Compiles key)
    (hAncestor : s.Ancestral key ancestor)
    (hClimb :
      ∀ t visited inherited,
        t.Compiles key →
          t.Ancestral key ancestor →
            Precedes setting sooner t
              (first (ancestor.child "extends") visited inherited)
              (second (ancestor.child "extends") visited
                inherited))
    (visited : List NodeKey)
    (inherited : Inherited)
    (reference : String) :
    Precedes setting sooner s
      (ascend first narrow visited inherited reference ancestor)
      (ascend second wide visited inherited reference
        ancestor) := by
  unfold ascend
  by_cases hSeen : ancestor ∈ visited
  · simp only [if_pos hSeen]
    exact Precedes.pure hCompiles.tidy _
  · simp only [if_neg hSeen]
    apply Precedes.get
    cases hNode : s.node? ancestor with
    | none => exact Precedes.throw hCompiles.tidy _
    | some node =>
        have hAdd :=
          Precedes.congruence.addDeclared hResolve
            Members.insertNew ancestor node inherited s
            hCompiles.ready
        apply hAdd.bind
        intro added t _ hAdded
        have hThere := hCompiles.after hAdded
        apply (applyRequirements_precedes hThere.tidy _ _).bind
        intro properties u _ hApplied
        exact hClimb u _ _ (hThere.after hApplied)
          (hAncestor.mono (hAdded.grows.trans hApplied.grows))

/- Answering a reference. -/
theorem referTo_precedes
    (hReady : s.Ready)
    (node : Json)
    (target : NodeKey) :
    Precedes setting sooner s (referTo narrow node target)
      (referTo wide node target) := by
  have hNull :
      ∀ id (t : State), Tidy t →
        Precedes setting sooner t (nullable node id)
          (nullable node id) := by
    intro id t hTidy
    unfold nullable
    by_cases hAllows : allowsNull node = true
    · simp only [if_pos hAllows]
      exact allowNull_precedes hTidy id
    · simp only [if_neg hAllows]
      exact Precedes.pure hTidy id
  unfold referTo
  apply Precedes.get
  by_cases hProgress : target ∈ s.progress
  · simp only [if_pos hProgress]
    apply (deferTo_precedes hReady.tidy target).bind
    intro id t _ hDeferred
    exact hNull id t hDeferred.tidy
  · simp only [if_neg hProgress]
    apply (hResolve target s hReady).bind
    intro id t _ hResolved
    exact hNull id t hResolved.tidy

include hWithin

/-
  Collecting from ancestors.  Each of them was reached by
  links that were followed, starting at the node on top.
-/
theorem climb_precedes
    {owner : NodeKey}
    (hCompiles : s.Compiles key)
    (hOwner : s.Ancestral key owner)
    (steps : Nat)
    (visited : List NodeKey)
    (inherited : Inherited) :
    Precedes setting sooner s
      (climb setting sooner narrow steps (owner.child "extends")
        visited inherited)
      (climb setting later wide steps (owner.child "extends")
        visited inherited) := by
  induction steps generalizing s owner visited inherited with
  | zero => exact Precedes.throw hCompiles.tidy _
  | succ steps ih =>
      rw [climb, climb]
      apply Precedes.get
      cases hLink : linkReference? s (owner.child "extends") with
      | none => exact Precedes.pure hCompiles.tidy _
      | some value =>
          cases value with
          | string reference =>
              apply (followLink_precedes hWithin hCompiles hOwner
                hLink).bind
              intro ancestor t hRun hStep
              have hThere := hCompiles.after hStep
              have hFollowed := mem_journal_of_inDocument hRun
              have hAncestor : t.Ancestral key ancestor :=
                .further owner ancestor reference
                  (hOwner.mono hStep.grows)
                  (hStep.grows.linkReference? hLink) hFollowed
              exact ascend_precedes hResolve hThere hAncestor
                (fun u visited inherited hAt hFrom =>
                  ih hAt hFrom visited inherited) _ _ _
          | null => exact Precedes.throw hCompiles.tidy _
          | bool b => exact Precedes.throw hCompiles.tidy _
          | number k => exact Precedes.throw hCompiles.tidy _
          | array items => exact Precedes.throw hCompiles.tidy _
          | object members => exact Precedes.throw hCompiles.tidy _

/- Collecting the properties of an object node. -/
theorem mergeProperties_precedes
    (hCompiles : s.Compiles key)
    (node : Json) :
    Precedes setting sooner s
      (mergeProperties setting sooner narrow key node)
      (mergeProperties setting later wide key node) := by
  unfold mergeProperties
  refine (climb_precedes hWithin hResolve hCompiles .self _ _
    _).bind ?_
  intro inherited t _ hClimbed
  have hThere := hCompiles.after hClimbed
  have hAdd :=
    Precedes.congruence.addDeclared hResolve Members.insert key node
      inherited t hThere.ready
  apply hAdd.bind
  intro own u _ hAdded
  have hAfter := hThere.after hAdded
  apply (applyRequirements_precedes hAfter.tidy _ _).bind
  intro properties v _ hApplied
  exact Precedes.pure hApplied.tidy _

/- Compiling an object node. -/
theorem objectRule_precedes
    (hCompiles : s.Compiles key)
    (node : Json) :
    Precedes setting sooner s
      (objectRule setting sooner narrow key node)
      (objectRule setting later wide key node) := by
  unfold objectRule
  apply (mergeProperties_precedes hWithin hResolve hCompiles node).bind
  intro properties t _ hMerged
  have hThere := hCompiles.after hMerged
  have hUnknown :=
    Precedes.congruence.unknownKeys hResolve key node t hThere.ready
  apply hUnknown.bind
  intro unknown u _ hStep
  have hAfter := hThere.after hStep
  apply (Precedes.congruence.orFault key _ u hAfter.ready).bind
  intro minProperties v _ hMin
  have hLast := hAfter.after hMin
  apply (Precedes.congruence.orFault key _ v hLast.ready).bind
  intro maxProperties w _ hMax
  exact Precedes.pure hMax.tidy _

/- Compiling a node with a type. -/
theorem resolveTyped_precedes
    (hCompiles : s.Compiles key)
    (node type : Json) :
    Precedes setting sooner s
      (resolveTyped setting sooner narrow key node type)
      (resolveTyped setting later wide key node type) := by
  have hTidy := hCompiles.tidy
  have hRule :
      Precedes setting sooner s
        (typeRule setting sooner narrow key node type)
        (typeRule setting later wide key node type) := by
    unfold typeRule
    split
    case h_1 =>
      exact Precedes.congruence.arrayRule hResolve key node s
        hCompiles.ready
    case h_5 =>
      exact objectRule_precedes hWithin hResolve hCompiles node
    case h_6 =>
      exact Precedes.congruence.orFault key _ s hCompiles.ready
    case h_8 =>
      unfold customRule
      split
      case h_1 => exact Precedes.pure hTidy _
      case h_2 => exact Precedes.throw hTidy _
    all_goals exact Precedes.pure hTidy _
  unfold resolveTyped
  apply hRule.bind
  intro rule t _ hStep
  exact pushNode_precedes hStep.tidy _

/- Compiling a reference node. -/
theorem resolveReference_precedes
    {node : Json}
    {reference : String}
    (hCompiles : s.Compiles key)
    (hNode : s.node? key = some node)
    (hText : node.member? "$ref" = some (.string reference)) :
    Precedes setting sooner s
      (resolveReference setting sooner narrow key node
        reference)
      (resolveReference setting later wide key node
        reference) := by
  have hWritten :
      linkReference? s key = some (.string reference) := by
    simp only [linkReference?, hNode, Option.bind_some, hText]
  unfold resolveReference
  refine (followWatched_precedes hWithin hCompiles.tidy
    ⟨⟨key, hCompiles.top, Or.inl rfl⟩, hWritten,
      hCompiles.scope⟩).bind ?_
  intro target t _ hStep
  exact referTo_precedes hResolve (hCompiles.after hStep).ready
    node target

/- Compiling a node by its kind. -/
theorem resolveKind_precedes
    {node : Json}
    {kind : Discriminator}
    (hCompiles : s.Compiles key)
    (hNode : s.node? key = some node)
    (hKind : classify node = .ok kind) :
    Precedes setting sooner s
      (resolveKind setting sooner narrow key node kind)
      (resolveKind setting later wide key node kind) := by
  have hReady := hCompiles.ready
  have hWritten := writtenIn_of_classify hKind
  cases kind with
  | typed type =>
      exact resolveTyped_precedes hWithin hResolve hCompiles
        node type
  | anyOf branches =>
      apply (Precedes.congruence.resolveBranches hResolve _ _ _ s
        hReady).bind
      intro ids t _ hStep
      exact pushNode_precedes hStep.tidy _
  | oneOf branches =>
      apply (Precedes.congruence.resolveBranches hResolve _ _ _ s
        hReady).bind
      intro ids t _ hStep
      exact pushNode_precedes hStep.tidy _
  | allOf branches =>
      apply (Precedes.congruence.resolveParts hResolve _ _ _ s
        hReady).bind
      intro parts t _ hStep
      exact pushNode_precedes hStep.tidy _
  | reference text =>
      exact resolveReference_precedes hWithin hResolve
        hCompiles hNode hWritten
  | listed values => exact pushNode_precedes hCompiles.tidy _
  | unrecognized => exact pushNode_precedes hCompiles.tidy _

/- Compiling the node of a key that was begun. -/
theorem compileBegun_precedes
    (hCompiles : s.Compiles key) :
    Precedes setting sooner s
      (compileBegun setting sooner narrow key (s.node? key))
      (compileBegun setting later wide key (s.node? key)) := by
  unfold compileBegun
  apply (Precedes.look (.began key) hWithin hCompiles.tidy
    ⟨hCompiles.top, hCompiles.scope⟩).bind
  intro _ t _ hLook
  have hThere := hCompiles.after hLook
  cases hNode : s.node? key with
  | none => exact Precedes.throw hThere.tidy _
  | some node =>
      have hNodeNow := hLook.grows.node? hNode
      dsimp only [compileNode]
      cases hKind : classify node with
      | error fault => exact Precedes.throw hThere.tidy _
      | ok kind =>
          exact resolveKind_precedes hWithin hResolve hThere
            hNodeNow hKind

end Nodes

/- Answering a node, under two watches. -/
theorem resolveStep_precedes
    {narrow wide : Resolver}
    (hWithin : later.Within sooner)
    (hResolve :
      ∀ key s, s.Ready →
        Precedes setting sooner s (narrow key) (wide key))
    (hReady : s.Ready)
    (key : NodeKey) :
    Precedes setting sooner s
      (resolveStep setting sooner narrow key)
      (resolveStep setting later wide key) := by
  have hNote :
      ∀ id (t : State), Tidy t →
        Precedes setting sooner t (answer key id)
          (answer key id) := by
    intro id t hTidy
    apply (note_precedes hTidy rfl).bind
    intro _ u _ hNoted
    exact Precedes.pure hNoted.tidy id
  unfold resolveStep
  apply Precedes.get
  cases hResolved : s.resolved.lookup key with
  | some id => exact hNote id s hReady.tidy
  | none =>
      by_cases hProgress : key ∈ s.progress
      · simp only [if_pos hProgress]
        apply (deferTo_precedes hReady.tidy key).bind
        intro id t _ hStep
        exact hNote id t hStep.tidy
      · simp only [if_neg hProgress]
        rw [inDocument_remember key.doc key,
          inDocument_remember key.doc key]
        refine Precedes.bind ?_ ?_
        · apply Precedes.inDocument
          intro scope hScope
          have hTidy : Tidy { s with scope := scope } :=
            hReady.tidy.of_same rfl rfl rfl rfl rfl
          have hCompiles :
              (State.beginning { s with scope := scope }
                key).Compiles key :=
            ⟨hTidy.beginning hProgress hResolved, rfl, hScope⟩
          exact Precedes.finish
            (compileBegun_precedes hWithin hResolve hCompiles)
            (finishNode_run setting sooner narrow hScope)
            (finishNode_run setting later wide hScope)
        · intro id t _ hStep
          exact hNote id t hStep.tidy

/- Answering a node at any depth, under two watches. -/
theorem resolveWithin_precedes
    (hWithin : later.Within sooner)
    (depth : Nat)
    (key : NodeKey)
    (s : State)
    (hReady : s.Ready) :
    Precedes setting sooner s
      (resolveWithin setting sooner depth key)
      (resolveWithin setting later depth key) := by
  induction depth generalizing key s with
  | zero => exact Precedes.throw hReady.tidy _
  | succ depth ih =>
      rw [resolveWithin, resolveWithin]
      apply (Precedes.look (.asked key) hWithin hReady.tidy
        hReady.aligned).bind
      intro _ t _ hAsked
      have hThere := hReady.after hAsked
      apply (resolveStep_precedes hWithin ih hThere key).bind
      intro id u _ hAnswered
      have hAfter := hThere.after hAnswered
      apply (Precedes.look (.answered key) hWithin hAfter.tidy
        hAfter.aligned).bind
      intro _ v _ hLook
      exact Precedes.pure hLook.tidy id

------------------------------------------------------------
-- Schemas
------------------------------------------------------------

/- A state without stacks is the state of its own unwinding. -/
theorem State.eq_unwound_initial
    (hStacks : s.stacks = State.initial.stacks) :
    s = State.initial.unwound s := by
  have hScope : s.scope = [] := congrArg Prod.fst hStacks
  have hProgress : s.progress = [] := congrArg Prod.snd hStacks
  cases s
  simp only at hScope hProgress
  subst hScope hProgress
  rfl

/-
  What a compilation under watch ends with: what the
  compilation under a later watch ends with, or the state of
  a moment at which the watch ended it.
-/
theorem compileWatched_outcome
    (setting : Setting)
    (workingDir : Path)
    (source : Source)
    (hWithin : later.Within sooner) :
    let first := compileWatched setting sooner workingDir source
    let last := compileWatched setting later workingDir source
    (∃ u, Tidy u ∧ last.final = State.initial.unwound u) ∧
      (first = last ∨
        ∃ m u e,
          sooner m u = some e ∧
            first.result = .error e ∧
            first.final = State.initial.unwound u ∧
            Tidy u ∧ m.InPlace u ∧
            Grows setting u last.final) := by
  have hOpening := loadRoot_opening setting workingDir source
  unfold compileWatched compileSteps
  cases hLoad : loadRoot setting workingDir source State.initial with
  | error e r =>
      rw [stateAfter_of_error hLoad] at hOpening
      rw [bind_of_error hLoad, bind_of_error hLoad]
      exact ⟨⟨r, hOpening.tidy,
        State.eq_unwound_initial hOpening.idle⟩, Or.inl rfl⟩
  | ok doc r =>
      rw [stateAfter_of_ok hLoad] at hOpening
      rw [bind_of_ok hLoad, bind_of_ok hLoad]
      have hStacks := hOpening.idle
      have hUnwound :
          ∀ u, r.unwound u = State.initial.unwound u := by
        intro u
        rw [State.eq_unwound_initial hStacks]
        rfl
      have hReady : r.Ready := by
        refine ⟨hOpening.tidy, ?_⟩
        intro top hTop
        rw [hOpening.progress] at hTop
        cases hTop
      have hPrecedes :
          Precedes setting sooner r
            (resolveWithin setting sooner (setting.budget + 1)
              (NodeKey.root doc))
            (resolveWithin setting later (setting.budget + 1)
              (NodeKey.root doc)) :=
        resolveWithin_precedes hWithin _ _ r hReady
      constructor
      · cases hLast :
            resolveWithin setting later (setting.budget + 1)
              (NodeKey.root doc) r with
        | error e t =>
            rcases hPrecedes.careful.error hLast with
              ⟨u, hDone, _, hFinal⟩
            exact ⟨u, hDone, hFinal.trans (hUnwound u)⟩
        | ok id t =>
            have hStep := hPrecedes.careful.ok hLast
            refine ⟨t, hStep.tidy, State.eq_unwound_initial ?_⟩
            simp only [State.stacks, hStep.scope, hStep.progress]
            exact hStacks
      · rcases hPrecedes.outcome with hSame | ⟨m, u, e, hHalted⟩
        · left
          rw [hSame]
        · right
          refine ⟨m, u, e, hHalted.heard, ?_, ?_, hHalted.tidy,
            hHalted.inPlace, ?_⟩
          · rw [hHalted.ended]
          · rw [hHalted.ended]
            exact hUnwound u
          · have hGrows := hHalted.grows
            unfold stateAfter at hGrows
            cases hLast :
                resolveWithin setting later (setting.budget + 1)
                  (NodeKey.root doc) r <;>
              rw [hLast] at hGrows <;> exact hGrows

/-
  Every node is compiled once, and what is compiled does not
  change.  Two watches look at the compilation; the first of
  them alone may end it sooner than both of them together do.

  In every state that a watch ends the compilation in, and
  in the last one, no node was begun twice, no node in
  progress is in progress twice or remembered, and the cells
  belong to their nodes.  What a node or a cell was given by
  then, and every validator, is there at the end of the
  longer compilation, too.  No operation on a graph touches
  its validators, and neither do requirement lists.
-/
theorem compile_nodes_once
    (setting : Setting)
    (workingDir : Path)
    (source : Source)
    (sooner other : Watch) :
    let first := compileWatched setting sooner workingDir source
    let last :=
      compileWatched setting (sooner.both other) workingDir source
    compileWatched setting Watch.never workingDir source =
        compileWith setting workingDir source ∧
      (∃ u, Tidy u ∧ last.final = State.initial.unwound u) ∧
      (first = last ∨
        ∃ m u e,
          sooner m u = some e ∧
            first.result = .error e ∧
            first.final = State.initial.unwound u ∧
            Tidy u ∧ Grows setting u last.final) ∧
      ∀ (g : Graph) id v,
        g.node? id = some v →
          (∀ operation : Graph.Operation,
            (operation.apply g).node? id = some v) ∧
            ∀ node properties,
              (g.applyRequirements node properties).1.node? id =
                some v := by
  intro first last
  rcases compileWatched_outcome setting workingDir source
    (Watch.within_both sooner other) with ⟨hLast, hOutcome⟩
  refine ⟨rfl, hLast, ?_, ?_⟩
  · rcases hOutcome with
      hSame | ⟨m, u, e, hHeard, hResult, hFinal, hTidy, _, hGrows⟩
    · exact Or.inl hSame
    · exact Or.inr ⟨m, u, e, hHeard, hResult, hFinal, hTidy, hGrows⟩
  · intro g id v hNode
    refine ⟨fun operation => operation.node?_apply hNode, ?_⟩
    intro node properties
    have hExtends :=
      Graph.extends_of_addsCopies
        (Graph.applyRequirements_addsCopies node g properties)
    exact hExtends.node id v hNode

/-
  The stacks are kept.  A node that is answered, in whatever
  state and at whatever depth, leaves the stacks as they
  were, also if there is an error.  Whenever a watch ends a
  compilation, what is worked on there is in the document on
  top of the scope: the node that is begun, the node in
  progress that asks for another one or was answered, and
  the node or the link whose reference will be followed.
-/
theorem compile_stacks_in_place
    (setting : Setting)
    (workingDir : Path)
    (source : Source)
    (watch : Watch) :
    let whole := compileWith setting workingDir source
    let watched := compileWatched setting watch workingDir source
    (∀ depth key s,
      (stateAfter (resolveWithin setting watch depth key) s).stacks =
        s.stacks) ∧
      compileWatched setting Watch.never workingDir source =
          whole ∧
      (watched = whole ∨
        ∃ m u e,
          watch m u = some e ∧
            watched.result = .error e ∧
            watched.final = State.initial.unwound u ∧
            m.InPlace u) := by
  intro whole watched
  refine ⟨resolveWithin_restores setting watch, rfl, ?_⟩
  have hWithin : Watch.never.Within watch :=
    fun _ _ _ => rfl
  rcases (compileWatched_outcome setting workingDir source
    hWithin).2 with
    hSame | ⟨m, u, e, hHeard, hResult, hFinal, _, hInPlace, _⟩
  · exact Or.inl hSame
  · exact Or.inr ⟨m, u, e, hHeard, hResult, hFinal, hInPlace⟩

/- A watch may end a compilation where a link will be followed. -/
example :
    (match
      (compileWatched Setting.alone
        (fun m u =>
          match m with
          | .linked place _ =>
              if u.progress.head? = some place then
                none
              else
                some (.unknownType place.fragment)
          | _ => none)
        ⟨"/"⟩ (.value Json.selfExtending)).result
    with
    | .error (.unknownType text) => text
    | _ => "") = "#/properties/part/extends" := by
  decide +kernel

end SchemaGraph
