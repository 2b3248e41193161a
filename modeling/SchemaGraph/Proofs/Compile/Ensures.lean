import Mathlib
import SchemaGraph.Proofs.Compile.Nesting
import SchemaGraph.Proofs.Compile.Watching

/-
  Reasoning about programs of a compilation.  A program
  ensures a postcondition when it runs in steps, leaves the
  stacks as they were and ends with what the postcondition
  says.  When it fails, it has run in steps, too; the stacks
  are unwound, and the error is justified by the documents
  or comes from the watch.

  Main declarations:
    * `Justified`
    * `Moment.Stands`
    * `Ended`
    * `Watch.Quiet`
    * `Ensures`
    * `Ensures.bind`
    * `Ensures.inDocument`
    * `Ensures.look`
    * `followReference_ensures`
    * `followWatched_ensures`
    * `deferTo_ensures`
    * `Resolves`
-/

namespace SchemaGraph

variable {setting : Setting}
variable {watch : Watch}
variable {source : Source}
variable {s t u : State}
variable {α β : Type}

------------------------------------------------------------
-- Outcomes
------------------------------------------------------------

/- The state with the stacks of an earlier one. -/
def State.unwound
    (s u : State) : State :=
  { u with
    scope := s.scope
    progress := s.progress }

/-
  The documents bear an error out.  A reference that is not
  found is written at a node, an invalid schema is a node,
  and there are too many nodes only if they are more than
  was foreseen.
-/
def Justified
    (setting : Setting)
    (u : State) : CompileError → Prop
  | .tooManyNodes => setting.budget + 1 < u.store.positions
  | .referenceNotFound reference =>
      ∃ key node,
        u.node? key = some node ∧
          node.member? "$ref" = some (.string reference)
  | .invalidSchema pointer _ =>
      ∃ key, u.Present key ∧ pointer = key.fragment
  | _ => True

/-
  The node of a moment exists.  A node that was begun is on
  top of those in progress, with room for what it asks for.
  A reference is followed with the document that it is
  written in on top of the scope.
-/
def Moment.Stands
    (setting : Setting)
    (source : Source)
    (m : Moment)
    (s : State) : Prop :=
  match m with
  | .asked key => s.Present key
  | .began key =>
      s.Present key ∧ s.progress.head? = some key ∧
        ∃ n, s.Opened key → Roomy setting source n s
  | .answered key => s.Present key
  | .linked place _ =>
      s.Present place ∧ s.scope.head? = some place.doc

/-
  A watch ends a compilation where the node of a moment
  stands, or the documents bear the error out.
-/
def Ended
    (setting : Setting)
    (watch : Watch)
    (source : Source)
    (u : State)
    (e : CompileError) : Prop :=
  (∃ m : Moment, m.Stands setting source u ∧ watch m u = some e) ∨
    Justified setting u e

/- A watch that ends nothing where the node of a moment stands. -/
def Watch.Quiet
    (setting : Setting)
    (source : Source)
    (watch : Watch) : Prop :=
  ∀ m s, m.Stands setting source s → watch m s = none

/- The watch that ends nothing is quiet. -/
theorem Watch.quiet_never
    (setting : Setting)
    (source : Source) :
    Watch.never.Quiet setting source :=
  fun _ _ _ => rfl

/- Under a quiet watch there is a reason. -/
theorem Ended.justified
    {e : CompileError}
    (hEnded : Ended setting watch source u e)
    (hQuiet : watch.Quiet setting source) :
    Justified setting u e := by
  rcases hEnded with ⟨m, hStands, hHeard⟩ | hJustified
  · rw [hQuiet m u hStands] at hHeard
    cases hHeard
  · exact hJustified

/- A program runs in steps and ends with a postcondition. -/
def Ensures
    (setting : Setting)
    (watch : Watch)
    (source : Source)
    (s : State)
    (program : Compile α)
    (post : α → State → Prop) : Prop :=
  match program s with
  | .ok a t => Run setting s t ∧ post a t
  | .error e t =>
      ∃ u,
        Reaches setting s u ∧ Ended setting watch source u e ∧
          t = s.unwound u

namespace Ensures

variable {program : Compile α}
variable {next : α → Compile β}
variable {post : α → State → Prop}
variable {last : β → State → Prop}

/- A program that is known to succeed. -/
theorem of_ok
    {a : α}
    (hProgram : program s = .ok a t)
    (hRun : Run setting s t)
    (hPost : post a t) :
    Ensures setting watch source s program post := by
  unfold Ensures
  rw [hProgram]
  exact ⟨hRun, hPost⟩

/- A program that is known to fail. -/
theorem of_error
    {e : CompileError}
    (hProgram : program s = .error e t)
    (hReaches : Reaches setting s u)
    (hEnded : Ended setting watch source u e)
    (hUnwound : t = s.unwound u) :
    Ensures setting watch source s program post := by
  unfold Ensures
  rw [hProgram]
  exact ⟨u, hReaches, hEnded, hUnwound⟩

/- What a successful program ensured. -/
theorem ok
    {a : α}
    (hEnsures : Ensures setting watch source s program post)
    (hProgram : program s = .ok a t) :
    Run setting s t ∧ post a t := by
  unfold Ensures at hEnsures
  rw [hProgram] at hEnsures
  exact hEnsures

/- What a failed program ensured. -/
theorem error
    {e : CompileError}
    (hEnsures : Ensures setting watch source s program post)
    (hProgram : program s = .error e t) :
    ∃ u,
      Reaches setting s u ∧ Ended setting watch source u e ∧
        t = s.unwound u := by
  unfold Ensures at hEnsures
  rw [hProgram] at hEnsures
  exact hEnsures

/- Doing nothing. -/
theorem pure
    {a : α}
    (hPost : post a s) :
    Ensures setting watch source s (Pure.pure a) post :=
  of_ok rfl (Run.refl setting s) hPost

/- Failing. -/
theorem throw
    {e : CompileError}
    (hJustified : Justified setting s e) :
    Ensures setting watch source s
      (MonadExcept.throw e : Compile α) post :=
  of_error rfl Relation.ReflTransGen.refl (Or.inr hJustified) rfl

/- Looking at the state where the node of the moment stands. -/
theorem look
    {m : Moment}
    (hStands : m.Stands setting source s) :
    Ensures setting watch source s (SchemaGraph.look watch m)
      (fun _ t => t = s) := by
  have hLook := look_run watch m s
  cases hHeard : watch m s with
  | none =>
      rw [hHeard] at hLook
      exact of_ok hLook (Run.refl setting s) rfl
  | some e =>
      rw [hHeard] at hLook
      exact of_error hLook Relation.ReflTransGen.refl
        (Or.inl ⟨m, hStands, hHeard⟩) rfl

/- Reading the state. -/
theorem get
    {read : State → Compile β}
    (hRead : Ensures setting watch source s (read s) last) :
    Ensures setting watch source s
      ((MonadState.get : Compile State) >>= read)
      last :=
  hRead

/- One program after another. -/
theorem bind
    (hFirst : Ensures setting watch source s program post)
    (hNext :
      ∀ a t, Run setting s t → post a t →
        Ensures setting watch source t (next a) last) :
    Ensures setting watch source s (program >>= next) last := by
  cases hProgram : program s with
  | error e t =>
      rcases hFirst.error hProgram with ⟨u, hReaches, hError, hT⟩
      exact of_error (bind_of_error hProgram) hReaches hError hT
  | ok a t =>
      rcases hFirst.ok hProgram with ⟨hRun, hPost⟩
      have hRest := hNext a t hRun hPost
      have hBind : (program >>= next) s = next a t :=
        bind_of_ok hProgram
      cases hLast : next a t with
      | error e v =>
          rcases hRest.error hLast with ⟨u, hReaches, hError, hV⟩
          refine of_error (hBind.trans hLast)
            (hRun.reaches.trans hReaches) hError ?_
          rw [hV]
          simp only [State.unwound, hRun.scope, hRun.progress]
      | ok b v =>
          rcases hRest.ok hLast with ⟨hMore, hPost⟩
          exact of_ok (hBind.trans hLast) (hRun.trans hMore) hPost

/- A weaker postcondition, in the states that a run reaches. -/
theorem mono
    {weaker : α → State → Prop}
    (hEnsures : Ensures setting watch source s program post)
    (hWeaker :
      ∀ a t, Run setting s t → post a t → weaker a t) :
    Ensures setting watch source s program weaker := by
  cases hProgram : program s with
  | error e t =>
      rcases hEnsures.error hProgram with ⟨u, hReaches, hError, hT⟩
      exact of_error hProgram hReaches hError hT
  | ok a t =>
      rcases hEnsures.ok hProgram with ⟨hRun, hPost⟩
      exact of_ok hProgram hRun (hWeaker a t hRun hPost)

/- A program that succeeds gave what it gave. -/
theorem recorded
    (hEnsures : Ensures setting watch source s program post) :
    Ensures setting watch source s program
      (fun a t => program s = .ok a t ∧ post a t) := by
  cases hProgram : program s with
  | error e t =>
      rcases hEnsures.error hProgram with ⟨u, hReaches, hError, hT⟩
      exact of_error hProgram hReaches hError hT
  | ok a t =>
      rcases hEnsures.ok hProgram with ⟨hRun, hPost⟩
      exact of_ok hProgram hRun ⟨rfl, hPost⟩

/- Working with a document on top of the scope. -/
theorem inDocument
    {doc : DocId}
    (hStep :
      ∀ scope, scope.head? = some doc →
        Reaches setting s { s with scope := scope } →
        Ensures setting watch source { s with scope := scope }
          program post)
    (hPost :
      ∀ a t scope, post a t → post a { t with scope := scope }) :
    Ensures setting watch source s (SchemaGraph.inDocument doc program)
      post := by
  by_cases hTop : s.scope.head? = some doc
  · have hSame :
        SchemaGraph.inDocument doc program s = program s := by
      simp only [SchemaGraph.inDocument, if_pos hTop]
    unfold Ensures
    rw [hSame]
    exact hStep s.scope hTop Relation.ReflTransGen.refl
  · have hEnter :
        Step setting s { s with scope := doc :: s.scope } :=
      Step.entered s doc
    have hInner :=
      hStep (doc :: s.scope) rfl
        (Relation.ReflTransGen.single hEnter)
    cases hProgram : program { s with scope := doc :: s.scope } with
    | error e t =>
        rcases hInner.error hProgram with ⟨u, hReaches, hError, hT⟩
        refine of_error (t := { t with scope := t.scope.tail }) ?_
          (Relation.ReflTransGen.head hEnter hReaches) hError ?_
        · simp only [SchemaGraph.inDocument, if_neg hTop, hProgram]
        · rw [hT]
          rfl
    | ok a t =>
        rcases hInner.ok hProgram with ⟨hRun, hDone⟩
        refine of_ok (t := { t with scope := t.scope.tail }) ?_
          ⟨?_, ?_, ?_⟩ (hPost a t _ hDone)
        · simp only [SchemaGraph.inDocument, if_neg hTop, hProgram]
        · exact (Relation.ReflTransGen.head hEnter
            hRun.reaches).tail (Step.left t)
        · simp only [hRun.scope, List.tail_cons]
        · exact hRun.progress

end Ensures

------------------------------------------------------------
-- Primitive Programs
------------------------------------------------------------

/- Adding a validator. -/
theorem pushNode_ensures
    {v : Validator}
    (hBelow : s.graph.MentionsBelow s.graph.size v.rule)
    (hFits : v.rule.Fits setting.options) :
    Ensures setting watch source s (pushNode v)
      (fun id t => t.graph.node? id = some v) :=
  Ensures.of_ok rfl
    (Run.single (Step.pushed s v hBelow hFits) rfl rfl)
    (Graph.node?_push_self s.graph v)

/- Making a validator accept `null`. -/
theorem allowNull_ensures
    {id : ValidatorId}
    (hId : id.index < s.graph.size) :
    Ensures setting watch source s (allowNull id)
      (fun copy t =>
        t.graph.Derives (Validator.orNull true) id copy) :=
  Ensures.of_ok rfl
    (Run.of_addsCopies (Graph.allowingNull_addsCopies s.graph id))
    (Graph.allowingNull_derives hId)

/- Applying the requirement lists of a node. -/
theorem applyRequirements_ensures
    {gives : NodeKey → ValidatorId → Prop}
    {plan : String → Option Provision}
    {properties : PropertyMap}
    (node : Json)
    (hCarries : s.graph.Carries gives plan properties) :
    Ensures setting watch source s (applyRequirements node properties)
      (fun marked t =>
        t.graph.Carries gives
          (fun name =>
            (plan name).map
              (fun p => p.remarked (node.requirement? name)))
          marked) := by
  have hMarks :=
    Graph.applyRequirements_marks node hCarries.holds
  exact Ensures.of_ok rfl (Run.of_addsCopies hMarks.copies)
    (hCarries.marked hMarks)

/- Turning a fault of an existing node into an error. -/
theorem orFault_ensures
    {key : NodeKey}
    (answer : Except SchemaFault α)
    (hPresent : s.Present key) :
    Ensures setting watch source s (orFault key answer)
      (fun a t => t = s ∧ answer = .ok a) := by
  cases answer with
  | ok a => exact Ensures.pure ⟨rfl, rfl⟩
  | error fault => exact Ensures.throw ⟨key, hPresent, rfl⟩

/- Deferring to the cell of a node in progress. -/
theorem deferTo_ensures
    {key : NodeKey}
    (hCelled : Celled s)
    (hAsks : s.Asks setting key)
    (hProgress : key ∈ s.progress) :
    Ensures setting watch source s (deferTo key)
      (fun id t => t.StandsFor key id) := by
  unfold deferTo
  have hCell :
      Ensures setting watch source s (cellFor key)
        (fun c t =>
          t.cells.lookup key = some c ∧
            c.index < t.graph.cells.size) := by
    cases hOld : s.cells.lookup key with
    | some c =>
        have hFound : cellFor key s = .ok c s := by
          change EStateM.Result.ok _ _ = _
          simp only [hOld]
        exact Ensures.of_ok hFound (Run.refl setting s)
          ⟨hOld, hCelled.bound key c hOld⟩
    | none =>
        have hNew :
            cellFor key s =
              .ok s.graph.newCell.1
                { s with
                  graph := s.graph.newCell.2
                  cells := (key, s.graph.newCell.1) :: s.cells } := by
          change EStateM.Result.ok _ _ = _
          simp only [hOld]
        refine Ensures.of_ok hNew
          (Run.single
            (Step.celled s key hAsks hProgress hOld) rfl rfl)
          ⟨by simp, ?_⟩
        simp [Graph.newCell]
  apply hCell.bind
  rintro c t hRun ⟨hLookup, hBound⟩
  refine (pushNode_ensures (v := { rule := .deferred c })
    hBound (Rule.fits_of_ne (by simp) (by simp))).mono ?_
  intro id r hMore hNode
  exact Or.inr ⟨c, hMore.grows.cells key c hLookup, hNode⟩

------------------------------------------------------------
-- References
------------------------------------------------------------

/- The document of a reference is stored once it is known. -/
theorem exists_get?_of_knownDocument?
    {store : Store}
    {doc found : DocId}
    {d : Document}
    {reference : String}
    (hDoc : store.get? doc = some d)
    (hKnown :
      knownDocument? setting store doc reference = some found) :
    ∃ e, store.get? found = some e := by
  -- What a search of the documents finds is stored.
  have hFound :
      ∀ test : Document → Bool,
        (store.documents.findIdx? test).map DocId.mk = some found →
          ∃ e, store.get? found = some e := by
    intro test hIndex
    rcases Option.map_eq_some_iff.mp hIndex with ⟨i, hAt, rfl⟩
    rcases List.findIdx?_eq_some_iff_getElem.mp hAt with ⟨hLt, _⟩
    exact ⟨_, List.getElem?_eq_getElem hLt⟩
  unfold knownDocument? at hKnown
  simp only at hKnown
  split at hKnown
  case h_1 => exact hFound _ hKnown
  case h_2 =>
    split at hKnown
    case h_1 =>
      cases hKnown
      exact ⟨d, hDoc⟩
    case h_2 =>
      split at hKnown
      case h_1 hStored =>
        cases hKnown
        exact hFound _ hStored
      case h_2 =>
        split at hKnown
        case h_1 => cases hKnown
        case h_2 =>
          cases hKnown
          exact ⟨d, hDoc⟩

/- Following a reference that is written at a node. -/
theorem followReference_ensures
    {doc : DocId}
    {d : Document}
    {reference : String}
    (hScope : s.scope.head? = some doc)
    (hDoc : s.store.get? doc = some d)
    (hWritten : s.Writes doc reference) :
    Ensures setting watch source s (followReference setting reference)
      (fun target t =>
        Leads setting t doc reference target ∧
          t.Present target) := by
  rcases followReference_run setting reference hScope with
    ⟨found, t, hLocated, hSteps⟩
  have hRun := Run.of_located hLocated
  have hTop : t.scope.head? = some doc := by
    rw [hRun.scope]
    exact hScope
  rcases hWritten with ⟨key, node, hSame, hNode, hText⟩
  have hNodeNow := hRun.grows.node? hNode
  have hNoted :=
    Step.followed t doc found d reference hTop
      (hRun.grows.store.get? hDoc)
      ⟨key, node, hSame, hNodeNow, hText⟩ hLocated.isKnown
  cases hTarget :
      targetIn t found (splitReference reference).2 with
  | some target =>
      simp only [hTarget] at hSteps hNoted
      rcases exists_get?_of_knownDocument?
        (hRun.grows.store.get? hDoc) hLocated.isKnown with
        ⟨e, hStored⟩
      exact Ensures.of_ok hSteps
        (hRun.trans (Run.single hNoted rfl rfl))
        ⟨⟨found, hLocated.isKnown, hTarget⟩,
          State.present_of_targetIn hStored hTarget⟩
  | none =>
      simp only [hTarget] at hSteps hNoted
      refine Ensures.of_error hSteps (hRun.reaches.tail hNoted)
        (Or.inr ⟨key, node, hNodeNow, hText⟩) ?_
      simp only [State.unwound, State.note, ← hRun.scope,
        ← hRun.progress]

/- Following the reference that is written at a place. -/
theorem followWatched_ensures
    {place : NodeKey}
    {reference : String}
    (hPlace : s.Present place)
    (hScope : s.scope.head? = some place.doc)
    (hWritten : s.Writes place.doc reference) :
    Ensures setting watch source s
      (followWatched setting watch place reference)
      (fun target t =>
        Leads setting t place.doc reference target ∧
          t.Present target) := by
  rcases hPlace.stored with ⟨d, hDoc⟩
  have hStands :
      (Moment.linked place reference).Stands setting source s :=
    ⟨hPlace, hScope⟩
  unfold followWatched
  apply (Ensures.look hStands).bind
  rintro _ _ _ rfl
  exact followReference_ensures hScope hDoc hWritten

------------------------------------------------------------
-- Ways to Compile Nodes
------------------------------------------------------------

/-
  A way to compile nodes that nests a number of them at most.
  A reference asks for no node but the one that it cites.
-/
def Resolves
    (setting : Setting)
    (watch : Watch)
    (source : Source)
    (n : Nat)
    (resolve : Resolver) : Prop :=
  ∀ key s,
    Roomy setting source n s → s.Asks setting key →
      s.Present key →
        Ensures setting watch source s (resolve key)
          (fun id t => t.StandsFor key id)

end SchemaGraph
