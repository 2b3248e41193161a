import Mathlib
import SchemaGraph.Proofs.Compile.OmittedMembers

/-
  Programs with and without the members that are left out.
  One program mirrors another one, as far as a last state
  goes, if it does the same with the documents that members
  are left out of: it gives the same answer or error, and
  leaves a state that differs by what is left out.

  Following a reference is mirrored as long as references
  lead to positions that are kept.

  Main declarations:
    * `MirrorsAt`
    * `MirrorsAt.bind`
    * `MirrorsAt.of_continues`
    * `MirrorsAt.of_note`
    * `Mirrors`
    * `Mirrors.inDocument`
    * `storeDocument_mirrors`
    * `followReference_mirrors`
-/

namespace SchemaGraph

variable {α β : Type}
variable (cuts : Omissions)

------------------------------------------------------------
-- Programs
------------------------------------------------------------

/- What a program ends with, without what is left out. -/
def resultOmitting :
    EStateM.Result CompileError State α →
      EStateM.Result CompileError State α
  | .ok a t => .ok a (t.omitting cuts)
  | .error e t => .error e (t.omitting cuts)

/- What a program ends with, in a changed state. -/
def resultIn
    (change : State → State) :
    EStateM.Result CompileError State α →
      EStateM.Result CompileError State α
  | .ok a t => .ok a (change t)
  | .error e t => .error e (change t)

/-
  Started in a state, the second program does what the first
  one does, without what is left out, as long as the first
  one ends in a state that the last one continues.
-/
structure MirrorsAt
    (f s : State)
    (first second : Compile α) : Prop where
  continues : Continues s (stateAfter first s)
  same :
    Continues (stateAfter first s) f →
      second (s.omitting cuts) = resultOmitting cuts (first s)

/- The second program mirrors the first one in every state. -/
def Mirrors
    (f : State)
    (first second : Compile α) : Prop :=
  ∀ s, MirrorsAt cuts f s first second

section Programs

variable {cuts : Omissions}
variable {f s : State}
variable {first second : Compile α}

namespace MirrorsAt

/- A program that does not look at documents. -/
theorem of_keeps
    (hKeeps : Keeps Continues first)
    (hSame :
      second (s.omitting cuts) = resultOmitting cuts (first s)) :
    MirrorsAt cuts f s first second :=
  ⟨hKeeps s, fun _ => hSame⟩

/- Doing nothing. -/
theorem pure
    (a : α) :
    MirrorsAt cuts f s (Pure.pure a) (Pure.pure a) :=
  of_keeps (Continues.steady.pure a) rfl

/- Failing. -/
theorem throw
    (e : CompileError) :
    MirrorsAt cuts f s (MonadExcept.throw e : Compile α)
      (MonadExcept.throw e) :=
  of_keeps (Continues.steady.throw e) rfl

/- The last state may be taken to continue the present one. -/
theorem of_continues
    (hKeeps : Keeps Continues first)
    (hMirrors :
      Continues s f → MirrorsAt cuts f s first second) :
    MirrorsAt cuts f s first second :=
  ⟨hKeeps s,
    fun hLast => (hMirrors ((hKeeps s).trans hLast)).same hLast⟩

/- One program after another. -/
theorem bind
    {next last : α → Compile β}
    (hFirst : MirrorsAt cuts f s first second)
    (hNext :
      ∀ a t, first s = .ok a t →
        MirrorsAt cuts f t (next a) (last a)) :
    MirrorsAt cuts f s (first >>= next) (second >>= last) := by
  cases hRun : first s with
  | error e t =>
      have hContinues := hFirst.continues
      have hSame := hFirst.same
      rw [stateAfter_of_error hRun] at hContinues hSame
      rw [hRun] at hSame
      have hWhole : (first >>= next) s = .error e t :=
        bind_of_error hRun
      constructor
      · rw [stateAfter_of_error hWhole]
        exact hContinues
      · rw [stateAfter_of_error hWhole, hWhole]
        intro hLast
        exact bind_of_error (hSame hLast)
  | ok a t =>
      have hContinues := hFirst.continues
      have hSame := hFirst.same
      rw [stateAfter_of_ok hRun] at hContinues hSame
      rw [hRun] at hSame
      have hRest := hNext a t hRun
      have hWhole : (first >>= next) s = next a t := bind_of_ok hRun
      have hAfter :
          stateAfter (first >>= next) s = stateAfter (next a) t := by
        simp only [stateAfter, hWhole]
      constructor
      · rw [hAfter]
        exact hContinues.trans hRest.continues
      · rw [hAfter, hWhole]
        intro hLast
        have hHere := hSame (hRest.continues.trans hLast)
        rw [bind_of_ok hHere]
        exact hRest.same hLast

/- Reading the state first. -/
theorem get
    {next last : State → Compile β}
    (hNext : MirrorsAt cuts f s (next s) (last (s.omitting cuts))) :
    MirrorsAt cuts f s ((MonadState.get : Compile State) >>= next)
      ((MonadState.get : Compile State) >>= last) :=
  ⟨hNext.continues, hNext.same⟩

/- Programs that do the same in the two states. -/
theorem congr
    {outer mirror : Compile α}
    (hInner : MirrorsAt cuts f s first second)
    (hOuter : outer s = first s)
    (hMirror : mirror (s.omitting cuts) = second (s.omitting cuts)) :
    MirrorsAt cuts f s outer mirror := by
  have hAfter : stateAfter outer s = stateAfter first s := by
    simp only [stateAfter, hOuter]
  constructor
  · rw [hAfter]
    exact hInner.continues
  · rw [hAfter, hOuter, hMirror]
    exact hInner.same

/-
  Changing the stacks, which neither documents nor events
  depend on, before and after a program.
-/
theorem within
    {t : State}
    {outer mirror : Compile α}
    (leave : State → State)
    (hInner : MirrorsAt cuts f t first second)
    (hEnter : Continues s t)
    (hLeave :
      ∀ u, Continues u (leave u) ∧
        leave (u.omitting cuts) = (leave u).omitting cuts)
    (hOuter : outer s = resultIn leave (first t))
    (hMirror :
      mirror (s.omitting cuts) =
        resultIn leave (second (t.omitting cuts))) :
    MirrorsAt cuts f s outer mirror := by
  have hContinues := hInner.continues
  have hSame := hInner.same
  cases hRun : first t with
  | error e u =>
      rw [stateAfter_of_error hRun] at hContinues hSame
      rw [hRun] at hOuter hSame
      rcases hLeave u with ⟨hLeft, hCommute⟩
      constructor
      · rw [stateAfter_of_error hOuter]
        exact hEnter.trans (hContinues.trans hLeft)
      · rw [stateAfter_of_error hOuter, hMirror, hOuter]
        intro hLast
        rw [hSame (hLeft.trans hLast)]
        exact congrArg (EStateM.Result.error e) hCommute
  | ok a u =>
      rw [stateAfter_of_ok hRun] at hContinues hSame
      rw [hRun] at hOuter hSame
      rcases hLeave u with ⟨hLeft, hCommute⟩
      constructor
      · rw [stateAfter_of_ok hOuter]
        exact hEnter.trans (hContinues.trans hLeft)
      · rw [stateAfter_of_ok hOuter, hMirror, hOuter]
        intro hLast
        rw [hSame (hLeft.trans hLast)]
        exact congrArg (EStateM.Result.ok a) hCommute

/- An event that is noted may be taken to be in the last journal. -/
theorem of_note
    {e : Event}
    {next : Unit → Compile α}
    (hKeeps : Keeps Continues (next ()))
    (hMirrors :
      Continues (s.note e) f →
        MirrorsAt cuts f s (note e >>= next) second) :
    MirrorsAt cuts f s (note e >>= next) second := by
  have hAfter := hKeeps (s.note e)
  exact ⟨(Continues.steady.noted s e).trans hAfter,
    fun hLast => (hMirrors (hAfter.trans hLast)).same hLast⟩

end MirrorsAt

namespace Mirrors

/- Doing nothing. -/
theorem pure
    (a : α) :
    Mirrors cuts f (Pure.pure a) (Pure.pure a) :=
  fun _ => .pure a

/- Failing. -/
theorem throw
    (e : CompileError) :
    Mirrors cuts f (MonadExcept.throw e : Compile α)
      (MonadExcept.throw e) :=
  fun _ => .throw e

/- One program after another. -/
theorem bind
    {next last : α → Compile β}
    (hFirst : Mirrors cuts f first second)
    (hNext : ∀ a, Mirrors cuts f (next a) (last a)) :
    Mirrors cuts f (first >>= next) (second >>= last) :=
  fun s => (hFirst s).bind (fun a t _ => hNext a t)

/- Reading the state first. -/
theorem get
    {next last : State → Compile β}
    (hNext :
      ∀ s, MirrorsAt cuts f s (next s) (last (s.omitting cuts))) :
    Mirrors cuts f ((MonadState.get : Compile State) >>= next)
      ((MonadState.get : Compile State) >>= last) :=
  fun s => .get (hNext s)

/- Working with a document on top of the scope. -/
theorem inDocument
    (doc : DocId)
    (hInner : Mirrors cuts f first second) :
    Mirrors cuts f (SchemaGraph.inDocument doc first)
      (SchemaGraph.inDocument doc second) := by
  intro s
  by_cases hTop : s.scope.head? = some doc
  · have hAlso : (s.omitting cuts).scope.head? = some doc := hTop
    exact (hInner s).congr (if_pos hTop) (if_pos hAlso)
  · have hAlso : ¬ (s.omitting cuts).scope.head? = some doc := hTop
    refine (hInner { s with scope := doc :: s.scope }).within
      (fun u => { u with scope := u.scope.tail })
      ⟨List.prefix_refl _, List.suffix_refl _⟩
      (fun u =>
        ⟨⟨List.prefix_refl _, List.suffix_refl _⟩, rfl⟩) ?_ ?_
    · simp only [SchemaGraph.inDocument, if_neg hTop]
      rfl
    · simp only [SchemaGraph.inDocument, if_neg hAlso]
      rfl

/- Working with a node in progress. -/
theorem inProgress
    (key : NodeKey)
    (hInner : Mirrors cuts f first second) :
    Mirrors cuts f (SchemaGraph.inProgress key first)
      (SchemaGraph.inProgress key second) := by
  intro s
  exact (hInner { s with progress := key :: s.progress }).within
    (fun u => { u with progress := u.progress.tail })
    ⟨List.prefix_refl _, List.suffix_refl _⟩
    (fun u => ⟨⟨List.prefix_refl _, List.suffix_refl _⟩, rfl⟩)
    rfl rfl

/- Mirroring is kept by doing one thing after another. -/
theorem congruence :
    Congruence (fun _ => Mirrors cuts f) where
  pure := .pure
  throw := .throw
  bind hFirst hNext := hFirst.bind hNext

end Mirrors

------------------------------------------------------------
-- Steps
------------------------------------------------------------

/- Adding a validator. -/
theorem pushNode_mirrors
    (v : Validator) :
    Mirrors cuts f (pushNode v) (pushNode v) :=
  fun _ => .of_keeps (pushNode_keeps Continues.steady v) rfl

/- Allowing `null`. -/
theorem allowNull_mirrors
    (id : ValidatorId) :
    Mirrors cuts f (allowNull id) (allowNull id) :=
  fun _ => .of_keeps (allowNull_keeps Continues.steady id) rfl

/- Applying requirement lists. -/
theorem applyRequirements_mirrors
    (node : Json)
    (properties : PropertyMap) :
    Mirrors cuts f (applyRequirements node properties)
      (applyRequirements node properties) :=
  fun _ =>
    .of_keeps
      (applyRequirements_keeps Continues.steady node properties) rfl

/- Remembering a validator. -/
theorem remember_mirrors
    (key : NodeKey)
    (id : ValidatorId) :
    Mirrors cuts f (remember key id) (remember key id) :=
  fun _ => .of_keeps (remember_keeps Continues.steady key id) rfl

/- Noting an event. -/
theorem note_mirrors
    (e : Event) :
    Mirrors cuts f (note e) (note e) :=
  fun _ => .of_keeps (note_keeps Continues.steady e) rfl

/- Noting that a node is answered. -/
theorem answer_mirrors
    (key : NodeKey)
    (id : ValidatorId) :
    Mirrors cuts f (answer key id) (answer key id) :=
  (note_mirrors _).bind (fun _ => .pure id)

/- Allowing `null` if a reference node does. -/
theorem nullable_mirrors
    (node : Json)
    (id : ValidatorId) :
    Mirrors cuts f (nullable node id) (nullable node id) := by
  unfold nullable
  split
  case isTrue => exact allowNull_mirrors id
  case isFalse => exact .pure id

/- Deferring to the cell of a node. -/
theorem deferTo_mirrors
    (key : NodeKey) :
    Mirrors cuts f (deferTo key) (deferTo key) := by
  have hCell : Mirrors cuts f (cellFor key) (cellFor key) := by
    intro s
    apply MirrorsAt.of_keeps (cellFor_keeps Continues.steady key)
    have hSame : (s.omitting cuts).cells = s.cells := rfl
    simp only [cellFor, modifyGet, MonadStateOf.modifyGet,
      EStateM.modifyGet, hSame]
    cases s.cells.lookup key <;> rfl
  exact hCell.bind (fun c => pushNode_mirrors _)

------------------------------------------------------------
-- References
------------------------------------------------------------

/- A new document is stored without what is left out of it. -/
theorem storeDocument_mirrors
    {d e : Document}
    (hFresh : s.store.known? d.origin = none)
    (hSame : d ∈ f.store.documents → e = d.omitting cuts) :
    MirrorsAt cuts f s (storeDocument d) (storeDocument e) := by
  refine ⟨storeDocument_keeps Continues.steady d s, ?_⟩
  intro hLast
  have hStored : d ∈ (s.store.insert d).2.documents := by
    simp only [Store.insert, hFresh]
    exact List.mem_append_right _ List.mem_cons_self
  rw [hSame (hLast.documents.subset hStored)]
  have hInsert := s.store.insert_omitting cuts d
  have hRun :
      ∀ (e : Document) (t : State),
        storeDocument e t =
          .ok (t.store.insert e).1
            { t with store := (t.store.insert e).2 } :=
    fun _ _ => rfl
  rw [hRun, hRun, State.omitting, hInsert]
  rfl

/- A program after the loader was asked. -/
theorem askLoader_bind
    (loader : Loader)
    (p : Path)
    (next : Except LoadError (Option Json) → Compile α) :
    askLoader loader p >>= next =
      note (.asked p (.of (loader.load p))) >>= fun _ =>
        next (loader.load p) :=
  rfl

/- The loader has documents where it had them. -/
theorem LoadOutcome.of_omitting
    (loader : Loader)
    (p : Path) :
    LoadOutcome.of ((loader.omitting cuts).load p) =
      LoadOutcome.of (loader.load p) := by
  simp only [Loader.omitting]
  cases loader.load p with
  | error e => rfl
  | ok found => cases found <;> rfl

/- Documents start file references from where they did. -/
theorem baseDirOf_omitting
    (s : State) :
    baseDirOf (s.omitting cuts) = baseDirOf s := by
  funext doc
  simp only [baseDirOf, State.omitting, Store.get?_omitting]
  cases s.store.get? doc <;> rfl

/- An identifier stands for the registered name it stood for. -/
theorem registryName?_omitting
    (options : Options)
    (id : String) :
    registryName? (options.omitting cuts) id =
      registryName? options id := by
  simp only [registryName?, Options.subSchema?_omitting,
    Option.isSome_map]

variable (setting : Setting)

/- Looking a file up. -/
theorem fileStep_mirrors
    (id reference : String) :
    Mirrors cuts f (fileStep setting id reference)
      (fileStep (setting.omitting cuts) id reference) := by
  unfold fileStep
  split
  case isTrue => exact .pure _
  case isFalse =>
    unfold fileDocument?
    apply Mirrors.get
    intro s
    rw [show (s.omitting cuts).currentDocument? = s.currentDocument?
      from rfl, baseDirOf_omitting]
    cases s.currentDocument?.bind (baseDirOf s) with
    | none => exact .pure _
    | some dir =>
        dsimp only
        generalize (dir.join ⟨fileNameOf id reference⟩).normalize = p
        rw [show
          (s.omitting cuts).store.byPath? p = s.store.byPath? p from
            s.store.known?_omitting cuts (.file p)]
        cases hKnown : s.store.byPath? p with
        | some doc => exact .pure _
        | none =>
            dsimp only
            rw [askLoader_bind, askLoader_bind]
            simp only [Setting.omitting, LoadOutcome.of_omitting]
            apply (note_mirrors _ s).bind
            rintro _ _ ⟨⟩
            simp only [Loader.omitting]
            cases setting.loader.load p with
            | error e => exact .pure _
            | ok found =>
                cases found with
                | none => exact .pure _
                | some root =>
                    refine MirrorsAt.bind
                      (storeDocument_mirrors hKnown
                        (fun _ => rfl)) ?_
                    intro doc t _
                    exact .pure _

variable
  (hNulls :
    ∀ d ∈ f.store.documents, (cuts d.origin).OnlyNulls d.root)

include hNulls

/- Looking an identifier up in the registry. -/
theorem registryStep_mirrors
    (id : String) :
    Mirrors cuts f (registryStep setting id)
      (registryStep (setting.omitting cuts) id) := by
  unfold registryStep
  split
  case isTrue => exact .pure _
  case isFalse =>
    unfold registryDocument?
    simp only [Setting.omitting, registryName?_omitting]
    cases registryName? setting.options id with
    | none => exact .pure _
    | some name =>
        apply Mirrors.get
        intro s
        rw [show
          (s.omitting cuts).store.byRegistryId? name =
            s.store.byRegistryId? name from
              s.store.known?_omitting cuts (.registry name)]
        cases hKnown : s.store.byRegistryId? name with
        | some doc => exact .pure _
        | none =>
            simp only [Options.subSchema?_omitting]
            cases setting.options.subSchema? name with
            | none => exact .pure _
            | some root =>
                refine MirrorsAt.bind
                  (storeDocument_mirrors hKnown ?_) ?_
                · intro hStored
                  have hRoot := hNulls _ hStored
                  simp only [Document.omitting,
                    declaredRoot?_apply hRoot]
                · intro doc t _
                  exact .pure _

/- Finding the document of a reference. -/
theorem referenceDocument?_mirrors
    (id reference : String) :
    Mirrors cuts f (referenceDocument? setting id reference)
      (referenceDocument? (setting.omitting cuts) id reference) := by
  unfold referenceDocument?
  apply (registryStep_mirrors setting hNulls id).bind
  intro registered
  cases registered with
  | some doc => exact .pure _
  | none =>
      apply (fileStep_mirrors setting id reference).bind
      intro file
      cases file with
      | some doc => exact .pure _
      | none =>
          apply Mirrors.get
          intro s
          exact .pure _

/-
  Following a reference, if references are followed to
  positions that are kept.
-/
theorem followReference_mirrors
    (hReached : ∀ target ∈ f.targets, f.Leaves cuts target)
    (reference : String) :
    Mirrors cuts f (followReference setting reference)
      (followReference (setting.omitting cuts) reference) := by
  unfold followReference
  generalize splitReference reference = parts
  rcases parts with ⟨id, pointer⟩
  apply Mirrors.get
  intro s
  apply (referenceDocument?_mirrors setting hNulls id reference
    s).bind
  intro doc t _
  apply MirrorsAt.get
  dsimp only
  generalize hTarget :
    doc.bind (fun doc => targetIn t doc pointer) = target
  apply MirrorsAt.of_note
  · cases target with
    | none => exact Continues.steady.throw _
    | some key => exact Continues.steady.pure _
  · intro hNoted
    have hSame :
        doc.bind (fun doc =>
            targetIn (t.omitting cuts) doc pointer) =
          target := by
      cases doc with
      | none => exact hTarget
      | some doc =>
          rw [← hTarget]
          apply targetIn_omitting
            ((Continues.steady.noted t _).trans hNoted)
          intro key hKey
          rw [Option.bind_some, hKey] at hTarget
          subst hTarget
          exact hReached key
            (hNoted.mem_targets
              (List.mem_filterMap.mpr
                ⟨_, List.mem_cons_self, rfl⟩))
    rw [hSame]
    apply (note_mirrors _ t).bind
    intro _ u _
    cases target with
    | none => exact .throw _
    | some key => exact .pure _

end Programs

end SchemaGraph
