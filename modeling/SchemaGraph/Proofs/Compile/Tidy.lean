import Mathlib
import SchemaGraph.Proofs.Compile.Resolve
import SchemaGraph.Proofs.Compile.Stacks

/-
  Tidy states.  A node in progress is there once and is not
  remembered; a node is begun once, and then in progress or
  remembered.  Every node has its own cell, which is empty
  until the node is remembered and holds its validator then.

  None of this depends on what the documents say.  It holds
  before anything was done, and adding to a tidy state in
  the ways of a compilation leaves it tidy.

  Main declarations:
    * `State.begun`
    * `Tidy`
    * `Tidy.newCell`
    * `Tidy.beginning`
    * `Tidy.finishing`
    * `Proceeds`
    * `Opens`
    * `loadRoot_opening`
-/

namespace SchemaGraph

variable {setting : Setting}
variable {s t u : State}
variable {key : NodeKey}
variable {id : ValidatorId}

------------------------------------------------------------
-- Nodes That Were Begun
------------------------------------------------------------

/- The node that an event begins, if it begins one. -/
def Event.begun? : Event → Option NodeKey
  | .began key _ => some key
  | _ => none

/- The nodes that were begun, the latest first. -/
def State.begun
    (s : State) : List NodeKey :=
  s.journal.filterMap Event.begun?

/- An event that begins no node adds none. -/
theorem State.begun_note
    {e : Event}
    (hOther : e.begun? = none) :
    (s.note e).begun = s.begun := by
  simp only [State.begun, State.note, List.filterMap_cons, hOther]

------------------------------------------------------------
-- Tidy States
------------------------------------------------------------

/-
  Nodes are begun once and end remembered, and cells belong
  to their nodes.
-/
structure Tidy
    (s : State) : Prop where
  distinct : s.progress.Nodup
  unresolved :
    ∀ key ∈ s.progress, s.resolved.lookup key = none
  once : s.begun.Nodup
  accounted :
    ∀ key ∈ s.begun,
      key ∈ s.progress ∨ s.resolved.lookup key ≠ none
  bound :
    ∀ key c, s.cells.lookup key = some c →
      c.index < s.graph.cells.size
  own :
    ∀ key other c, s.cells.lookup key = some c →
      s.cells.lookup other = some c → key = other
  filled :
    ∀ key c id, s.cells.lookup key = some c →
      s.graph.cell? c = some id →
        s.resolved.lookup key = some id

namespace Tidy

/- A state in which nothing was compiled. -/
theorem of_empty
    (hProgress : s.progress = [])
    (hBegun : s.begun = [])
    (hCells : s.cells = []) :
    Tidy s := by
  refine ⟨?_, ?_, ?_, ?_, ?_, ?_, ?_⟩
  · simp [hProgress]
  · simp [hProgress]
  · simp [hBegun]
  · simp [hBegun]
  · simp [hCells]
  · simp [hCells]
  · simp [hCells]

/- States with the same nodes and the same cells. -/
theorem of_same
    (hTidy : Tidy s)
    (hProgress : t.progress = s.progress)
    (hResolved : t.resolved = s.resolved)
    (hBegun : t.begun = s.begun)
    (hCells : t.cells = s.cells)
    (hSame : t.graph.cells = s.graph.cells) :
    Tidy t := by
  have hContent :
      ∀ c, t.graph.cell? c = s.graph.cell? c := by
    intro c
    simp only [Graph.cell?, hSame]
  refine ⟨?_, ?_, ?_, ?_, ?_, ?_, ?_⟩
  · rw [hProgress]
    exact hTidy.distinct
  · rw [hProgress, hResolved]
    exact hTidy.unresolved
  · rw [hBegun]
    exact hTidy.once
  · rw [hBegun, hProgress, hResolved]
    exact hTidy.accounted
  · rw [hCells, hSame]
    exact hTidy.bound
  · rw [hCells]
    exact hTidy.own
  · intro key c id hCell hHolds
    rw [hCells] at hCell
    rw [hContent] at hHolds
    rw [hResolved]
    exact hTidy.filled key c id hCell hHolds

/- An event that begins no node is noted. -/
theorem note
    {e : Event}
    (hTidy : Tidy s)
    (hOther : e.begun? = none) :
    Tidy (s.note e) :=
  hTidy.of_same rfl rfl (State.begun_note hOther) rfl rfl

/- The cell of a node that is not remembered is empty. -/
theorem empty_of_unresolved
    {c : CellId}
    (hTidy : Tidy s)
    (hResolved : s.resolved.lookup key = none)
    (hCell : s.cells.lookup key = some c) :
    s.graph.cell? c = none := by
  cases hContent : s.graph.cell? c with
  | none => rfl
  | some id =>
      have hSome := hTidy.filled key c id hCell hContent
      rw [hResolved] at hSome
      cases hSome

/- A node without a cell gets one. -/
theorem newCell
    (hTidy : Tidy s)
    (hFresh : s.cells.lookup key = none) :
    Tidy
      { s with
        graph := s.graph.newCell.2
        cells := (key, s.graph.newCell.1) :: s.cells } := by
  refine ⟨hTidy.distinct, hTidy.unresolved, hTidy.once,
    hTidy.accounted, ?_, ?_, ?_⟩
  · intro other c hCell
    change c.index < s.graph.newCell.2.cells.size
    rw [Graph.size_cells_newCell]
    rcases State.lookup_newCell hCell with ⟨_, hIndex⟩ | hOld
    · omega
    · have hBound := hTidy.bound other c hOld
      omega
  · intro first second c hFirst hSecond
    rcases State.lookup_newCell hFirst with ⟨rfl, hIndex⟩ | hOld
    · rcases State.lookup_newCell hSecond with ⟨rfl, _⟩ | hOther
      · rfl
      · have hBound := hTidy.bound second c hOther
        omega
    · rcases State.lookup_newCell hSecond with
        ⟨rfl, hIndex⟩ | hOther
      · have hBound := hTidy.bound first c hOld
        omega
      · exact hTidy.own first second c hOld hOther
  · intro other c id hCell hContent
    simp only [Graph.cell?_newCell] at hContent
    have hBound := Graph.lt_cells_of_cell? hContent
    rcases State.lookup_newCell hCell with ⟨_, hIndex⟩ | hOld
    · omega
    · exact hTidy.filled other c id hOld hContent

/- A new node is begun. -/
theorem beginning
    (hTidy : Tidy s)
    (hProgress : key ∉ s.progress)
    (hResolved : s.resolved.lookup key = none) :
    Tidy (s.beginning key) := by
  have hBegun : (s.beginning key).begun = key :: s.begun := rfl
  refine ⟨List.nodup_cons.mpr ⟨hProgress, hTidy.distinct⟩, ?_, ?_,
    ?_, hTidy.bound, hTidy.own, hTidy.filled⟩
  · intro other hMem
    rcases List.mem_cons.mp hMem with rfl | hOld
    · exact hResolved
    · exact hTidy.unresolved other hOld
  · rw [hBegun, List.nodup_cons]
    refine ⟨?_, hTidy.once⟩
    intro hMem
    rcases hTidy.accounted key hMem with hOpen | hDone
    · exact hProgress hOpen
    · exact hDone hResolved
  · rw [hBegun]
    intro other hMem
    rcases List.mem_cons.mp hMem with rfl | hOld
    · exact Or.inl List.mem_cons_self
    · rcases hTidy.accounted other hOld with hOpen | hDone
      · exact Or.inl (List.mem_cons_of_mem key hOpen)
      · exact Or.inr hDone

/- Filling the cell of a node leaves the other cells alone. -/
theorem cell?_filled_of_ne
    {other : NodeKey}
    {c : CellId}
    (hTidy : Tidy s)
    (hCell : s.cells.lookup other = some c)
    (hNe : other ≠ key)
    (id : ValidatorId) :
    (s.filled key id).cell? c = s.graph.cell? c := by
  cases hOwn : s.cells.lookup key with
  | none => rw [State.filled_of_none id hOwn]
  | some held =>
      rw [State.filled_of_some id hOwn]
      split
      case isTrue => rfl
      case isFalse =>
        apply Graph.cell?_setCell_of_ne
        rintro rfl
        exact hNe (hTidy.own other key c hCell hOwn)

/- What the cell of a node is filled with is its validator. -/
theorem eq_of_cell?_filled
    {c : CellId}
    {held : ValidatorId}
    (hTidy : Tidy s)
    (hResolved : s.resolved.lookup key = none)
    (hCell : s.cells.lookup key = some c)
    (hContent : (s.filled key id).cell? c = some held) :
    held = id := by
  have hEmpty := hTidy.empty_of_unresolved hResolved hCell
  rw [State.filled_of_some id hCell] at hContent
  split at hContent
  case isTrue =>
    rw [hEmpty] at hContent
    cases hContent
  case isFalse =>
    rw [Graph.cell?_setCell_self id (hTidy.bound key c hCell)]
      at hContent
    exact (Option.some.inj hContent).symm

variable {rest : List NodeKey}

/- The node on top is not remembered yet. -/
theorem unresolved_of_top
    (hTidy : Tidy s)
    (hTop : s.progress = key :: rest) :
    s.resolved.lookup key = none := by
  apply hTidy.unresolved key
  rw [hTop]
  exact List.mem_cons_self

/- The node on top is done. -/
theorem finishing
    (hTidy : Tidy s)
    (hTop : s.progress = key :: rest)
    (id : ValidatorId) :
    Tidy (s.finishing key rest id) := by
  have hResolved := hTidy.unresolved_of_top hTop
  have hDistinct := hTidy.distinct
  rw [hTop, List.nodup_cons] at hDistinct
  have hExtends : s.graph.Extends (s.filled key id) :=
    State.extends_filled id
      (fun c hCell => hTidy.empty_of_unresolved hResolved hCell)
  refine ⟨hDistinct.2, ?_, hTidy.once, ?_, ?_, hTidy.own, ?_⟩
  · intro other hMem
    have hNe : other ≠ key := by
      rintro rfl
      exact hDistinct.1 hMem
    change ((key, id) :: s.resolved).lookup other = none
    rw [lookup_cons_eq_ite, if_neg hNe]
    apply hTidy.unresolved other
    rw [hTop]
    exact List.mem_cons_of_mem key hMem
  · intro other hMem
    change other ∈ rest ∨
      ((key, id) :: s.resolved).lookup other ≠ none
    rw [lookup_cons_eq_ite]
    by_cases hSame : other = key
    · simp [hSame]
    · rw [if_neg hSame]
      have hOld := hTidy.accounted other hMem
      rw [hTop, List.mem_cons] at hOld
      rcases hOld with (hKey | hRest) | hDone
      · exact absurd hKey hSame
      · exact Or.inl hRest
      · exact Or.inr hDone
  · intro other c hCell
    exact Nat.lt_of_lt_of_le (hTidy.bound other c hCell)
      hExtends.cells
  · intro other c held hCell hContent
    change ((key, id) :: s.resolved).lookup other = some held
    rw [lookup_cons_eq_ite]
    by_cases hSame : other = key
    · subst hSame
      rw [if_pos rfl,
        hTidy.eq_of_cell?_filled hResolved hCell hContent]
    · rw [if_neg hSame]
      have hKept := hTidy.cell?_filled_of_ne hCell hSame id
      exact hTidy.filled other c held hCell
        (hKept.symm.trans hContent)

end Tidy

------------------------------------------------------------
-- Proceeding
------------------------------------------------------------

/- A tidy state with more in it and with the same stacks. -/
structure Proceeds
    (setting : Setting)
    (s t : State) : Prop where
  tidy : Tidy t
  grows : Grows setting s t
  scope : t.scope = s.scope
  progress : t.progress = s.progress

namespace Proceeds

/- Doing nothing. -/
theorem refl
    (setting : Setting)
    (hTidy : Tidy s) :
    Proceeds setting s s :=
  ⟨hTidy, Grows.refl setting s, rfl, rfl⟩

/- Proceeding twice. -/
theorem trans
    (hFirst : Proceeds setting s t)
    (hSecond : Proceeds setting t u) :
    Proceeds setting s u :=
  ⟨hSecond.tidy, hFirst.grows.trans hSecond.grows,
    hSecond.scope.trans hFirst.scope,
    hSecond.progress.trans hFirst.progress⟩

/- An event that begins no node is noted. -/
theorem note
    {e : Event}
    (hTidy : Tidy s)
    (hOther : e.begun? = none) :
    Proceeds setting s (s.note e) :=
  ⟨hTidy.note hOther,
    .of_same rfl rfl rfl rfl (List.suffix_cons _ _), rfl, rfl⟩

/- Validators are added. -/
theorem of_graph
    {g : Graph}
    (hTidy : Tidy s)
    (hExtends : s.graph.Extends g)
    (hCells : g.cells = s.graph.cells) :
    Proceeds setting s { s with graph := g } :=
  ⟨hTidy.of_same rfl rfl rfl rfl hCells, .of_graph hExtends, rfl,
    rfl⟩

/- Changed copies of validators are added. -/
theorem of_addsCopies
    {g : Graph}
    (hTidy : Tidy s)
    (hCopies : Graph.AddsCopies s.graph g) :
    Proceeds setting s { s with graph := g } :=
  of_graph hTidy (Graph.extends_of_addsCopies hCopies)
    (Graph.cells_of_addsCopies hCopies)

/- A node without a cell gets one. -/
theorem newCell
    (hTidy : Tidy s)
    (hFresh : s.cells.lookup key = none) :
    Proceeds setting s
      { s with
        graph := s.graph.newCell.2
        cells := (key, s.graph.newCell.1) :: s.cells } :=
  ⟨hTidy.newCell hFresh,
    ⟨StoreGrows.refl setting s.store,
      Graph.Extends.newCell s.graph, fun _ _ hFound => hFound,
      fun _ _ hFound => lookup_of_fresh hFresh hFound,
      List.suffix_refl _⟩, rfl, rfl⟩

/- The document of a reference is found. -/
theorem of_located
    {doc found : DocId}
    {reference : String}
    (hTidy : Tidy s)
    (hLocated : Located setting s doc reference found t) :
    Proceeds setting s t := by
  have hRun := Run.of_located hLocated
  refine ⟨?_, hRun.grows, hRun.scope, hRun.progress⟩
  cases hLocated with
  | known => exact hTidy
  | missed => exact hTidy.note rfl
  | registered => exact hTidy.of_same rfl rfl rfl rfl rfl
  | loaded => exact hTidy.of_same rfl rfl rfl rfl rfl

end Proceeds

/- Remembering the validator of the node on top only adds. -/
theorem Tidy.grows_finishing
    {rest : List NodeKey}
    (hTidy : Tidy s)
    (hTop : s.progress = key :: rest)
    (id : ValidatorId) :
    Grows setting s (s.finishing key rest id) := by
  have hResolved := hTidy.unresolved_of_top hTop
  exact ⟨StoreGrows.refl setting s.store,
    State.extends_filled id
      (fun c hCell => hTidy.empty_of_unresolved hResolved hCell),
    fun _ _ hFound => lookup_of_fresh hResolved hFound,
    fun _ _ hFound => hFound, List.suffix_refl _⟩

------------------------------------------------------------
-- The First Document
------------------------------------------------------------

/- The directory of a document that declares none. -/
def Origin.directory?
    (options : Options) : Origin → Option Path
  | .inline => options.baseDir
  | .file p => p.parent?
  | .registry _ => none

/-
  The document has the directory that it declares, or else
  the one of its origin.
-/
def Document.Governed
    (options : Options)
    (d : Document) : Prop :=
  d.baseDir =
    (declaredRoot? d.root <|> d.origin.directory? options)

/-
  A state in which at most one document is stored, and
  nothing else was done but to ask the loader.
-/
structure State.Opening
    (options : Options)
    (s : State) : Prop where
  single : s.store.documents.length ≤ 1
  governed : ∀ d ∈ s.store.documents, d.Governed options
  begun : s.begun = []
  idle : s.stacks = State.initial.stacks
  cells : s.cells = []

/- No node is in progress in an opening state. -/
theorem State.Opening.progress
    {options : Options}
    (hOpening : s.Opening options) :
    s.progress = [] :=
  congrArg Prod.snd hOpening.idle

/- An opening state is tidy. -/
theorem State.Opening.tidy
    {options : Options}
    (hOpening : s.Opening options) :
    Tidy s :=
  Tidy.of_empty hOpening.progress hOpening.begun hOpening.cells

/- A state without documents may be opening. -/
theorem State.Opening.of_empty
    {options : Options}
    (hStore : s.store = Store.empty)
    (hBegun : s.begun = [])
    (hStacks : s.stacks = State.initial.stacks)
    (hCells : s.cells = []) :
    s.Opening options := by
  refine ⟨?_, ?_, hBegun, hStacks, hCells⟩ <;>
    simp [hStore, Store.empty]

/- A state with one document may be opening. -/
theorem State.Opening.of_added
    {options : Options}
    {d : Document}
    (hStore : s.store = Store.empty.add d)
    (hGoverned : d.Governed options)
    (hBegun : s.begun = [])
    (hStacks : s.stacks = State.initial.stacks)
    (hCells : s.cells = []) :
    s.Opening options := by
  have hAll : s.store.documents = [d] := by
    simp [hStore, Store.add, Store.empty]
  refine ⟨by simp [hAll], ?_, hBegun, hStacks, hCells⟩
  intro e hMem
  rw [hAll, List.mem_singleton] at hMem
  rw [hMem]
  exact hGoverned

/- The path of a source that is one. -/
def Source.path? : Source → Option Path
  | .path p => some p
  | .value (.string text) => some ⟨text⟩
  | .value _ => none

/- The states in which storing the document of a source ends. -/
inductive Opens
    (setting : Setting)
    (workingDir : Path)
    (source : Source) : State → Prop where
  | asked
      (p : Path)
      (outcome : LoadOutcome)
      (hPath : source.path? = some p) :
      Opens setting workingDir source
        (State.initial.note
          (.asked (p.absolutize workingDir) outcome))
  | loaded
      (p : Path)
      (schema : Json)
      (hPath : source.path? = some p) :
      Opens setting workingDir source
        { State.initial.note
            (.asked (p.absolutize workingDir) .found) with
          store := Store.empty.add
            ⟨schema,
              declaredRoot? schema <|>
                (p.absolutize workingDir).parent?,
              .file (p.absolutize workingDir)⟩ }
  | refused :
      Opens setting workingDir source State.initial
  | kept
      (schema : Json)
      (hSource : source = .value schema) :
      Opens setting workingDir source
        { State.initial with
          store := Store.empty.add
            ⟨schema,
              declaredRoot? schema <|> setting.options.baseDir,
              .inline⟩ }

/- Storing the document of a file asks the loader once. -/
theorem loadPath_opens
    {source : Source}
    {p : Path}
    (setting : Setting)
    (workingDir : Path)
    (hPath : source.path? = some p) :
    Opens setting workingDir source
      (stateAfter (loadPath setting workingDir p)
        State.initial) := by
  have hAsk :=
    askLoader_run setting.loader State.initial
      (p.absolutize workingDir)
  unfold loadPath stateAfter
  dsimp only
  rw [bind_of_ok hAsk]
  cases setting.loader.load (p.absolutize workingDir) with
  | error cause => exact .asked p _ hPath
  | ok answer =>
      cases answer with
      | none => exact .asked p _ hPath
      | some schema =>
          dsimp only
          by_cases hObject : schema.isObject = true
          · rw [if_pos hObject]
            exact .loaded p schema hPath
          · rw [if_neg hObject]
            exact .asked p _ hPath

/- Storing the document of a source ends in such a state. -/
theorem loadRoot_opens
    (setting : Setting)
    (workingDir : Path)
    (source : Source) :
    Opens setting workingDir source
      (stateAfter (loadRoot setting workingDir source)
        State.initial) := by
  unfold loadRoot
  split
  case h_1 p => exact loadPath_opens setting workingDir rfl
  case h_2 text => exact loadPath_opens setting workingDir rfl
  case h_3 schema _ =>
    unfold loadInline
    by_cases hObject : schema.isObject = true
    · rw [if_pos hObject]
      exact .kept schema rfl
    · rw [if_neg hObject]
      exact .refused

/- In such a state at most one document is stored. -/
theorem Opens.opening
    {workingDir : Path}
    {source : Source}
    (hOpens : Opens setting workingDir source s) :
    s.Opening setting.options := by
  cases hOpens with
  | asked => exact .of_empty rfl rfl rfl rfl
  | loaded => exact .of_added rfl rfl rfl rfl rfl
  | refused => exact .of_empty rfl rfl rfl rfl
  | kept => exact .of_added rfl rfl rfl rfl rfl

/- Storing the document of a source does nothing else. -/
theorem loadRoot_opening
    (setting : Setting)
    (workingDir : Path)
    (source : Source) :
    (stateAfter (loadRoot setting workingDir source)
      State.initial).Opening setting.options :=
  (loadRoot_opens setting workingDir source).opening

end SchemaGraph
