import Mathlib
import SchemaGraph.Compile
import SchemaGraph.Proofs.Compile.Step
import SchemaGraph.Proofs.Graph.Operation

/-
  What holds in every state of a compilation.

  Stored documents are what their origins say, each origin
  once.  The graph is closed, and deferring makes no cycles.
  A node in progress is there once and not remembered.  The
  cell of a node is empty while the node is in progress;
  afterwards it holds the node's validator, or is empty when
  that validator only leads back to the cell.

  Main declarations:
    * `Sourced`
    * `Nested`
    * `Celled`
    * `Sound`
    * `Step.sound`
    * `Reaches.sound`
-/

namespace SchemaGraph

variable {setting : Setting}
variable {source : Source}
variable {s t : State}

------------------------------------------------------------
-- Documents
------------------------------------------------------------

/- The document is what its origin says. -/
def Document.Served
    (setting : Setting)
    (source : Source)
    (d : Document) : Prop :=
  match d.origin with
  | .inline => source = .value d.root
  | .file p => setting.loader.load p = .ok (some d.root) ∧ p.Normal
  | .registry name => setting.options.subSchema? name = some d.root

/- Stored documents are what their origins say, each origin once. -/
structure Sourced
    (setting : Setting)
    (source : Source)
    (store : Store) : Prop where
  served : ∀ d ∈ store.documents, d.Served setting source
  distinct : (store.documents.map Document.origin).Nodup

/- A document of a new origin may be stored. -/
theorem Sourced.add
    {store : Store}
    {d : Document}
    (hSourced : Sourced setting source store)
    (hServed : d.Served setting source)
    (hNew : d.origin ∉ store.documents.map Document.origin) :
    Sourced setting source (store.add d) := by
  constructor
  · intro e he
    rcases List.mem_append.mp he with hOld | hAdded
    · exact hSourced.served e hOld
    · rw [List.mem_singleton.mp hAdded]
      exact hServed
  · rw [Store.add, List.map_append, List.nodup_append]
    refine ⟨hSourced.distinct, by simp, ?_⟩
    rintro origin hOld _ hAdded rfl
    rw [List.map_singleton, List.mem_singleton] at hAdded
    rw [hAdded] at hOld
    exact hNew hOld

/- A registry entry that is not found has a new origin. -/
theorem Store.not_mem_of_byRegistryId?
    {store : Store}
    {name : String}
    (hFresh : store.byRegistryId? name = none) :
    Origin.registry name ∉
      store.documents.map Document.origin := by
  intro hMem
  rcases List.mem_map.mp hMem with ⟨d, hDoc, hOrigin⟩
  rw [Store.byRegistryId?, Option.map_eq_none_iff,
    List.findIdx?_eq_none_iff] at hFresh
  have hOther := hFresh d hDoc
  simp [Store.isRegistry, hOrigin] at hOther

/- A file that is not found has a new origin. -/
theorem Store.not_mem_of_byPath?
    {store : Store}
    {p : Path}
    (hFresh : store.byPath? p = none) :
    Origin.file p ∉ store.documents.map Document.origin := by
  intro hMem
  rcases List.mem_map.mp hMem with ⟨d, hDoc, hOrigin⟩
  rw [Store.byPath?, Option.map_eq_none_iff,
    List.findIdx?_eq_none_iff] at hFresh
  have hOther := hFresh d hDoc
  simp [Store.isFile, hOrigin, Path.Same] at hOther

/- Every step leaves the documents what their origins say. -/
theorem Step.sourced
    (hStep : Step setting s t)
    (hSourced : Sourced setting source s.store) :
    Sourced setting source t.store := by
  cases hStep with
  | registered name root hFresh hRoot =>
      exact hSourced.add hRoot
        (Store.not_mem_of_byRegistryId? hFresh)
  | loaded p root hNormal hFresh hRoot =>
      exact hSourced.add ⟨hRoot, hNormal⟩
        (Store.not_mem_of_byPath? hFresh)
  | entered => exact hSourced
  | left => exact hSourced
  | missed => exact hSourced
  | followed => exact hSourced
  | pushed => exact hSourced
  | copied => exact hSourced
  | celled => exact hSourced
  | began => exact hSourced
  | finished => exact hSourced
  | answered => exact hSourced

/- Steps leave the documents what their origins say. -/
theorem Reaches.sourced
    (hReaches : Reaches setting s t)
    (hSourced : Sourced setting source s.store) :
    Sourced setting source t.store := by
  induction hReaches with
  | refl => exact hSourced
  | tail _ hStep ih => exact hStep.sourced ih

------------------------------------------------------------
-- Graph
------------------------------------------------------------

/- Filling the cell of a node leaves the graph sound. -/
theorem State.sound_filled
    {key : NodeKey}
    {id : ValidatorId}
    (hSound : s.graph.Sound)
    (hId : id.index < s.graph.size) :
    (s.filled key id).Sound := by
  cases hCell : s.cells.lookup key with
  | none =>
      rw [State.filled_of_none id hCell]
      exact hSound
  | some c =>
      simp only [State.filled, hCell]
      exact hSound.fillCell c hId

/- Every step leaves the graph sound. -/
theorem Step.soundGraph
    (hStep : Step setting s t)
    (hSound : s.graph.Sound) :
    t.graph.Sound := by
  cases hStep with
  | pushed v hBelow => exact hSound.push hBelow
  | copied g hCopy => exact hSound.addsCopy hCopy
  | celled => exact hSound.newCell
  | finished key rest id _ hReply =>
      exact State.sound_filled hSound hReply.lt_size
  | entered => exact hSound
  | left => exact hSound
  | missed => exact hSound
  | registered => exact hSound
  | loaded => exact hSound
  | followed => exact hSound
  | began => exact hSound
  | answered => exact hSound

------------------------------------------------------------
-- Nodes in Progress
------------------------------------------------------------

/- A node in progress exists, is there once and not remembered. -/
structure Nested
    (s : State) : Prop where
  distinct : s.progress.Nodup
  unresolved :
    ∀ key ∈ s.progress, s.resolved.lookup key = none
  present : ∀ key ∈ s.progress, s.Present key

/- States with the same stack, memory and documents. -/
theorem Nested.of_same
    (hNested : Nested s)
    (hProgress : t.progress = s.progress)
    (hResolved : t.resolved = s.resolved)
    (hGrows : Grows setting s t) :
    Nested t := by
  refine ⟨?_, ?_, ?_⟩
  · rw [hProgress]
    exact hNested.distinct
  · rw [hProgress, hResolved]
    exact hNested.unresolved
  · rw [hProgress]
    intro key hMem
    exact hGrows.present (hNested.present key hMem)

/- Every step leaves the nodes in progress unremembered. -/
theorem Step.nested
    (hStep : Step setting s t)
    (hNested : Nested s) :
    Nested t := by
  have hGrows := hStep.grows
  cases hStep with
  | began key _ hPresent _ hProgress hResolved =>
      refine ⟨List.nodup_cons.mpr ⟨hProgress, hNested.distinct⟩,
        ?_, ?_⟩
      · intro other hMem
        rcases List.mem_cons.mp hMem with rfl | hRest
        · exact hResolved
        · exact hNested.unresolved other hRest
      · intro other hMem
        rcases List.mem_cons.mp hMem with rfl | hRest
        · exact hPresent
        · exact hNested.present other hRest
  | finished key rest id hTop =>
      have hDistinct := hNested.distinct
      rw [hTop, List.nodup_cons] at hDistinct
      refine ⟨hDistinct.2, ?_, ?_⟩
      · intro other hMem
        have hNe : other ≠ key := by
          rintro rfl
          exact hDistinct.1 hMem
        rw [lookup_cons_eq_ite, if_neg hNe]
        exact hNested.unresolved other
          (by rw [hTop]; exact List.mem_cons_of_mem key hMem)
      · intro other hMem
        exact hNested.present other
          (by rw [hTop]; exact List.mem_cons_of_mem key hMem)
  | entered => exact hNested.of_same rfl rfl hGrows
  | left => exact hNested.of_same rfl rfl hGrows
  | missed => exact hNested.of_same rfl rfl hGrows
  | registered => exact hNested.of_same rfl rfl hGrows
  | loaded => exact hNested.of_same rfl rfl hGrows
  | followed => exact hNested.of_same rfl rfl hGrows
  | pushed => exact hNested.of_same rfl rfl hGrows
  | copied => exact hNested.of_same rfl rfl hGrows
  | celled => exact hNested.of_same rfl rfl hGrows
  | answered => exact hNested.of_same rfl rfl hGrows

------------------------------------------------------------
-- Cells
------------------------------------------------------------

/-
  Every node has its own cell.  The cell is empty while the
  node is in progress.  Afterwards it holds the remembered
  validator, or is empty when that only leads back to it.
-/
structure Celled
    (s : State) : Prop where
  bound :
    ∀ key c, s.cells.lookup key = some c →
      c.index < s.graph.cells.size
  own :
    ∀ key other c, s.cells.lookup key = some c →
      s.cells.lookup other = some c → key = other
  pending :
    ∀ key c, s.cells.lookup key = some c →
      (key ∈ s.progress ∧ s.graph.cell? c = none) ∨
        ∃ id, s.resolved.lookup key = some id ∧
          (s.graph.cell? c = some id ∨
            (s.graph.cell? c = none ∧ s.graph.LeadsBack id c))
  content :
    ∀ c id, s.graph.cell? c = some id →
      ∃ key, s.cells.lookup key = some c ∧
        s.resolved.lookup key = some id

/- A cell is empty while its node is not remembered. -/
theorem Celled.empty_of_unresolved
    {key : NodeKey}
    {c : CellId}
    (hCelled : Celled s)
    (hResolved : s.resolved.lookup key = none)
    (hCell : s.cells.lookup key = some c) :
    s.graph.cell? c = none := by
  rcases hCelled.pending key c hCell with
    ⟨_, hEmpty⟩ | ⟨id, hSome, _⟩
  · exact hEmpty
  · rw [hResolved] at hSome
    cases hSome

/- A validator may be added. -/
theorem Celled.push
    (hCelled : Celled s)
    (v : Validator) :
    Celled { s with graph := (s.graph.push v).2 } := by
  refine ⟨hCelled.bound, hCelled.own, ?_, hCelled.content⟩
  intro key c hCell
  rcases hCelled.pending key c hCell with
    hProgress | ⟨id, hResolved, hContent⟩
  · exact Or.inl hProgress
  · refine Or.inr ⟨id, hResolved, ?_⟩
    rcases hContent with hHolds | ⟨hEmpty, hLeads⟩
    · exact Or.inl hHolds
    · exact Or.inr
        ⟨hEmpty, hLeads.mono (Graph.Extends.push s.graph v)⟩

/- A cell of the extended table is the new one or an old one. -/
theorem State.lookup_newCell
    {key other : NodeKey}
    {c : CellId}
    (hCell :
      ((key, s.graph.newCell.1) :: s.cells).lookup other =
        some c) :
    (other = key ∧ c.index = s.graph.cells.size) ∨
      s.cells.lookup other = some c := by
  rw [lookup_cons_eq_ite] at hCell
  by_cases hSame : other = key
  · rw [if_pos hSame] at hCell
    cases hCell
    exact Or.inl ⟨hSame, rfl⟩
  · rw [if_neg hSame] at hCell
    exact Or.inr hCell

/- A node in progress may get a cell. -/
theorem Celled.newCell
    {key : NodeKey}
    (hCelled : Celled s)
    (hProgress : key ∈ s.progress)
    (hFresh : s.cells.lookup key = none) :
    Celled
      { s with
        graph := s.graph.newCell.2
        cells := (key, s.graph.newCell.1) :: s.cells } := by
  have hSize := Graph.size_cells_newCell s.graph
  refine ⟨?_, ?_, ?_, ?_⟩
  · intro other c hCell
    change c.index < s.graph.newCell.2.cells.size
    rw [hSize]
    rcases State.lookup_newCell hCell with ⟨_, hIndex⟩ | hOld
    · omega
    · have hBound := hCelled.bound other c hOld
      omega
  · intro first second c hFirst hSecond
    rcases State.lookup_newCell hFirst with ⟨rfl, hIndex⟩ | hOld
    · rcases State.lookup_newCell hSecond with ⟨rfl, _⟩ | hOther
      · rfl
      · have hBound := hCelled.bound second c hOther
        omega
    · rcases State.lookup_newCell hSecond with ⟨rfl, hIndex⟩ | hOther
      · have hBound := hCelled.bound first c hOld
        omega
      · exact hCelled.own first second c hOld hOther
  · intro other c hCell
    simp only [Graph.cell?_newCell]
    rcases State.lookup_newCell hCell with ⟨rfl, hIndex⟩ | hOld
    · have hNone : s.graph.cell? c = none := by
        simp [Graph.cell?, hIndex]
      exact Or.inl ⟨hProgress, hNone⟩
    · rcases hCelled.pending other c hOld with
        hOpen | ⟨id, hResolved, hContent⟩
      · exact Or.inl hOpen
      · refine Or.inr ⟨id, hResolved, ?_⟩
        rcases hContent with hHolds | ⟨hEmpty, hLeads⟩
        · exact Or.inl hHolds
        · exact Or.inr
            ⟨hEmpty, hLeads.mono (Graph.Extends.newCell s.graph)⟩
  · intro c id hContent
    simp only [Graph.cell?_newCell] at hContent
    rcases hCelled.content c id hContent with
      ⟨other, hCell, hResolved⟩
    exact ⟨other, lookup_of_fresh hFresh hCell, hResolved⟩

/- What filling the cell of a node does to the cells. -/
theorem State.cell?_filled
    (key : NodeKey)
    (id : ValidatorId)
    (hSound : s.graph.Sound)
    (hCelled : Celled s)
    (c : CellId) :
    ((s.filled key id).cell? c = s.graph.cell? c ∧
        (s.cells.lookup key = some c →
          (s.filled key id).LeadsBack id c)) ∨
      (s.cells.lookup key = some c ∧
        (s.filled key id).cell? c = some id) := by
  cases hOwn : s.cells.lookup key with
  | none =>
      rw [State.filled_of_none id hOwn]
      exact Or.inl ⟨rfl, fun hSome => by cases hSome⟩
  | some own =>
      rw [State.filled_of_some id hOwn]
      by_cases hLeads : s.graph.leadsTo id own = true
      · rw [if_pos hLeads]
        refine Or.inl ⟨rfl, ?_⟩
        intro hSame
        cases hSame
        exact (Graph.leadsTo_iff hSound.acyclic).mp hLeads
      · rw [if_neg hLeads]
        by_cases hSame : c = own
        · subst hSame
          exact Or.inr
            ⟨rfl, Graph.cell?_setCell_self id
              (hCelled.bound key c hOwn)⟩
        · refine Or.inl
            ⟨Graph.cell?_setCell_of_ne id hSame, ?_⟩
          intro hOther
          exact absurd (Option.some.inj hOther).symm hSame

/- The node on top may be done. -/
theorem Celled.finish
    {key : NodeKey}
    {rest : List NodeKey}
    {id : ValidatorId}
    (hCelled : Celled s)
    (hSound : s.graph.Sound)
    (hTop : s.progress = key :: rest)
    (hResolved : s.resolved.lookup key = none) :
    Celled
      { s with
        graph := s.filled key id
        resolved := (key, id) :: s.resolved
        progress := rest } := by
  have hExtends : s.graph.Extends (s.filled key id) :=
    State.extends_filled id
      (fun c hCell => hCelled.empty_of_unresolved hResolved hCell)
  refine ⟨?_, hCelled.own, ?_, ?_⟩
  · intro other c hCell
    exact Nat.lt_of_lt_of_le (hCelled.bound other c hCell)
      hExtends.cells
  · intro other c hCell
    by_cases hSame : other = key
    · subst hSame
      refine Or.inr ⟨id, by simp, ?_⟩
      have hEmpty := hCelled.empty_of_unresolved hResolved hCell
      rcases State.cell?_filled other id hSound hCelled c with
        ⟨hKept, hLeads⟩ | ⟨_, hFilled⟩
      · exact Or.inr ⟨hKept.trans hEmpty, hLeads hCell⟩
      · exact Or.inl hFilled
    · -- The cell of another node stays as it is.
      have hKept :
          (s.filled key id).cell? c = s.graph.cell? c := by
        rcases State.cell?_filled key id hSound hCelled c with
          ⟨hKept, _⟩ | ⟨hOwn, _⟩
        · exact hKept
        · exact absurd (hCelled.own other key c hCell hOwn) hSame
      simp only [hKept]
      rcases hCelled.pending other c hCell with
        ⟨hMem, hEmpty⟩ | ⟨held, hOld, hContent⟩
      · rw [hTop] at hMem
        rcases List.mem_cons.mp hMem with hTopKey | hRest
        · exact absurd hTopKey hSame
        · exact Or.inl ⟨hRest, hEmpty⟩
      · refine Or.inr
          ⟨held, lookup_of_fresh hResolved hOld, ?_⟩
        rcases hContent with hHolds | ⟨hEmpty, hLeads⟩
        · exact Or.inl hHolds
        · exact Or.inr ⟨hEmpty, hLeads.mono hExtends⟩
  · intro c held hContent
    rcases State.cell?_filled key id hSound hCelled c with
      ⟨hKept, _⟩ | ⟨hOwn, hFilled⟩
    · rw [hKept] at hContent
      rcases hCelled.content c held hContent with
        ⟨other, hCell, hOld⟩
      exact ⟨other, hCell, lookup_of_fresh hResolved hOld⟩
    · rw [hFilled] at hContent
      cases hContent
      exact ⟨key, hOwn, by simp⟩

/- States with the same graph, cells and memory. -/
theorem Celled.of_same
    (hCelled : Celled s)
    (hGraph : t.graph = s.graph)
    (hCells : t.cells = s.cells)
    (hResolved : t.resolved = s.resolved)
    (hProgress : s.progress ⊆ t.progress) :
    Celled t := by
  refine ⟨?_, ?_, ?_, ?_⟩
  · rw [hGraph, hCells]
    exact hCelled.bound
  · rw [hCells]
    exact hCelled.own
  · rw [hGraph, hCells, hResolved]
    intro key c hCell
    rcases hCelled.pending key c hCell with ⟨hMem, hEmpty⟩ | hDone
    · exact Or.inl ⟨hProgress hMem, hEmpty⟩
    · exact Or.inr hDone
  · rw [hGraph, hCells, hResolved]
    exact hCelled.content

/- Every step leaves the cells with their nodes. -/
theorem Step.celledCells
    (hStep : Step setting s t)
    (hSound : s.graph.Sound)
    (hCelled : Celled s) :
    Celled t := by
  cases hStep with
  | pushed v => exact hCelled.push v
  | copied g hCopy =>
      rcases hCopy with ⟨id, v, presence, allowNull, _, rfl⟩
      exact hCelled.push _
  | celled key _ hProgress hFresh =>
      exact hCelled.newCell hProgress hFresh
  | finished key rest id hTop _ hResolved =>
      exact hCelled.finish hSound hTop hResolved
  | began key =>
      exact hCelled.of_same rfl rfl rfl
        (List.subset_cons_of_subset _ (List.Subset.refl _))
  | entered =>
      exact hCelled.of_same rfl rfl rfl (List.Subset.refl _)
  | left =>
      exact hCelled.of_same rfl rfl rfl (List.Subset.refl _)
  | missed =>
      exact hCelled.of_same rfl rfl rfl (List.Subset.refl _)
  | registered =>
      exact hCelled.of_same rfl rfl rfl (List.Subset.refl _)
  | loaded =>
      exact hCelled.of_same rfl rfl rfl (List.Subset.refl _)
  | followed =>
      exact hCelled.of_same rfl rfl rfl (List.Subset.refl _)
  | answered =>
      exact hCelled.of_same rfl rfl rfl (List.Subset.refl _)

------------------------------------------------------------
-- Answers
------------------------------------------------------------

/-
  Remembered validators are replies, answers stand for nodes,
  and references lead where they were followed to.
-/
structure Truthful
    (setting : Setting)
    (s : State) : Prop where
  replies :
    ∀ key id, s.resolved.lookup key = some id →
      Reply setting s key id
  answers :
    ∀ key id, Event.answered key id ∈ s.journal →
      s.StandsFor key id
  follows :
    ∀ doc reference target,
      Event.followed (some doc) reference (some target) ∈
          s.journal →
        (∃ d, s.store.get? doc = some d) ∧
          Leads setting s doc reference target

/- The event tells neither an answer nor a target. -/
def Event.Idle : Event → Prop
  | .began _ _ => True
  | .asked _ _ => True
  | _ => False

/- Noting an idle event adds no other one. -/
theorem Event.Idle.noted
    {e : Event}
    (hIdle : e.Idle) :
    ∀ other ∈ (s.note e).journal,
      other ∈ s.journal ∨ other.Idle := by
  intro other hMem
  rcases List.mem_cons.mp hMem with rfl | hOld
  · exact Or.inr hIdle
  · exact Or.inl hOld

/- What was told goes on to be true. -/
theorem Truthful.told
    (hTruthful : Truthful setting s)
    (hGrows : Grows setting s t)
    (hReplies :
      ∀ key id, t.resolved.lookup key = some id →
        Reply setting t key id)
    (hJournal :
      ∀ e ∈ t.journal,
        e ∈ s.journal ∨ e.Idle ∨
          (∃ key id, e = .answered key id ∧ t.StandsFor key id) ∨
          ∃ doc d reference target,
            e = .followed (some doc) reference target ∧
              s.store.get? doc = some d ∧
              ∀ key, target = some key →
                Leads setting t doc reference key) :
    Truthful setting t := by
  refine ⟨hReplies, ?_, ?_⟩
  · intro key id hMem
    rcases hJournal _ hMem with
      hOld | hIdle | ⟨_, _, hSame, hStands⟩ | ⟨_, _, _, _, hSame, _⟩
    · exact (hTruthful.answers key id hOld).mono hGrows
    · exact hIdle.elim
    · cases hSame
      exact hStands
    · cases hSame
  · intro doc reference key hMem
    rcases hJournal _ hMem with
      hOld | hIdle | ⟨_, _, hSame, _⟩ |
        ⟨_, d, _, _, hSame, hDoc, hLeads⟩
    · rcases hTruthful.follows doc reference key hOld with
        ⟨⟨d, hDoc⟩, hLeads⟩
      exact ⟨⟨d, hGrows.store.get? hDoc⟩,
        hLeads.mono hGrows.store hDoc⟩
    · exact hIdle.elim
    · cases hSame
    · cases hSame
      exact ⟨⟨d, hGrows.store.get? hDoc⟩, hLeads key rfl⟩

/- States that remember the same and were told nothing new. -/
theorem Truthful.of_same
    (hTruthful : Truthful setting s)
    (hGrows : Grows setting s t)
    (hResolved : t.resolved = s.resolved)
    (hJournal : ∀ e ∈ t.journal, e ∈ s.journal ∨ e.Idle) :
    Truthful setting t := by
  refine hTruthful.told hGrows ?_ ?_
  · intro key id hSome
    rw [hResolved] at hSome
    exact (hTruthful.replies key id hSome).mono hGrows
  · intro e hMem
    rcases hJournal e hMem with hOld | hIdle
    · exact Or.inl hOld
    · exact Or.inr (Or.inl hIdle)

/- Every step leaves what is remembered and told true. -/
theorem Step.truthful
    (hStep : Step setting s t)
    (hTruthful : Truthful setting s) :
    Truthful setting t := by
  have hGrows := hStep.grows
  cases hStep with
  | finished key rest id _ hReply =>
      refine hTruthful.told hGrows ?_ (fun _ hOld => Or.inl hOld)
      intro other held hSome
      by_cases hSame : other = key
      · subst hSame
        have hHeld : id = held := by simpa using hSome
        subst hHeld
        exact hReply.mono hGrows
      · rw [lookup_cons_eq_ite, if_neg hSame] at hSome
        exact (hTruthful.replies other held hSome).mono hGrows
  | answered key id hStands =>
      refine hTruthful.told hGrows ?_ ?_
      · intro other held hSome
        exact (hTruthful.replies other held hSome).mono hGrows
      · intro e hMem
        rcases List.mem_cons.mp hMem with rfl | hOld
        · exact Or.inr (Or.inr (Or.inl
            ⟨key, id, rfl, hStands.mono hGrows⟩))
        · exact Or.inl hOld
  | followed doc found d reference _ hDoc _ hKnown =>
      refine hTruthful.told hGrows ?_ ?_
      · intro other held hSome
        exact (hTruthful.replies other held hSome).mono hGrows
      · intro e hMem
        rcases List.mem_cons.mp hMem with rfl | hOld
        · exact Or.inr (Or.inr (Or.inr
            ⟨doc, d, reference, _, rfl, hDoc,
              fun key hTarget => ⟨found, hKnown, hTarget⟩⟩))
        · exact Or.inl hOld
  | missed =>
      exact hTruthful.of_same hGrows rfl
        (Event.Idle.noted trivial)
  | loaded =>
      exact hTruthful.of_same hGrows rfl
        (Event.Idle.noted trivial)
  | began =>
      exact hTruthful.of_same hGrows rfl
        (Event.Idle.noted trivial)
  | entered =>
      exact hTruthful.of_same hGrows rfl (fun _ h => Or.inl h)
  | left =>
      exact hTruthful.of_same hGrows rfl (fun _ h => Or.inl h)
  | registered =>
      exact hTruthful.of_same hGrows rfl (fun _ h => Or.inl h)
  | pushed =>
      exact hTruthful.of_same hGrows rfl (fun _ h => Or.inl h)
  | copied =>
      exact hTruthful.of_same hGrows rfl (fun _ h => Or.inl h)
  | celled =>
      exact hTruthful.of_same hGrows rfl (fun _ h => Or.inl h)

------------------------------------------------------------
-- Soundness
------------------------------------------------------------

/- What holds in every state of a compilation. -/
structure Sound
    (setting : Setting)
    (source : Source)
    (s : State) : Prop where
  sourced : Sourced setting source s.store
  graph : s.graph.Sound
  nested : Nested s
  celled : Celled s
  truthful : Truthful setting s

/- A step keeps a state sound. -/
theorem Step.sound
    (hStep : Step setting s t)
    (hSound : Sound setting source s) :
    Sound setting source t :=
  ⟨hStep.sourced hSound.sourced, hStep.soundGraph hSound.graph,
    hStep.nested hSound.nested,
    hStep.celledCells hSound.graph hSound.celled,
    hStep.truthful hSound.truthful⟩

/- Steps keep a state sound. -/
theorem Reaches.sound
    (hReaches : Reaches setting s t)
    (hSound : Sound setting source s) :
    Sound setting source t := by
  induction hReaches with
  | refl => exact hSound
  | tail _ hStep ih => exact hStep.sound ih

/- The state before anything was done is sound. -/
theorem Sound.initial
    (setting : Setting)
    (source : Source) :
    Sound setting source State.initial := by
  refine ⟨⟨?_, ?_⟩, Graph.Sound.empty, ⟨?_, ?_, ?_⟩,
    ⟨?_, ?_, ?_, ?_⟩, ⟨?_, ?_, ?_⟩⟩
  · intro d hMem
    cases hMem
  · exact List.nodup_nil
  · exact List.nodup_nil
  · intro key hMem
    cases hMem
  · intro key hMem
    cases hMem
  · intro key c hCell
    cases hCell
  · intro key other c hCell
    cases hCell
  · intro key c hCell
    cases hCell
  · intro c id hContent
    simp [State.initial, Graph.cell?, Graph.empty] at hContent
  · intro key id hSome
    cases hSome
  · intro key id hMem
    cases hMem
  · intro doc reference target hMem
    cases hMem

/- Storing the document of the source keeps a state sound. -/
theorem Sound.add
    {d : Document}
    (hSound : Sound setting source s)
    (hServed : d.Served setting source)
    (hNew : d.origin ∉ s.store.documents.map Document.origin)
    (hGrows : Grows setting s { s with store := s.store.add d }) :
    Sound setting source { s with store := s.store.add d } :=
  ⟨hSound.sourced.add hServed hNew, hSound.graph,
    hSound.nested.of_same rfl rfl hGrows,
    hSound.celled.of_same rfl rfl rfl (List.Subset.refl _),
    hSound.truthful.of_same hGrows rfl (fun _ h => Or.inl h)⟩

end SchemaGraph
