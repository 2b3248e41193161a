import Mathlib
import SchemaGraph.Proofs.Compile.OmittedKeywords
import SchemaGraph.Proofs.Compile.Steadiness

/-
  Leaving members out of the documents of a compilation.
  What is left out is told for every origin of a document.
  Documents stay in their places, and while nothing is left
  out on the way to a position, nodes are found and
  references lead there as before.

  Main declarations:
    * `Omissions`
    * `State.omitting`
    * `Setting.omitting`
    * `State.targets`
    * `State.places`
    * `Continues`
    * `State.Leaves`
    * `node?_omitting`
    * `targetIn_omitting`
-/

namespace SchemaGraph

------------------------------------------------------------
-- Documents
------------------------------------------------------------

/- What is left out of the documents of each origin. -/
abbrev Omissions := Origin → Omission

variable (cuts : Omissions)

/- A document without what is left out of it. -/
def Document.omitting
    (d : Document) : Document :=
  { d with root := (cuts d.origin).apply d.root }

/- A store without what is left out of its documents. -/
def Store.omitting
    (store : Store) : Store :=
  ⟨store.documents.map (Document.omitting cuts)⟩

/- A state without what is left out of its documents. -/
def State.omitting
    (s : State) : State :=
  { s with store := s.store.omitting cuts }

/- Options without what is left out of the registry. -/
def Options.omitting
    (options : Options) : Options :=
  { options with
    subSchemas :=
      options.subSchemas.map (fun e =>
        (e.1, (cuts (.registry e.1)).apply e.2)) }

/- A loader without what is left out of its documents. -/
def Loader.omitting
    (loader : Loader) : Loader :=
  { loader with
    load := fun p =>
      (loader.load p).map (Option.map (cuts (.file p)).apply) }

/- A setting without what is left out of the documents. -/
def Setting.omitting
    (setting : Setting) : Setting :=
  ⟨setting.options.omitting cuts, setting.loader.omitting cuts,
    setting.engine, setting.budget⟩

/- A source without what is left out of it. -/
def Source.omitting : Source → Source
  | .value schema => .value ((cuts .inline).apply schema)
  | .path p => .path p

section Stores

variable (store : Store)

/- The documents are where they were. -/
theorem Store.get?_omitting
    (doc : DocId) :
    (store.omitting cuts).get? doc =
      (store.get? doc).map (Document.omitting cuts) :=
  List.getElem?_map

/- Documents are told apart by their origins. -/
theorem Store.known?_omitting
    (origin : Origin) :
    (store.omitting cuts).known? origin = store.known? origin := by
  cases origin with
  | inline => rfl
  | file p =>
      simp only [Store.known?, Store.byPath?, Store.omitting,
        List.findIdx?_map]
      rfl
  | registry id =>
      simp only [Store.known?, Store.byRegistryId?, Store.omitting,
        List.findIdx?_map]
      rfl

/- A new document is stored in the same place. -/
theorem Store.insert_omitting
    (d : Document) :
    (store.omitting cuts).insert (d.omitting cuts) =
      ((store.insert d).1, (store.insert d).2.omitting cuts) := by
  have hKnown := store.known?_omitting cuts d.origin
  simp only [Store.insert]
  rw [show (d.omitting cuts).origin = d.origin from rfl, hKnown]
  cases store.known? d.origin with
  | some id => rfl
  | none =>
      simp only [Store.omitting, Store.size, List.length_map,
        List.map_append, List.map_cons, List.map_nil]

end Stores

/- The registry keeps its names. -/
theorem Options.subSchema?_omitting
    (options : Options)
    (id : String) :
    (options.omitting cuts).subSchema? id =
      (options.subSchema? id).map (cuts (.registry id)).apply := by
  simp only [Options.subSchema?, Options.omitting]
  induction options.subSchemas with
  | nil => rfl
  | cons e rest ih =>
      rcases e with ⟨name, root⟩
      rw [List.map_cons, lookup_cons_eq_ite, lookup_cons_eq_ite, ih]
      by_cases hSame : id = name
      · rw [if_pos hSame, if_pos hSame, hSame]
        rfl
      · rw [if_neg hSame, if_neg hSame]

/- The directory that a document declares is no null. -/
theorem declaredRoot?_apply
    {o : Omission}
    {root : Json}
    (hNulls : o.OnlyNulls root) :
    declaredRoot? (o.apply root) = declaredRoot? root := by
  apply (Omission.reads_member? hNulls "jsonRoot").bind_eq rfl
  intro v w hShape
  rw [hShape.text?_eq]

------------------------------------------------------------
-- Places
------------------------------------------------------------

/- The position that a reference was followed to. -/
def Event.target? : Event → Option NodeKey
  | .followed _ _ target => target
  | _ => none

/- The position that was begun or that a reference led to. -/
def Event.place? : Event → Option NodeKey
  | .began key _ => some key
  | e => e.target?

/- The positions that references led to. -/
def State.targets
    (f : State) : List NodeKey :=
  f.journal.filterMap Event.target?

/- The positions of schemas that were compiled or referred to. -/
def State.places
    (f : State) : List NodeKey :=
  f.journal.filterMap Event.place?

/- Targets of references are places of schemas. -/
theorem mem_places_of_mem_targets
    {f : State}
    {key : NodeKey}
    (hTarget : key ∈ f.targets) :
    key ∈ f.places := by
  rcases List.mem_filterMap.mp hTarget with ⟨e, hMem, hKey⟩
  refine List.mem_filterMap.mpr ⟨e, hMem, ?_⟩
  cases e with
  | followed => exact hKey
  | _ => cases hKey

------------------------------------------------------------
-- States One after Another
------------------------------------------------------------

/- The state has the documents and events of an earlier one. -/
structure Continues
    (s t : State) : Prop where
  documents : s.store.documents <+: t.store.documents
  journal : s.journal <:+ t.journal

namespace Continues

variable {s t u : State}

/- States continue one another. -/
theorem trans
    (hFirst : Continues s t)
    (hSecond : Continues t u) :
    Continues s u :=
  ⟨hFirst.documents.trans hSecond.documents,
    hFirst.journal.trans hSecond.journal⟩

/- Whatever a compilation does continues its state. -/
theorem steady :
    Steady Continues where
  refl s := ⟨List.prefix_refl _, List.suffix_refl _⟩
  trans hFirst hSecond := hFirst.trans hSecond
  noted s e := ⟨List.prefix_refl _, List.suffix_cons _ _⟩
  stored s d := by
    refine ⟨?_, List.suffix_refl _⟩
    simp only [Store.insert]
    split
    case h_1 => exact List.prefix_refl _
    case h_2 => exact List.prefix_append _ _
  built s _ _ _ := ⟨List.prefix_refl _, List.suffix_refl _⟩
  entered hWithin := ⟨hWithin.documents, hWithin.journal⟩
  begun hWithin := ⟨hWithin.documents, hWithin.journal⟩

/- Documents stay in their places. -/
theorem get?
    {doc : DocId}
    {d : Document}
    (hContinues : Continues s t)
    (hDoc : s.store.get? doc = some d) :
    t.store.get? doc = some d := by
  rcases hContinues.documents with ⟨more, hMore⟩
  rcases List.getElem?_eq_some_iff.mp hDoc with ⟨hLt, _⟩
  unfold Store.get?
  rw [← hMore, List.getElem?_append_left hLt]
  exact hDoc

/- Nodes stay where they are. -/
theorem node?
    {key : NodeKey}
    {node : Json}
    (hContinues : Continues s t)
    (hNode : s.node? key = some node) :
    t.node? key = some node := by
  rcases Option.bind_eq_some_iff.mp hNode with ⟨d, hDoc, hFound⟩
  exact Option.bind_eq_some_iff.mpr
    ⟨d, hContinues.get? hDoc, hFound⟩

/- Targets of references stay. -/
theorem mem_targets
    {key : NodeKey}
    (hContinues : Continues s t)
    (hTarget : key ∈ s.targets) :
    key ∈ t.targets :=
  (hContinues.journal.filterMap Event.target?).subset hTarget

/- Places of schemas stay. -/
theorem mem_places
    {key : NodeKey}
    (hContinues : Continues s t)
    (hPlace : key ∈ s.places) :
    key ∈ t.places :=
  (hContinues.journal.filterMap Event.place?).subset hPlace

end Continues

------------------------------------------------------------
-- Positions
------------------------------------------------------------

/- What is left out at a position of a document. -/
def State.cutAt
    (f : State)
    (key : NodeKey) : Omission :=
  match f.store.get? key.doc with
  | some d => (cuts d.origin).behind key.pointer.segments
  | none => .nothing

/- What is left out at a position depends on where it is from. -/
theorem State.cutAt_eq
    {f : State}
    {key : NodeKey}
    {d : Document}
    (hDoc : f.store.get? key.doc = some d) :
    f.cutAt cuts key = (cuts d.origin).behind key.pointer.segments := by
  simp only [State.cutAt, hDoc]

/- Nothing is left out on the way to a position. -/
def State.Leaves
    (f : State)
    (key : NodeKey) : Prop :=
  ∀ d, f.store.get? key.doc = some d →
    (cuts d.origin).Leaves key.pointer.segments

section Positions

variable {cuts : Omissions}
variable {s f : State}
variable {key : NodeKey}

/- Nothing is left out on the way to a root. -/
theorem State.leaves_root
    (f : State)
    (doc : DocId) :
    f.Leaves cuts (NodeKey.root doc) :=
  fun _ _ => trivial

/- What is left out of a member. -/
theorem State.cutAt_child
    (f : State)
    (key : NodeKey)
    (name : String) :
    f.cutAt cuts (key.child name) =
      (f.cutAt cuts key).inside name := by
  simp only [State.cutAt, NodeKey.child, Pointer.child]
  cases f.store.get? key.doc with
  | none => rfl
  | some d => exact Omission.behind_append_singleton _ _ _

/- A member that is not left out is kept. -/
theorem State.Leaves.child
    {name : String}
    (hLeaves : f.Leaves cuts key)
    (hKept : (f.cutAt cuts key).omits name = false) :
    f.Leaves cuts (key.child name) := by
  intro d hDoc
  have hHere : f.store.get? key.doc = some d := hDoc
  rw [State.cutAt_eq cuts hHere] at hKept
  exact Omission.leaves_append_singleton (hLeaves d hHere) hKept

/- A node that is kept is found without what is left out of it. -/
theorem node?_omitting
    (hContinues : Continues s f)
    (hLeaves : f.Leaves cuts key) :
    (s.omitting cuts).node? key =
      (s.node? key).map (f.cutAt cuts key).apply := by
  simp only [State.node?, State.omitting, Store.get?_omitting]
  cases hDoc : s.store.get? key.doc with
  | none => rfl
  | some d =>
      have hLast := hContinues.get? hDoc
      rw [Option.map_some, Option.bind_some, Option.bind_some,
        State.cutAt_eq cuts hLast]
      exact Omission.findSegments?_apply (hLeaves d hLast)

/-
  References lead where they did, if they lead to positions
  that are kept.
-/
theorem targetIn_omitting
    {doc : DocId}
    {pointer : Option String}
    (hContinues : Continues s f)
    (hReached :
      ∀ target, targetIn s doc pointer = some target →
        f.Leaves cuts target) :
    targetIn (s.omitting cuts) doc pointer =
      targetIn s doc pointer := by
  cases pointer with
  | none => rfl
  | some text =>
      simp only [targetIn, State.omitting,
        Store.get?_omitting] at hReached ⊢
      cases hDoc : s.store.get? doc with
      | none => rfl
      | some d =>
          simp only [hDoc, Option.map_some, Option.bind_some]
            at hReached ⊢
          cases hWalk : walk? d.root text with
          | none =>
              have hSame : walk? (d.omitting cuts).root text = none :=
                Omission.looseWalk?_apply_eq_none hWalk
              rw [hSame]
          | some p =>
              simp only [hWalk, Option.map_some] at hReached
              rcases Omission.looseWalk?_apply
                (o := cuts d.origin) hWalk with
                ⟨way, hSegments, hSame⟩
              have hLeaves :=
                hReached ⟨doc, p⟩ rfl d (hContinues.get? hDoc)
              rw [show p.segments = way from hSegments] at hLeaves
              have hThere :
                  walk? (d.omitting cuts).root text = some p :=
                hSame hLeaves
              rw [hThere]

end Positions

end SchemaGraph
