import Mathlib
import SchemaGraph.Compile.Inheritance
import SchemaGraph.Proofs.Document.Spellings

/-
  The nodes of the stored documents.  Distinct keys of
  existing nodes are at most as many as there are positions
  in the documents, and a written pointer that is walked
  leads to an existing node.

  Main declarations:
    * `Store.positions`
    * `State.Present`
    * `State.Present.member`
    * `State.Present.item`
    * `State.length_le_positions`
    * `State.present_of_targetIn`
-/

namespace SchemaGraph

------------------------------------------------------------
-- Existing Nodes
------------------------------------------------------------

namespace State

/- A key denotes a node of a stored document. -/
def Present
    (s : State)
    (key : NodeKey) : Prop :=
  ∃ node, s.node? key = some node

/- The node of a child is one step further. -/
theorem node?_child
    (s : State)
    (key : NodeKey)
    (segment : String) :
    s.node? (key.child segment) =
      (s.node? key).bind (fun node => node.step? segment) := by
  unfold node? NodeKey.child
  cases s.store.get? key.doc with
  | none => rfl
  | some d => exact Json.find?_child d.root key.pointer segment

variable {s : State}
variable {key : NodeKey}
variable {node : Json}

/- The members of a node are nodes. -/
theorem node?_member
    {value : Json}
    {name : String}
    (hNode : s.node? key = some node)
    (hMember : node.member? name = some value) :
    s.node? (key.child name) = some value := by
  rw [node?_child, hNode]
  exact Json.step?_of_member? hMember

/- The items of a node are nodes. -/
theorem node?_item
    {value : Json}
    {items : List Json}
    {i : Nat}
    (hNode : s.node? key = some (.array items))
    (hItem : items[i]? = some value) :
    s.node? (key.index i) = some value := by
  change s.node? (key.child (Pointer.indexSegment i)) = some value
  rw [node?_child, hNode, Option.bind_some,
    Json.step?_indexSegment, hItem]

/- The members of a node are present. -/
theorem Present.member
    {value : Json}
    {name : String}
    (hNode : s.node? key = some node)
    (hMember : node.member? name = some value) :
    s.Present (key.child name) :=
  ⟨value, node?_member hNode hMember⟩

/- The items of a node are present. -/
theorem Present.item
    {value : Json}
    {items : List Json}
    {i : Nat}
    (hNode : s.node? key = some (.array items))
    (hItem : items[i]? = some value) :
    s.Present (key.index i) :=
  ⟨value, node?_item hNode hItem⟩

/- The root of a stored document is its value. -/
theorem node?_root
    {doc : DocId}
    {d : Document}
    (hDoc : s.store.get? doc = some d) :
    s.node? (NodeKey.root doc) = some d.root := by
  simp [node?, NodeKey.root, hDoc]

/- A document with a node is stored. -/
theorem Present.stored
    (hPresent : s.Present key) :
    ∃ d, s.store.get? key.doc = some d := by
  rcases hPresent with ⟨node, hNode⟩
  rcases Option.bind_eq_some_iff.mp hNode with ⟨d, hDoc, _⟩
  exact ⟨d, hDoc⟩

end State

------------------------------------------------------------
-- Counting
------------------------------------------------------------

namespace Store

/- The number of positions in all documents. -/
def positions
    (store : Store) : Nat :=
  (store.documents.map (fun d => d.root.positions)).sum

/- The keys of all nodes of documents, numbered from a position on. -/
def keysFrom : Nat → List Document → List NodeKey
  | _, [] => []
  | i, d :: rest =>
      d.root.pointers.map (fun s => ⟨⟨i⟩, ⟨s⟩⟩)
        ++ keysFrom (i + 1) rest

/- There are as many keys as positions. -/
theorem length_keysFrom
    (start : Nat)
    (documents : List Document) :
    (keysFrom start documents).length =
      (documents.map (fun d => d.root.positions)).sum := by
  induction documents generalizing start with
  | nil => rfl
  | cons d rest ih =>
      rw [keysFrom, List.length_append, List.length_map,
        Json.length_pointers, ih, List.map_cons, List.sum_cons]

/- Every key of an existing node is listed. -/
theorem mem_keysFrom
    {documents : List Document}
    (start : Nat)
    {i : Nat}
    {d : Document}
    {p : Pointer}
    {value : Json}
    (hDoc : documents[i]? = some d)
    (hFound : d.root.find? p = some value) :
    ⟨⟨start + i⟩, p⟩ ∈ keysFrom start documents := by
  induction documents generalizing start i with
  | nil => simp at hDoc
  | cons first rest ih =>
      rw [keysFrom]
      cases i with
      | zero =>
          cases hDoc
          exact List.mem_append_left _
            (List.mem_map.mpr
              ⟨p.segments, Json.mem_pointers_of_findSegments? hFound,
                rfl⟩)
      | succ i =>
          have hRest := ih (start + 1) (i := i) hDoc
          rw [Nat.add_assoc, Nat.add_comm 1 i] at hRest
          exact List.mem_append_right _ hRest

end Store

namespace State

/- Distinct existing nodes are at most as many as positions. -/
theorem length_le_positions
    {s : State}
    {keys : List NodeKey}
    (hDistinct : keys.Nodup)
    (hPresent : ∀ key ∈ keys, s.Present key) :
    keys.length ≤ s.store.positions := by
  have hListed : keys ⊆ Store.keysFrom 0 s.store.documents := by
    rintro ⟨⟨i⟩, p⟩ hMem
    rcases hPresent _ hMem with ⟨node, hNode⟩
    rcases Option.bind_eq_some_iff.mp hNode with
      ⟨d, hDoc, hFound⟩
    have hKey :=
      Store.mem_keysFrom 0 hDoc hFound
    rwa [Nat.zero_add] at hKey
  calc keys.length
      ≤ (Store.keysFrom 0 s.store.documents).length :=
        (hDistinct.subperm hListed).length_le
    _ = s.store.positions :=
        Store.length_keysFrom 0 s.store.documents

end State

------------------------------------------------------------
-- Targets
------------------------------------------------------------

namespace State

/- The target in a stored document exists. -/
theorem present_of_targetIn
    {s : State}
    {doc : DocId}
    {d : Document}
    {pointer : Option String}
    {target : NodeKey}
    (hDoc : s.store.get? doc = some d)
    (hTarget : targetIn s doc pointer = some target) :
    s.Present target := by
  cases pointer with
  | none =>
      cases hTarget
      exact ⟨d.root, node?_root hDoc⟩
  | some text =>
      rcases (targetIn_eq_some_iff hDoc).mp hTarget with
        ⟨route, node, hSpells, rfl⟩
      refine ⟨node, ?_⟩
      rw [node?, NodeKey.along_root, hDoc, Option.bind_some]
      exact Json.findSegments?_of_at? hSpells.at?_eq

end State

end SchemaGraph
