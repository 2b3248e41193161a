import Mathlib
import SchemaGraph.Document.Key
import SchemaGraph.Graph.Rule
import SchemaGraph.Proofs.Json.PointerTexts

/-
  The positions of a value, as the moves that lead to them.
  A move names a member or counts an item, so that unlike a
  segment it says which kind of container it leads into.

  One position has one route, and the key that is built
  along a route leads to the position again.  A segment may
  be a name or an index, but within one value it cannot be
  both, so keys along different routes are different.

  Main declarations:
    * `Pointer.text_inj`
    * `Json.Move`
    * `Json.at?`
    * `NodeKey.along`
    * `Json.findSegments?_of_at?`
    * `Json.route_eq_of_segments`
    * `NodeKey.findText?_along`
    * `NodeKey.along_eq_iff`
-/

namespace SchemaGraph

namespace Pointer

------------------------------------------------------------
-- Texts of Pointers
------------------------------------------------------------

/- Different indexes have different segments. -/
theorem indexSegment_inj
    {i j : Nat} :
    indexSegment i = indexSegment j ↔ i = j := by
  constructor
  · intro hSame
    have hRead := Json.canonicalIndex?_indexSegment i
    rw [hSame, Json.canonicalIndex?_indexSegment j] at hRead
    exact (Option.some.inj hRead).symm
  · exact congrArg indexSegment

/- Different pointers have different texts. -/
theorem text_inj
    {p q : Pointer} :
    p.text = q.text ↔ p = q := by
  constructor
  · intro hSame
    have hRead := ofText?_text p
    rw [hSame, ofText?_text q] at hRead
    exact (Option.some.inj hRead).symm
  · exact congrArg text

end Pointer

namespace Json

------------------------------------------------------------
-- Routes
------------------------------------------------------------

/- From a value to one of its children. -/
inductive Move where
  | member (name : String)
  /- Positions are counted with 64 bits. -/
  | item (i : Nat) (counts : i ≤ largestCount)
deriving DecidableEq

/- The segment that a move adds to a pointer. -/
def Move.segment : Move → String
  | .member name => name
  | .item i _ => Pointer.indexSegment i

/- The child that a move leads to. -/
def go?
    (value : Json) : Move → Option Json
  | .member name => value.member? name
  | .item i _ => value.items?.bind (fun items => items[i]?)

/- The value at the end of a route. -/
def at? : Json → List Move → Option Json
  | value, [] => some value
  | value, move :: rest =>
      (value.go? move).bind (fun next => next.at? rest)

/- A route starts with a move and goes on from there. -/
theorem at?_cons_eq_some_iff
    {value node : Json}
    {move : Move}
    {rest : List Move} :
    value.at? (move :: rest) = some node ↔
      ∃ next,
        value.go? move = some next ∧ next.at? rest = some node :=
  Option.bind_eq_some_iff

------------------------------------------------------------
-- Segments of Routes
------------------------------------------------------------

/- A move is the step of its segment. -/
theorem step?_of_go?
    {value next : Json}
    {move : Move}
    (hMove : value.go? move = some next) :
    value.step? move.segment = some next := by
  cases move with
  | member name => exact step?_of_member? hMove
  | item i counts =>
      rcases Option.bind_eq_some_iff.mp hMove with
        ⟨items, hItems, hItem⟩
      cases value with
      | array xs =>
          cases hItems
          rw [Move.segment, step?_indexSegment, hItem]
      | _ => cases hItems

/- The segments of a route lead to its end. -/
theorem findSegments?_of_at?
    {value node : Json}
    {route : List Move}
    (hAt : value.at? route = some node) :
    value.findSegments? (route.map Move.segment) = some node := by
  induction route generalizing value with
  | nil => exact hAt
  | cons move rest ih =>
      rcases at?_cons_eq_some_iff.mp hAt with ⟨next, hMove, hRest⟩
      rw [List.map_cons, findSegments?, step?_of_go? hMove]
      exact ih hRest

/- The moves that a value allows have different segments. -/
theorem move_eq_of_segment
    {value next last : Json}
    {move other : Move}
    (hMove : value.go? move = some next)
    (hOther : value.go? other = some last)
    (hSame : move.segment = other.segment) :
    move = other := by
  cases move with
  | member name =>
      cases other with
      | member another =>
          rw [show name = another from hSame]
      | item j counts =>
          -- No value has both members and items.
          cases value <;> first | cases hMove | cases hOther
  | item i counts =>
      cases other with
      | member another =>
          cases value <;> first | cases hMove | cases hOther
      | item j bound =>
          have hIndex : i = j := Pointer.indexSegment_inj.mp hSame
          subst hIndex
          rfl

/- The routes in a value have different segments. -/
theorem route_eq_of_segments
    {value node place : Json}
    {route way : List Move}
    (hRoute : value.at? route = some node)
    (hWay : value.at? way = some place)
    (hSame : route.map Move.segment = way.map Move.segment) :
    route = way := by
  induction route generalizing value way with
  | nil =>
      exact (List.map_eq_nil_iff.mp hSame.symm).symm
  | cons move rest ih =>
      cases way with
      | nil => cases hSame
      | cons other more =>
          rw [List.map_cons, List.map_cons, List.cons.injEq] at hSame
          rcases at?_cons_eq_some_iff.mp hRoute with
            ⟨next, hMove, hRest⟩
          rcases at?_cons_eq_some_iff.mp hWay with
            ⟨last, hOther, hMore⟩
          have hFirst := move_eq_of_segment hMove hOther hSame.1
          subst hFirst
          rw [hMove] at hOther
          cases hOther
          rw [ih hRest hMore hSame.2]

end Json

------------------------------------------------------------
-- Keys along Routes
------------------------------------------------------------

namespace NodeKey

/- The key of the child that a move leads to. -/
def move
    (key : NodeKey) : Json.Move → NodeKey
  | .member name => key.child name
  | .item i _ => key.index i

/- The key at the end of a route. -/
def along
    (key : NodeKey)
    (route : List Json.Move) : NodeKey :=
  route.foldl move key

/- A key grows by the segments of the route. -/
theorem along_eq
    (key : NodeKey)
    (route : List Json.Move) :
    key.along route =
      ⟨key.doc,
        ⟨key.pointer.segments ++ route.map Json.Move.segment⟩⟩ := by
  induction route generalizing key with
  | nil => simp [along]
  | cons first rest ih =>
      have hFirst :
          key.move first =
            ⟨key.doc,
              ⟨key.pointer.segments ++ [first.segment]⟩⟩ := by
        cases first <;> rfl
      calc key.along (first :: rest)
          = (key.move first).along rest := rfl
        _ = _ := by rw [ih, hFirst]; simp

/- From a root the segments are those of the route. -/
theorem along_root
    (doc : DocId)
    (route : List Json.Move) :
    (root doc).along route =
      ⟨doc, ⟨route.map Json.Move.segment⟩⟩ := by
  simp [along_eq, root, Pointer.root]

variable {value node place : Json}
variable {route way : List Json.Move}

/- The pointer of the key along a route leads to its end. -/
theorem findText?_along
    (doc : DocId)
    (hAt : value.at? route = some node) :
    value.findText? ((root doc).along route).pointer.text =
      some node := by
  rw [Json.findText?_text, along_root]
  exact Json.findSegments?_of_at? hAt

/- Along different routes there are different keys. -/
theorem along_eq_iff
    (doc : DocId)
    (hRoute : value.at? route = some node)
    (hWay : value.at? way = some place) :
    (root doc).along route = (root doc).along way ↔ route = way := by
  constructor
  · intro hSame
    rw [along_root, along_root] at hSame
    simp only [mk.injEq, Pointer.mk.injEq, true_and] at hSame
    exact Json.route_eq_of_segments hRoute hWay hSame
  · rintro rfl
    rfl

end NodeKey

end SchemaGraph
