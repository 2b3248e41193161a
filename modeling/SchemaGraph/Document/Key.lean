import SchemaGraph.Pointer

/-
  This file defines the identity of a schema node: the
  document that it lives in and the pointer to it.

  Key definitions include:
    * `DocId`
    * `NodeKey`
    * `NodeKey.child`
    * `NodeKey.fragment`
-/

namespace SchemaGraph

/- The position of a document in a store. -/
structure DocId where
  index : Nat
deriving DecidableEq, Repr

/- The identity of a schema node. -/
structure NodeKey where
  doc : DocId
  pointer : Pointer
deriving DecidableEq, Repr

namespace NodeKey

/- The key of the root of a document. -/
def root
    (doc : DocId) : NodeKey :=
  ⟨doc, Pointer.root⟩

/- The key of a member. -/
def child
    (key : NodeKey)
    (name : String) : NodeKey :=
  ⟨key.doc, key.pointer.child name⟩

/- The key of an item. -/
def index
    (key : NodeKey)
    (i : Nat) : NodeKey :=
  ⟨key.doc, key.pointer.index i⟩

/- The pointer of a key, as a reference inside its document. -/
def fragment
    (key : NodeKey) : String :=
  "#" ++ key.pointer.text

/- The document and the pointer of a key. -/
def label
    (key : NodeKey) : String :=
  "doc" ++ Pointer.indexSegment key.doc.index ++ key.fragment

end NodeKey

end SchemaGraph
