import SchemaGraph.Document.Key
import SchemaGraph.Path

/-
  This file defines the store of documents that one
  compilation reaches.  A file is stored once for all the
  spellings of its path that have the same components, and
  a registry entry once for its identifier.

  Key definitions include:
    * `Origin`
    * `Document`
    * `declaredRoot?`
    * `Store`
    * `Store.insert`
    * `Store.byPath?`
    * `Store.byRegistryId?`
-/

namespace SchemaGraph

------------------------------------------------------------
-- Documents
------------------------------------------------------------

/- Where a document came from. -/
inductive Origin where
  /- Supplied in memory. -/
  | inline
  /- Loaded from a file. -/
  | file (path : Path)
  /- Taken from the sub-schema registry under an identifier. -/
  | registry (id : String)
deriving DecidableEq, Repr

/-
  A document with the directory that its relative file
  references start from.
-/
structure Document where
  root : Json
  baseDir : Option Path
  origin : Origin

/- The directory that a document declares for itself. -/
def declaredRoot?
    (root : Json) : Option Path :=
  (root.member? "jsonRoot").bind (fun v => v.text?.map Path.mk)

------------------------------------------------------------
-- Stores
------------------------------------------------------------

/- All documents reached so far, in the order of arrival. -/
structure Store where
  documents : List Document

namespace Store

/- The store without documents. -/
def empty : Store :=
  ⟨[]⟩

/- The number of documents. -/
def size
    (store : Store) : Nat :=
  store.documents.length

/- A document of the store. -/
def get?
    (store : Store)
    (id : DocId) : Option Document :=
  store.documents[id.index]?

/- The document came from a file with the path's components. -/
def isFile
    (p : Path)
    (d : Document) : Bool :=
  match d.origin with
  | .file q => decide (p.Same q)
  | _ => false

/- The document came from a registry entry. -/
def isRegistry
    (id : String)
    (d : Document) : Bool :=
  match d.origin with
  | .registry other => decide (id = other)
  | _ => false

/- The document of a file. -/
def byPath?
    (store : Store)
    (p : Path) : Option DocId :=
  (store.documents.findIdx? (isFile p)).map DocId.mk

/- The document of a registry entry. -/
def byRegistryId?
    (store : Store)
    (id : String) : Option DocId :=
  (store.documents.findIdx? (isRegistry id)).map DocId.mk

/- The stored document with an origin, if there is one. -/
def known?
    (store : Store) : Origin → Option DocId
  | .inline => none
  | .file p => store.byPath? p
  | .registry id => store.byRegistryId? id

/-
  Add a document, unless one of the same file or registry
  entry is stored already.
-/
def insert
    (store : Store)
    (d : Document) : DocId × Store :=
  match store.known? d.origin with
  | some id => (id, store)
  | none => (⟨store.size⟩, ⟨store.documents ++ [d]⟩)

end Store

end SchemaGraph
