import Mathlib
import SchemaGraph.Proofs.Compile.Locality
import SchemaGraph.Proofs.Compile.Tidy

/-
  The directories that file references start from.  The
  first document and those of the registry have the directory
  that they declare, or else the one of their origin.  A file
  that is reached by a reference has its own directory,
  whatever it declares.

  Main declarations:
    * `Document.Reached`
    * `State.Based`
    * `Step.based`
    * `compile_baseDir`
    * `compile_baseDir_redirected`
-/

namespace SchemaGraph

variable {setting : Setting}
variable {source : Source}
variable {s t : State}

------------------------------------------------------------
-- Reached Documents
------------------------------------------------------------

/-
  The document was reached by a reference.  The directory
  that it declares is its own if it is a registry entry.
-/
def Document.Reached
    (d : Document) : Prop :=
  match d.origin with
  | .inline => False
  | .file p => d.baseDir = p.parent?
  | .registry _ => d.baseDir = declaredRoot? d.root

/- The first document is governed, the others were reached. -/
def State.Based
    (options : Options)
    (s : State) : Prop :=
  ∃ first rest,
    s.store.documents = first :: rest ∧
      first.Governed options ∧
      ∀ d ∈ rest, d.Reached

/- A reached document may be added. -/
theorem State.Based.add
    {options : Options}
    {d : Document}
    (hBased : s.Based options)
    (hReached : d.Reached)
    (hStore : t.store = s.store.add d) :
    t.Based options := by
  rcases hBased with ⟨first, rest, hAll, hFirst, hRest⟩
  refine ⟨first, rest ++ [d], ?_, hFirst, ?_⟩
  · rw [hStore, Store.add, hAll, List.cons_append]
  · intro e hMem
    rcases List.mem_append.mp hMem with hOld | hNew
    · exact hRest e hOld
    · rw [List.mem_singleton.mp hNew]
      exact hReached

/- Every step adds reached documents only. -/
theorem Step.based
    {options : Options}
    (hStep : Step setting s t)
    (hBased : s.Based options) :
    t.Based options := by
  cases hStep with
  | registered name root =>
      exact hBased.add
        (d := ⟨root, declaredRoot? root, .registry name⟩) rfl rfl
  | loaded p root =>
      exact hBased.add (d := ⟨root, p.parent?, .file p⟩) rfl rfl
  | _ => exact hBased

/- Steps add reached documents only. -/
theorem Reaches.based
    {options : Options}
    (hReaches : Reaches setting s t)
    (hBased : s.Based options) :
    t.Based options := by
  induction hReaches with
  | refl => exact hBased
  | tail _ hStep ih => exact hStep.based ih

/- A reached document may disagree with what it declares. -/
theorem Document.Reached.governed_iff
    {options : Options}
    {d : Document}
    (hReached : d.Reached) :
    d.Governed options ↔
      ∀ p, d.origin = .file p →
        declaredRoot? d.root = none ∨
          declaredRoot? d.root = p.parent? := by
  unfold Document.Reached at hReached
  unfold Document.Governed
  cases hOrigin : d.origin with
  | inline => simp [hOrigin] at hReached
  | registry name =>
      simp only [hOrigin] at hReached
      simp [hReached, Origin.directory?]
  | file p =>
      simp only [hOrigin] at hReached
      rw [hReached]
      cases hRoot : declaredRoot? d.root with
      | none => simp [Origin.directory?]
      | some dir => simp [eq_comm]

------------------------------------------------------------
-- Compilations
------------------------------------------------------------

/- A stored root is the first document. -/
theorem State.Opening.based
    {options : Options}
    {doc : DocId}
    (hOpening : s.Opening options)
    (hRooted : Rooted setting source doc s) :
    s.Based options := by
  rcases hRooted.present.stored with ⟨d, hDoc⟩
  have hMem : d ∈ s.store.documents := List.mem_of_getElem? hDoc
  have hSingle := hOpening.single
  cases hAll : s.store.documents with
  | nil =>
      rw [hAll] at hMem
      cases hMem
  | cons first rest =>
      rw [hAll] at hSingle
      have hRest : rest = [] := by
        rw [List.length_cons] at hSingle
        exact List.eq_nil_of_length_eq_zero (by omega)
      refine ⟨first, rest, hAll, ?_, ?_⟩
      · apply hOpening.governed
        rw [hAll]
        exact List.mem_cons_self
      · simp [hRest]

/-
  The documents of a compilation, also of one that fails.
  The first one has the directory that it declares, or else
  that of its origin; the others were reached by references.
  So a file that was reached has the directory that it
  declares only if this is the one that it lies in.
-/
theorem compile_baseDir
    (setting : Setting)
    (workingDir : Path)
    (source : Source) :
    let final := (compileWith setting workingDir source).final
    ∀ doc d,
      final.store.get? doc = some d →
        (doc.index = 0 → d.Governed setting.options) ∧
          (doc.index ≠ 0 → d.Reached) ∧
          (d.Governed setting.options ↔
            doc.index = 0 ∨
              ∀ p, d.origin = .file p →
                declaredRoot? d.root = none ∨
                  declaredRoot? d.root = p.parent?) := by
  intro final doc d hDoc
  have hGet : final.store.documents[doc.index]? = some d := hDoc
  have hOpening := loadRoot_opening setting workingDir source
  rcases compileWith_cases setting workingDir source with
    ⟨e, hLoad⟩ |
      ⟨first, r, u, earlier, hLoad, hRooted, hReaches, hFinal⟩
  · rw [stateAfter_of_error hLoad] at hOpening
    have hIndex : doc.index = 0 := by
      have hLt := (List.getElem?_eq_some_iff.mp hGet).1
      have hSingle : final.store.documents.length ≤ 1 :=
        hOpening.single
      omega
    have hGoverned :=
      hOpening.governed d (List.mem_of_getElem? hGet)
    exact ⟨fun _ => hGoverned, fun hOther => absurd hIndex hOther,
      fun _ => Or.inl hIndex, fun _ => hGoverned⟩
  · rw [stateAfter_of_ok hLoad] at hOpening
    rcases hReaches.based (hOpening.based hRooted) with
      ⟨root, rest, hAll, hRoot, hRest⟩
    have hStored : (root :: rest)[doc.index]? = some d := by
      rw [← hAll]
      have hSame : final.store = (earlier.unwound u).store :=
        congrArg State.store hFinal
      change u.store.documents[doc.index]? = some d
      rw [show u.store = final.store from hSame.symm]
      exact hGet
    cases hIndex : doc.index with
    | zero =>
        rw [hIndex] at hStored
        cases hStored
        exact ⟨fun _ => hRoot, fun hOther => absurd rfl hOther,
          fun _ => Or.inl rfl, fun _ => hRoot⟩
    | succ i =>
        rw [hIndex, List.getElem?_cons_succ] at hStored
        have hReached := hRest d (List.mem_of_getElem? hStored)
        have hLater : i + 1 ≠ 0 := Nat.succ_ne_zero i
        refine ⟨fun hZero => absurd hZero hLater,
          fun _ => hReached, ?_⟩
        rw [hReached.governed_iff]
        simp

/- A file that declares another directory than its own. -/
def Loader.redirecting : Loader :=
  Loader.memory
    [(⟨"/dir/a.json"⟩, .object
      [("jsonRoot", .string "/other"), ("$ref", .string "b.json")]),
    (⟨"/dir/b.json"⟩, .object [("type", .string "integer")]),
    (⟨"/other/b.json"⟩, .object [("type", .string "string")])]

/-
  Reached by a reference, the file finds the neighbour that
  lies next to it; compiled itself, it finds the one in the
  directory that it declares.
-/
theorem compile_baseDir_redirected :
    let options : Options := { baseDir := some ⟨"/dir"⟩ }
    let setting : Setting :=
      ⟨options, Loader.redirecting, .expanding, 30⟩
    let outside := Json.object [("$ref", .string "a.json")]
    let reached :=
      (compileWith setting ⟨"/"⟩ (.value outside)).final
    let itself :=
      (compileWith setting ⟨"/"⟩ (.path ⟨"/dir/a.json"⟩)).final
    ∃ d e,
      reached.store.get? ⟨1⟩ = some d ∧
        itself.store.get? ⟨0⟩ = some e ∧
        d.origin = .file ⟨"/dir/a.json"⟩ ∧
        e.origin = .file ⟨"/dir/a.json"⟩ ∧
        ¬ d.Governed options ∧ e.Governed options ∧
        (reached.store.get? ⟨2⟩).map Document.origin =
          some (.file ⟨"/dir/b.json"⟩) ∧
        (itself.store.get? ⟨1⟩).map Document.origin =
          some (.file ⟨"/other/b.json"⟩) := by
  intro options setting outside reached itself
  have hReached :
      (reached.store.get? ⟨1⟩).map
          (fun d => (d.origin, declaredRoot? d.root)) =
        some (.file ⟨"/dir/a.json"⟩, some ⟨"/other"⟩) := by
    decide +kernel
  have hItself :
      (itself.store.get? ⟨0⟩).map Document.origin =
        some (.file ⟨"/dir/a.json"⟩) := by
    decide +kernel
  rcases Option.map_eq_some_iff.mp hReached with ⟨d, hDoc, hD⟩
  rcases Option.map_eq_some_iff.mp hItself with ⟨e, hOther, hE⟩
  rw [Prod.mk.injEq] at hD
  rcases hD with ⟨hOrigin, hDeclared⟩
  have hFirst :=
    (compile_baseDir setting ⟨"/"⟩ (.path ⟨"/dir/a.json"⟩) ⟨0⟩ e
      hOther).1 rfl
  have hIff :=
    (compile_baseDir setting ⟨"/"⟩ (.value outside) ⟨1⟩ d hDoc).2.2
  refine ⟨d, e, hDoc, hOther, hOrigin, hE, ?_, hFirst,
    by decide +kernel, by decide +kernel⟩
  intro hGoverned
  rcases hIff.mp hGoverned with hZero | hAgrees
  · cases hZero
  · have hNone := hAgrees _ hOrigin
    rw [hDeclared] at hNone
    revert hNone
    decide +kernel

end SchemaGraph
