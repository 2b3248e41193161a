import Mathlib
import SchemaGraph.Proofs.Compile.Locality
import SchemaGraph.Proofs.Document.Spellings

/-
  The fragment of a node, used as a reference.  Escaping
  keeps every name apart from the others, but a walk skips
  empty parts, and so it skips the part of an empty name.
  A fragment leads back to its node just where no name on
  the way to the node is empty.

  Main declarations:
    * `splitReference_fragment`
    * `Json.textSpells_along_iff`
    * `Json.Spells.length_eq`
    * `targetIn_along_iff`
    * `fragment_leads_back`
-/

namespace SchemaGraph

------------------------------------------------------------
-- Fragments
------------------------------------------------------------

/- A fragment is split into its mark and the pointer. -/
theorem splitReference_fragment
    (key : NodeKey) :
    splitReference key.fragment = ("#", some key.pointer.text) := by
  simp [splitReference, NodeKey.fragment]

/- A fragment is a local reference. -/
theorem isLocal_fragment
    (key : NodeKey) :
    IsLocal key.fragment := by
  simp [IsLocal, NodeKey.fragment]

namespace Pointer

/- Only the empty segment is written as an empty part. -/
@[simp] theorem escape_eq_empty_iff
    {segment : String} :
    escape segment = "" ↔ segment = "" := by
  constructor
  · intro hEmpty
    rw [← unescape_escape segment, hEmpty]
    rfl
  · rintro rfl
    rfl

/- An index is not written as the empty text. -/
theorem indexSegment_ne_empty
    (i : Nat) :
    indexSegment i ≠ "" := by
  intro hEmpty
  rw [indexSegment, ← String.toList_inj, String.toList_ofList]
    at hEmpty
  exact Nat.toDigits_ne_nil hEmpty

end Pointer

namespace Json

------------------------------------------------------------
-- Empty Names
------------------------------------------------------------

/- A move has an empty segment if its name is empty. -/
theorem Move.segment_eq_empty_iff
    {move : Move} :
    move.segment = "" ↔ move = .member "" := by
  cases move with
  | member name => simp [segment]
  | item i counts => simp [segment, Pointer.indexSegment_ne_empty]

variable {value node : Json}
variable {parts : List String}
variable {route : List Move}

/- A route has a move for every part that is not empty. -/
theorem Spells.length_eq
    (hSpells : value.Spells parts route node) :
    route.length = (parts.filter (· ≠ "")).length := by
  induction hSpells with
  | here => rfl
  | blank _ ih => simpa using ih
  | step hPart _ _ _ ih => simp [hPart, ih]

/- The parts of the pointer along a route. -/
theorem textSpells_along_iff
    (doc : DocId)
    {way : List Move} :
    value.TextSpells ((NodeKey.root doc).along route).pointer.text
        way node ↔
      value.Spells
        (route.map (fun move => Pointer.escape move.segment))
        way node := by
  simp [TextSpells, NodeKey.along_root, Pointer.slashParts_text,
    Function.comp_def]

/- Without empty names a route is spelled by its own pointer. -/
theorem spells_of_at?
    (hAt : value.at? route = some node)
    (hNamed : Move.member "" ∉ route) :
    value.Spells
      (route.map (fun move => Pointer.escape move.segment))
      route node := by
  induction route generalizing value with
  | nil =>
      cases hAt
      exact .here _
  | cons move rest ih =>
      rcases at?_cons_eq_some_iff.mp hAt with ⟨next, hMove, hRest⟩
      rw [List.mem_cons, not_or] at hNamed
      apply Spells.step _ _ hMove (ih hRest hNamed.2)
      · rw [ne_eq, Pointer.escape_eq_empty_iff,
          Move.segment_eq_empty_iff]
        exact fun hEmpty => hNamed.1 hEmpty.symm
      · rw [Pointer.unescape_escape]
        exact move.spelledBy_segment

/- A route with an empty name is not spelled by its pointer. -/
theorem not_mem_of_spells
    (hSpells :
      value.Spells
        (route.map (fun move => Pointer.escape move.segment))
        route node) :
    Move.member "" ∉ route := by
  intro hMem
  have hFull :
      ∀ part ∈ route.map (fun move => Pointer.escape move.segment),
        part ≠ "" := by
    have hLength := hSpells.length_eq
    rw [← List.length_map
      (fun move : Move => Pointer.escape move.segment)] at hLength
    simpa using List.length_filter_eq_length_iff.mp hLength.symm
  apply hFull "" _ rfl
  exact List.mem_map.mpr ⟨_, hMem, rfl⟩

end Json

------------------------------------------------------------
-- The Way Back
------------------------------------------------------------

variable {s : State}
variable {doc : DocId}
variable {d : Document}
variable {route : List Json.Move}
variable {node : Json}

/- Where no name is empty, and only there, a walk leads back. -/
theorem targetIn_along_iff
    (hDoc : s.store.get? doc = some d)
    (hAt : d.root.at? route = some node) :
    let key := (NodeKey.root doc).along route
    targetIn s doc (some key.pointer.text) = some key ↔
      Json.Move.member "" ∉ route := by
  intro key
  rw [targetIn_eq_some_iff hDoc]
  constructor
  · rintro ⟨way, place, hSpells, hKey⟩
    have hWay : route = way :=
      (NodeKey.along_eq_iff doc hAt hSpells.at?_eq).mp hKey
    subst hWay
    exact Json.not_mem_of_spells
      ((Json.textSpells_along_iff doc).mp hSpells)
  · intro hNamed
    exact ⟨route, node,
      (Json.textSpells_along_iff doc).mpr
        (Json.spells_of_at? hAt hNamed),
      rfl⟩

variable {setting : Setting}
variable {reference : String}
variable {target : NodeKey}

/-
  In a stored document, a local reference leads where its
  pointer leads when it is walked.
-/
theorem inDocument_followReference_eq_ok_iff
    (hDoc : s.store.get? doc = some d)
    (hUnmarked : setting.options.Unmarked)
    (hLocal : IsLocal reference) :
    (∃ t,
        inDocument doc (followReference setting reference) s =
          .ok target t) ↔
      targetIn s doc (splitReference reference).2 = some target := by
  -- With the document on top of the scope it is the same run.
  have hTop :
      ∀ u : State,
        u.store = s.store →
          u.scope.head? = some doc →
            ((∃ t, followReference setting reference u =
                .ok target t) ↔
              targetIn s doc (splitReference reference).2 =
                some target) := by
    intro u hStore hScope
    rcases followReference_run_of_isLocal hUnmarked hLocal hScope
      with ⟨t, hGrows, hSteps⟩
    have hLater : t.store.get? doc = s.store.get? doc := by
      rw [hDoc]
      exact hGrows.get? (hStore ▸ hDoc)
    have hSame :
        targetIn t doc (splitReference reference).2 =
          targetIn s doc (splitReference reference).2 := by
      simp only [targetIn, hLater]
    rw [hSteps, hSame]
    cases targetIn s doc (splitReference reference).2 with
    | some found => simp
    | none => simp
  unfold inDocument
  by_cases hScope : s.scope.head? = some doc
  · rw [if_pos hScope]
    exact hTop s rfl hScope
  · rw [if_neg hScope, ← hTop { s with scope := doc :: s.scope }
      rfl rfl]
    cases followReference setting reference
        { s with scope := doc :: s.scope } with
    | ok found t => simp
    | error e t => simp

/-
  Every node is referenced by its own fragment, unless a
  name on the way to it is empty.  The fragment is split
  into its mark and the pointer of the node; the pointer is
  walked to the very key that was built along the route, and
  a reference with this text leads there from everywhere in
  the document, where no document is registered under the
  mark or the empty name.
-/
theorem fragment_leads_back
    (hDoc : s.store.get? doc = some d)
    (hAt : d.root.at? route = some node) :
    let key := (NodeKey.root doc).along route
    splitReference key.fragment = ("#", some key.pointer.text) ∧
      (targetIn s doc (some key.pointer.text) = some key ↔
        Json.Move.member "" ∉ route) ∧
      ∀ setting : Setting,
        setting.options.Unmarked →
          ((∃ t,
              inDocument doc
                  (followReference setting key.fragment) s =
                .ok key t) ↔
            Json.Move.member "" ∉ route) := by
  intro key
  have hWalk := targetIn_along_iff hDoc hAt
  refine ⟨splitReference_fragment key, hWalk, ?_⟩
  intro setting hUnmarked
  rw [inDocument_followReference_eq_ok_iff hDoc hUnmarked
    (isLocal_fragment key), splitReference_fragment]
  exact hWalk

/- A document with a name that is escaped, and a digit as a name. -/
def Document.withMarks : Document :=
  ⟨.object [("a~b/c", .object [("0", .array [.null])])], none,
    .inline⟩

/- The fragment of the innermost node leads to it. -/
theorem fragment_leads_back_withMarks :
    let s := { State.initial with store := ⟨[Document.withMarks]⟩ }
    let key :=
      (((NodeKey.root ⟨0⟩).child "a~b/c").child "0").index 0
    key.fragment = "#/a~0b~1c/0/0" ∧
      targetIn s ⟨0⟩ (some "/a~0b~1c/0/0") = some key ∧
      ∃ t,
        inDocument ⟨0⟩ (followReference Setting.alone key.fragment)
            s =
          .ok key t := by
  intro s key
  let route : List Json.Move :=
    [.member "a~b/c", .member "0", .item 0 (Nat.zero_le _)]
  have hText : key.pointer.text = "/a~0b~1c/0/0" := by
    decide +kernel
  have hNamed : Json.Move.member "" ∉ route := by
    decide +kernel
  have hDoc : s.store.get? ⟨0⟩ = some Document.withMarks := rfl
  have hAt : Document.withMarks.root.at? route = some .null := rfl
  rcases fragment_leads_back hDoc hAt with ⟨_, hWalk, hFollow⟩
  refine ⟨by decide +kernel, ?_, ?_⟩
  · rw [← hText]
    exact hWalk.mpr hNamed
  · exact (hFollow Setting.alone ⟨rfl, rfl⟩).mpr hNamed

/- A document with a member under the empty name. -/
def Document.withEmptyName : Document :=
  ⟨.object [("", .bool true)], none, .inline⟩

/-
  A member under the empty name is a node, but its fragment
  leads to the root.
-/
theorem not_fragment_leads_back :
    ¬ ∀ (s : State) (doc : DocId) (d : Document)
        (route : List Json.Move) (node : Json),
      s.store.get? doc = some d →
        d.root.at? route = some node →
          targetIn s doc
              (splitReference
                ((NodeKey.root doc).along route).fragment).2 =
            some ((NodeKey.root doc).along route) := by
  intro hAll
  let s : State :=
    { State.initial with store := ⟨[Document.withEmptyName]⟩ }
  have hBack :=
    hAll s ⟨0⟩ Document.withEmptyName [.member ""] (.bool true)
      rfl rfl
  have hRoot :
      targetIn s ⟨0⟩ (splitReference "#/").2 =
        some (NodeKey.root ⟨0⟩) := by
    decide +kernel
  have hFragment :
      ((NodeKey.root ⟨0⟩).along [.member ""]).fragment = "#/" := by
    decide +kernel
  rw [hFragment, hRoot] at hBack
  exact absurd hBack (by decide +kernel)

end SchemaGraph
