import Mathlib
import SchemaGraph.Proofs.Compile.Sound

/-
  How deeply nodes are nested.  The nodes in progress are
  distinct, and each of them has a member that is no object
  and hence not in progress itself.  When as many nodes are
  in progress as the budget allows, there are more positions
  than the budget foresees.

  Main declarations:
    * `Discriminator.WrittenIn`
    * `State.Opened`
    * `Roomy`
    * `Roomy.positions_of_zero`
    * `Poised`
-/

namespace SchemaGraph

------------------------------------------------------------
-- Kinds of Nodes
------------------------------------------------------------

/- What a node of a kind has among its members. -/
def Discriminator.WrittenIn
    (node : Json) : Discriminator → Prop
  | .typed type => node.member? "type" = some type
  | .anyOf branches => node.member? "anyOf" = some (.array branches)
  | .allOf branches => node.member? "allOf" = some (.array branches)
  | .oneOf branches => node.member? "oneOf" = some (.array branches)
  | .reference text => node.member? "$ref" = some (.string text)
  | .listed values => node.member? "enum" = some values
  | .unrecognized => True

/- A keyword that counts as given is a member. -/
theorem Json.member?_of_keyword?
    {node value : Json}
    {name : String}
    (hKeyword : node.keyword? name = some value) :
    node.member? name = some value :=
  (Option.filter_eq_some_iff.mp hKeyword).1

/- A list of branches is an array. -/
theorem eq_array_of_branchList
    {name : String}
    {value : Json}
    {branches : List Json}
    (hList : branchList name value = .ok branches) :
    value = .array branches := by
  cases value with
  | array items =>
      cases hList
      rfl
  | null => cases hList
  | bool b => cases hList
  | number n => cases hList
  | string text => cases hList
  | object members => cases hList

/- The kind of a node that is given by a list of branches. -/
theorem writtenIn_of_branchList
    (name : String)
    (form : List Json → Discriminator)
    {node value : Json}
    {kind : Discriminator}
    (hWritten :
      ∀ branches, node.member? name = some (.array branches) →
        (form branches).WrittenIn node)
    (hKeyword : node.keyword? name = some value)
    (hKind : (branchList name value).map form = .ok kind) :
    kind.WrittenIn node := by
  cases hList : branchList name value with
  | error fault =>
      rw [hList] at hKind
      cases hKind
  | ok branches =>
      rw [hList] at hKind
      cases hKind
      rw [eq_array_of_branchList hList] at hKeyword
      exact hWritten branches (Json.member?_of_keyword? hKeyword)

/- The kind of a node is written in it. -/
theorem writtenIn_of_classify
    {node : Json}
    {kind : Discriminator}
    (hKind : classify node = .ok kind) :
    kind.WrittenIn node := by
  unfold classify at hKind
  split at hKind
  case h_1 type hType =>
    cases hKind
    exact Json.member?_of_keyword? hType
  case h_2 =>
  split at hKind
  case h_1 value hAny =>
    exact writtenIn_of_branchList "anyOf" .anyOf
      (fun _ h => h) hAny hKind
  case h_2 =>
  split at hKind
  case h_1 value hAll =>
    exact writtenIn_of_branchList "allOf" .allOf
      (fun _ h => h) hAll hKind
  case h_2 =>
  split at hKind
  case h_1 value hOne =>
    exact writtenIn_of_branchList "oneOf" .oneOf
      (fun _ h => h) hOne hKind
  case h_2 =>
  split at hKind
  case h_1 text hText =>
    cases hKind
    exact Json.member?_of_keyword? hText
  case h_2 => cases hKind
  case h_3 =>
  split at hKind
  case h_1 values hEnum =>
    cases hKind
    exact Json.member?_of_keyword? hEnum
  case h_2 =>
    cases hKind
    trivial

------------------------------------------------------------
-- Opened Nodes
------------------------------------------------------------

/- The node has a member that is no object. -/
def State.Opened
    (s : State)
    (key : NodeKey) : Prop :=
  ∃ node name value,
    s.node? key = some node ∧
      node.member? name = some value ∧
      value.isObject = false

variable {setting : Setting}
variable {source : Source}
variable {s t : State}
variable {n : Nat}

/- A value that is no object has no members. -/
theorem Json.member?_of_not_isObject
    {value : Json}
    (name : String)
    (hOther : value.isObject = false) :
    value.member? name = none := by
  cases value <;> first | rfl | cases hOther

/- An opened node has a child that is not opened. -/
theorem State.Opened.exists_child
    {key : NodeKey}
    (hOpened : s.Opened key) :
    ∃ child, s.Present child ∧ ¬ s.Opened child := by
  rcases hOpened with ⟨node, name, value, hNode, hMember, hOther⟩
  have hChild := State.node?_member hNode hMember
  refine ⟨key.child name, ⟨value, hChild⟩, ?_⟩
  rintro ⟨other, member, inner, hSame, hInner, _⟩
  rw [hChild] at hSame
  cases hSame
  rw [Json.member?_of_not_isObject member hOther] at hInner
  cases hInner

/- Opened nodes stay opened. -/
theorem State.Opened.mono
    {key : NodeKey}
    (hOpened : s.Opened key)
    (hGrows : Grows setting s t) :
    t.Opened key := by
  rcases hOpened with ⟨node, name, value, hNode, hMember, hOther⟩
  exact ⟨node, name, value, hGrows.node? hNode, hMember, hOther⟩

------------------------------------------------------------
-- Room for Nodes
------------------------------------------------------------

/-
  A sound state in which a number of nodes may still be
  nested.  The nodes in progress are opened.
-/
structure Roomy
    (setting : Setting)
    (source : Source)
    (n : Nat)
    (s : State) : Prop where
  sound : Sound setting source s
  depth : s.progress.length + n = setting.budget + 1
  opened : ∀ key ∈ s.progress, s.Opened key

/- The scope does not matter. -/
theorem Roomy.of_reaches
    (hRoomy : Roomy setting source n s)
    (hReaches : Reaches setting s t)
    (hProgress : t.progress = s.progress) :
    Roomy setting source n t := by
  refine ⟨Reaches.sound hReaches hRoomy.sound, ?_, ?_⟩
  · rw [hProgress]
    exact hRoomy.depth
  · rw [hProgress]
    intro key hMem
    exact (hRoomy.opened key hMem).mono (Reaches.grows hReaches)

/- A run leaves room. -/
theorem Roomy.of_run
    (hRoomy : Roomy setting source n s)
    (hRun : Run setting s t) :
    Roomy setting source n t :=
  hRoomy.of_reaches hRun.reaches hRun.progress

/-
  There is room, and the node on top of those in progress is
  no reference: any node may be asked for.
-/
structure Poised
    (setting : Setting)
    (source : Source)
    (n : Nat)
    (s : State) : Prop extends Roomy setting source n s where
  plain :
    ∀ top, s.progress.head? = some top → s.reference? top = none

/- Any node may be asked for. -/
theorem Poised.asks
    (hPoised : Poised setting source n s)
    (key : NodeKey) :
    s.Asks setting key :=
  fun top hTop hText => absurd (hPoised.plain top hTop) hText

/- A run leaves a state poised. -/
theorem Poised.of_run
    (hPoised : Poised setting source n s)
    (hRun : Run setting s t) :
    Poised setting source n t := by
  refine ⟨hPoised.toRoomy.of_run hRun, ?_⟩
  rw [hRun.progress]
  intro top hTop
  have hPresent : s.Present top :=
    hPoised.sound.nested.present top (List.mem_of_mem_head? hTop)
  rw [hRun.grows.reference? hPresent]
  exact hPoised.plain top hTop

/-
  When no more nodes may be nested, there are more positions
  than were foreseen: the nodes in progress and a child of
  the last one.
-/
theorem Roomy.positions_of_zero
    (hRoomy : Roomy setting source 0 s) :
    setting.budget + 1 < s.store.positions := by
  have hLength := hRoomy.depth
  have hNested := hRoomy.sound.nested
  cases hTop : s.progress with
  | nil =>
      rw [hTop] at hLength
      simp at hLength
  | cons key rest =>
      have hMem : key ∈ s.progress := by
        rw [hTop]
        exact List.mem_cons_self
      rcases (hRoomy.opened key hMem).exists_child with
        ⟨child, hPresent, hClosed⟩
      have hNew : child ∉ s.progress :=
        fun hChild => hClosed (hRoomy.opened child hChild)
      have hBound :
          (child :: s.progress).length ≤ s.store.positions := by
        apply State.length_le_positions
        · exact List.nodup_cons.mpr ⟨hNew, hNested.distinct⟩
        · intro other hOther
          rcases List.mem_cons.mp hOther with rfl | hRest
          · exact hPresent
          · exact hNested.present other hRest
      simp only [List.length_cons] at hBound
      omega

end SchemaGraph
