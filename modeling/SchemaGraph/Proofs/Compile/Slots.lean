import Mathlib
import SchemaGraph.Compile.Keyword
import SchemaGraph.Proofs.Compile.Growth

/-
  The entries of an intersection.  Each of them fills a slot
  of the list.  A conditional entry compiles to a part with
  what stands for its condition and for the sides that it
  gives, any other entry to what stands for its node.

  Main declarations:
    * `Json.Conditional`
    * `Slot`
    * `NodeKey.slots`
    * `Slot.side?`
    * `State.PartFor`
    * `State.PartFor.mono`
-/

namespace SchemaGraph

------------------------------------------------------------
-- Conditional Entries
------------------------------------------------------------

/- The entry is a condition and says nothing else that decides. -/
def Json.Conditional
    (entry : Json) : Prop :=
  entry.keyword? "if" ≠ none ∧
    ∀ name ∈ ["type", "anyOf", "allOf", "oneOf", "$ref", "enum"],
      entry.keyword? name = none

/- Conditional entries are told apart as such. -/
theorem isConditional_iff
    {entry : Json} :
    isConditional entry = true ↔ entry.Conditional := by
  unfold isConditional Json.Conditional discriminators
  rw [Bool.and_eq_true, Option.isSome_iff_ne_none, List.all_eq_true]
  simp only [Option.isNone_iff_eq_none]

instance
    (entry : Json) :
    Decidable entry.Conditional :=
  decidable_of_iff (isConditional entry = true) isConditional_iff

/-
  An entry is conditional exactly if it has a condition and
  nothing makes its own node one of a kind.
-/
theorem Json.conditional_iff_classify
    {entry : Json} :
    entry.Conditional ↔
      entry.keyword? "if" ≠ none ∧
        classify entry = .ok .unrecognized := by
  unfold Json.Conditional classify
  apply and_congr_right
  intro _
  simp only [List.forall_mem_cons, List.not_mem_nil]
  cases entry.keyword? "type" with
  | some type => simp
  | none =>
  cases entry.keyword? "anyOf" with
  | some value => cases value <;> simp [branchList, Except.map]
  | none =>
  cases entry.keyword? "allOf" with
  | some value => cases value <;> simp [branchList, Except.map]
  | none =>
  cases entry.keyword? "oneOf" with
  | some value => cases value <;> simp [branchList, Except.map]
  | none =>
  cases entry.keyword? "$ref" with
  | some value => cases value <;> simp
  | none =>
  cases entry.keyword? "enum" with
  | some values => simp
  | none => simp

------------------------------------------------------------
-- Slots
------------------------------------------------------------

/- An entry of an intersection with the key of its node. -/
structure Slot where
  key : NodeKey
  entry : Json

/- The slots of the entries of a list, from a position on. -/
def NodeKey.slotsFrom
    (list : NodeKey)
    (start : Nat)
    (entries : List Json) : List Slot :=
  (entries.zipIdx start).map (fun (entry, i) => ⟨list.index i, entry⟩)

/- The slots of the intersection at a key. -/
def NodeKey.slots
    (key : NodeKey)
    (entries : List Json) : List Slot :=
  (key.child "allOf").slotsFrom 0 entries

/- The node of one side of a condition, when it is given. -/
def Slot.side?
    (slot : Slot)
    (side : String) : Option NodeKey :=
  (slot.entry.keyword? side).map (fun _ => slot.key.child side)

/- The first entry fills the first slot. -/
theorem NodeKey.slotsFrom_cons
    (list : NodeKey)
    (start : Nat)
    (entry : Json)
    (rest : List Json) :
    list.slotsFrom start (entry :: rest) =
      ⟨list.index start, entry⟩ ::
        list.slotsFrom (start + 1) rest := by
  simp [NodeKey.slotsFrom]

------------------------------------------------------------
-- Parts
------------------------------------------------------------

/- What a slot compiles to. -/
inductive State.PartFor
    (s : State)
    (slot : Slot) : Branch → Prop where
  /- An entry applies by its own node. -/
  | schema
      (id : ValidatorId)
      (hPlain : ¬ slot.entry.Conditional)
      (hStands : s.StandsFor slot.key id) :
      PartFor s slot (.schema id)
  /- A conditional entry applies by the sides that it gives. -/
  | conditional
      (test : ValidatorId)
      (pass fail : Option ValidatorId)
      (hConditional : slot.entry.Conditional)
      (hTest : s.StandsFor (slot.key.child "if") test)
      (hPass : Option.Rel s.StandsFor (slot.side? "then") pass)
      (hFail : Option.Rel s.StandsFor (slot.side? "else") fail) :
      PartFor s slot (.conditional test pass fail)

variable {setting : Setting}
variable {s t : State}

/- What stands for a side goes on to stand for it. -/
theorem Grows.side
    {key? : Option NodeKey}
    {id? : Option ValidatorId}
    (hGrows : Grows setting s t)
    (hSide : Option.Rel s.StandsFor key? id?) :
    Option.Rel t.StandsFor key? id? := by
  cases hSide with
  | some hStands => exact .some (hStands.mono hGrows)
  | none => exact .none

/- What a slot compiles to, it goes on to compile to. -/
theorem State.PartFor.mono
    {slot : Slot}
    {part : Branch}
    (hPart : s.PartFor slot part)
    (hGrows : Grows setting s t) :
    t.PartFor slot part := by
  cases hPart with
  | schema id hPlain hStands =>
      exact .schema id hPlain (hStands.mono hGrows)
  | conditional test pass fail hConditional hTest hPass hFail =>
      exact .conditional test pass fail hConditional
        (hTest.mono hGrows) (hGrows.side hPass) (hGrows.side hFail)

end SchemaGraph
