import Mathlib
import SchemaGraph.Compile

/-
  Relations of programs.  Two programs for a node that differ
  in how they compile the nodes inside it are related if
  these are, as long as the relation holds of programs that
  do nothing or fail and is kept by doing one thing after
  another.

  Main declarations:
    * `Congruence`
    * `Congruence.resolveBranches`
    * `Congruence.resolveParts`
    * `Congruence.arrayRule`
    * `Congruence.unknownKeys`
    * `Congruence.addDeclared`
-/

namespace SchemaGraph

------------------------------------------------------------
-- Related Programs
------------------------------------------------------------

/- A relation that is kept by doing one thing after another. -/
structure Congruence
    (Related :
      (α : Type) → Compile α → Compile α → Prop) : Prop where
  pure :
    ∀ {α : Type} (a : α), Related α (Pure.pure a) (Pure.pure a)
  throw :
    ∀ {α : Type} (e : CompileError),
      Related α (MonadExcept.throw e) (MonadExcept.throw e)
  bind :
    ∀ {α β : Type} {narrow wide : Compile α}
      {next last : α → Compile β},
      Related α narrow wide →
        (∀ a, Related β (next a) (last a)) →
          Related β (narrow >>= next) (wide >>= last)

namespace Congruence

variable {Related : (α : Type) → Compile α → Compile α → Prop}
variable (hRelated : Congruence Related)

include hRelated

/- Turning a fault into an error. -/
theorem orFault
    {α : Type}
    (key : NodeKey)
    (answer : Except SchemaFault α) :
    Related α (SchemaGraph.orFault key answer)
      (SchemaGraph.orFault key answer) := by
  cases answer with
  | ok a => exact hRelated.pure a
  | error fault => exact hRelated.throw _

/- Reading the counts of an array node. -/
theorem arrayCounts
    (key : NodeKey)
    (node : Json)
    (items : Option ValidatorId) :
    Related _ (SchemaGraph.arrayCounts key node items)
      (SchemaGraph.arrayCounts key node items) := by
  apply hRelated.bind (hRelated.orFault key _)
  intro minItems
  apply hRelated.bind (hRelated.orFault key _)
  intro maxItems
  exact hRelated.pure _

variable {narrow wide : Resolver}
variable
  (hResolve : ∀ key, Related ValidatorId (narrow key) (wide key))

include hResolve

/- Compiling the items of a list. -/
theorem resolveBranches
    (list : NodeKey)
    (start : Nat)
    (items : List Json) :
    Related _ (SchemaGraph.resolveBranches narrow list start items)
      (SchemaGraph.resolveBranches wide list start items) := by
  induction items generalizing start with
  | nil => exact hRelated.pure _
  | cons item rest ih =>
      rw [SchemaGraph.resolveBranches, SchemaGraph.resolveBranches]
      apply hRelated.bind (hResolve _)
      intro id
      apply hRelated.bind (ih (start + 1))
      intro ids
      exact hRelated.pure _

/- Compiling one side of a condition. -/
theorem resolveSide
    (slot : NodeKey)
    (node : Json)
    (side : String) :
    Related _ (SchemaGraph.resolveSide narrow slot node side)
      (SchemaGraph.resolveSide wide slot node side) := by
  unfold SchemaGraph.resolveSide
  split
  case h_1 =>
    apply hRelated.bind (hResolve _)
    intro id
    exact hRelated.pure _
  case h_2 => exact hRelated.pure _

/- Compiling one part of an intersection. -/
theorem resolvePart
    (slot : NodeKey)
    (node : Json) :
    Related _ (SchemaGraph.resolvePart narrow slot node)
      (SchemaGraph.resolvePart wide slot node) := by
  unfold SchemaGraph.resolvePart
  split
  case isTrue =>
    apply hRelated.bind (hResolve _)
    intro test
    apply hRelated.bind
      (hRelated.resolveSide hResolve slot node "then")
    intro pass
    apply hRelated.bind
      (hRelated.resolveSide hResolve slot node "else")
    intro fail
    exact hRelated.pure _
  case isFalse =>
    apply hRelated.bind (hResolve _)
    intro id
    exact hRelated.pure _

/- Compiling the parts of an intersection. -/
theorem resolveParts
    (list : NodeKey)
    (start : Nat)
    (items : List Json) :
    Related _ (SchemaGraph.resolveParts narrow list start items)
      (SchemaGraph.resolveParts wide list start items) := by
  induction items generalizing start with
  | nil => exact hRelated.pure _
  | cons item rest ih =>
      rw [SchemaGraph.resolveParts, SchemaGraph.resolveParts]
      apply hRelated.bind (hRelated.resolvePart hResolve _ item)
      intro part
      apply hRelated.bind (ih (start + 1))
      intro parts
      exact hRelated.pure _

/- Compiling an array node. -/
theorem arrayRule
    (key : NodeKey)
    (node : Json) :
    Related _ (SchemaGraph.arrayRule narrow key node)
      (SchemaGraph.arrayRule wide key node) := by
  unfold SchemaGraph.arrayRule
  split
  case h_1 => exact hRelated.arrayCounts key node none
  case h_2 => exact hRelated.arrayCounts key node none
  case h_3 =>
    apply hRelated.bind (hResolve _)
    intro id
    exact hRelated.arrayCounts key node (some id)

/- Compiling what an object node does with undeclared keys. -/
theorem unknownKeys
    (key : NodeKey)
    (node : Json) :
    Related _ (SchemaGraph.unknownKeys narrow key node)
      (SchemaGraph.unknownKeys wide key node) := by
  unfold SchemaGraph.unknownKeys
  split
  case h_1 => exact hRelated.pure _
  case h_2 =>
    apply hRelated.bind (hResolve _)
    intro id
    exact hRelated.pure _
  case h_3 =>
    split
    case isTrue => exact hRelated.pure _
    case isFalse => exact hRelated.pure _

/- Compiling declared properties. -/
theorem collect
    (place : String → ValidatorId → PropertyMap → PropertyMap)
    (owner : NodeKey)
    (names : List String)
    (properties : PropertyMap) :
    Related _
      (SchemaGraph.collect narrow place owner names properties)
      (SchemaGraph.collect wide place owner names properties) := by
  induction names generalizing properties with
  | nil => exact hRelated.pure _
  | cons name rest ih =>
      rw [SchemaGraph.collect, SchemaGraph.collect]
      apply hRelated.bind (hResolve _)
      intro id
      exact ih (place name id properties)

/- Adding the properties that a node declares. -/
theorem addDeclared
    (place : String → ValidatorId → PropertyMap → PropertyMap)
    (owner : NodeKey)
    (node : Json)
    (inherited : Inherited) :
    Related _
      (SchemaGraph.addDeclared narrow place owner node inherited)
      (SchemaGraph.addDeclared wide place owner node
        inherited) := by
  unfold SchemaGraph.addDeclared
  split
  case h_1 =>
    apply hRelated.bind
      (hRelated.collect hResolve place owner _ _)
    intro properties
    exact hRelated.pure _
  case h_2 => exact hRelated.pure _

end Congruence

end SchemaGraph
