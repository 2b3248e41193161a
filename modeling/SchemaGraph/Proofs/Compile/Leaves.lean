import Mathlib
import SchemaGraph.Proofs.Check.Accepted
import SchemaGraph.Proofs.Compile.Resolve

/-
  Schemas whose root has a type and needs no other node.
  With every setting, such a schema compiles to one validator
  with the rule of its type, or fails at its root, and a
  check of a value is a check against this rule.

  Main declarations:
    * `Json.IsLeaf`
    * `Compiled.leaf`
    * `compileWith_leaf`
    * `Compiled.check_leaf`
-/

namespace SchemaGraph

------------------------------------------------------------
-- Compiling a Leaf
------------------------------------------------------------

/-
  The node has a type whose rule depends on no other node
  and on no option, only on how patterns are read.
-/
structure Json.IsLeaf
    (node : Json)
    (rule : Pattern.Engine → Except SchemaFault Rule) :
    Prop where
  object : node.isObject = true
  typed :
    ∃ type,
      classify node = .ok (.typed type) ∧
        ∀ setting watch resolve key,
          typeRule setting watch resolve key node type =
            orFault key (rule setting.engine)

/- The schema with one validator. -/
def Compiled.leaf
    (v : Validator) : Compiled :=
  ⟨⟨#[v], #[]⟩, ⟨0⟩⟩

/- What a schema that is a leaf compiles to. -/
def Json.leafResult
    (node : Json) :
    Except SchemaFault Rule → Except CompileError Compiled
  | .ok rule => .ok (Compiled.leaf ⟨rule, .optional, allowsNull node⟩)
  | .error fault =>
      .error (.invalidSchema (NodeKey.root ⟨0⟩).fragment fault)

section Compiling

variable {setting : Setting}
variable {watch : Watch}
variable {resolve : Resolver}
variable {node : Json}
variable {rule : Pattern.Engine → Except SchemaFault Rule}

/- The state in which the only document is stored. -/
def State.holding
    (d : Document) : State :=
  { State.initial with store := ⟨[d]⟩ }

/- What is left after the root of the only document is compiled. -/
def Document.leafOutcome
    (d : Document) :
    Except SchemaFault Rule →
      EStateM.Result CompileError State ValidatorId
  | .ok rule =>
      .ok ⟨0⟩
        { State.holding d with
          graph := (Compiled.leaf ⟨rule, .optional, allowsNull d.root⟩).graph
          journal := [.began (NodeKey.root ⟨0⟩) (some ⟨0⟩)] }
  | .error fault =>
      .error (.invalidSchema (NodeKey.root ⟨0⟩).fragment fault)
        { State.holding d with
          journal := [.began (NodeKey.root ⟨0⟩) (some ⟨0⟩)] }

/- The steps that compile a leaf, if it has a rule. -/
theorem compileNode_leaf
    {key : NodeKey}
    (hLeaf : node.IsLeaf rule) :
    compileNode setting watch resolve key node =
      (do
        let rule ← orFault key (rule setting.engine)
        pushNode ⟨rule, .optional, allowsNull node⟩) := by
  rcases hLeaf.typed with ⟨type, hKind, hRule⟩
  unfold compileNode
  rw [hKind]
  change resolveTyped setting watch resolve key node type = _
  rw [resolveTyped, hRule]

/- Storing an inline schema. -/
theorem loadRoot_value
    (workingDir : Path)
    (hObject : node.isObject = true) :
    loadRoot setting workingDir (.value node) State.initial =
      .ok ⟨0⟩
        (State.holding
          ⟨node, declaredRoot? node <|> setting.options.baseDir,
            .inline⟩) := by
  cases node with
  | object members => rfl
  | _ => cases hObject

/- The root of the only document is compiled. -/
theorem inDocument_leaf
    (setting : Setting)
    (resolve : Resolver)
    {d : Document}
    (hLeaf : d.root.IsLeaf rule) :
    inDocument ⟨0⟩
        (inProgress (NodeKey.root ⟨0⟩)
          (dispatch setting Watch.never resolve
            (NodeKey.root ⟨0⟩)))
        (State.holding d) =
      d.leafOutcome (rule setting.engine) := by
  have hTop : (State.holding d).scope.head? ≠ some ⟨0⟩ := nofun
  have hNode :
      ({ State.holding d with
          scope := ⟨0⟩ :: (State.holding d).scope } : State).node?
          (NodeKey.root ⟨0⟩) =
        some d.root :=
    State.node?_root rfl
  have hDispatch :=
    @dispatch_run setting Watch.never
      { State.holding d with
        scope := ⟨0⟩ :: (State.holding d).scope }
      resolve (NodeKey.root ⟨0⟩) rfl
  rw [hNode, compileBegun_never, compileNode_leaf hLeaf] at hDispatch
  generalize rule setting.engine = outcome at hDispatch ⊢
  cases outcome with
  | ok rule =>
      simp only [inDocument, if_neg hTop, inProgress, hDispatch]
      rfl
  | error fault =>
      simp only [inDocument, if_neg hTop, inProgress, hDispatch]
      rfl

/- The answer for the root of the only document. -/
theorem resolveStep_leaf
    (setting : Setting)
    (resolve : Resolver)
    {d : Document}
    (hLeaf : d.root.IsLeaf rule) :
    match rule setting.engine with
    | .ok rule =>
        ∃ t,
          resolveStep setting Watch.never resolve
              (NodeKey.root ⟨0⟩) (State.holding d) =
            .ok ⟨0⟩ t ∧
          t.graph =
            (Compiled.leaf
              ⟨rule, .optional, allowsNull d.root⟩).graph
    | .error fault =>
        ∃ t,
          resolveStep setting Watch.never resolve
              (NodeKey.root ⟨0⟩) (State.holding d) =
            .error
              (.invalidSchema (NodeKey.root ⟨0⟩).fragment fault)
              t := by
  have hResolved :
      (State.holding d).resolved.lookup (NodeKey.root ⟨0⟩) = none :=
    rfl
  have hProgress :
      NodeKey.root ⟨0⟩ ∉ (State.holding d).progress :=
    List.not_mem_nil
  have hInner := inDocument_leaf setting resolve hLeaf
  unfold resolveStep
  rw [get_bind]
  simp only [hResolved, if_neg hProgress]
  generalize rule setting.engine = outcome at hInner ⊢
  cases outcome with
  | ok rule => exact ⟨_, bind_of_ok hInner, rfl⟩
  | error fault => exact ⟨_, bind_of_error hInner⟩

/-
  A schema that is a leaf compiles to one validator, or fails
  at its root.
-/
theorem compileWith_leaf
    (setting : Setting)
    (workingDir : Path)
    (hLeaf : node.IsLeaf rule) :
    (compileWith setting workingDir (.value node)).result =
      node.leafResult (rule setting.engine) := by
  let d : Document :=
    ⟨node, declaredRoot? node <|> setting.options.baseDir, .inline⟩
  have hRoot :
      loadRoot setting workingDir (.value node) State.initial =
        .ok ⟨0⟩ (State.holding d) :=
    loadRoot_value workingDir hLeaf.object
  have hSteps :
      compileSteps setting Watch.never workingDir (.value node)
          State.initial =
        resolveStep setting Watch.never
          (resolveWithin setting Watch.never setting.budget)
          (NodeKey.root ⟨0⟩) (State.holding d) := by
    rw [← resolveWithin_never]
    exact bind_of_ok hRoot
  have hStep :=
    resolveStep_leaf setting
      (resolveWithin setting Watch.never setting.budget) (d := d)
      hLeaf
  unfold compileWith compileWatched
  generalize rule setting.engine = outcome at hStep ⊢
  cases outcome with
  | ok rule =>
      rcases hStep with ⟨t, hOk, hGraph⟩
      rw [hSteps.trans hOk]
      dsimp only
      rw [hGraph]
      rfl
  | error fault =>
      rcases hStep with ⟨t, hError⟩
      rw [hSteps.trans hError]
      rfl

end Compiling

------------------------------------------------------------
-- Checking against a Leaf
------------------------------------------------------------

/-
  A check against one validator whose rule looks at the value
  alone: the value itself, or the violations of the rule.
-/
theorem Compiled.check_leaf
    {v : Validator}
    {now : Calendar.Instant}
    {value : Json}
    {asked : CheckOptions}
    {vs : List Violation}
    (hPresence : v.presence ≠ .forbidden)
    (hNotNull : value ≠ .null)
    (hRule :
      ∀ inner,
        (Compiled.leaf v).graph.checkRule now inner v.rule value ""
            asked =
          some (Verdict.ofViolations value vs)) :
    (Compiled.leaf v).check now value asked =
      some (if vs = [] then .ok value else .error vs) := by
  have hNode :
      (Compiled.leaf v).graph.node? (Compiled.leaf v).root =
        some v := rfl
  have hCheck :
      (Compiled.leaf v).graph.check now (Compiled.leaf v).root
          (some value) "" asked =
        some (Verdict.ofViolations value vs) := by
    rw [Graph.check_eq_checkNode, Graph.checkNode, hNode]
    dsimp only
    rw [if_neg hPresence]
    split
    case h_1 => exact absurd rfl hNotNull
    case h_2 => exact hRule _
  unfold Compiled.check
  rw [hCheck]
  by_cases hEmpty : vs = []
  · simp [Verdict.ofViolations, hEmpty]
  · simp [Verdict.ofViolations, hEmpty]

end SchemaGraph
