import Mathlib
import SchemaGraph.Compiled
import SchemaGraph.Proofs.Check.Accepted
import SchemaGraph.Proofs.Check.Complaints

/-
  Checking a value somewhere else.  A check only ever adds to
  the path that it is given, and nothing it decides depends
  on the path.  So the verdict at a longer path is the
  verdict at its end, with every violation moved under its
  beginning.

  Main declarations:
    * `Violation.under`
    * `CustomType.Relative`
    * `Checker.Relocates`
    * `Graph.checkObject_relocates`
    * `Graph.checkArray_relocates`
    * `Graph.checkAll_relocates`
    * `Graph.checkWithin_relocates`
    * `Graph.check_relocates`
    * `Compiled.toCustomType_check`
-/

namespace SchemaGraph

------------------------------------------------------------
-- Moved Violations
------------------------------------------------------------

namespace Violation

/- The violation under another path, which its own continues. -/
def under
    (outer : String)
    (v : Violation) : Violation :=
  ⟨outer ++ v.path, v.code, v.message⟩

/- A complaint is moved with its path. -/
@[simp] theorem under_of
    (outer path : String)
    (c : Complaint) :
    (of path c).under outer = of (outer ++ path) c := rfl

/- Moving twice. -/
@[simp] theorem under_under
    (outer path : String)
    (v : Violation) :
    (v.under path).under outer = v.under (outer ++ path) := by
  simp [under, String.append_assoc]

/- The path of a member is continued. -/
theorem memberPath_append
    (outer path name : String) :
    memberPath (outer ++ path) name =
      outer ++ memberPath path name := by
  simp [memberPath, String.append_assoc]

/- The path of an item is continued. -/
theorem itemPath_append
    (outer path : String)
    (i : Nat) :
    itemPath (outer ++ path) i = outer ++ itemPath path i := by
  simp [itemPath, String.append_assoc]

end Violation

/- Complaints are made at whatever path is given. -/
theorem Complains.relocates
    {report : String → List Violation}
    (hReport : Complains report)
    (outer path : String) :
    report (outer ++ path) =
      (report path).map (Violation.under outer) := by
  rcases hReport with ⟨cs, _, hSame⟩
  rw [hSame, hSame, List.map_map]
  rfl

/- Counts and repeated items are reported likewise. -/
theorem ArrayRule.checkItems_relocates
    (rule : ArrayRule)
    (items : List Json)
    (outer path : String) :
    rule.checkItems items (outer ++ path) =
      (rule.checkItems items path).map (Violation.under outer) := by
  rcases rule.exists_checkItems items with
    ⟨counts, found, hCounts, _, hSame⟩
  rw [hSame, hSame, hCounts.relocates, List.map_append,
    List.map_map]
  simp only [Violation.itemPath_append, Function.comp_def,
    Violation.under_of]

/-
  The custom type reports errors at paths that extend the
  given path by what does not depend on it.
-/
def CustomType.Relative
    (type : CustomType) : Prop :=
  ∀ now value path,
    type.check now value path =
      (type.check now value "").map
        (List.map (Violation.under path))

/- What such a type reports is moved with the path. -/
theorem CustomType.Relative.relocates
    {type : CustomType}
    (hRelative : type.Relative)
    (now : Calendar.Instant)
    (value : Json)
    (outer path : String) :
    type.check now value (outer ++ path) =
      (type.check now value path).map
        (List.map (Violation.under outer)) := by
  rw [hRelative now value (outer ++ path),
    hRelative now value path, Option.map_map]
  congr 1
  funext vs
  simp [Function.comp_def]

------------------------------------------------------------
-- Moved Verdicts
------------------------------------------------------------

namespace Verdict

/- The verdict with its violations under another path. -/
def under
    (outer : String) : Verdict → Verdict
  | .ok accepted => .ok accepted
  | .error vs => .error (vs.map (Violation.under outer))

/- The violations are moved. -/
@[simp] theorem violations_under
    (outer : String)
    (verdict : Verdict) :
    (verdict.under outer).violations =
      verdict.violations.map (Violation.under outer) := by
  cases verdict <;> rfl

/- The accepted value stays. -/
@[simp] theorem value?_under
    (outer : String)
    (verdict : Verdict) :
    (verdict.under outer).value? = verdict.value? := by
  cases verdict <;> rfl

/- A refusal is moved with its path. -/
@[simp] theorem under_refuse
    (outer path : String)
    (c : Complaint) :
    (refuse path c).under outer = refuse (outer ++ path) c := rfl

/- Violations decide as before. -/
@[simp] theorem under_ofViolations
    (outer : String)
    (value : Json)
    (vs : List Violation) :
    (ofViolations value vs).under outer =
      ofViolations value (vs.map (Violation.under outer)) := by
  unfold ofViolations
  by_cases hEmpty : vs = []
  · simp [hEmpty, under]
  · simp [hEmpty, under]

end Verdict

/- A list of answers that are changed one by one. -/
theorem mapM_eq_map_mapM
    {α β : Type}
    {f f' : α → Option β}
    {change : β → β}
    {xs : List α}
    (hEach : ∀ x ∈ xs, f' x = (f x).map change) :
    xs.mapM f' = (xs.mapM f).map (List.map change) := by
  induction xs with
  | nil => rfl
  | cons x rest ih =>
      have hRest := ih (fun y hMem =>
        hEach y (List.mem_cons_of_mem x hMem))
      simp only [List.mapM_cons, hEach x List.mem_cons_self, hRest]
      cases f x with
      | none => rfl
      | some y => cases rest.mapM f <;> rfl

/- The checker gives the same verdicts under any path. -/
def Checker.Relocates
    (inner : Checker) : Prop :=
  ∀ id asked outer path options,
    inner id asked (outer ++ path) options =
      (inner id asked path options).map (Verdict.under outer)

namespace Graph

variable {g : Graph}
variable {now : Calendar.Instant}
variable {inner : Checker}

------------------------------------------------------------
-- Objects
------------------------------------------------------------

/- A verdict under a name is moved. -/
def moveEntry
    (outer : String)
    (entry : String × Verdict) : String × Verdict :=
  (entry.1, entry.2.under outer)

/- The verdicts on declared properties are moved. -/
theorem declaredVerdicts_relocates
    (hInner : inner.Relocates)
    (members : List (String × Json))
    (outer path : String)
    (options : CheckOptions)
    (properties : List (String × ValidatorId)) :
    declaredVerdicts inner members (outer ++ path) options
        properties =
      (declaredVerdicts inner members path options properties).map
        (List.map (moveEntry outer)) := by
  apply mapM_eq_map_mapM
  rintro ⟨name, id⟩ _
  simp only [Violation.memberPath_append, hInner id _ outer,
    Option.map_map]
  rfl

/- The verdict on an undeclared key is moved. -/
theorem unknownVerdict_relocates
    (hInner : inner.Relocates)
    (rule : ObjectRule)
    (outer path : String)
    (options : CheckOptions)
    (name : String)
    (x : Json) :
    unknownVerdict inner rule (outer ++ path) options name x =
      (unknownVerdict inner rule path options name x).map
        (Verdict.under outer) := by
  unfold unknownVerdict
  rcases options with ⟨strip⟩
  rw [Violation.memberPath_append]
  cases rule.unknown with
  | schema id => exact hInner id _ outer _ _
  | _ => cases rule.properties <;> cases strip <;> rfl

/- The verdicts on undeclared keys are moved. -/
theorem unknownVerdicts_relocates
    (hInner : inner.Relocates)
    (rule : ObjectRule)
    (outer path : String)
    (options : CheckOptions)
    (members : List (String × Json)) :
    unknownVerdicts inner rule (outer ++ path) options members =
      (unknownVerdicts inner rule path options members).map
        (List.map (moveEntry outer)) := by
  apply mapM_eq_map_mapM
  rintro ⟨name, x⟩ _
  simp only [unknownVerdict_relocates hInner rule outer,
    Option.map_map]
  rfl

/- What is accepted of an object does not depend on the path. -/
theorem acceptedMembers_moveEntry
    (outer : String)
    (verdicts : List (String × Verdict)) :
    acceptedMembers (verdicts.map (moveEntry outer)) =
      acceptedMembers verdicts := by
  unfold acceptedMembers
  rw [List.filterMap_map]
  congr 2
  funext entry
  simp [moveEntry]

/- Objects are judged alike under any path. -/
theorem checkObject_relocates
    (hInner : inner.Relocates)
    (rule : ObjectRule)
    (value : Json)
    (outer path : String)
    (options : CheckOptions) :
    checkObject inner rule value (outer ++ path) options =
      (checkObject inner rule value path options).map
        (Verdict.under outer) := by
  cases value with
  | object members =>
      simp only [checkObject, declaredVerdicts_relocates hInner,
        unknownVerdicts_relocates hInner,
        (rule.complains_checkCount members.length).relocates]
      cases declaredVerdicts inner members path options
          (rule.properties.getD []) with
      | none => rfl
      | some declared =>
          cases unknownVerdicts inner rule path options members with
          | none => rfl
          | some unknown =>
              simp only [Option.map_some, Option.bind_eq_bind,
                Option.bind_some, Option.pure_def,
                ← List.map_append, acceptedMembers_moveEntry,
                Verdict.under_ofViolations, List.flatMap_map]
              simp [moveEntry, List.map_flatMap]
  | _ => rfl

------------------------------------------------------------
-- Arrays
------------------------------------------------------------

/- The verdict on an item is moved. -/
theorem itemVerdict_relocates
    (hInner : inner.Relocates)
    (rule : ArrayRule)
    (outer path : String)
    (options : CheckOptions)
    (x : Json)
    (i : Nat) :
    itemVerdict inner rule (outer ++ path) options x i =
      (itemVerdict inner rule path options x i).map
        (Verdict.under outer) := by
  unfold itemVerdict
  rw [Violation.itemPath_append]
  cases rule.items with
  | none => rfl
  | some id => exact hInner id _ outer _ _

/- Arrays are judged alike under any path. -/
theorem checkArray_relocates
    (hInner : inner.Relocates)
    (rule : ArrayRule)
    (value : Json)
    (outer path : String)
    (options : CheckOptions) :
    checkArray inner rule value (outer ++ path) options =
      (checkArray inner rule value path options).map
        (Verdict.under outer) := by
  cases value with
  | array items =>
      have hItems :
          items.zipIdx.mapM (fun entry =>
              itemVerdict inner rule (outer ++ path) options
                entry.1 entry.2) =
            (items.zipIdx.mapM (fun entry =>
              itemVerdict inner rule path options
                entry.1 entry.2)).map
                  (List.map (Verdict.under outer)) :=
        mapM_eq_map_mapM (fun _ _ =>
          itemVerdict_relocates hInner rule outer path options _ _)
      rw [checkArray_array, checkArray_array, hItems,
        rule.checkItems_relocates, Option.map_map, Option.map_map]
      congr 1
      funext verdicts
      simp [List.flatMap_map, List.filterMap_map, List.map_flatMap]
  | _ => rfl

------------------------------------------------------------
-- Alternatives and Intersections
------------------------------------------------------------

/- The same alternative decides under any path. -/
theorem checkAlternatives_relocates
    (hInner : inner.Relocates)
    (value : Json)
    (outer path : String)
    (options : CheckOptions)
    (branches : List ValidatorId) :
    checkAlternatives inner value (outer ++ path) options branches =
      (checkAlternatives inner value path options branches).map
        (Verdict.under outer) := by
  induction branches with
  | nil => rfl
  | cons id rest ih =>
      simp only [checkAlternatives, hInner id _ outer]
      cases inner id (some value) path options with
      | none => rfl
      | some found =>
          cases found with
          | ok accepted => rfl
          | error vs => exact ih

/- The same parts of an intersection apply under any path. -/
theorem effective_relocates
    (hInner : inner.Relocates)
    (value : Json)
    (outer path : String)
    (options : CheckOptions)
    (branch : Branch) :
    effective inner value (outer ++ path) options branch =
      effective inner value path options branch := by
  cases branch with
  | schema id => rfl
  | conditional test pass fail =>
      simp only [effective, hInner test _ outer, Option.map_map]
      congr 1
      funext verdict
      cases verdict <;> rfl

/- The violations of a part of an intersection are moved. -/
theorem branchViolations_relocates
    (hInner : inner.Relocates)
    (value : Json)
    (outer path : String)
    (options : CheckOptions)
    (branch : Branch) :
    branchViolations inner value (outer ++ path) options branch =
      (branchViolations inner value path options branch).map
        (List.map (Violation.under outer)) := by
  simp only [branchViolations, effective_relocates hInner]
  cases effective inner value path options branch with
  | none => rfl
  | some applied =>
      cases applied with
      | none => rfl
      | some id =>
          simp only [Option.bind_eq_bind, Option.bind_some,
            hInner id _ outer]
          cases inner id (some value) path options <;> simp

/- Intersections judge alike under any path. -/
theorem checkAll_relocates
    (hInner : inner.Relocates)
    (branches : List Branch)
    (value : Json)
    (outer path : String) :
    checkAll inner branches value (outer ++ path) =
      (checkAll inner branches value path).map
        (Verdict.under outer) := by
  have hBranches :
      branches.mapM
          (branchViolations inner value (outer ++ path) ⟨true⟩) =
        (branches.mapM
          (branchViolations inner value path ⟨true⟩)).map
            (List.map (List.map (Violation.under outer))) :=
    mapM_eq_map_mapM (fun branch _ =>
      branchViolations_relocates hInner value outer path _ branch)
  simp only [checkAll, hBranches]
  cases branches.mapM
      (branchViolations inner value path ⟨true⟩) with
  | none => rfl
  | some vs => simp [List.map_flatten]

------------------------------------------------------------
-- Values
------------------------------------------------------------

/- Rules judge alike under any path. -/
theorem checkRule_relocates
    {rule : Rule}
    (hInner : inner.Relocates)
    (hType : ∀ type, rule = .custom type → type.Relative)
    (value : Json)
    (outer path : String)
    (options : CheckOptions) :
    g.checkRule now inner rule value (outer ++ path) options =
      (g.checkRule now inner rule value path options).map
        (Verdict.under outer) := by
  cases rule with
  | any => rfl
  | boolean => cases value <;> rfl
  | number rule =>
      simp [checkRule, (rule.complains value).relocates]
  | string rule =>
      simp [checkRule, (rule.complains value).relocates]
  | email rule =>
      simp [checkRule, (rule.complains value).relocates]
  | date rule =>
      simp [checkRule, (rule.complains now value).relocates]
  | time rule =>
      simp [checkRule, (rule.complains value).relocates]
  | object rule =>
      exact checkObject_relocates hInner rule value outer path
        options
  | array rule =>
      exact checkArray_relocates hInner rule value outer path
        options
  | literal allowed =>
      simp only [checkRule]
      split
      case isTrue => rfl
      case isFalse => rfl
  | alternatives branches =>
      exact checkAlternatives_relocates hInner value outer path
        options branches
  | all branches =>
      exact checkAll_relocates hInner branches value outer path
  | deferred c =>
      simp only [checkRule]
      cases g.cell? c with
      | none => rfl
      | some target => exact hInner target _ outer _ _
  | custom type =>
      simp only [checkRule, (hType type rfl).relocates now value,
        Option.map_map, Function.comp_def,
        Verdict.under_ofViolations]

/- Validators judge alike under any path. -/
theorem checkNode_relocates
    (hInner : inner.Relocates)
    (hTypes : g.AllTypes CustomType.Relative) :
    Checker.Relocates (g.checkNode now inner) := by
  intro id asked outer path options
  unfold checkNode
  cases hNode : g.node? id with
  | none => rfl
  | some v =>
      cases asked with
      | none =>
          by_cases hRequired : v.presence = .required
          · simp [hRequired]
          · simp [hRequired, Verdict.under]
      | some value =>
          by_cases hForbidden : v.presence = .forbidden
          · simp [hForbidden]
          · simp only [hForbidden, if_false]
            split
            · rfl
            · exact checkRule_relocates hInner (hTypes id v · hNode)
                _ outer path options

/- Checks within a budget judge alike under any path. -/
theorem checkWithin_relocates
    (hTypes : g.AllTypes CustomType.Relative)
    (now : Calendar.Instant)
    (budget : Nat) :
    Checker.Relocates (g.checkWithin now budget) := by
  induction budget with
  | zero =>
      intro id asked outer path options
      rfl
  | succ budget ih => exact checkNode_relocates ih hTypes

/- Checks judge alike under any path. -/
theorem check_relocates
    (hTypes : g.AllTypes CustomType.Relative)
    (now : Calendar.Instant) :
    Checker.Relocates (g.check now) :=
  fun id asked =>
    checkWithin_relocates hTypes now (g.checkBudget asked) id asked

end Graph

------------------------------------------------------------
-- Schemas as Custom Types
------------------------------------------------------------

namespace Compiled

/- What an outcome reports. -/
def reports
    (outcome : Except (List Violation) Json) : List Violation :=
  match outcome with
  | .ok _ => []
  | .error vs => vs

/-
  As a custom type, a schema reports what it reports of the
  value itself, under the given path.
-/
theorem toCustomType_check
    {schema : Compiled}
    (hTypes : schema.graph.AllTypes CustomType.Relative)
    (now : Calendar.Instant)
    (value : Json)
    (path : String) :
    schema.toCustomType.check now value path =
      (schema.check now value {}).map (fun outcome =>
        (reports outcome).map (Violation.under path)) := by
  have hMoved :=
    Graph.check_relocates hTypes now schema.root (some value) path
      "" {}
  rw [String.append_empty] at hMoved
  simp only [toCustomType, hMoved, check, Option.map_map]
  congr 1
  funext verdict
  cases verdict <;> rfl

/- Such a type is relative in turn. -/
theorem relative_toCustomType
    {schema : Compiled}
    (hTypes : schema.graph.AllTypes CustomType.Relative) :
    schema.toCustomType.Relative := by
  intro now value path
  simp [toCustomType_check hTypes, Function.comp_def]

end Compiled

end SchemaGraph
