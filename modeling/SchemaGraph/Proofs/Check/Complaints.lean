import Mathlib
import SchemaGraph.Proofs.Check.Containers

/-
  What the rules for single values report.  Which complaints
  a rule makes of a value does not depend on the path of the
  value, and all of them are made at that path.  Only the
  complaint about a repeated item is made further inside, at
  the path of the item.  All of them are about the value
  itself: that it is missing, or is that of an unknown key,
  is said elsewhere.

  Main declarations:
    * `Complaint.AboutValue`
    * `Complaint.code_eq_required_iff`
    * `Complains`
    * `Complains.append`
    * `NumberRule.complains`
    * `StringRule.complains`
    * `EmailRule.complains`
    * `DateRule.complains`
    * `TimeRule.complains`
    * `ObjectRule.complains_checkCount`
    * `ArrayRule.exists_checkItems`
    * `Graph.checkArray_array`
    * `Graph.AllTypes`
-/

namespace SchemaGraph

/-
  The complaint is about the value itself, not about one that
  is missing or a key that is not known.
-/
def Complaint.AboutValue
    (c : Complaint) : Prop :=
  c ≠ .required ∧ c ≠ .unknownKey

/- What a complaint is about can be read off. -/
@[simp] theorem Complaint.aboutValue_iff
    {c : Complaint} :
    c.AboutValue ↔ c ≠ .required ∧ c ≠ .unknownKey :=
  Iff.rfl

/- Only missing values have the code of missing values. -/
theorem Complaint.code_eq_required_iff
    {c : Complaint} :
    c.code = "any.required" ↔ c = .required := by
  cases c <;> simp [Complaint.code]

------------------------------------------------------------
-- Complaints at One Path
------------------------------------------------------------

/-
  The reports are those of some complaints about a value,
  made at whatever path is given.
-/
def Complains
    (report : String → List Violation) : Prop :=
  ∃ cs : List Complaint,
    (∀ c ∈ cs, c.AboutValue) ∧
      ∀ path, report path = cs.map (Violation.of path)

namespace Complains

variable {report other : String → List Violation}

/- Nothing is reported. -/
@[simp] theorem nil : Complains (fun _ => []) :=
  ⟨[], by simp, fun _ => rfl⟩

/- One complaint is reported. -/
@[simp] theorem single
    {c : Complaint}
    (hAbout : c.AboutValue) :
    Complains (fun path => [Violation.of path c]) :=
  ⟨[c], by simpa using hAbout, fun _ => rfl⟩

/- One complaint is reported under a condition. -/
@[simp] theorem complaintIf
    {c : Complaint}
    {condition : Bool}
    (hAbout : c.AboutValue) :
    Complains (fun path => complaintIf path condition c) := by
  cases condition with
  | false => exact nil
  | true => exact single hAbout

/- One report after the other. -/
@[simp] theorem append
    (hReport : Complains report)
    (hOther : Complains other) :
    Complains (fun path => report path ++ other path) := by
  rcases hReport with ⟨cs, hCs, hSame⟩
  rcases hOther with ⟨ds, hDs, hOtherSame⟩
  refine ⟨cs ++ ds, ?_, ?_⟩
  · intro c hMem
    exact (List.mem_append.mp hMem).elim (hCs c) (hDs c)
  · intro path
    simp only [hSame, hOtherSame, List.map_append]

/- What is reported are complaints about the value. -/
theorem exists_complaint
    {path : String}
    {v : Violation}
    (hReport : Complains report)
    (hMem : v ∈ report path) :
    ∃ c : Complaint, c.AboutValue ∧ v = Violation.of path c := by
  rcases hReport with ⟨cs, hCs, hSame⟩
  rw [hSame] at hMem
  rcases List.mem_map.mp hMem with ⟨c, hC, rfl⟩
  exact ⟨c, hCs c hC, rfl⟩

end Complains

------------------------------------------------------------
-- Rules for Single Values
------------------------------------------------------------

/- Lengths are limited. -/
@[simp] theorem complains_checkLength
    (least most : Option Nat)
    (text : String) :
    Complains (fun path => checkLength least most text path) := by
  unfold checkLength
  cases least <;> cases most <;> simp

/- What a rule for numbers reports. -/
theorem NumberRule.complains
    (rule : NumberRule)
    (value : Json) :
    Complains (rule.check value) := by
  unfold NumberRule.check
  cases value with
  | number n =>
      apply Complains.append (Complains.append (by simp) ?_) ?_
      · cases rule.minimum <;> simp
      · cases rule.maximum <;> simp
  | _ => simp

/- What a rule for strings reports. -/
theorem StringRule.complains
    (rule : StringRule)
    (value : Json) :
    Complains (rule.check value) := by
  unfold StringRule.check
  cases value with
  | string text =>
      by_cases hEmpty : text = ""
      · simp [hEmpty]
      · cases rule.pattern <;> simp [hEmpty]
  | _ => simp

/- What a rule for email addresses reports. -/
theorem EmailRule.complains
    (rule : EmailRule)
    (value : Json) :
    Complains (rule.check value) := by
  unfold EmailRule.check
  cases value with
  | string text => by_cases hEmpty : text = "" <;> simp [hEmpty]
  | _ => simp

/- What a rule for dates reports. -/
theorem DateRule.complains
    (now : Calendar.Instant)
    (rule : DateRule)
    (value : Json) :
    Complains (rule.check now value) := by
  unfold DateRule.check
  cases readDate? value <;> cases rule.min <;> cases rule.max <;>
    simp

/- What a rule for times of day reports. -/
theorem TimeRule.complains
    (rule : TimeRule)
    (value : Json) :
    Complains (rule.check value) := by
  unfold TimeRule.check
  cases readTimeValue? value <;> cases rule.min <;>
    cases rule.max <;> simp

------------------------------------------------------------
-- Containers
------------------------------------------------------------

/- What is reported of the number of keys. -/
theorem ObjectRule.complains_checkCount
    (rule : ObjectRule)
    (count : Nat) :
    Complains (rule.checkCount count) := by
  unfold ObjectRule.checkCount
  cases rule.minProperties <;> cases rule.maxProperties <;> simp

/-
  What is reported of an array besides its items: its length
  at its own path, and then each repeated item.
-/
theorem ArrayRule.exists_checkItems
    (rule : ArrayRule)
    (items : List Json) :
    ∃ (counts : String → List Violation)
      (found : List (Nat × Nat)),
      Complains counts ∧
        (∀ e ∈ found, e.1 < items.length) ∧
          ∀ path,
            rule.checkItems items path =
              counts path ++
                found.map (fun e =>
                  Violation.of (Violation.itemPath path e.1)
                    (.duplicateOf e.2)) := by
  rcases rule.exists_checkItems_eq items with
    ⟨found, hRepeats, hReport⟩
  have hCounts :
      Complains (fun path =>
        (countComplaints .tooFewItems .tooManyItems rule.minItems
            rule.maxItems items.length).map (Violation.of path)) := by
    refine ⟨_, ?_, fun _ => rfl⟩
    intro c hMem
    rcases mem_countComplaints hMem with ⟨n, rfl | rfl⟩ <;> simp
  have hBound : ∀ e ∈ found, e.1 < items.length := by
    intro e hMem
    rcases (hRepeats.first e.1 e.2 hMem).2.2.1 with ⟨_, y, _, hItem, _⟩
    exact (List.getElem?_eq_some_iff.mp hItem).1
  by_cases hUnique : rule.unique = true
  · refine ⟨_, found, hCounts, hBound, ?_⟩
    intro path
    rw [hReport, if_pos hUnique]
  · refine ⟨_, [], hCounts, by simp, ?_⟩
    intro path
    rw [hReport, if_neg hUnique, List.map_nil]

/- The verdict on an array, from the verdicts on its items. -/
theorem Graph.checkArray_array
    (inner : Checker)
    (rule : ArrayRule)
    (items : List Json)
    (path : String)
    (options : CheckOptions) :
    checkArray inner rule (.array items) path options =
      (items.zipIdx.mapM (fun entry =>
          itemVerdict inner rule path options entry.1 entry.2)).map
        (fun verdicts =>
          Verdict.ofViolations
            (.array (verdicts.filterMap Verdict.value?))
            (verdicts.flatMap Verdict.violations
              ++ rule.checkItems items path)) := by
  rw [Option.map_eq_bind]
  rfl

/-
  All custom types of the graph have a property.  What they
  report is up to them.
-/
def Graph.AllTypes
    (g : Graph)
    (good : CustomType → Prop) : Prop :=
  ∀ id v type,
    g.node? id = some v → v.rule = .custom type → good type

end SchemaGraph
