import Mathlib
import SchemaGraph.Proofs.Check.Complaints
import SchemaGraph.Proofs.Check.Stripping

/-
  Where a violation comes from.  A validator complains about
  a value itself, about a repeated item, or about a key that
  is not known, or one of its custom types does; all other
  violations are those of a validator that it mentions, for
  the same value, a member or an item.  It says of an absent
  value only that it is missing.

  Main declarations:
    * `Graph.Reports`
    * `Graph.checkObject_reports`
    * `Graph.checkArray_reports`
    * `Graph.checkAlternatives_cases`
    * `Graph.checkAll_reports`
    * `Graph.mem_references_of_effective`
    * `Graph.checkNode_reports`
    * `Graph.checkNode_absent`
-/

namespace SchemaGraph

namespace Graph

variable {g : Graph}
variable {now : Calendar.Instant}
variable {inner : Checker}
variable {id : ValidatorId}
variable {value : Json}
variable {path : String}
variable {options : CheckOptions}
variable {verdict : Verdict}
variable {v : Violation}

/-
  One step of the check of a value reports the violation.  A
  step that asks for the same value may drop unknown keys
  where it was not asked to, but not the other way round.
-/
inductive Reports
    (g : Graph)
    (now : Calendar.Instant)
    (inner : Checker)
    (id : ValidatorId)
    (value : Json)
    (path : String)
    (options : CheckOptions) : Violation → Prop where
  | complaint
      (c : Complaint)
      (hAbout : c.AboutValue) :
      Reports g now inner id value path options
        (Violation.of path c)
  | repeated
      (items : List Json)
      (i : Nat)
      (c : Complaint)
      (hValue : value = .array items)
      (hItem : i < items.length)
      (hAbout : c.AboutValue) :
      Reports g now inner id value path options
        (Violation.of (Violation.itemPath path i) c)
  | unknownKey
      (members : List (String × Json))
      (name : String)
      (x : Json)
      (hValue : value = .object members)
      (hMember : (name, x) ∈ members)
      (hKept : options.stripUnknown = false) :
      Reports g now inner id value path options
        (Violation.of (Violation.memberPath path name) .unknownKey)
  | custom
      (type : CustomType)
      (vs : List Violation)
      (v : Violation)
      (hJudges : g.Judges id value (.custom type))
      (hCheck : type.check now value path = some vs)
      (hMem : v ∈ vs) :
      Reports g now inner id value path options v
  | same
      (other : ValidatorId)
      (chosen : CheckOptions)
      (verdict : Verdict)
      (v : Violation)
      (hMentions : g.Mentions id other)
      (hChosen :
        options.stripUnknown = true → chosen.stripUnknown = true)
      (hVerdict : inner other (some value) path chosen = some verdict)
      (hMem : v ∈ verdict.violations) :
      Reports g now inner id value path options v
  | declared
      (members : List (String × Json))
      (name : String)
      (other : ValidatorId)
      (verdict : Verdict)
      (v : Violation)
      (hValue : value = .object members)
      (hMentions : g.Mentions id other)
      (hVerdict :
        inner other (members.lookup name)
            (Violation.memberPath path name) options =
          some verdict)
      (hMem : v ∈ verdict.violations) :
      Reports g now inner id value path options v
  | undeclared
      (members : List (String × Json))
      (name : String)
      (x : Json)
      (other : ValidatorId)
      (verdict : Verdict)
      (v : Violation)
      (hValue : value = .object members)
      (hMember : (name, x) ∈ members)
      (hMentions : g.Mentions id other)
      (hVerdict :
        inner other (some x) (Violation.memberPath path name)
            options =
          some verdict)
      (hMem : v ∈ verdict.violations) :
      Reports g now inner id value path options v
  | item
      (items : List Json)
      (i : Nat)
      (x : Json)
      (other : ValidatorId)
      (verdict : Verdict)
      (v : Violation)
      (hValue : value = .array items)
      (hItem : items[i]? = some x)
      (hMentions : g.Mentions id other)
      (hVerdict :
        inner other (some x) (Violation.itemPath path i) options =
          some verdict)
      (hMem : v ∈ verdict.violations) :
      Reports g now inner id value path options v

/- A refusal is a complaint about the value. -/
theorem reports_of_refuse
    {c : Complaint}
    (hAbout : c.AboutValue)
    (hMem : v ∈ (Verdict.refuse path c).violations) :
    g.Reports now inner id value path options v := by
  rw [List.mem_singleton.mp hMem]
  exact .complaint c hAbout

/- So are the complaints of a rule for single values. -/
theorem reports_of_complains
    {report : String → List Violation}
    (hReport : Complains report)
    (hMem :
      v ∈ (Verdict.ofViolations value (report path)).violations) :
    g.Reports now inner id value path options v := by
  rw [Verdict.violations_ofViolations] at hMem
  rcases hReport.exists_complaint hMem with ⟨c, hAbout, rfl⟩
  exact .complaint c hAbout

------------------------------------------------------------
-- Containers
------------------------------------------------------------

/- An object asks for its members, and counts its keys. -/
theorem checkObject_reports
    {rule : ObjectRule}
    (hJudges : g.Judges id value (.object rule))
    (hCheck :
      checkObject inner rule value path options = some verdict)
    (hMem : v ∈ verdict.violations) :
    g.Reports now inner id value path options v := by
  cases value with
  | object members =>
      simp only [checkObject, Option.bind_eq_bind,
        Option.bind_eq_some_iff, Option.pure_def,
        Option.some.injEq] at hCheck
      rcases hCheck with
        ⟨declared, hDeclared, unknown, hUnknown, rfl⟩
      rw [Verdict.violations_ofViolations, List.flatMap_append,
        List.mem_append, List.mem_append] at hMem
      rcases hMem with (hLeft | hRight) | hCount
      · rcases List.mem_flatMap.mp hLeft with ⟨entry, hEntry, hV⟩
        rcases exists_element_of_mapM hDeclared hEntry with
          ⟨⟨name, property⟩, hProperty, hFound⟩
        rcases Option.map_eq_some_iff.mp hFound with
          ⟨verdict, hVerdict, rfl⟩
        have hMentions : g.Mentions id property :=
          hJudges.mentions
            (List.mem_append_left _ (List.mem_map_of_mem hProperty))
        exact .declared members name property verdict v rfl
          hMentions hVerdict hV
      · rcases List.mem_flatMap.mp hRight with ⟨entry, hEntry, hV⟩
        rcases exists_element_of_mapM hUnknown hEntry with
          ⟨⟨name, x⟩, hKey, hFound⟩
        rcases Option.map_eq_some_iff.mp hFound with
          ⟨verdict, hVerdict, rfl⟩
        have hMember := List.mem_of_mem_filter hKey
        rcases unknownVerdict_cases hVerdict with
          ⟨schema, hSchema, hAsked⟩ | rfl | ⟨_, _, _, rfl⟩ |
            ⟨hKept, rfl⟩
        · have hMentions : g.Mentions id schema :=
            hJudges.mentions (by simp [Rule.references, hSchema])
          exact .undeclared members name x schema verdict v rfl
            hMember hMentions hAsked hV
        · cases hV
        · cases hV
        · rw [List.mem_singleton.mp hV]
          exact .unknownKey members name x rfl hMember hKept
      · rcases (rule.complains_checkCount _).exists_complaint hCount
          with ⟨c, hAbout, rfl⟩
        exact .complaint c hAbout
  | _ =>
      cases hCheck
      exact reports_of_refuse (by simp) hMem

/- An array asks for its items, counts and compares them. -/
theorem checkArray_reports
    {rule : ArrayRule}
    (hJudges : g.Judges id value (.array rule))
    (hCheck :
      checkArray inner rule value path options = some verdict)
    (hMem : v ∈ verdict.violations) :
    g.Reports now inner id value path options v := by
  cases value with
  | array items =>
      rw [checkArray_array, Option.map_eq_some_iff] at hCheck
      rcases hCheck with ⟨verdicts, hVerdicts, rfl⟩
      rw [Verdict.violations_ofViolations, List.mem_append] at hMem
      rcases hMem with hEach | hItems
      · rcases List.mem_flatMap.mp hEach with ⟨verdict, hItem, hV⟩
        rcases exists_element_of_mapM hVerdicts hItem with
          ⟨⟨x, i⟩, hAt, hFound⟩
        have hGiven := List.mk_mem_zipIdx_iff_getElem?.mp hAt
        unfold itemVerdict at hFound
        cases hRule : rule.items with
        | none =>
            simp only [hRule, Option.some.injEq] at hFound
            subst hFound
            cases hV
        | some schema =>
            simp only [hRule] at hFound
            have hMentions : g.Mentions id schema :=
              hJudges.mentions (by simp [Rule.references, hRule])
            exact .item items i x schema verdict v rfl hGiven
              hMentions hFound hV
      · rcases rule.exists_checkItems items with
          ⟨counts, found, hCounts, hBound, hSame⟩
        rw [hSame, List.mem_append] at hItems
        rcases hItems with hCount | hRepeated
        · rcases hCounts.exists_complaint hCount with
            ⟨c, hAbout, rfl⟩
          exact .complaint c hAbout
        · rcases List.mem_map.mp hRepeated with ⟨e, hE, rfl⟩
          exact .repeated items e.1 _ rfl (hBound e hE) (by simp)
  | _ =>
      cases hCheck
      exact reports_of_refuse (by simp) hMem

------------------------------------------------------------
-- Alternatives and Intersections
------------------------------------------------------------

/- Alternatives accept, or say that none of them did. -/
theorem checkAlternatives_cases
    {branches : List ValidatorId}
    (hCheck :
      checkAlternatives inner value path options branches =
        some verdict) :
    (∃ accepted, verdict = .ok accepted) ∨
      verdict = Verdict.refuse path .noAlternative := by
  induction branches with
  | nil =>
      cases hCheck
      exact Or.inr rfl
  | cons id rest ih =>
      simp only [checkAlternatives] at hCheck
      cases hFirst : inner id (some value) path options with
      | none => simp [hFirst] at hCheck
      | some found =>
          cases found with
          | ok accepted =>
              simp only [hFirst, Option.some.injEq] at hCheck
              exact Or.inl ⟨accepted, hCheck.symm⟩
          | error vs =>
              simp only [hFirst] at hCheck
              exact ih hCheck

/- The part of an intersection that applies is one of its own. -/
theorem mem_references_of_effective
    {branch : Branch}
    {other : ValidatorId}
    (hApplied :
      effective inner value path options branch =
        some (some other)) :
    other ∈ branch.references := by
  cases branch with
  | schema part =>
      cases hApplied
      exact List.mem_singleton_self _
  | conditional test pass fail =>
      rcases Option.map_eq_some_iff.mp hApplied with
        ⟨side, _, hSide⟩
      cases side with
      | ok accepted =>
          have hPass : pass = some other := hSide
          simp [Branch.references, hPass]
      | error vs =>
          have hFail : fail = some other := hSide
          simp [Branch.references, hFail]

/- An intersection asks for the parts that apply. -/
theorem checkAll_reports
    {branches : List Branch}
    (hJudges : g.Judges id value (.all branches))
    (hCheck : checkAll inner branches value path = some verdict)
    (hMem : v ∈ verdict.violations) :
    g.Reports now inner id value path options v := by
  simp only [checkAll, Option.bind_eq_bind,
    Option.bind_eq_some_iff, Option.pure_def,
    Option.some.injEq] at hCheck
  rcases hCheck with ⟨lists, hLists, rfl⟩
  rw [Verdict.violations_ofViolations] at hMem
  rcases List.mem_flatten.mp hMem with ⟨vs, hVs, hV⟩
  rcases exists_element_of_mapM hLists hVs with
    ⟨branch, hBranch, hFound⟩
  simp only [branchViolations, Option.bind_eq_bind,
    Option.bind_eq_some_iff] at hFound
  rcases hFound with ⟨applied, hApplied, hRest⟩
  cases applied with
  | none =>
      cases hRest
      cases hV
  | some other =>
      simp only [Option.bind_eq_some_iff, Option.pure_def,
        Option.some.injEq] at hRest
      rcases hRest with ⟨verdict, hVerdict, rfl⟩
      have hMentions : g.Mentions id other :=
        hJudges.mentions
          (List.mem_flatMap.mpr ⟨branch, hBranch,
            mem_references_of_effective hApplied⟩)
      exact .same other ⟨true⟩ verdict v hMentions (fun _ => rfl)
        hVerdict hV

------------------------------------------------------------
-- Validators
------------------------------------------------------------

/- What a rule reports. -/
theorem checkRule_reports
    {rule : Rule}
    (hJudges : g.Judges id value rule)
    (hCheck :
      g.checkRule now inner rule value path options =
        some verdict)
    (hMem : v ∈ verdict.violations) :
    g.Reports now inner id value path options v := by
  cases rule with
  | any =>
      cases hCheck
      cases hMem
  | boolean =>
      cases value with
      | bool b =>
          cases hCheck
          cases hMem
      | _ =>
          cases hCheck
          exact reports_of_refuse (by simp) hMem
  | number rule =>
      cases hCheck
      exact reports_of_complains (rule.complains value) hMem
  | string rule =>
      cases hCheck
      exact reports_of_complains (rule.complains value) hMem
  | email rule =>
      cases hCheck
      exact reports_of_complains (rule.complains value) hMem
  | date rule =>
      cases hCheck
      exact reports_of_complains (rule.complains now value) hMem
  | time rule =>
      cases hCheck
      exact reports_of_complains (rule.complains value) hMem
  | object rule => exact checkObject_reports hJudges hCheck hMem
  | array rule => exact checkArray_reports hJudges hCheck hMem
  | literal allowed =>
      simp only [checkRule] at hCheck
      split at hCheck
      case isTrue =>
        cases hCheck
        cases hMem
      case isFalse =>
        cases hCheck
        exact reports_of_refuse (by simp) hMem
  | alternatives branches =>
      rcases checkAlternatives_cases hCheck with
        ⟨accepted, rfl⟩ | rfl
      · cases hMem
      · exact reports_of_refuse (by simp) hMem
  | all branches => exact checkAll_reports hJudges hCheck hMem
  | deferred c =>
      simp only [checkRule] at hCheck
      cases hCell : g.cell? c with
      | none =>
          simp only [hCell, Option.some.injEq] at hCheck
          subst hCheck
          cases hMem
      | some target =>
          simp only [hCell] at hCheck
          have hMentions : g.Mentions id target :=
            hJudges.mentions (by simp [Rule.references, hCell])
          exact .same target options verdict v hMentions
            (fun hStrip => hStrip) hCheck hMem
  | custom type =>
      rcases Option.map_eq_some_iff.mp hCheck with ⟨vs, hVs, rfl⟩
      rw [Verdict.violations_ofViolations] at hMem
      exact .custom type vs v hJudges hVs hMem

/- What a validator reports of a given value. -/
theorem checkNode_reports
    (hCheck :
      g.checkNode now inner id (some value) path options =
        some verdict)
    (hMem : v ∈ verdict.violations) :
    g.Reports now inner id value path options v := by
  rcases checkNode_cases hCheck with
    rfl | ⟨_, rfl⟩ | ⟨rule, hJudges, hRule⟩
  · exact reports_of_refuse (by simp) hMem
  · cases hMem
  · exact checkRule_reports hJudges hRule hMem

/- What a validator reports of an absent value. -/
theorem checkNode_absent
    (hCheck :
      g.checkNode now inner id none path options = some verdict)
    (hMem : v ∈ verdict.violations) :
    v = Violation.of path .required := by
  cases hNode : g.node? id with
  | none => simp [checkNode, hNode] at hCheck
  | some validator =>
      simp only [checkNode, hNode] at hCheck
      split at hCheck
      · cases hCheck
        exact List.mem_singleton.mp hMem
      · cases hCheck
        cases hMem

end Graph

end SchemaGraph
