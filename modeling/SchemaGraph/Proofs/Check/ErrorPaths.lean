import Mathlib
import SchemaGraph.Compiled
import SchemaGraph.Proofs.Check.Pruning
import SchemaGraph.Proofs.Check.Reports
import SchemaGraph.Proofs.Json.PointerTexts

/-
  The paths of violations are pointers into the value that
  was checked.  A check at a path continues it by one segment
  whenever it goes one step into the value, so what it
  reports stands at a position of the value; or it says that
  a value is missing, and then an object of the value lacks a
  member, and the path is the one that the member would have.

  Main declarations:
    * `Json.Lacks`
    * `Violation.Points`
    * `CustomType.PointsInside`
    * `Checker.Points`
    * `Graph.checkNode_points`
    * `Graph.checkWithin_points`
    * `Graph.check_points`
-/

namespace SchemaGraph

------------------------------------------------------------
-- Positions of Violations
------------------------------------------------------------

/- The pointer is that of a member which an object lacks. -/
def Json.Lacks
    (value : Json)
    (p : Pointer) : Prop :=
  ∃ q name members,
    p = q.child name ∧
      value.find? q = some (.object members) ∧
      members.lookup name = none

/-
  The violation stands at a position of the value, which is
  at a path itself, or says that a member of it is missing.
  At a position, the code of missing values is reported only
  if it is one of the given codes.
-/
def Violation.Points
    (codes : String → Prop)
    (value : Json)
    (path : String)
    (v : Violation) : Prop :=
  ∃ p : Pointer,
    v.path = path ++ p.text ∧
      ((value.find? p).isSome ∧
          (v.code = "any.required" → codes v.code) ∨
        v.code = "any.required" ∧ value.Lacks p)

namespace Violation

variable {codes : String → Prop}
variable {path : String}
variable {v : Violation}

/- The violation stands at the value itself. -/
theorem Points.here
    (value : Json)
    (hPath : v.path = path)
    (hCode : v.code = "any.required" → codes v.code) :
    v.Points codes value path :=
  ⟨.root, by simp [hPath, Pointer.text, Pointer.root],
    Or.inl ⟨rfl, hCode⟩⟩

/- A complaint at the value itself, which is not missing. -/
theorem Points.complaint
    (value : Json)
    {c : Complaint}
    (hOther : c ≠ .required) :
    (Violation.of path c).Points codes value path :=
  .here value rfl (fun hCode =>
    absurd (Complaint.code_eq_required_iff.mp hCode) hOther)

/- What stands in a part of a value stands in the value. -/
theorem Points.of_step
    {value x : Json}
    {place : String}
    (segment : String)
    (hStep : value.step? segment = some x)
    (hPlace :
      ∀ rest,
        place ++ Pointer.text ⟨rest⟩ =
          path ++ Pointer.text ⟨segment :: rest⟩)
    (hPoints : v.Points codes x place) :
    v.Points codes value path := by
  rcases hPoints with ⟨⟨rest⟩, hPath, hWhere⟩
  have hFind :
      ∀ segments,
        value.find? ⟨segment :: segments⟩ = x.find? ⟨segments⟩ := by
    intro segments
    rw [Json.find?, Json.findSegments?, hStep]
    rfl
  refine ⟨⟨segment :: rest⟩, hPath.trans (hPlace rest), ?_⟩
  rcases hWhere with ⟨hFound, hCode⟩ | ⟨hCode, hLacks⟩
  · exact Or.inl ⟨by rw [hFind, hFound], hCode⟩
  · rcases hLacks with ⟨⟨outer⟩, name, members, hChild, hObject,
      hNone⟩
    refine Or.inr ⟨hCode, ⟨segment :: outer⟩, name, members, ?_,
      ?_, hNone⟩
    · simp only [Pointer.child, Pointer.mk.injEq] at hChild ⊢
      rw [hChild, List.cons_append]
    · rw [hFind, hObject]

/- What stands in a member stands in the object. -/
theorem Points.of_member
    {members : List (String × Json)}
    {name : String}
    {x : Json}
    (hMember : members.lookup name = some x)
    (hPoints : v.Points codes x (memberPath path name)) :
    v.Points codes (.object members) path :=
  .of_step name hMember (memberPath_append_text path name) hPoints

/- What stands in an item stands in the array. -/
theorem Points.of_item
    {items : List Json}
    {i : Nat}
    {x : Json}
    (hItem : items[i]? = some x)
    (hPoints : v.Points codes x (itemPath path i)) :
    v.Points codes (.array items) path :=
  .of_step (Pointer.indexSegment i)
    ((Json.step?_indexSegment items i).trans hItem)
    (itemPath_append_text path i) hPoints

/- A member is missing. -/
theorem Points.missing
    {members : List (String × Json)}
    {name : String}
    (hNone : members.lookup name = none) :
    (Violation.of (memberPath path name) .required).Points codes
      (.object members) path := by
  refine ⟨⟨[name]⟩, ?_, Or.inr ⟨rfl, .root, name, members, rfl, rfl,
    hNone⟩⟩
  have hPath := memberPath_append_text path name []
  simpa [Violation.of, Pointer.text] using hPath

/- From the root, such a path is a written pointer. -/
theorem Points.findText?
    {value : Json}
    (hPoints : v.Points codes value "") :
    (∃ x, value.findText? v.path = some x) ∧
        (v.code = "any.required" → codes v.code) ∨
      v.code = "any.required" ∧
        ∃ q name members,
          v.path = memberPath q name ∧
            value.findText? q = some (.object members) ∧
            members.lookup name = none := by
  rcases hPoints with ⟨p, hPath, hWhere⟩
  rw [String.empty_append] at hPath
  rcases hWhere with ⟨hFound, hCode⟩ | ⟨hCode, hLacks⟩
  · refine Or.inl ⟨?_, hCode⟩
    rw [hPath, Json.findText?_text]
    exact Option.isSome_iff_exists.mp hFound
  · rcases hLacks with ⟨q, name, members, rfl, hObject, hNone⟩
    refine Or.inr ⟨hCode, q.text, name, members, ?_, ?_, hNone⟩
    · rw [hPath, memberPath_text]
    · rw [Json.findText?_text, hObject]

end Violation

/-
  What the custom type reports of a canonical value stands at
  a position of it, or says that a member of it is missing.
-/
def CustomType.PointsInside
    (codes : String → Prop)
    (type : CustomType) : Prop :=
  ∀ now value path vs,
    value.Canonical →
      type.check now value path = some vs →
        ∀ v ∈ vs, v.Points codes value path

/-
  What the checker reports of a canonical value stands at a
  position of it, or says that a member of it is missing.  Of
  an absent value it says that it is missing, if anything.
-/
structure Checker.Points
    (codes : String → Prop)
    (inner : Checker) : Prop where
  given :
    ∀ id value path options verdict v,
      value.Canonical →
        inner id (some value) path options = some verdict →
          v ∈ verdict.violations →
            v.Points codes value path
  absent :
    ∀ id path options verdict v,
      inner id none path options = some verdict →
        v ∈ verdict.violations →
          v = Violation.of path .required

namespace Graph

variable {g : Graph}
variable {now : Calendar.Instant}
variable {codes : String → Prop}
variable {inner : Checker}
variable {value : Json}
variable {path : String}
variable {options : CheckOptions}
variable {verdict : Verdict}
variable {v : Violation}

------------------------------------------------------------
-- Checks
------------------------------------------------------------

/- What a validator reports stands in the value. -/
theorem checkNode_points
    (hTypes : g.AllTypes (CustomType.PointsInside codes))
    (hInner : inner.Points codes) :
    Checker.Points codes (g.checkNode now inner) := by
  constructor
  case absent =>
    intro id path options verdict v hCheck hMem
    exact checkNode_absent hCheck hMem
  case given =>
    intro id value path options verdict v hCanonical hCheck hMem
    cases checkNode_reports hCheck hMem with
    | complaint c hAbout => exact .complaint value hAbout.1
    | repeated items i c hValue hItem hAbout =>
        subst hValue
        exact .of_item (List.getElem?_eq_getElem hItem)
          (.complaint _ hAbout.1)
    | unknownKey members name x hValue hMember _ =>
        subst hValue
        exact .of_member
          (Members.lookup_of_mem hCanonical.sorted hMember)
          (.complaint x (by simp))
    | custom type vs _ hJudges hVs hIn =>
        rcases hJudges with ⟨validator, hNode, hRule, _⟩
        exact hTypes id validator type hNode hRule now value path vs
          hCanonical hVs v hIn
    | same other chosen verdict _ _ _ hVerdict hIn =>
        exact hInner.given _ _ _ _ _ v hCanonical hVerdict hIn
    | declared members name other verdict _ hValue _ hVerdict hIn =>
        subst hValue
        cases hGiven : members.lookup name with
        | none =>
            rw [hGiven] at hVerdict
            rw [hInner.absent _ _ _ _ v hVerdict hIn]
            exact .missing hGiven
        | some x =>
            rw [hGiven] at hVerdict
            have hPart :=
              hCanonical.member (mem_of_lookup_eq_some hGiven)
            exact .of_member hGiven
              (hInner.given _ _ _ _ _ v hPart hVerdict hIn)
    | undeclared members name x other verdict _ hValue hMember _
        hVerdict hIn =>
        subst hValue
        exact .of_member
          (Members.lookup_of_mem hCanonical.sorted hMember)
          (hInner.given _ _ _ _ _ v (hCanonical.member hMember)
            hVerdict hIn)
    | item items i x other verdict _ hValue hItem _ hVerdict hIn =>
        subst hValue
        have hPart := hCanonical.item (List.mem_of_getElem? hItem)
        exact .of_item hItem
          (hInner.given _ _ _ _ _ v hPart hVerdict hIn)

/- What is reported within a budget stands in the value. -/
theorem checkWithin_points
    (hTypes : g.AllTypes (CustomType.PointsInside codes))
    (now : Calendar.Instant)
    (budget : Nat) :
    Checker.Points codes (g.checkWithin now budget) := by
  induction budget with
  | zero =>
      constructor
      · intro id value path options verdict v _ hCheck
        cases hCheck
      · intro id path options verdict v hCheck
        cases hCheck
  | succ budget ih => exact checkNode_points hTypes ih

/- What a check reports stands in the value. -/
theorem check_points
    {id : ValidatorId}
    (hTypes : g.AllTypes (CustomType.PointsInside codes))
    (hCanonical : value.Canonical)
    (hCheck :
      g.check now id (some value) path options = some verdict)
    (hMem : v ∈ verdict.violations) :
    v.Points codes value path :=
  (checkWithin_points hTypes now _).given _ _ _ _ _ v hCanonical
    hCheck hMem

end Graph

/- As a custom type, a schema reports inside the value, too. -/
theorem Compiled.pointsInside_toCustomType
    {codes : String → Prop}
    {schema : Compiled}
    (hTypes :
      schema.graph.AllTypes (CustomType.PointsInside codes)) :
    schema.toCustomType.PointsInside codes := by
  intro now value path vs hCanonical hCheck v hMem
  rcases Option.map_eq_some_iff.mp hCheck with
    ⟨verdict, hVerdict, rfl⟩
  exact Graph.check_points hTypes hCanonical hVerdict hMem

end SchemaGraph
