import Mathlib
import SchemaGraph.Proofs.Binary64.Integer
import SchemaGraph.Proofs.Compile.Leaves
import SchemaGraph.Proofs.Compile.Transparency

/-
  Limits of integers.  A limit is kept as a binary64 value,
  and a number is compared with it as one, so integers are
  compared after they are rounded to 53 binary digits.

  An integer within the limits is accepted.  One beyond a
  limit is reported, unless it and the limit are beyond
  `2 ^ 53` on the same side and are rounded to one integer.

  Main declarations:
    * `Json.limitingIntegers`
    * `Binary64.Within`
    * `beyondLimits`
    * `compile_limits`
    * `compile_limits_wide`
    * `not_limits_exact`
-/

namespace SchemaGraph

open Binary64 (nearestInt)

------------------------------------------------------------
-- Schemas with Limits
------------------------------------------------------------

/- The schema of integers with a minimum and a maximum. -/
def Json.limitingIntegers
    (least most : Json) : Json :=
  .object
    [("maximum", most), ("minimum", least),
      ("type", .string "integer")]

section Limits

variable {least most i : Int}
variable {hLeast : IntegerRange least}
variable {hMost : IntegerRange most}
variable {hRange : IntegerRange i}

/- The rule of the schema keeps the limits as binary64 values. -/
theorem isLeaf_limitingIntegers :
    (Json.limitingIntegers (.ofInt least hLeast)
        (.ofInt most hMost)).IsLeaf
      (fun _ =>
        .ok
          (.number
            ⟨true, some (Float.ofInt least),
              some (Float.ofInt most)⟩)) where
  object := rfl
  typed := ⟨.string "integer", rfl, fun _ _ _ _ => rfl⟩

/- The integer is within the limits after rounding. -/
def Binary64.Within
    (least most i : Int) : Prop :=
  nearestInt least ≤ nearestInt i ∧ nearestInt i ≤ nearestInt most

/-
  The violations of an integer that is less than the minimum
  or more than the maximum after rounding.
-/
def beyondLimits
    (least most i : Int) : List Violation :=
  (if nearestInt i < nearestInt least then
    [⟨"", "number.min",
      (Complaint.belowMinimum (Float.ofInt least)).message⟩]
  else
    []) ++
  (if nearestInt most < nearestInt i then
    [⟨"", "number.max",
      (Complaint.aboveMaximum (Float.ofInt most)).message⟩]
  else
    [])

/- The violations that the rule of the schema reports. -/
theorem check_limits
    (hLeast : IntegerRange least)
    (hMost : IntegerRange most) :
    NumberRule.check
        ⟨true, some (Float.ofInt least), some (Float.ofInt most)⟩
        (.ofInt i hRange) "" =
      beyondLimits least most i := by
  have hBelow :
      decide (Float.ofInt i < Float.ofInt least) =
        decide (nearestInt i < nearestInt least) :=
    decide_eq_decide.mpr (Binary64.ofInt_lt_ofInt_iff hRange hLeast)
  have hAbove :
      decide (Float.ofInt i > Float.ofInt most) =
        decide (nearestInt most < nearestInt i) :=
    decide_eq_decide.mpr (Binary64.ofInt_lt_ofInt_iff hMost hRange)
  change [] ++
    complaintIf "" (decide (Float.ofInt i < Float.ofInt least))
      (.belowMinimum (Float.ofInt least)) ++
    complaintIf "" (decide (Float.ofInt i > Float.ofInt most))
      (.aboveMaximum (Float.ofInt most)) = _
  rw [hBelow, hAbove, List.nil_append]
  simp only [complaintIf, decide_eq_true_eq]
  rfl

/- Nothing is reported of an integer within the limits. -/
theorem beyondLimits_eq_nil_iff :
    beyondLimits least most i = [] ↔
      Binary64.Within least most i := by
  unfold beyondLimits Binary64.Within
  rw [List.append_eq_nil_iff]
  by_cases hBelow : nearestInt i < nearestInt least
  · simp [hBelow]
  · by_cases hAbove : nearestInt most < nearestInt i
    · simp [hBelow, hAbove]
    · simp [hBelow, hAbove, not_lt.mp hBelow, not_lt.mp hAbove]

/- What a check of an integer against the schema gives. -/
theorem check_limitingIntegers
    (hLeast : IntegerRange least)
    (hMost : IntegerRange most)
    (hRange : IntegerRange i)
    (allowNull : Bool)
    (now : Calendar.Instant)
    (asked : CheckOptions) :
    (Compiled.leaf
        ⟨.number
          ⟨true, some (Float.ofInt least),
            some (Float.ofInt most)⟩,
          .optional, allowNull⟩).check
        now (.ofInt i hRange) asked =
      some
        (if beyondLimits least most i = [] then
          .ok (.ofInt i hRange)
        else
          .error (beyondLimits least most i)) := by
  apply Compiled.check_leaf
  · nofun
  · nofun
  · intro inner
    exact congrArg
      (fun vs => some (Verdict.ofViolations (.ofInt i hRange) vs))
      (check_limits hLeast hMost)

end Limits

------------------------------------------------------------
-- Limits of Integers
------------------------------------------------------------

/-
  A schema of integers with a minimum and a maximum compiles,
  and a check compares the integers after rounding them.
-/
theorem compile_limits
    (setting : Setting)
    (workingDir : Path)
    {least most : Int}
    (hLeast : IntegerRange least)
    (hMost : IntegerRange most) :
    ∃ schema,
      (compileWith setting workingDir
          (.value
            (Json.limitingIntegers (.ofInt least hLeast)
              (.ofInt most hMost)))).result =
        .ok schema ∧
      ∀ (i : Int) (hRange : IntegerRange i) now asked,
        (Binary64.Within least most i →
          schema.check now (.ofInt i hRange) asked =
            some (.ok (.ofInt i hRange))) ∧
        (¬ Binary64.Within least most i →
          schema.check now (.ofInt i hRange) asked =
            some (.error (beyondLimits least most i))) ∧
        (least ≤ i → i ≤ most → Binary64.Within least most i) ∧
        (Binary64.Within least most i →
          (least ≤ i ∨ 2 ^ 53 ≤ i ∨ least ≤ -2 ^ 53) ∧
            (i ≤ most ∨ 2 ^ 53 ≤ most ∨ i ≤ -2 ^ 53)) := by
  refine ⟨_, compileWith_leaf setting workingDir
    isLeaf_limitingIntegers, ?_⟩
  intro i hRange now asked
  have hCheck := check_limitingIntegers hLeast hMost hRange
    (allowsNull
      (Json.limitingIntegers (.ofInt least hLeast)
        (.ofInt most hMost))) now asked
  refine ⟨?_, ?_, ?_, ?_⟩
  · intro hWithin
    rw [hCheck, if_pos (beyondLimits_eq_nil_iff.mpr hWithin)]
  · intro hBeyond
    rw [hCheck, if_neg (mt beyondLimits_eq_nil_iff.mp hBeyond)]
  · intro hLow hHigh
    exact ⟨Binary64.nearestInt_mono hLow,
      Binary64.nearestInt_mono hHigh⟩
  · rintro ⟨hLow, hHigh⟩
    constructor
    · rcases lt_or_ge i least with hLess | hMore
      · exact Or.inr (Binary64.beyond_of_nearestInt_le hLess hLow)
      · exact Or.inl hMore
    · rcases lt_or_ge most i with hLess | hMore
      · exact Or.inr (Binary64.beyond_of_nearestInt_le hLess hHigh)
      · exact Or.inl hMore

/-
  The maximum `2 ^ 53 + 1` is rounded to `2 ^ 53`, as an
  equal integer is, and larger integers are reported.
-/
theorem compile_limits_wide :
    ∃ schema,
      (compileAlone
          (Json.limitingIntegers (.ofInt 1)
            (.ofInt 9007199254740993))).result =
        .ok schema ∧
      ∀ now asked,
        schema.check now (.ofInt 9007199254740993) asked =
            some (.ok (.ofInt 9007199254740993)) ∧
          schema.check now (.ofInt (-1)) asked =
            some
              (.error
                [⟨"", "number.min",
                  "must be greater than or equal to 1"⟩]) ∧
          schema.check now (.ofInt 18446744073709551615) asked =
            some
              (.error
                [⟨"", "number.max",
                  "must be less than or equal to 9007199254740992"⟩]) := by
  have hLeast : IntegerRange 1 := by decide
  have hMost : IntegerRange 9007199254740993 := by decide
  rcases compile_limits Setting.alone ⟨"/"⟩ hLeast hMost with
    ⟨schema, hCompiled, hChecks⟩
  have hBelow :
      beyondLimits 1 9007199254740993 (-1) =
        [⟨"", "number.min", "must be greater than or equal to 1"⟩] := by
    decide +kernel
  have hAbove :
      beyondLimits 1 9007199254740993 18446744073709551615 =
        [⟨"", "number.max",
          "must be less than or equal to 9007199254740992"⟩] := by
    decide +kernel
  refine ⟨schema, hCompiled, fun now asked => ⟨?_, ?_, ?_⟩⟩
  · have hCheck := hChecks 9007199254740993 (by decide) now asked
    exact hCheck.1 (hCheck.2.2.1 (by decide) (by decide))
  · have hCheck := hChecks (-1) (by decide) now asked
    rw [hCheck.2.1 (by unfold Binary64.Within; decide +kernel), hBelow]
  · have hCheck := hChecks 18446744073709551615 (by decide) now asked
    rw [hCheck.2.1 (by unfold Binary64.Within; decide +kernel), hAbove]

/-
  Limits are not exact: `2 ^ 53` is less than the minimum
  `2 ^ 53 + 1`, and is accepted.
-/
theorem not_limits_exact :
    ¬ ∀ (setting : Setting) (workingDir : Path) (least most : Int)
        (hLeast : IntegerRange least) (hMost : IntegerRange most),
      ∃ schema,
        (compileWith setting workingDir
            (.value
              (Json.limitingIntegers (.ofInt least hLeast)
                (.ofInt most hMost)))).result =
          .ok schema ∧
        ∀ (i : Int) (hRange : IntegerRange i) now asked,
          schema.check now (.ofInt i hRange) asked =
              some (.ok (.ofInt i hRange)) ↔
            least ≤ i ∧ i ≤ most := by
  intro hAll
  have hLeast : IntegerRange 9007199254740993 := by decide
  have hRange : IntegerRange 9007199254740992 := by decide
  rcases hAll Setting.alone ⟨"/"⟩ _ _ hLeast hLeast with
    ⟨schema, hCompiled, hChecks⟩
  rw [compileWith_leaf Setting.alone ⟨"/"⟩
    isLeaf_limitingIntegers] at hCompiled
  cases hCompiled
  have hNothing :
      beyondLimits 9007199254740993 9007199254740993
          9007199254740992 =
        [] := by
    decide +kernel
  have hCheck := check_limitingIntegers hLeast hLeast hRange false
    ⟨0, 0, 0⟩ {}
  rw [if_pos hNothing] at hCheck
  have hExact := (hChecks _ hRange ⟨0, 0, 0⟩ {}).mp hCheck
  exact absurd hExact.1 (by decide)

end SchemaGraph
