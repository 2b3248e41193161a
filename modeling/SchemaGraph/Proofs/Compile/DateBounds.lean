import Mathlib
import SchemaGraph.Proofs.Binary64.Integer
import SchemaGraph.Proofs.Compile.Leaves
import SchemaGraph.Proofs.Compile.Transparency

/-
  Bounds of dates.  Every bound that can be read is kept and
  compared with the dates that are checked, whichever form it
  is written in, except for the number zero: as a keyword it
  counts as absent, although it can be read as the start of
  1970.

  Main declarations:
    * `Calendar.Instant.key`
    * `Calendar.Instant.earlier_iff`
    * `Json.isZero`
    * `Json.isTruthy_of_readDate?`
    * `outsideBounds`
    * `compile_dateBounds`
    * `compile_dateBounds_mixed`
    * `not_dateBounds_enforced`
-/

namespace SchemaGraph

------------------------------------------------------------
-- The Order of Instants
------------------------------------------------------------

/- An instant as its day, its second and its nanoseconds. -/
def Calendar.Instant.key
    (t : Calendar.Instant) : Int ×ₗ (Nat ×ₗ Nat) :=
  toLex (t.day, toLex (t.time.second, t.time.nanos))

/- Earlier instants have smaller keys. -/
theorem Calendar.Instant.earlier_iff
    {t u : Calendar.Instant} :
    t.earlier u = true ↔ t.key < u.key := by
  unfold key earlier Calendar.TimeOfDay.earlier
  rw [Prod.Lex.toLex_lt_toLex, Prod.Lex.toLex_lt_toLex]
  simp

/- An instant is at most another one if that one is not earlier. -/
theorem Calendar.Instant.not_earlier_iff
    {t u : Calendar.Instant} :
    u.earlier t = false ↔ t.key ≤ u.key := by
  rw [← not_lt, ← earlier_iff, Bool.not_eq_true]

------------------------------------------------------------
-- Bounds that Count as Given
------------------------------------------------------------

/- The value is the number zero, in one of its forms. -/
def Json.isZero : Json → Bool
  | .number (.integer n _) => n == 0
  | .number (.real f) => f == 0
  | _ => false

/- A value that can be read as a date is given unless it is zero. -/
theorem Json.isTruthy_of_readDate?
    {value : Json}
    {t : Calendar.Instant}
    (hRead : readDate? value = some t) :
    value.isTruthy = !value.isZero := by
  cases value with
  | number n =>
      cases n with
      | integer i hRange =>
          change (!(Float.ofInt i == 0)) = !(i == 0)
          rw [Binary64.ofInt_beq_zero hRange]
      | real f => rfl
  | string text =>
      have hEmpty : readDate? (.string "") = none := by
        decide +kernel
      change (text != "") = true
      rw [bne_iff_ne]
      rintro rfl
      rw [hEmpty] at hRead
      cases hRead
  | _ => cases hRead

/- The bound of a value that can be read, unless it is zero. -/
def givenBound
    (value : Json)
    (t : Calendar.Instant) : Option DateBound :=
  if value.isZero then none else some (.moment t)

/- A bound that is a moment is read as dates are. -/
theorem readDate?_of_bound
    {value : Json}
    {t : Calendar.Instant}
    (hBound : DateBound.read? value = some (.moment t)) :
    readDate? value = some t := by
  unfold DateBound.read? at hBound
  split at hBound
  case h_1 => cases hBound
  case h_2 =>
    rcases Option.map_eq_some_iff.mp hBound with ⟨u, hRead, hMoment⟩
    cases hMoment
    exact hRead

/- A bound is passed over only if it is zero. -/
theorem dateKeyword_eq
    {node value : Json}
    {name : String}
    {t : Calendar.Instant}
    (hMember : node.member? name = some value)
    (hBound : DateBound.read? value = some (.moment t)) :
    dateKeyword node name = .ok (givenBound value t) := by
  have hTruthy := Json.isTruthy_of_readDate? (readDate?_of_bound hBound)
  unfold dateKeyword Json.keyword? givenBound
  rw [hMember, Option.filter_some, hTruthy]
  cases value.isZero with
  | true => rfl
  | false => simp [hBound]

------------------------------------------------------------
-- Schemas with Bounds
------------------------------------------------------------

/- The schema of dates from one bound to another. -/
def Json.boundingDates
    (earliest latest : Json) : Json :=
  .object
    [("format", .string "date"), ("max", latest), ("min", earliest),
      ("type", .string "string")]

section Bounds

variable {earliest latest : Json}
variable {t₁ t₂ u : Calendar.Instant}

/- The rule of the schema has the bounds that are given. -/
theorem isLeaf_boundingDates
    (hEarliest : DateBound.read? earliest = some (.moment t₁))
    (hLatest : DateBound.read? latest = some (.moment t₂)) :
    (Json.boundingDates earliest latest).IsLeaf
      (fun _ =>
        .ok
          (.date
            ⟨givenBound earliest t₁, givenBound latest t₂⟩)) where
  object := rfl
  typed := by
    refine ⟨.string "string", rfl, fun setting _ _ key => ?_⟩
    have hMin : dateKeyword (Json.boundingDates earliest latest) "min" =
        .ok (givenBound earliest t₁) :=
      dateKeyword_eq rfl hEarliest
    have hMax : dateKeyword (Json.boundingDates earliest latest) "max" =
        .ok (givenBound latest t₂) :=
      dateKeyword_eq rfl hLatest
    have hRule :
        stringRule setting.engine
            (Json.boundingDates earliest latest) =
          .ok
            (.date
              ⟨givenBound earliest t₁, givenBound latest t₂⟩) := by
      change (do
        let min ← dateKeyword (Json.boundingDates earliest latest) "min"
        let max ← dateKeyword (Json.boundingDates earliest latest) "max"
        return Rule.date ⟨min, max⟩ : Except SchemaFault Rule) = _
      rw [hMin, hMax]
      rfl
    exact congrArg (orFault key) hRule

/-
  The instant is inside the bounds; a bound that is the
  number zero does not count.
-/
def InsideBounds
    (earliest latest : Json)
    (t₁ t₂ u : Calendar.Instant) : Prop :=
  (earliest.isZero = true ∨ t₁.key ≤ u.key) ∧
    (latest.isZero = true ∨ u.key ≤ t₂.key)

/- The violations of an instant that is outside the bounds. -/
def outsideBounds
    (earliest latest : Json)
    (t₁ t₂ u : Calendar.Instant) : List Violation :=
  (if earliest.isZero = true ∨ t₁.key ≤ u.key then
    []
  else
    [⟨"", "date.min", (Complaint.beforeDate t₁).message⟩]) ++
  (if latest.isZero = true ∨ u.key ≤ t₂.key then
    []
  else
    [⟨"", "date.max", (Complaint.afterDate t₂).message⟩])

/- Nothing is reported of an instant inside the bounds. -/
theorem outsideBounds_eq_nil_iff :
    outsideBounds earliest latest t₁ t₂ u = [] ↔
      InsideBounds earliest latest t₁ t₂ u := by
  unfold outsideBounds InsideBounds
  rw [List.append_eq_nil_iff]
  by_cases hMin : earliest.isZero = true ∨ t₁.key ≤ u.key
  · by_cases hMax : latest.isZero = true ∨ u.key ≤ t₂.key
    · simp [hMin, hMax]
    · simp [hMin, hMax]
  · simp [hMin]

/-
  The complaint about a bound that is given, if it is not
  kept.
-/
theorem complaints_givenBound
    {value : Json}
    {t : Calendar.Instant}
    {now : Calendar.Instant}
    (breaks : Calendar.Instant → Bool)
    (complaint : Calendar.Instant → Complaint)
    {Keeps : Prop}
    [Decidable Keeps]
    (hKeeps : breaks t = false ↔ Keeps) :
    (match givenBound value t with
      | some b =>
          complaintIf "" (breaks (b.instant now))
            (complaint (b.instant now))
      | none => []) =
      if value.isZero = true ∨ Keeps then
        []
      else
        [Violation.of "" (complaint t)] := by
  unfold givenBound
  cases value.isZero with
  | true => rw [if_pos (Or.inl rfl)]; rfl
  | false =>
      change complaintIf "" (breaks t) (complaint t) = _
      cases hBreaks : breaks t with
      | true =>
          have hNot : ¬ Keeps := fun hKept =>
            absurd (hKeeps.mpr hKept) (by rw [hBreaks]; nofun)
          rw [if_neg (not_or.mpr ⟨nofun, hNot⟩)]
          rfl
      | false =>
          rw [if_pos (Or.inr (hKeeps.mp hBreaks))]
          rfl

/- The violations that the rule of the schema reports. -/
theorem check_dateBounds
    {value : Json}
    (now : Calendar.Instant)
    (hRead : readDate? value = some u) :
    DateRule.check now
        ⟨givenBound earliest t₁, givenBound latest t₂⟩ value "" =
      outsideBounds earliest latest t₁ t₂ u := by
  unfold DateRule.check
  rw [hRead]
  exact congrArg₂ (· ++ ·)
    (complaints_givenBound u.earlier .beforeDate
      Calendar.Instant.not_earlier_iff)
    (complaints_givenBound (fun t => t.earlier u) .afterDate
      Calendar.Instant.not_earlier_iff)

/- What a check of a date against the schema gives. -/
theorem check_boundingDates
    (earliest latest : Json)
    (t₁ t₂ : Calendar.Instant)
    {value : Json}
    (hRead : readDate? value = some u)
    (allowNull : Bool)
    (now : Calendar.Instant)
    (asked : CheckOptions) :
    (Compiled.leaf
        ⟨.date ⟨givenBound earliest t₁, givenBound latest t₂⟩,
          .optional, allowNull⟩).check
        now value asked =
      some
        (if outsideBounds earliest latest t₁ t₂ u = [] then
          .ok value
        else
          .error (outsideBounds earliest latest t₁ t₂ u)) := by
  apply Compiled.check_leaf
  · nofun
  · rintro rfl
    cases hRead
  · intro inner
    exact congrArg
      (fun vs => some (Verdict.ofViolations value vs))
      (check_dateBounds now hRead)

end Bounds

------------------------------------------------------------
-- Bounds of Dates
------------------------------------------------------------

/-
  A schema of dates between two moments compiles, and a check
  compares dates with the bounds that are not zero.
-/
theorem compile_dateBounds
    (setting : Setting)
    (workingDir : Path)
    {earliest latest : Json}
    {t₁ t₂ : Calendar.Instant}
    (hEarliest : DateBound.read? earliest = some (.moment t₁))
    (hLatest : DateBound.read? latest = some (.moment t₂)) :
    ∃ schema,
      (compileWith setting workingDir
          (.value (Json.boundingDates earliest latest))).result =
        .ok schema ∧
      ∀ value u now asked,
        readDate? value = some u →
          (InsideBounds earliest latest t₁ t₂ u →
            schema.check now value asked = some (.ok value)) ∧
          (¬ InsideBounds earliest latest t₁ t₂ u →
            schema.check now value asked =
              some
                (.error (outsideBounds earliest latest t₁ t₂ u))) := by
  refine ⟨_, compileWith_leaf setting workingDir
    (isLeaf_boundingDates hEarliest hLatest), ?_⟩
  intro value u now asked hRead
  have hCheck := check_boundingDates earliest latest t₁ t₂ hRead
    (allowsNull (Json.boundingDates earliest latest)) now asked
  constructor
  · intro hInside
    rw [hCheck, if_pos (outsideBounds_eq_nil_iff.mpr hInside)]
  · intro hOutside
    rw [hCheck, if_neg (mt outsideBounds_eq_nil_iff.mp hOutside)]

/-
  Dates from the start of 2000, written as a text, to a
  moment in 2001, written as a number of milliseconds.
-/
theorem compile_dateBounds_mixed :
    ∃ schema,
      (compileAlone
          (Json.boundingDates (.string "2000-01-01")
            (.ofInt 1000000000000))).result =
        .ok schema ∧
      ∀ now asked,
        schema.check now (.string "2000-02-29T00:00:00+01:00")
              asked =
            some (.ok (.string "2000-02-29T00:00:00+01:00")) ∧
          schema.check now (.ofInt 0) asked =
            some
              (.error
                [⟨"", "date.min",
                  "must be later than or equal to 2000-01-01T00:00:00+00:00"⟩]) := by
  let t₁ : Calendar.Instant := ⟨10957, 0, 0⟩
  let t₂ : Calendar.Instant := ⟨11574, 6400, 0⟩
  have hEarliest :
      DateBound.read? (.string "2000-01-01") =
        some (.moment t₁) := by
    decide +kernel
  have hLatest :
      DateBound.read? (.ofInt 1000000000000) =
        some (.moment t₂) := by
    decide +kernel
  have hDate :
      readDate? (.string "2000-02-29T00:00:00+01:00") =
        some ⟨11015, 82800, 0⟩ := by
    decide +kernel
  have hZero : readDate? (.ofInt 0) = some ⟨0, 0, 0⟩ := by
    decide +kernel
  have hReport :
      outsideBounds (.string "2000-01-01") (.ofInt 1000000000000)
          t₁ t₂ ⟨0, 0, 0⟩ =
        [⟨"", "date.min",
          "must be later than or equal to 2000-01-01T00:00:00+00:00"⟩] := by
    decide +kernel
  rcases compile_dateBounds Setting.alone ⟨"/"⟩ hEarliest hLatest with
    ⟨schema, hCompiled, hChecks⟩
  refine ⟨schema, hCompiled, fun now asked => ⟨?_, ?_⟩⟩
  · exact (hChecks _ _ now asked hDate).1
      (by unfold InsideBounds; decide +kernel)
  · rw [(hChecks _ _ now asked hZero).2
      (by unfold InsideBounds; decide +kernel), hReport]

/-
  Not every bound that can be read counts: the end of 1969 is
  accepted by a schema of dates since the start of 1970, if
  this is written as the number zero.
-/
theorem not_dateBounds_enforced :
    ¬ ∀ (setting : Setting) (workingDir : Path)
        (earliest latest : Json) (t₁ t₂ : Calendar.Instant),
      DateBound.read? earliest = some (.moment t₁) →
        DateBound.read? latest = some (.moment t₂) →
          ∃ schema,
            (compileWith setting workingDir
                (.value (Json.boundingDates earliest latest))).result =
              .ok schema ∧
            ∀ value u now asked,
              readDate? value = some u →
                (schema.check now value asked = some (.ok value) ↔
                  t₁.key ≤ u.key ∧ u.key ≤ t₂.key) := by
  intro hAll
  let t₁ : Calendar.Instant := ⟨0, 0, 0⟩
  let t₂ : Calendar.Instant := ⟨10957, 0, 0⟩
  have hEarliest :
      DateBound.read? (.ofInt 0) = some (.moment t₁) := by
    decide +kernel
  have hLatest :
      DateBound.read? (.string "2000-01-01") =
        some (.moment t₂) := by
    decide +kernel
  have hDate :
      readDate? (.string "1969-12-31") = some ⟨-1, 0, 0⟩ := by
    decide +kernel
  rcases hAll Setting.alone ⟨"/"⟩ _ _ t₁ t₂ hEarliest hLatest with
    ⟨schema, hCompiled, hChecks⟩
  rw [compileWith_leaf Setting.alone ⟨"/"⟩
    (isLeaf_boundingDates hEarliest hLatest)] at hCompiled
  cases hCompiled
  have hNothing :
      outsideBounds (.ofInt 0) (.string "2000-01-01") t₁ t₂
          ⟨-1, 0, 0⟩ =
        [] := by
    decide +kernel
  have hCheck := check_boundingDates (.ofInt 0)
    (.string "2000-01-01") t₁ t₂ hDate false ⟨0, 0, 0⟩ {}
  rw [if_pos hNothing] at hCheck
  have hEnforced := (hChecks _ _ ⟨0, 0, 0⟩ {} hDate).mp hCheck
  exact absurd hEnforced.1 (by decide +kernel)

end SchemaGraph
