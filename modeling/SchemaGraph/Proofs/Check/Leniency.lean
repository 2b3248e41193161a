import Mathlib
import SchemaGraph.Proofs.Check.Accepted

/-
  Dropping unknown keys only removes complaints.  A check
  that drops them may take another alternative than one that
  refuses them, but whatever it complains about the other
  one complains about, too, and in the same order.  So it
  accepts whatever the other one accepts.

  Main declarations:
    * `Verdict.Eases`
    * `Checker.Eases`
    * `Graph.checkObject_eases`
    * `Graph.checkArray_eases`
    * `Graph.checkAlternatives_eases`
    * `Graph.checkWithin_eases`
    * `Graph.check_violations_sublist`
-/

namespace SchemaGraph

------------------------------------------------------------
-- Fewer Violations
------------------------------------------------------------

/-
  If each answer in a list has only parts of another answer,
  all of them together have only parts of the others.
-/
theorem exists_mapM_sublist
    {α β γ : Type}
    {f f' : α → Option β}
    {parts : β → List γ}
    {xs : List α}
    {ys : List β}
    (hAll : xs.mapM f = some ys)
    (hEach :
      ∀ x ∈ xs, ∀ y, f x = some y →
        ∃ z, f' x = some z ∧ (parts z).Sublist (parts y)) :
    ∃ zs,
      xs.mapM f' = some zs ∧
        (zs.flatMap parts).Sublist (ys.flatMap parts) := by
  induction xs generalizing ys with
  | nil =>
      cases hAll
      exact ⟨[], rfl, List.Sublist.refl _⟩
  | cons x rest ih =>
      simp only [List.mapM_cons, Option.bind_eq_bind,
        Option.bind_eq_some_iff, Option.pure_def,
        Option.some.injEq] at hAll
      rcases hAll with ⟨y, hY, others, hOthers, rfl⟩
      rcases hEach x List.mem_cons_self y hY with ⟨z, hZ, hLess⟩
      rcases ih hOthers (fun x' hMem =>
          hEach x' (List.mem_cons_of_mem x hMem)) with
        ⟨zs, hZs, hRest⟩
      refine ⟨z :: zs, by simp [hZ, hZs], ?_⟩
      rw [List.flatMap_cons, List.flatMap_cons]
      exact hLess.append hRest

namespace Verdict

/-
  The verdict has no violations but those of another one, in
  the same order.
-/
def Eases
    (lenient strict : Verdict) : Prop :=
  lenient.violations.Sublist strict.violations

/- Every verdict has its own violations. -/
theorem Eases.refl
    (verdict : Verdict) :
    verdict.Eases verdict :=
  List.Sublist.refl _

/- An accepting verdict has no violations at all. -/
theorem eases_of_ok
    (accepted : Option Json)
    (strict : Verdict) :
    Eases (.ok accepted) strict :=
  List.nil_sublist _

/- Fewer violations than those of an accepting verdict are none. -/
theorem Eases.exists_ok
    {asked accepted : Option Json}
    {lenient : Verdict}
    (hEases : lenient.Eases (.ok accepted))
    (hAnswers : lenient.Answers asked) :
    ∃ kept, lenient = .ok kept ∧ kept.isSome = asked.isSome :=
  hAnswers.exists_ok (List.sublist_nil.mp hEases)

end Verdict

/-
  With unknown keys dropped, a checker has a verdict where it
  has one otherwise, with no other violations.
-/
def Checker.Eases
    (inner : Checker) : Prop :=
  ∀ id asked path strict,
    inner id asked path ⟨false⟩ = some strict →
      ∃ lenient,
        inner id asked path ⟨true⟩ = some lenient ∧
          lenient.Eases strict

namespace Graph

variable {g : Graph}
variable {now : Calendar.Instant}
variable {inner : Checker}
variable {value : Json}
variable {path : String}
variable {strict : Verdict}

------------------------------------------------------------
-- Containers
------------------------------------------------------------

/- A key that is dropped is not complained about. -/
theorem unknownVerdict_eases
    {rule : ObjectRule}
    {name : String}
    (hInner : inner.Eases)
    (hStrict :
      unknownVerdict inner rule path ⟨false⟩ name value =
        some strict) :
    ∃ lenient,
      unknownVerdict inner rule path ⟨true⟩ name value =
          some lenient ∧
        lenient.Eases strict := by
  unfold unknownVerdict at hStrict ⊢
  cases hUnknown : rule.unknown with
  | schema id =>
      simp only [hUnknown] at hStrict
      exact hInner _ _ _ _ hStrict
  | _ =>
      -- Without a schema for it, a dropped key is never refused.
      by_cases hOpen : rule.properties.isNone
      · simp only [hOpen, if_true]
        exact ⟨_, rfl, Verdict.eases_of_ok _ _⟩
      · simp only [hOpen, Bool.false_eq_true, if_false, if_true]
        exact ⟨_, rfl, Verdict.eases_of_ok _ _⟩

/- Dropping unknown keys eases the verdict on an object. -/
theorem checkObject_eases
    {rule : ObjectRule}
    (hInner : inner.Eases)
    (hStrict :
      checkObject inner rule value path ⟨false⟩ = some strict) :
    ∃ lenient,
      checkObject inner rule value path ⟨true⟩ = some lenient ∧
        lenient.Eases strict := by
  cases value with
  | object members =>
      simp only [checkObject, Option.bind_eq_bind,
        Option.bind_eq_some_iff, Option.pure_def,
        Option.some.injEq] at hStrict ⊢
      rcases hStrict with
        ⟨declared, hDeclared, unknown, hUnknown, rfl⟩
      let parts := fun entry : String × Verdict =>
        entry.2.violations
      have hLeft :
          ∃ verdicts,
            declaredVerdicts inner members path ⟨true⟩
                (rule.properties.getD []) =
              some verdicts ∧
            (verdicts.flatMap parts).Sublist
              (declared.flatMap parts) := by
        apply exists_mapM_sublist hDeclared
        rintro ⟨name, id⟩ _ entry hEntry
        rcases Option.map_eq_some_iff.mp hEntry with
          ⟨verdict, hVerdict, rfl⟩
        rcases hInner _ _ _ _ hVerdict with
          ⟨lenient, hLenient, hEases⟩
        exact ⟨(name, lenient), by simp [hLenient], hEases⟩
      have hRight :
          ∃ verdicts,
            unknownVerdicts inner rule path ⟨true⟩ members =
              some verdicts ∧
            (verdicts.flatMap parts).Sublist
              (unknown.flatMap parts) := by
        apply exists_mapM_sublist hUnknown
        rintro ⟨name, x⟩ _ entry hEntry
        rcases Option.map_eq_some_iff.mp hEntry with
          ⟨verdict, hVerdict, rfl⟩
        rcases unknownVerdict_eases hInner hVerdict with
          ⟨lenient, hLenient, hEases⟩
        exact ⟨(name, lenient), by simp [hLenient], hEases⟩
      rcases hLeft with ⟨first, hFirst, hLess⟩
      rcases hRight with ⟨second, hSecond, hFewer⟩
      refine ⟨_, ⟨first, hFirst, second, hSecond, rfl⟩, ?_⟩
      rw [Verdict.Eases, Verdict.violations_ofViolations,
        Verdict.violations_ofViolations, List.flatMap_append,
        List.flatMap_append]
      -- The number of keys is counted before any is dropped.
      exact (hLess.append hFewer).append (List.Sublist.refl _)
  | _ =>
      cases hStrict
      exact ⟨_, rfl, Verdict.Eases.refl _⟩

/- Dropping unknown keys eases the verdict on an array. -/
theorem checkArray_eases
    {rule : ArrayRule}
    (hInner : inner.Eases)
    (hStrict :
      checkArray inner rule value path ⟨false⟩ = some strict) :
    ∃ lenient,
      checkArray inner rule value path ⟨true⟩ = some lenient ∧
        lenient.Eases strict := by
  cases value with
  | array items =>
      simp only [checkArray, Option.bind_eq_bind,
        Option.bind_eq_some_iff, Option.pure_def,
        Option.some.injEq] at hStrict ⊢
      rcases hStrict with ⟨verdicts, hVerdicts, rfl⟩
      have hItems :
          ∃ others,
            items.zipIdx.mapM (fun entry =>
                itemVerdict inner rule path ⟨true⟩ entry.1
                  entry.2) =
              some others ∧
            (others.flatMap Verdict.violations).Sublist
              (verdicts.flatMap Verdict.violations) := by
        apply exists_mapM_sublist hVerdicts
        rintro ⟨x, i⟩ _ verdict hVerdict
        unfold itemVerdict at hVerdict ⊢
        cases hRule : rule.items with
        | none => exact ⟨_, rfl, List.nil_sublist _⟩
        | some id =>
            simp only [hRule] at hVerdict
            exact hInner _ _ _ _ hVerdict
      rcases hItems with ⟨others, hOthers, hLess⟩
      refine ⟨_, ⟨others, hOthers, rfl⟩, ?_⟩
      rw [Verdict.Eases, Verdict.violations_ofViolations,
        Verdict.violations_ofViolations]
      -- So is the number of items, and their uniqueness.
      exact hLess.append (List.Sublist.refl _)
  | _ =>
      cases hStrict
      exact ⟨_, rfl, Verdict.Eases.refl _⟩

------------------------------------------------------------
-- Alternatives
------------------------------------------------------------

/-
  Dropping unknown keys eases the verdict of alternatives.
  An earlier one may accept, but where none does none did.
-/
theorem checkAlternatives_eases
    {branches : List ValidatorId}
    (hInner : inner.Eases)
    (hAnswers : inner.Answers)
    (hStrict :
      checkAlternatives inner value path ⟨false⟩ branches =
        some strict) :
    ∃ lenient,
      checkAlternatives inner value path ⟨true⟩ branches =
          some lenient ∧
        lenient.Eases strict := by
  induction branches with
  | nil => exact ⟨strict, hStrict, Verdict.Eases.refl strict⟩
  | cons id rest ih =>
      simp only [checkAlternatives] at hStrict ⊢
      cases hFirst : inner id (some value) path ⟨false⟩ with
      | none => simp [hFirst] at hStrict
      | some found =>
          rcases hInner _ _ _ _ hFirst with
            ⟨eased, hEased, hEases⟩
          rw [hEased]
          cases eased with
          | ok kept => exact ⟨_, rfl, Verdict.eases_of_ok kept _⟩
          | error vs =>
              cases found with
              | ok accepted =>
                  rcases hEases.exists_ok
                    (hAnswers _ _ _ _ _ hEased) with ⟨kept, hOk, _⟩
                  cases hOk
              | error more =>
                  simp only [hFirst] at hStrict
                  exact ih hStrict

------------------------------------------------------------
-- Checks
------------------------------------------------------------

/- Dropping unknown keys eases the verdict of a rule. -/
theorem checkRule_eases
    {rule : Rule}
    (hInner : inner.Eases)
    (hAnswers : inner.Answers)
    (hStrict :
      g.checkRule now inner rule value path ⟨false⟩ =
        some strict) :
    ∃ lenient,
      g.checkRule now inner rule value path ⟨true⟩ =
          some lenient ∧
        lenient.Eases strict := by
  cases rule with
  | object rule => exact checkObject_eases hInner hStrict
  | array rule => exact checkArray_eases hInner hStrict
  | alternatives branches =>
      exact checkAlternatives_eases hInner hAnswers hStrict
  | deferred c =>
      simp only [checkRule] at hStrict ⊢
      cases hCell : g.cell? c with
      | none => exact ⟨_, rfl, Verdict.eases_of_ok _ _⟩
      | some target =>
          simp only [hCell] at hStrict
          exact hInner _ _ _ _ hStrict
  | _ =>
      -- The other rules do not look at the options.
      exact ⟨strict, hStrict, Verdict.Eases.refl strict⟩

/- Dropping unknown keys eases the verdict of a validator. -/
theorem checkNode_eases
    (hInner : inner.Eases)
    (hAnswers : inner.Answers) :
    Checker.Eases (g.checkNode now inner) := by
  intro id asked path strict hStrict
  unfold checkNode at hStrict ⊢
  cases hNode : g.node? id with
  | none => simp [hNode] at hStrict
  | some v =>
      simp only [hNode] at hStrict ⊢
      cases asked with
      | none => exact ⟨strict, hStrict, Verdict.Eases.refl strict⟩
      | some value =>
          by_cases hForbidden : v.presence = .forbidden
          · simp only [hForbidden, if_true] at hStrict ⊢
            exact ⟨strict, hStrict, Verdict.Eases.refl strict⟩
          · simp only [hForbidden, if_false] at hStrict ⊢
            split at hStrict
            · exact ⟨strict, hStrict, Verdict.Eases.refl strict⟩
            · exact checkRule_eases hInner hAnswers hStrict

/- Dropping unknown keys eases all verdicts within a budget. -/
theorem checkWithin_eases
    (g : Graph)
    (now : Calendar.Instant)
    (budget : Nat) :
    Checker.Eases (g.checkWithin now budget) := by
  induction budget with
  | zero =>
      intro id asked path strict hStrict
      cases hStrict
  | succ budget ih =>
      exact checkNode_eases ih (checkWithin_answers g now budget)

/-
  A check that ends also ends with unknown keys dropped, and
  its violations are then among the former ones, in the same
  order.  What is accepted without dropping is accepted.
-/
theorem check_violations_sublist
    {id : ValidatorId}
    (hStrict :
      g.check now id (some value) path ⟨false⟩ = some strict) :
    ∃ lenient,
      g.check now id (some value) path ⟨true⟩ = some lenient ∧
        lenient.violations.Sublist strict.violations ∧
        ∀ accepted, strict = .ok accepted →
          ∃ kept, lenient = .ok (some kept) := by
  have hEnds := check_eq_some_iff.mp hStrict
  rcases hEnds with ⟨budget, hWithin⟩
  rcases checkWithin_eases g now budget _ _ _ _ hWithin with
    ⟨lenient, hSome, hEases⟩
  have hLenient := check_eq_some_iff.mpr ⟨budget, hSome⟩
  refine ⟨lenient, hLenient, hEases, ?_⟩
  rintro accepted rfl
  rcases hEases.exists_ok (check_answers g now _ _ _ _ _ hLenient)
    with ⟨result, rfl, hGiven⟩
  rcases Option.isSome_iff_exists.mp hGiven with ⟨kept, rfl⟩
  exact ⟨kept, rfl⟩

/-
  An object with a flag, and a choice between an object
  without keys and a text.
-/
def choosing : Graph where
  nodes :=
    #[{ rule := .boolean },
      { rule := .object { properties := some [] } },
      { rule := .string {} },
      { rule := .alternatives [⟨1⟩, ⟨2⟩] },
      { rule :=
          .object
            { properties := some [("choice", ⟨3⟩), ("flag", ⟨0⟩)]
              maxProperties := some 2 } }]
  cells := #[]

/-
  With the unknown keys dropped, the first alternative
  accepts, and the flag and the number of keys go on to be
  wrong.
-/
theorem check_violations_sublist_choosing :
    let value :=
      Json.object
        [("choice", .object [("more", .null)]), ("flag", .null),
          ("other", .null)]
    let verdict := fun strip =>
      choosing.check ⟨0, ⟨0, 0⟩⟩ ⟨4⟩ (some value) "" ⟨strip⟩
    ∃ strict lenient,
      verdict false = some strict ∧
        strict.violations =
          [.of "/choice" .noAlternative, .of "/flag" .notBoolean,
            .of "/other" .unknownKey, .of "" (.tooManyKeys 2)] ∧
        verdict true = some lenient ∧
        lenient.violations =
          [.of "/flag" .notBoolean, .of "" (.tooManyKeys 2)] ∧
        lenient.violations.Sublist strict.violations := by
  intro value verdict
  have hBefore :
      (verdict false).map Verdict.violations =
        some
          [.of "/choice" .noAlternative, .of "/flag" .notBoolean,
            .of "/other" .unknownKey, .of "" (.tooManyKeys 2)] := by
    decide +kernel
  have hAfter :
      (verdict true).map Verdict.violations =
        some [.of "/flag" .notBoolean, .of "" (.tooManyKeys 2)] := by
    decide +kernel
  rcases Option.map_eq_some_iff.mp hBefore with
    ⟨strict, hStrict, hMany⟩
  rcases check_violations_sublist hStrict with
    ⟨lenient, hLenient, hSublist, _⟩
  rw [show verdict true = some lenient from hLenient] at hAfter
  exact ⟨strict, lenient, hStrict, hMany, hLenient,
    Option.some.inj hAfter, hSublist⟩

end Graph

end SchemaGraph
