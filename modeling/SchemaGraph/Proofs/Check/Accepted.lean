import Mathlib
import SchemaGraph.Proofs.Check.Budget

/-
  What accepted values are made of.  A check that accepts a
  given value gives an accepted value, and a check that
  refuses it gives a violation.  An accepted object has the
  accepted values of its properties and of its other keys,
  an accepted array those of its items, and the verdict of
  alternatives is that of the first one that accepts.

  Main declarations:
    * `Verdict.Answers`
    * `Graph.check_answers`
    * `Graph.check_eq_checkNode`
    * `Graph.AcceptedObject`
    * `Graph.unknownVerdict_cases`
    * `Graph.acceptedObject_of_checkObject`
    * `Graph.checkObject_of_kept`
    * `Graph.checkArray_of_kept`
    * `Graph.exists_first_of_checkAlternatives`
-/

namespace SchemaGraph

------------------------------------------------------------
-- Verdicts on Given Values
------------------------------------------------------------

/-
  A verdict on what was asked: an accepted value is there
  exactly if one was given, and a refusal has a violation.
-/
def Verdict.Answers
    (asked : Option Json) : Verdict → Prop
  | .ok accepted => accepted.isSome = asked.isSome
  | .error vs => vs ≠ []

/- Every verdict of a checker is one on what was asked. -/
def Checker.Answers
    (inner : Checker) : Prop :=
  ∀ id asked path options verdict,
    inner id asked path options = some verdict →
      verdict.Answers asked

namespace Verdict

/- A complaint is a violation. -/
theorem answers_refuse
    (asked : Option Json)
    (path : String)
    (c : Complaint) :
    (refuse path c).Answers asked :=
  List.cons_ne_nil _ _

/- Violations refuse, and without any the value is accepted. -/
theorem answers_ofViolations
    (given accepted : Json)
    (vs : List Violation) :
    (ofViolations accepted vs).Answers (some given) := by
  unfold ofViolations
  by_cases hEmpty : vs = []
  · simp [hEmpty, Answers]
  · simp [hEmpty, Answers]

/- What is accepted without violations. -/
theorem ofViolations_eq_ok_iff
    {value : Json}
    {vs : List Violation}
    {accepted : Option Json} :
    ofViolations value vs = .ok accepted ↔
      vs = [] ∧ accepted = some value := by
  unfold ofViolations
  by_cases hEmpty : vs = []
  · simp [hEmpty, eq_comm]
  · simp [hEmpty]

/- What is refused for violations. -/
theorem ofViolations_eq_error_iff
    {value : Json}
    {vs complaints : List Violation} :
    ofViolations value vs = .error complaints ↔
      vs ≠ [] ∧ complaints = vs := by
  unfold ofViolations
  by_cases hEmpty : vs = []
  · simp [hEmpty]
  · simpa [hEmpty] using eq_comm

/- The violations decide. -/
@[simp] theorem violations_ofViolations
    (value : Json)
    (vs : List Violation) :
    (ofViolations value vs).violations = vs := by
  unfold ofViolations
  by_cases hEmpty : vs = []
  · simp [hEmpty, violations]
  · simp [hEmpty, violations]

/- A verdict without violations accepts. -/
theorem Answers.exists_ok
    {asked : Option Json}
    {verdict : Verdict}
    (hAnswers : verdict.Answers asked)
    (hNone : verdict.violations = []) :
    ∃ accepted,
      verdict = .ok accepted ∧ accepted.isSome = asked.isSome := by
  cases verdict with
  | ok accepted => exact ⟨accepted, rfl, hAnswers⟩
  | error vs => exact absurd hNone hAnswers

/- A verdict that accepts a given value has an accepted one. -/
theorem Answers.exists_some
    {value : Json}
    {accepted : Option Json}
    (hAnswers : Answers (some value) (.ok accepted)) :
    ∃ kept, accepted = some kept :=
  Option.isSome_iff_exists.mp hAnswers

/-
  A verdict on a given value, by which nothing but the value
  itself is accepted.
-/
structure Keeps
    (value : Json)
    (verdict : Verdict) : Prop where
  answers : verdict.Answers (some value)
  given :
    ∀ accepted, verdict = .ok accepted → accepted = some value

/- The value is accepted as it is. -/
theorem keeps_accept
    (value : Json) :
    (accept value).Keeps value := by
  constructor
  · rfl
  · intro accepted hAccepted
    cases hAccepted
    rfl

/- Nothing is accepted. -/
theorem keeps_refuse
    (value : Json)
    (path : String)
    (c : Complaint) :
    (refuse path c).Keeps value := by
  constructor
  · exact answers_refuse _ path c
  · intro accepted hAccepted
    cases hAccepted

/- The value is accepted, if nothing is wrong with it. -/
theorem keeps_ofViolations
    (value : Json)
    (vs : List Violation) :
    (ofViolations value vs).Keeps value := by
  constructor
  · exact answers_ofViolations value value vs
  · intro accepted hAccepted
    exact (ofViolations_eq_ok_iff.mp hAccepted).2

end Verdict

/- The rule accepts what the validators that it mentions accept. -/
def Rule.PassesOn : Rule → Prop
  | .alternatives _ => True
  | .deferred _ => True
  | .object _ => True
  | .array _ => True
  | _ => False

namespace Graph

variable {g : Graph}
variable {now : Calendar.Instant}
variable {inner : Checker}
variable {value : Json}
variable {path : String}
variable {options : CheckOptions}
variable {verdict : Verdict}

/- The verdict of alternatives is one on the value. -/
theorem checkAlternatives_answers
    {branches : List ValidatorId}
    (hInner : inner.Answers)
    (hCheck :
      checkAlternatives inner value path options branches =
        some verdict) :
    verdict.Answers (some value) := by
  induction branches with
  | nil =>
      cases hCheck
      exact Verdict.answers_refuse _ path _
  | cons id rest ih =>
      simp only [checkAlternatives] at hCheck
      cases hFirst : inner id (some value) path options with
      | none => simp [hFirst] at hCheck
      | some found =>
          have hFound := hInner _ _ _ _ _ hFirst
          cases found with
          | ok accepted =>
              simp only [hFirst, Option.some.injEq] at hCheck
              subst hCheck
              exact hFound
          | error vs =>
              simp only [hFirst] at hCheck
              exact ih hCheck

/- The verdict on an object is one on the value. -/
theorem checkObject_answers
    {rule : ObjectRule}
    (hCheck :
      checkObject inner rule value path options = some verdict) :
    verdict.Answers (some value) := by
  cases value with
  | object members =>
      simp only [checkObject, Option.bind_eq_bind,
        Option.bind_eq_some_iff, Option.pure_def,
        Option.some.injEq] at hCheck
      rcases hCheck with ⟨declared, _, unknown, _, rfl⟩
      exact Verdict.answers_ofViolations _ _ _
  | _ =>
      cases hCheck
      exact Verdict.answers_refuse _ path _

/- The verdict on an array is one on the value. -/
theorem checkArray_answers
    {rule : ArrayRule}
    (hCheck :
      checkArray inner rule value path options = some verdict) :
    verdict.Answers (some value) := by
  cases value with
  | array items =>
      simp only [checkArray, Option.bind_eq_bind,
        Option.bind_eq_some_iff, Option.pure_def,
        Option.some.injEq] at hCheck
      rcases hCheck with ⟨verdicts, _, rfl⟩
      exact Verdict.answers_ofViolations _ _ _
  | _ =>
      cases hCheck
      exact Verdict.answers_refuse _ path _

/- The verdict of a rule that accepts the value or nothing. -/
theorem checkRule_keeps
    {rule : Rule}
    (hRule : ¬ rule.PassesOn)
    (hCheck :
      g.checkRule now inner rule value path options =
        some verdict) :
    verdict.Keeps value := by
  cases rule with
  | alternatives branches => exact absurd trivial hRule
  | deferred c => exact absurd trivial hRule
  | object rule => exact absurd trivial hRule
  | array rule => exact absurd trivial hRule
  | any =>
      cases hCheck
      exact Verdict.keeps_accept value
  | boolean =>
      cases value with
      | bool b =>
          cases hCheck
          exact Verdict.keeps_accept _
      | _ =>
          cases hCheck
          exact Verdict.keeps_refuse _ path _
  | literal allowed =>
      simp only [checkRule] at hCheck
      split at hCheck
      case isTrue =>
        cases hCheck
        exact Verdict.keeps_accept value
      case isFalse =>
        cases hCheck
        exact Verdict.keeps_refuse value path _
  | custom type =>
      rcases Option.map_eq_some_iff.mp hCheck with ⟨vs, _, rfl⟩
      exact Verdict.keeps_ofViolations value vs
  | all branches =>
      simp only [checkRule, checkAll, Option.bind_eq_bind,
        Option.bind_eq_some_iff, Option.pure_def,
        Option.some.injEq] at hCheck
      rcases hCheck with ⟨vs, _, rfl⟩
      exact Verdict.keeps_ofViolations value _
  | _ =>
      cases hCheck
      exact Verdict.keeps_ofViolations value _

/- The verdict of a rule is one on the value. -/
theorem checkRule_answers
    {rule : Rule}
    (hInner : inner.Answers)
    (hCheck :
      g.checkRule now inner rule value path options =
        some verdict) :
    verdict.Answers (some value) := by
  by_cases hRule : rule.PassesOn
  · cases rule with
    | alternatives branches =>
        exact checkAlternatives_answers hInner hCheck
    | object rule => exact checkObject_answers hCheck
    | array rule => exact checkArray_answers hCheck
    | deferred c =>
        simp only [checkRule] at hCheck
        cases hCell : g.cell? c with
        | none =>
            simp only [hCell, Option.some.injEq] at hCheck
            subst hCheck
            exact (Verdict.keeps_accept value).answers
        | some target =>
            simp only [hCell] at hCheck
            exact hInner _ _ _ _ _ hCheck
    | _ => cases hRule
  · exact (checkRule_keeps hRule hCheck).answers

/- The verdict of a validator is one on what was asked. -/
theorem checkNode_answers
    (hInner : inner.Answers) :
    Checker.Answers (g.checkNode now inner) := by
  intro id asked path options verdict hCheck
  unfold checkNode at hCheck
  cases hNode : g.node? id with
  | none => simp [hNode] at hCheck
  | some v =>
      simp only [hNode] at hCheck
      cases asked with
      | none =>
          by_cases hRequired : v.presence = .required
          · simp only [hRequired, if_true, Option.some.injEq]
              at hCheck
            subst hCheck
            exact Verdict.answers_refuse none path _
          · simp only [hRequired, if_false, Option.some.injEq]
              at hCheck
            subst hCheck
            rfl
      | some value =>
          by_cases hForbidden : v.presence = .forbidden
          · simp only [hForbidden, if_true, Option.some.injEq]
              at hCheck
            subst hCheck
            exact Verdict.answers_refuse _ path _
          · simp only [hForbidden, if_false] at hCheck
            split at hCheck
            · cases hCheck
              rfl
            · exact checkRule_answers hInner hCheck

/- Verdicts within a budget are verdicts on what was asked. -/
theorem checkWithin_answers
    (g : Graph)
    (now : Calendar.Instant)
    (budget : Nat) :
    Checker.Answers (g.checkWithin now budget) := by
  induction budget with
  | zero =>
      intro id asked path options verdict hCheck
      cases hCheck
  | succ budget ih => exact checkNode_answers ih

/- Verdicts are verdicts on what was asked. -/
theorem check_answers
    (g : Graph)
    (now : Calendar.Instant) :
    Checker.Answers (g.check now) :=
  fun id asked => checkWithin_answers g now _ id asked

/- A check asks for the verdicts of checks. -/
theorem check_eq_checkNode
    (g : Graph)
    (now : Calendar.Instant) :
    g.check now = g.checkNode now (g.check now) := by
  funext id asked path options
  apply Option.ext
  intro verdict
  cases asked with
  | none => rw [check, checkBudget, checkWithin, checkNode_none]
  | some value =>
      rw [check_eq_some_iff]
      constructor
      · rintro ⟨budget, hCheck⟩
        cases budget with
        | zero => cases hCheck
        | succ budget =>
            rw [checkWithin] at hCheck
            apply checkNode_transfer _ hCheck
            intro inner asked place options verdict _ hInner
            exact check_eq_some_iff.mpr ⟨budget, hInner⟩
      · intro hCheck
        -- The budget of the value is enough for all it asks for.
        refine ⟨g.checkBudget (some value) + 1, ?_⟩
        rw [checkWithin]
        apply checkNode_transfer _ hCheck
        intro inner asked place options verdict hInside hInner
        apply checkWithin_mono hInner
        cases asked with
        | none => exact Nat.le_add_left 1 _
        | some part =>
            have hDepth : part.depth ≤ value.depth := by
              rcases hInside with ⟨rfl, _⟩ | hLess
              · exact Nat.le_refl _
              · exact Nat.le_of_lt hLess
            simp only [checkBudget]
            exact Nat.succ_le_succ
              (Nat.mul_le_mul_right _ (Nat.succ_le_succ hDepth))

------------------------------------------------------------
-- Objects
------------------------------------------------------------

variable {rule : ObjectRule}
variable {members kept : List (String × Json)}

/-
  What an accepted object keeps.  Every declared property is
  accepted, and kept if there is one; everything that is
  kept is the accepted value of a declared property or of
  another key.
-/
structure AcceptedObject
    (inner : Checker)
    (rule : ObjectRule)
    (members kept : List (String × Json))
    (path : String)
    (options : CheckOptions) : Prop where
  sorted : Members.Sorted kept
  count : rule.checkCount members.length path = []
  declared :
    ∀ name id, (name, id) ∈ rule.properties.getD [] →
      ∃ result,
        inner id (members.lookup name)
            (Violation.memberPath path name) options =
          some (.ok result) ∧
          (result.isSome → ∃ x, (name, x) ∈ kept)
  origin :
    ∀ name x, (name, x) ∈ kept →
      (∃ id, (name, id) ∈ rule.properties.getD [] ∧
        inner id (members.lookup name)
            (Violation.memberPath path name) options =
          some (.ok (some x))) ∨
        ((rule.properties.getD []).lookup name = none ∧
          ∃ given, (name, given) ∈ members ∧
            unknownVerdict inner rule path options name given =
              some (.ok (some x)))

/-
  An undeclared key is judged by the validator for such keys,
  or it is kept as it is, dropped, or refused.
-/
theorem unknownVerdict_cases
    {name : String}
    {x : Json}
    (hVerdict :
      unknownVerdict inner rule path options name x =
        some verdict) :
    (∃ id, rule.unknown = .schema id ∧
        inner id (some x) (Violation.memberPath path name) options =
          some verdict) ∨
      verdict = Verdict.accept x ∨
      (rule.properties.isSome = true ∧
        (rule.unknown = .reject ∨ rule.unknown = .ignore) ∧
        options.stripUnknown = true ∧
        verdict = .ok none) ∨
      (options.stripUnknown = false ∧
        verdict =
          Verdict.refuse (Violation.memberPath path name)
            .unknownKey) := by
  rcases options with ⟨strip⟩
  rcases rule with ⟨properties, unknown, least, most⟩
  cases unknown with
  | schema id => exact Or.inl ⟨id, rfl, hVerdict⟩
  | _ =>
      cases properties <;> cases strip <;> cases hVerdict <;>
        simp [Verdict.accept]

/- The accepted members are those that the verdicts accept. -/
theorem mem_of_mem_acceptedMembers
    {verdicts : List (String × Verdict)}
    {name : String}
    {x : Json}
    (hMem : (name, x) ∈ acceptedMembers verdicts) :
    (name, .ok (some x)) ∈ verdicts := by
  have hPair := Members.mem_of_mem_ofList hMem
  rcases List.mem_filterMap.mp hPair with
    ⟨⟨other, verdict⟩, hVerdict, hValue⟩
  rcases Option.map_eq_some_iff.mp hValue with ⟨y, hY, hSame⟩
  cases hSame
  cases verdict with
  | error vs => cases hY
  | ok accepted =>
      have hAccepted : accepted = some x := hY
      subst hAccepted
      exact hVerdict

/- What a verdict accepts is kept under its name. -/
theorem exists_mem_acceptedMembers
    {verdicts : List (String × Verdict)}
    {name : String}
    {x : Json}
    (hMem : (name, .ok (some x)) ∈ verdicts) :
    ∃ y, (name, y) ∈ acceptedMembers verdicts := by
  apply Members.exists_mem_ofList
  exact List.mem_filterMap.mpr ⟨_, hMem, rfl⟩

/- An accepted value of an object rule is an object of its kind. -/
theorem acceptedObject_of_checkObject
    {accepted : Option Json}
    (hInner : inner.Answers)
    (hCheck :
      checkObject inner rule value path options =
        some (.ok accepted)) :
    ∃ members kept,
      value = .object members ∧
        accepted = some (.object kept) ∧
        AcceptedObject inner rule members kept path options := by
  cases value with
  | object members =>
      simp only [checkObject, Option.bind_eq_bind,
        Option.bind_eq_some_iff, Option.pure_def,
        Option.some.injEq] at hCheck
      rcases hCheck with
        ⟨declared, hDeclared, unknown, hUnknown, hVerdict⟩
      rw [Verdict.ofViolations_eq_ok_iff, List.append_eq_nil_iff,
        List.flatMap_eq_nil_iff] at hVerdict
      rcases hVerdict with ⟨⟨hClean, hCount⟩, hAccepted⟩
      refine ⟨members, _, rfl, hAccepted,
        Members.sorted_ofList _, hCount, ?_, ?_⟩
      · intro name id hProperty
        rcases exists_answer_of_mapM hDeclared hProperty with
          ⟨⟨other, verdict⟩, hEntry, hFound⟩
        rcases Option.map_eq_some_iff.mp hFound with
          ⟨same, hVerdict, hPair⟩
        cases hPair
        have hMem := List.mem_append_left unknown hEntry
        have hAnswers := hInner _ _ _ _ _ hVerdict
        rcases hAnswers.exists_ok (hClean _ hMem) with
          ⟨result, rfl, _⟩
        refine ⟨result, hVerdict, ?_⟩
        intro hSome
        rcases Option.isSome_iff_exists.mp hSome with ⟨x, rfl⟩
        exact exists_mem_acceptedMembers hMem
      · intro name x hKept
        rcases List.mem_append.mp (mem_of_mem_acceptedMembers hKept)
          with hLeft | hRight
        · rcases exists_element_of_mapM hDeclared hLeft with
            ⟨⟨other, id⟩, hProperty, hFound⟩
          rcases Option.map_eq_some_iff.mp hFound with
            ⟨verdict, hVerdict, hPair⟩
          cases hPair
          exact Or.inl ⟨id, hProperty, hVerdict⟩
        · rcases exists_element_of_mapM hUnknown hRight with
            ⟨⟨other, given⟩, hMember, hFound⟩
          rcases Option.map_eq_some_iff.mp hFound with
            ⟨verdict, hVerdict, hPair⟩
          cases hPair
          rcases List.mem_filter.mp hMember with
            ⟨hGiven, hUndeclared⟩
          exact Or.inr ⟨by simpa using hUndeclared, given, hGiven,
            hVerdict⟩
  | _ => cases hCheck

/- The verdicts on declared properties that are as they were kept. -/
def keptDeclared
    (rule : ObjectRule)
    (kept : List (String × Json)) : List (String × Verdict) :=
  (rule.properties.getD []).map (fun p =>
    (p.1, .ok (kept.lookup p.1)))

/- The verdicts on other keys that are as they were kept. -/
def keptUnknown
    (rule : ObjectRule)
    (kept : List (String × Json)) : List (String × Verdict) :=
  (kept.filter (fun m =>
    ((rule.properties.getD []).lookup m.1).isNone)).map (fun m =>
      (m.1, .ok (some m.2)))

/- Nothing is wrong with what was kept. -/
theorem violations_of_kept
    (rule : ObjectRule)
    (kept : List (String × Json)) :
    (keptDeclared rule kept ++ keptUnknown rule kept).flatMap
      (fun entry => entry.2.violations) = [] := by
  rw [List.flatMap_eq_nil_iff]
  intro entry hMem
  rcases List.mem_append.mp hMem with hDeclared | hUnknown
  · rcases List.mem_map.mp hDeclared with ⟨p, _, rfl⟩
    rfl
  · rcases List.mem_map.mp hUnknown with ⟨m, _, rfl⟩
    rfl

/- What was kept is what the verdicts on it accept. -/
theorem acceptedMembers_of_kept
    (rule : ObjectRule)
    (hSorted : Members.Sorted kept) :
    acceptedMembers (keptDeclared rule kept ++ keptUnknown rule kept) =
      kept := by
  apply Members.ofList_eq hSorted
  rintro ⟨name, x⟩
  constructor
  · intro hPair
    rcases List.mem_filterMap.mp hPair with ⟨entry, hEntry, hValue⟩
    rcases List.mem_append.mp hEntry with hDeclared | hUnknown
    · rcases List.mem_map.mp hDeclared with ⟨p, _, rfl⟩
      rcases Option.map_eq_some_iff.mp hValue with
        ⟨y, hLookup, hSame⟩
      cases hSame
      exact mem_of_lookup_eq_some hLookup
    · rcases List.mem_map.mp hUnknown with ⟨m, hMember, rfl⟩
      cases hValue
      exact List.mem_of_mem_filter hMember
  · intro hKept
    apply List.mem_filterMap.mpr
    cases hFound : (rule.properties.getD []).lookup name with
    | none =>
        refine ⟨(name, .ok (some x)), ?_, rfl⟩
        apply List.mem_append_right
        apply List.mem_map.mpr
        exact ⟨(name, x),
          List.mem_filter.mpr ⟨hKept, by simp [hFound]⟩, rfl⟩
    | some id =>
        have hLookup := Members.lookup_of_mem hSorted hKept
        refine ⟨(name, .ok (kept.lookup name)), ?_, ?_⟩
        · apply List.mem_append_left
          exact List.mem_map.mpr
            ⟨(name, id), mem_of_lookup_eq_some hFound, rfl⟩
        · simp only [Verdict.value?, hLookup, Option.map_some]

/- An object whose properties and keys stay is accepted as it is. -/
theorem checkObject_of_kept
    (hSorted : Members.Sorted kept)
    (hCount : rule.checkCount kept.length path = [])
    (hDeclared :
      ∀ name id, (name, id) ∈ rule.properties.getD [] →
        inner id (kept.lookup name)
            (Violation.memberPath path name) options =
          some (.ok (kept.lookup name)))
    (hUnknown :
      ∀ name x, (name, x) ∈ kept →
        (rule.properties.getD []).lookup name = none →
          unknownVerdict inner rule path options name x =
            some (.ok (some x))) :
    checkObject inner rule (.object kept) path options =
      some (.ok (some (.object kept))) := by
  have hLeft :
      declaredVerdicts inner kept path options
          (rule.properties.getD []) =
        some (keptDeclared rule kept) := by
    apply mapM_eq_some_map
    rintro ⟨name, id⟩ hMem
    simp only [hDeclared name id hMem, Option.map_some]
  have hRight :
      unknownVerdicts inner rule path options kept =
        some (keptUnknown rule kept) := by
    apply mapM_eq_some_map
    rintro ⟨name, x⟩ hMem
    rcases List.mem_filter.mp hMem with ⟨hKept, hNone⟩
    simp only [hUnknown name x hKept (by simpa using hNone),
      Option.map_some]
  simp only [checkObject, hLeft, hRight, Option.bind_eq_bind,
    Option.bind_some, Option.pure_def, violations_of_kept, hCount,
    acceptedMembers_of_kept rule hSorted]
  rfl

------------------------------------------------------------
-- Arrays
------------------------------------------------------------

variable {listRule : ArrayRule}
variable {items held : List Json}

/- The verdict on an item is one on the item. -/
theorem itemVerdict_answers
    {x : Json}
    {i : Nat}
    (hInner : inner.Answers)
    (hVerdict :
      itemVerdict inner listRule path options x i = some verdict) :
    verdict.Answers (some x) := by
  unfold itemVerdict at hVerdict
  cases hItems : listRule.items with
  | none =>
      simp only [hItems, Option.some.injEq] at hVerdict
      subst hVerdict
      rfl
  | some id =>
      simp only [hItems] at hVerdict
      exact hInner _ _ _ _ _ hVerdict

/- Verdicts that all accept are known by what they accept. -/
theorem eq_map_accept_of_values
    {verdicts : List Verdict}
    (hAll : ∀ verdict ∈ verdicts, ∃ x, verdict = .ok (some x)) :
    verdicts =
      (verdicts.filterMap Verdict.value?).map Verdict.accept := by
  induction verdicts with
  | nil => rfl
  | cons verdict rest ih =>
      rcases hAll verdict List.mem_cons_self with ⟨x, rfl⟩
      have hRest := ih (fun other hMem =>
        hAll other (List.mem_cons_of_mem _ hMem))
      simp only [List.filterMap_cons, Verdict.value?, List.map_cons]
      exact congrArg (Verdict.accept x :: ·) hRest

/-
  An accepted value of an array rule is an array with the
  accepted values of all items.
-/
theorem acceptedItems_of_checkArray
    {accepted : Option Json}
    (hInner : inner.Answers)
    (hCheck :
      checkArray inner listRule value path options =
        some (.ok accepted)) :
    ∃ items held,
      value = .array items ∧
        accepted = some (.array held) ∧
        listRule.checkItems items path = [] ∧
        held.length = items.length ∧
        ∀ i x, held[i]? = some x →
          ∃ given,
            items[i]? = some given ∧
              itemVerdict inner listRule path options given i =
                some (Verdict.accept x) := by
  cases value with
  | array items =>
      simp only [checkArray, Option.bind_eq_bind,
        Option.bind_eq_some_iff, Option.pure_def,
        Option.some.injEq] at hCheck
      rcases hCheck with ⟨verdicts, hVerdicts, hVerdict⟩
      rw [Verdict.ofViolations_eq_ok_iff, List.append_eq_nil_iff,
        List.flatMap_eq_nil_iff] at hVerdict
      rcases hVerdict with ⟨⟨hClean, hItems⟩, hAccepted⟩
      have hAll :
          ∀ verdict ∈ verdicts, ∃ x, verdict = .ok (some x) := by
        intro verdict hMem
        rcases exists_element_of_mapM hVerdicts hMem with
          ⟨⟨x, i⟩, _, hFound⟩
        have hAnswers := itemVerdict_answers hInner hFound
        rcases hAnswers.exists_ok (hClean verdict hMem) with
          ⟨result, rfl, hSome⟩
        rcases hAnswers.exists_some with ⟨y, rfl⟩
        exact ⟨y, rfl⟩
      have hEach := map_eq_of_mapM hVerdicts
      rw [eq_map_accept_of_values hAll] at hEach
      refine ⟨items, _, rfl, hAccepted, hItems, ?_, ?_⟩
      · simpa using (congrArg List.length hEach).symm
      · intro i x hHeld
        have hAt := congrArg (fun answers => answers[i]?) hEach
        simp only [List.getElem?_map, hHeld, List.getElem?_zipIdx]
          at hAt
        cases hGiven : items[i]? with
        | none => simp [hGiven] at hAt
        | some given =>
            refine ⟨given, rfl, ?_⟩
            simpa [hGiven] using hAt
  | _ => cases hCheck

/- An array whose items stay is accepted as it is. -/
theorem checkArray_of_kept
    (hItems : listRule.checkItems held path = [])
    (hEach :
      ∀ i x, held[i]? = some x →
        itemVerdict inner listRule path options x i =
          some (Verdict.accept x)) :
    checkArray inner listRule (.array held) path options =
      some (Verdict.accept (.array held)) := by
  have hAnswers :
      held.zipIdx.map (fun p => Verdict.accept p.1) =
        held.map Verdict.accept := by
    calc held.zipIdx.map (fun p => Verdict.accept p.1)
        = (held.zipIdx.map Prod.fst).map Verdict.accept := by
          rw [List.map_map]
          rfl
      _ = held.map Verdict.accept := by
          rw [List.zipIdx_map_fst]
  have hClean :
      (held.map Verdict.accept).flatMap Verdict.violations = [] := by
    rw [List.flatMap_eq_nil_iff]
    intro verdict hMem
    rcases List.mem_map.mp hMem with ⟨x, _, rfl⟩
    rfl
  have hValues :
      (held.map Verdict.accept).filterMap Verdict.value? = held := by
    rw [List.filterMap_map]
    exact List.filterMap_some
  simp only [checkArray, Option.bind_eq_bind,
    Option.bind_eq_some_iff]
  refine ⟨held.map Verdict.accept, ?_, ?_⟩
  · rw [← hAnswers]
    apply mapM_eq_some_map
    rintro ⟨x, i⟩ hMem
    exact hEach i x (List.mk_mem_zipIdx_iff_getElem?.mp hMem)
  · simp only [Option.pure_def, hClean, hItems, hValues]
    rfl

------------------------------------------------------------
-- Alternatives
------------------------------------------------------------

/- Every alternative refuses the value. -/
def AllRefuse
    (inner : Checker)
    (value : Json)
    (path : String)
    (options : CheckOptions)
    (branches : List ValidatorId) : Prop :=
  ∀ id ∈ branches,
    ∃ vs, inner id (some value) path options = some (.error vs)

/- Alternatives that accept: the first one that does decides. -/
theorem exists_first_of_checkAlternatives
    {branches : List ValidatorId}
    {accepted : Option Json}
    (hCheck :
      checkAlternatives inner value path options branches =
        some (.ok accepted)) :
    ∃ before chosen after,
      branches = before ++ chosen :: after ∧
        AllRefuse inner value path options before ∧
        inner chosen (some value) path options =
          some (.ok accepted) := by
  induction branches with
  | nil => cases hCheck
  | cons id rest ih =>
      simp only [checkAlternatives] at hCheck
      cases hFirst : inner id (some value) path options with
      | none => simp [hFirst] at hCheck
      | some found =>
          cases found with
          | ok result =>
              simp only [hFirst] at hCheck
              refine ⟨[], id, rest, rfl, ?_, hFirst.trans hCheck⟩
              intro other hMem
              cases hMem
          | error vs =>
              simp only [hFirst] at hCheck
              rcases ih hCheck with
                ⟨before, chosen, after, rfl, hRefuse, hChosen⟩
              refine ⟨id :: before, chosen, after, rfl, ?_, hChosen⟩
              intro other hMem
              rcases List.mem_cons.mp hMem with rfl | hLater
              · exact ⟨vs, hFirst⟩
              · exact hRefuse other hLater

/- More alternatives matter only if the first ones refuse. -/
theorem checkAlternatives_append
    (inner : Checker)
    (value : Json)
    (path : String)
    (options : CheckOptions)
    (before after : List ValidatorId) :
    checkAlternatives inner value path options (before ++ after) =
      match
        checkAlternatives inner value path options before
      with
      | some (.error _) =>
          checkAlternatives inner value path options after
      | verdict => verdict := by
  induction before with
  | nil => rfl
  | cons id rest ih =>
      simp only [List.cons_append, checkAlternatives]
      cases inner id (some value) path options with
      | none => rfl
      | some found =>
          cases found with
          | ok result => rfl
          | error vs => exact ih

end Graph

end SchemaGraph
