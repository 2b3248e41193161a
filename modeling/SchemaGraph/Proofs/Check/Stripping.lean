import Mathlib
import SchemaGraph.Proofs.Check.Accepted
import SchemaGraph.Proofs.Check.Deferral
import SchemaGraph.Proofs.Check.Range

/-
  Checking what a check accepted.  With unknown keys dropped,
  the number of keys, the uniqueness of items and the first
  alternative that accepts are judged on the given value, and
  may come out otherwise on the accepted one.  Nothing else
  can: if these three still hold wherever the check went, the
  accepted value is accepted again, and as it is.

  Main declarations:
    * `Place`
    * `Graph.Judges`
    * `Graph.Enters`
    * `Graph.StillMeets`
    * `Graph.checkNode_cases`
    * `Graph.checkObject_stays`
    * `Graph.checkArray_stays`
    * `Graph.check_accepted_of_stillMeets`
-/

namespace SchemaGraph

/- A value at a path that a validator is asked to judge. -/
structure Place where
  id : ValidatorId
  value : Json
  path : String

/-
  What one checker accepts at the place, with unknown keys
  dropped, the other one accepts as it is.
-/
def Place.Stays
    (inner outer : Checker)
    (place : Place) : Prop :=
  ∀ result,
    inner place.id (some place.value) place.path ⟨true⟩ =
        some (Verdict.accept result) →
      outer place.id (some result) place.path ⟨true⟩ =
        some (Verdict.accept result)

------------------------------------------------------------
-- Counts and Repetitions
------------------------------------------------------------

/- There are enough keys, and not too many. -/
theorem ObjectRule.checkCount_eq_nil_iff
    {rule : ObjectRule}
    {count : Nat}
    {path : String} :
    rule.checkCount count path = [] ↔
      (∀ least, rule.minProperties = some least → least ≤ count) ∧
        ∀ most, rule.maxProperties = some most → count ≤ most := by
  unfold ObjectRule.checkCount
  rw [List.append_eq_nil_iff]
  cases rule.minProperties <;> cases rule.maxProperties <;>
    simp [complaintIf]

/- No item repeats an earlier one. -/
theorem duplicates_eq_nil_iff
    {path : String}
    {earlier items : List Json} :
    duplicates path earlier items = [] ↔
      (∀ x ∈ earlier, ∀ y ∈ items, x.same y = false) ∧
        items.Pairwise (fun x y => x.same y = false) := by
  induction items generalizing earlier with
  | nil => simp [duplicates]
  | cons y rest ih =>
      have hStep :
          duplicates path earlier (y :: rest) = [] ↔
            earlier.findIdx? (fun x => x.same y) = none ∧
              duplicates path (earlier ++ [y]) rest = [] := by
        rw [duplicates, List.append_eq_nil_iff]
        cases earlier.findIdx? (fun x => x.same y) <;> simp
      rw [hStep, List.findIdx?_eq_none_iff, ih]
      simp only [List.mem_append, List.mem_cons,
        List.pairwise_cons, or_imp, forall_and, forall_eq]
      tauto

/- There are enough items, not too many, and none is repeated. -/
theorem ArrayRule.checkItems_eq_nil_iff
    {rule : ArrayRule}
    {items : List Json}
    {path : String} :
    rule.checkItems items path = [] ↔
      (∀ least, rule.minItems = some least →
          least ≤ items.length) ∧
        (∀ most, rule.maxItems = some most →
          items.length ≤ most) ∧
        (rule.unique = true →
          items.Pairwise (fun x y => x.same y = false)) := by
  unfold ArrayRule.checkItems
  rw [List.append_eq_nil_iff, List.append_eq_nil_iff, and_assoc]
  cases rule.minItems <;> cases rule.maxItems <;>
    cases rule.unique <;>
    simp [complaintIf, duplicates_eq_nil_iff]

namespace Graph

variable {inner outer : Checker}
variable {path : String}

------------------------------------------------------------
-- Objects
------------------------------------------------------------

/- A declared name is declared. -/
theorem AcceptedObject.found
    {rule : ObjectRule}
    {members kept : List (String × Json)}
    {options : CheckOptions}
    {name : String}
    {id : ValidatorId}
    {x : Json}
    (hAccepted :
      AcceptedObject inner rule members kept path options)
    (hSorted : Members.Sorted (rule.properties.getD []))
    (hProperty : (name, id) ∈ rule.properties.getD [])
    (hKept : (name, x) ∈ kept) :
    inner id (members.lookup name) (Violation.memberPath path name)
        options =
      some (Verdict.accept x) := by
  have hLookup := Members.lookup_of_mem hSorted hProperty
  rcases hAccepted.origin name x hKept with
    ⟨other, hOther, hVerdict⟩ | ⟨hNone, _⟩
  · have hAlso := Members.lookup_of_mem hSorted hOther
    rw [hLookup] at hAlso
    cases hAlso
    exact hVerdict
  · rw [hLookup] at hNone
    cases hNone

/- What is kept has names of the given members. -/
theorem AcceptedObject.length_le
    {rule : ObjectRule}
    {members kept : List (String × Json)}
    {options : CheckOptions}
    (hAccepted :
      AcceptedObject inner rule members kept path options)
    (hInner : inner.Answers) :
    kept.length ≤ members.length := by
  apply Members.length_le_of_names hAccepted.sorted
  intro name hName
  rcases List.mem_map.mp hName with ⟨⟨same, x⟩, hKept, rfl⟩
  rcases hAccepted.origin same x hKept with
    ⟨id, _, hVerdict⟩ | ⟨_, given, hGiven, _⟩
  · -- An absent value is never accepted with a value.
    have hAnswers := hInner _ _ _ _ _ hVerdict
    by_contra hAbsent
    rw [(Members.lookup_eq_none_iff_not_mem same members).mpr
      hAbsent] at hAnswers
    cases hAnswers
  · exact List.mem_map.mpr ⟨(same, given), hGiven, rfl⟩

/- The kept value of a declared property is accepted as it is. -/
theorem AcceptedObject.declared_stays
    {rule : ObjectRule}
    {members kept : List (String × Json)}
    {name : String}
    {id : ValidatorId}
    (hAccepted :
      AcceptedObject inner rule members kept path ⟨true⟩)
    (hInner : inner.Answers)
    (hAbsent :
      ∀ place options verdict,
        inner id none place options = some verdict →
          outer id none place options = some verdict)
    (hSorted : Members.Sorted (rule.properties.getD []))
    (hProperty : (name, id) ∈ rule.properties.getD [])
    (hStays :
      ∀ given, members.lookup name = some given →
        Place.Stays inner outer
          ⟨id, given, Violation.memberPath path name⟩) :
    outer id (kept.lookup name) (Violation.memberPath path name)
        ⟨true⟩ =
      some (.ok (kept.lookup name)) := by
  rcases hAccepted.declared name id hProperty with
    ⟨result, hVerdict, hSome⟩
  have hAnswers := hInner _ _ _ _ _ hVerdict
  cases hGiven : members.lookup name with
  | none =>
      -- A property that is not given is not kept either.
      rw [hGiven] at hVerdict hAnswers
      have hResult : result = none := by
        simpa [Verdict.Answers] using hAnswers
      subst hResult
      have hNone : kept.lookup name = none := by
        cases hKept : kept.lookup name with
        | none => rfl
        | some x =>
            have hFound := hAccepted.found hSorted hProperty
              (mem_of_lookup_eq_some hKept)
            rw [hGiven, hVerdict] at hFound
            cases hFound
      rw [hNone]
      exact hAbsent _ _ _ hVerdict
  | some given =>
      rw [hGiven] at hAnswers
      rcases hSome hAnswers with ⟨x, hKept⟩
      have hFound := hAccepted.found hSorted hProperty hKept
      rw [hGiven] at hFound
      rw [Members.lookup_of_mem hAccepted.sorted hKept]
      exact hStays given hGiven x hFound

/- The kept value of another key is accepted as it is. -/
theorem AcceptedObject.unknown_stays
    {rule : ObjectRule}
    {members kept : List (String × Json)}
    {name : String}
    {x : Json}
    (hAccepted :
      AcceptedObject inner rule members kept path ⟨true⟩)
    (hSorted : Members.Sorted (rule.properties.getD []))
    (hKept : (name, x) ∈ kept)
    (hUndeclared : (rule.properties.getD []).lookup name = none)
    (hStays :
      ∀ id given,
        rule.unknown = .schema id →
          (name, given) ∈ members →
            Place.Stays inner outer
              ⟨id, given, Violation.memberPath path name⟩) :
    unknownVerdict outer rule path ⟨true⟩ name x =
      some (.ok (some x)) := by
  rcases hAccepted.origin name x hKept with
    ⟨id, hProperty, _⟩ | ⟨_, given, hGiven, hVerdict⟩
  · have hLookup := Members.lookup_of_mem hSorted hProperty
    rw [hUndeclared] at hLookup
    cases hLookup
  · unfold unknownVerdict at hVerdict ⊢
    cases hUnknown : rule.unknown with
    | schema id =>
        simp only [hUnknown] at hVerdict
        exact hStays id given hUnknown hGiven x hVerdict
    | _ =>
        -- What is kept without a check is kept as it is.
        by_cases hOpen : rule.properties.isNone <;> simp_all

/-
  An accepted object is accepted as it is if its properties
  and keys are, and enough keys are kept.
-/
theorem checkObject_stays
    {rule : ObjectRule}
    {members kept : List (String × Json)}
    (hInner : inner.Answers)
    (hAbsent :
      ∀ id place options verdict,
        inner id none place options = some verdict →
          outer id none place options = some verdict)
    (hSorted : Members.Sorted (rule.properties.getD []))
    (hAccepted :
      AcceptedObject inner rule members kept path ⟨true⟩)
    (hProperties :
      ∀ name id given,
        (name, id) ∈ rule.properties.getD [] →
          members.lookup name = some given →
            Place.Stays inner outer
              ⟨id, given, Violation.memberPath path name⟩)
    (hKeys :
      ∀ name id given,
        rule.unknown = .schema id →
          (rule.properties.getD []).lookup name = none →
            (name, given) ∈ members →
              Place.Stays inner outer
                ⟨id, given, Violation.memberPath path name⟩)
    (hLeast :
      ∀ least, rule.minProperties = some least →
        least ≤ kept.length) :
    checkObject outer rule (.object kept) path ⟨true⟩ =
      some (Verdict.accept (.object kept)) := by
  have hCount : rule.checkCount kept.length path = [] := by
    have hGiven :=
      ObjectRule.checkCount_eq_nil_iff.mp hAccepted.count
    have hLength := hAccepted.length_le hInner
    rw [ObjectRule.checkCount_eq_nil_iff]
    constructor
    · exact hLeast
    · intro most hMost
      exact hLength.trans (hGiven.2 most hMost)
  apply checkObject_of_kept hAccepted.sorted hCount
  · intro name id hProperty
    exact hAccepted.declared_stays hInner (hAbsent id) hSorted
      hProperty (fun given => hProperties name id given hProperty)
  · intro name x hKept hUndeclared
    exact hAccepted.unknown_stays hSorted hKept hUndeclared
      (fun id given hUnknown =>
        hKeys name id given hUnknown hUndeclared)

------------------------------------------------------------
-- Arrays
------------------------------------------------------------

/-
  An accepted array is accepted as it is if its items are,
  and none of them repeats another one.
-/
theorem checkArray_stays
    {rule : ArrayRule}
    {items held : List Json}
    (hGiven : rule.checkItems items path = [])
    (hLength : held.length = items.length)
    (hVerdicts :
      ∀ i x, held[i]? = some x →
        ∃ given,
          items[i]? = some given ∧
            itemVerdict inner rule path ⟨true⟩ given i =
              some (Verdict.accept x))
    (hItems :
      ∀ i id given,
        rule.items = some id →
          items[i]? = some given →
            Place.Stays inner outer
              ⟨id, given, Violation.itemPath path i⟩)
    (hDistinct :
      rule.unique = true →
        held.Pairwise (fun x y => x.same y = false)) :
    checkArray outer rule (.array held) path ⟨true⟩ =
      some (Verdict.accept (.array held)) := by
  have hHeld : rule.checkItems held path = [] := by
    rcases ArrayRule.checkItems_eq_nil_iff.mp hGiven with
      ⟨hLeast, hMost, _⟩
    rw [ArrayRule.checkItems_eq_nil_iff, hLength]
    exact ⟨hLeast, hMost, hDistinct⟩
  apply checkArray_of_kept hHeld
  intro i x hAt
  rcases hVerdicts i x hAt with ⟨given, hItem, hVerdict⟩
  unfold itemVerdict at hVerdict ⊢
  cases hRule : rule.items with
  | none =>
      simp only [hRule, Option.some.injEq] at hVerdict
      cases hVerdict
      rfl
  | some id =>
      simp only [hRule] at hVerdict
      exact hItems i id given hRule hItem x hVerdict

------------------------------------------------------------
-- Alternatives
------------------------------------------------------------

/-
  What an alternative accepts as it is, the alternatives do,
  if those before it leave it alone.
-/
theorem checkAlternatives_stays
    {before after : List ValidatorId}
    {chosen : ValidatorId}
    {accepted : Json}
    (hChosen :
      outer chosen (some accepted) path ⟨true⟩ =
        some (Verdict.accept accepted))
    (hBefore :
      checkAlternatives outer accepted path ⟨true⟩ before =
          some (Verdict.accept accepted) ∨
        ∃ vs,
          checkAlternatives outer accepted path ⟨true⟩ before =
            some (.error vs)) :
    checkAlternatives outer accepted path ⟨true⟩
        (before ++ chosen :: after) =
      some (Verdict.accept accepted) := by
  rw [checkAlternatives_append]
  rcases hBefore with hAccept | ⟨vs, hRefuse⟩
  · rw [hAccept]
    rfl
  · simp only [hRefuse, checkAlternatives, hChosen]
    rfl

------------------------------------------------------------
-- Where a Check Goes
------------------------------------------------------------

variable {g : Graph}
variable {now : Calendar.Instant}

/-
  The validator judges the value by the rule: it does not
  forbid values, and the value is not a `null` that it allows.
-/
def Judges
    (g : Graph)
    (id : ValidatorId)
    (value : Json)
    (rule : Rule) : Prop :=
  ∃ v,
    g.node? id = some v ∧
      v.rule = rule ∧
      v.presence ≠ .forbidden ∧
      (value ≠ .null ∨ v.allowNull = false)

/-
  With unknown keys dropped, the check at a place takes its
  accepted value, or a part of it, from the check at another
  place.
-/
inductive Enters
    (g : Graph)
    (now : Calendar.Instant) : Place → Place → Prop where
  /- The content of a cell. -/
  | content
      (id target : ValidatorId)
      (value : Json)
      (path : String)
      (c : CellId)
      (hRule : g.Judges id value (.deferred c))
      (hCell : g.cell? c = some target) :
      Enters g now ⟨id, value, path⟩ ⟨target, value, path⟩
  /- The first alternative that accepts. -/
  | alternative
      (id chosen : ValidatorId)
      (value accepted : Json)
      (path : String)
      (before after : List ValidatorId)
      (hRule :
        g.Judges id value
          (.alternatives (before ++ chosen :: after)))
      (hBefore :
        AllRefuse (g.check now) value path ⟨true⟩ before)
      (hChosen :
        g.check now chosen (some value) path ⟨true⟩ =
          some (Verdict.accept accepted)) :
      Enters g now ⟨id, value, path⟩ ⟨chosen, value, path⟩
  /- A declared property that is given. -/
  | property
      (id property : ValidatorId)
      (rule : ObjectRule)
      (members : List (String × Json))
      (name path : String)
      (given : Json)
      (hRule : g.Judges id (.object members) (.object rule))
      (hProperty : (name, property) ∈ rule.properties.getD [])
      (hGiven : members.lookup name = some given) :
      Enters g now ⟨id, .object members, path⟩
        ⟨property, given, Violation.memberPath path name⟩
  /- Another key, where there is a schema for those. -/
  | key
      (id schema : ValidatorId)
      (rule : ObjectRule)
      (members : List (String × Json))
      (name path : String)
      (given : Json)
      (hRule : g.Judges id (.object members) (.object rule))
      (hUnknown : rule.unknown = .schema schema)
      (hUndeclared :
        (rule.properties.getD []).lookup name = none)
      (hGiven : (name, given) ∈ members) :
      Enters g now ⟨id, .object members, path⟩
        ⟨schema, given, Violation.memberPath path name⟩
  /- An item. -/
  | item
      (id schema : ValidatorId)
      (rule : ArrayRule)
      (items : List Json)
      (i : Nat)
      (path : String)
      (given : Json)
      (hRule : g.Judges id (.array items) (.array rule))
      (hItems : rule.items = some schema)
      (hGiven : items[i]? = some given) :
      Enters g now ⟨id, .array items, path⟩
        ⟨schema, given, Violation.itemPath path i⟩

/-
  What was asked of the given value and dropping keys can
  undo still holds of the accepted one: enough keys are kept,
  no two kept items are the same, and the alternatives before
  the one that accepted refuse it or accept it as it is.
-/
structure StillMeets
    (g : Graph)
    (now : Calendar.Instant)
    (place : Place)
    (accepted : Json) : Prop where
  count :
    ∀ rule kept least,
      g.Judges place.id place.value (.object rule) →
        accepted = .object kept →
          rule.minProperties = some least →
            least ≤ kept.length
  distinct :
    ∀ rule held,
      g.Judges place.id place.value (.array rule) →
        accepted = .array held →
          rule.unique = true →
            held.Pairwise (fun x y => x.same y = false)
  earlier :
    ∀ before chosen after,
      g.Judges place.id place.value
          (.alternatives (before ++ chosen :: after)) →
        AllRefuse (g.check now) place.value place.path ⟨true⟩
            before →
          g.check now chosen (some place.value) place.path ⟨true⟩ =
              some (Verdict.accept accepted) →
            checkAlternatives (g.check now) accepted place.path
                  ⟨true⟩ before =
                some (Verdict.accept accepted) ∨
              ∃ vs,
                checkAlternatives (g.check now) accepted place.path
                    ⟨true⟩ before =
                  some (.error vs)

/- A value is judged by one rule. -/
theorem Judges.kind_eq
    {id : ValidatorId}
    {value : Json}
    {rule : Rule}
    {kind : String}
    (hJudges : g.Judges id value rule)
    (hKind :
      (g.node? id).map (fun v => v.rule.kind) = some kind) :
    rule.kind = kind := by
  rcases hJudges with ⟨v, hNode, rfl, _⟩
  rw [hNode] at hKind
  exact Option.some.inj hKind

/- What the rule of a validator mentions, the validator does. -/
theorem Judges.mentions
    {id other : ValidatorId}
    {value : Json}
    {rule : Rule}
    (hJudges : g.Judges id value rule)
    (hMem : other ∈ rule.references g) :
    g.Mentions id other := by
  rcases hJudges with ⟨v, hNode, rfl, _⟩
  simp only [Mentions, references, hNode]
  exact hMem

/-
  A validator refuses a value that it forbids, and accepts a
  `null` that it allows.  It judges the others by its rule.
-/
theorem checkNode_cases
    {inner : Checker}
    {id : ValidatorId}
    {value : Json}
    {path : String}
    {options : CheckOptions}
    {verdict : Verdict}
    (hCheck :
      g.checkNode now inner id (some value) path options =
        some verdict) :
    verdict = Verdict.refuse path .forbidden ∨
      (value = .null ∧ verdict = Verdict.accept .null) ∨
      ∃ rule,
        g.Judges id value rule ∧
          g.checkRule now inner rule value path options =
            some verdict := by
  cases hNode : g.node? id with
  | none => simp [checkNode, hNode] at hCheck
  | some v =>
      by_cases hPresence : v.presence = .forbidden
      · rw [checkNode_of_forbidden hNode hPresence] at hCheck
        exact Or.inl (Option.some.inj hCheck).symm
      by_cases hNull : value ≠ .null ∨ v.allowNull = false
      · rw [checkNode_of_permits hNode hPresence hNull] at hCheck
        exact Or.inr (Or.inr
          ⟨v.rule, ⟨v, hNode, rfl, hPresence, hNull⟩, hCheck⟩)
      · push Not at hNull
        have hAllows : v.allowNull = true := by simpa using hNull.2
        rw [hNull.1, checkNode_null hNode hPresence hAllows]
          at hCheck
        exact Or.inr (Or.inl
          ⟨hNull.1, (Option.some.inj hCheck).symm⟩)

/- The check goes to validators that the one before mentions. -/
theorem Enters.mentions
    {place next : Place}
    (hEnters : g.Enters now place next) :
    g.Mentions place.id next.id := by
  cases hEnters with
  | content id target value path c hRule hCell =>
      exact hRule.mentions (by simp [Rule.references, hCell])
  | alternative id chosen value accepted path before after hRule =>
      exact hRule.mentions (by simp [Rule.references])
  | property id property rule members name path given hRule
      hProperty =>
      exact hRule.mentions
        (List.mem_append_left _ (List.mem_map_of_mem hProperty))
  | key id schema rule members name path given hRule hUnknown =>
      exact hRule.mentions (by simp [Rule.references, hUnknown])
  | item id schema rule items i path given hRule hItems =>
      exact hRule.mentions (by simp [Rule.references, hItems])

/- Rules of other kinds ask for nothing that can be undone. -/
theorem stillMeets_of_kind
    {place : Place}
    {kind : String}
    (hKind :
      (g.node? place.id).map (fun v => v.rule.kind) = some kind)
    (hOther : kind ∉ ["object", "array", "alternatives"])
    (accepted : Json) :
    g.StillMeets now place accepted := by
  constructor
  · intro rule kept least hJudges
    have hSame := hJudges.kind_eq hKind
    exact absurd (by simp [← hSame, Rule.kind]) hOther
  · intro rule held hJudges
    have hSame := hJudges.kind_eq hKind
    exact absurd (by simp [← hSame, Rule.kind]) hOther
  · intro before chosen after hJudges
    have hSame := hJudges.kind_eq hKind
    exact absurd (by simp [← hSame, Rule.kind]) hOther

/- A value that a rule accepts as it is, the validator does. -/
theorem check_of_checkRule
    {id : ValidatorId}
    {v : Validator}
    {value : Json}
    {options : CheckOptions}
    (hNode : g.node? id = some v)
    (hPresence : v.presence ≠ .forbidden)
    (hRule :
      g.checkRule now (g.check now) v.rule value path options =
        some (Verdict.accept value)) :
    g.check now id (some value) path options =
      some (Verdict.accept value) := by
  rw [check_eq_checkNode]
  by_cases hNull : value ≠ .null ∨ v.allowNull = false
  · rw [checkNode_of_permits hNode hPresence hNull]
    exact hRule
  · push Not at hNull
    rw [hNull.1]
    exact checkNode_null hNode hPresence (by simpa using hNull.2)
      _ _ _ _

/- A verdict within a budget is the verdict of the check. -/
theorem carries_check
    (g : Graph)
    (now : Calendar.Instant)
    (budget : Nat)
    (value : Json)
    (path : String) :
    Carries (g.checkWithin now budget) (g.check now) value path :=
  fun _ _ _ _ _ _ hInner => check_eq_some_iff.mpr ⟨budget, hInner⟩

/-
  What a rule accepts it accepts again, if this holds at the
  places that the check of the rule enters, and what dropping
  keys can undo still holds.
-/
theorem checkRule_stays
    {budget : Nat}
    {id : ValidatorId}
    {rule : Rule}
    {value accepted : Json}
    (hOrdered : rule.Ordered)
    (hJudges : g.Judges id value rule)
    (hStays :
      ∀ next, g.Enters now ⟨id, value, path⟩ next →
        next.Stays (g.checkWithin now budget) (g.check now))
    (hMeets : g.StillMeets now ⟨id, value, path⟩ accepted)
    (hCheck :
      g.checkRule now (g.checkWithin now budget) rule value path
          ⟨true⟩ =
        some (Verdict.accept accepted)) :
    g.checkRule now (g.check now) rule accepted path ⟨true⟩ =
      some (Verdict.accept accepted) := by
  have hInner := checkWithin_answers g now budget
  have hCarries := carries_check g now budget
  by_cases hPasses : rule.PassesOn
  · cases rule with
    | deferred c =>
        simp only [checkRule] at hCheck ⊢
        cases hCell : g.cell? c with
        | none => rfl
        | some target =>
            simp only [hCell] at hCheck
            exact hStays _
              (.content id target value path c hJudges hCell)
              accepted hCheck
    | alternatives branches =>
        rcases exists_first_of_checkAlternatives hCheck with
          ⟨before, chosen, after, rfl, hBefore, hChosen⟩
        have hSelf : Inside value path (some value) path :=
          Or.inl ⟨rfl, rfl⟩
        have hRefuse :
            AllRefuse (g.check now) value path ⟨true⟩ before := by
          intro other hMem
          rcases hBefore other hMem with ⟨vs, hOther⟩
          exact ⟨vs, hCarries value path _ _ _ _ _ hSelf hOther⟩
        have hAccept :=
          hCarries value path _ _ _ _ _ hSelf hChosen
        exact checkAlternatives_stays
          (hStays _
            (.alternative id chosen value accepted path before after
              hJudges hRefuse hAccept)
            accepted hChosen)
          (hMeets.earlier before chosen after hJudges hRefuse
            hAccept)
    | object rule =>
        rcases acceptedObject_of_checkObject hInner hCheck with
          ⟨members, kept, rfl, hSame, hAccepted⟩
        cases hSame
        have hSorted :
            Members.Sorted (rule.properties.getD []) := by
          cases hProperties : rule.properties with
          | none => exact List.Pairwise.nil
          | some properties => exact hOrdered properties hProperties
        apply checkObject_stays hInner _ hSorted hAccepted
        · intro name property given hProperty hGiven
          exact hStays _
            (.property id property rule members name path given
              hJudges hProperty hGiven)
        · intro name schema given hUnknown hUndeclared hGiven
          exact hStays _
            (.key id schema rule members name path given hJudges
              hUnknown hUndeclared hGiven)
        · intro least hLeast
          exact hMeets.count rule kept least hJudges rfl hLeast
        · intro other place options verdict hVerdict
          exact check_eq_some_iff.mpr ⟨budget, hVerdict⟩
    | array rule =>
        rcases acceptedItems_of_checkArray hInner hCheck with
          ⟨items, held, rfl, hSame, hItems, hLength, hVerdicts⟩
        cases hSame
        apply checkArray_stays hItems hLength hVerdicts
        · intro i schema given hSchema hGiven
          exact hStays _
            (.item id schema rule items i path given hJudges
              hSchema hGiven)
        · intro hUnique
          exact hMeets.distinct rule held hJudges rfl hUnique
    | _ => cases hPasses
  · -- Nothing but the given value is accepted.
    have hSame := (checkRule_keeps hPasses hCheck).given _ rfl
    cases hSame
    exact checkRule_transfer (hCarries _ path) hCheck

/-
  What a check accepts it accepts again, if what dropping
  keys can undo still holds wherever the check went.
-/
theorem check_accepted_of_stillMeets
    {budget : Nat}
    {id : ValidatorId}
    {value accepted : Json}
    (hOrdered : g.Ordered)
    (hCheck :
      g.checkWithin now budget id (some value) path ⟨true⟩ =
        some (Verdict.accept accepted))
    (hMeets :
      ∀ place result,
        Relation.ReflTransGen (g.Enters now) ⟨id, value, path⟩
            place →
          g.check now place.id (some place.value) place.path
                ⟨true⟩ =
              some (Verdict.accept result) →
            g.StillMeets now place result) :
    g.check now id (some accepted) path ⟨true⟩ =
      some (Verdict.accept accepted) := by
  induction budget generalizing id value accepted path with
  | zero => cases hCheck
  | succ budget ih =>
      have hStays :
          ∀ next, g.Enters now ⟨id, value, path⟩ next →
            next.Stays (g.checkWithin now budget)
              (g.check now) := by
        intro next hNext result hInner
        apply ih hInner
        intro place other hPath hPlace
        exact hMeets place other
          (Relation.ReflTransGen.head hNext hPath) hPlace
      have hHere : g.StillMeets now ⟨id, value, path⟩ accepted :=
        hMeets _ accepted Relation.ReflTransGen.refl
          (check_eq_some_iff.mpr ⟨budget + 1, hCheck⟩)
      have hAgain := check_eq_some_iff.mpr ⟨budget + 1, hCheck⟩
      rw [checkWithin] at hCheck
      rcases checkNode_cases hCheck with
        hRefused | ⟨rfl, hNull⟩ | ⟨rule, hJudges, hRule⟩
      · cases hRefused
      · -- An allowed `null` is accepted as it is.
        cases hNull
        exact hAgain
      · have hFound := hJudges
        rcases hFound with ⟨v, hNode, rfl, hPresence, _⟩
        exact check_of_checkRule hNode hPresence
          (checkRule_stays (hOrdered id v hNode) hJudges hStays
            hHere hRule)

end Graph

end SchemaGraph
