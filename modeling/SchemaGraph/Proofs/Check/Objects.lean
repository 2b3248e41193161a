import Mathlib
import SchemaGraph.Proofs.Check.Containers
import SchemaGraph.Proofs.Check.Outcomes
import SchemaGraph.Proofs.Check.Pruning

/-
  What an object rule makes of an object.  The object is
  accepted exactly if every declared property is as its
  validator asks, every other key may be there, and the keys
  are neither too few nor too many, those counted in that are
  dropped.  The accepted object has the keys that are not
  dropped.  Otherwise everything that is wrong is reported:
  in the declared properties, in the other keys, and in the
  number of keys.

  Main declarations:
    * `Graph.MeetsObject`
    * `Graph.KeepsMembers`
    * `Graph.objectViolations`
    * `Graph.checkObject_exact`
-/

namespace SchemaGraph

/- The members whose keys the rule does not declare. -/
def ObjectRule.undeclared
    (rule : ObjectRule)
    (members : List (String × Json)) : List (String × Json) :=
  members.filter (fun m =>
    ((rule.properties.getD []).lookup m.1).isNone)

namespace Graph

variable {g : Graph}
variable {now : Calendar.Instant}
variable {inner : Checker}
variable {rule : ObjectRule}
variable {members held : List (String × Json)}
variable {path : String}
variable {options : CheckOptions}

------------------------------------------------------------
-- Declared Properties
------------------------------------------------------------

/- The check of a declared property. -/
def checkProperty
    (g : Graph)
    (now : Calendar.Instant)
    (members : List (String × Json))
    (path : String)
    (options : CheckOptions)
    (property : String × ValidatorId) : Option Verdict :=
  g.check now property.2 (members.lookup property.1)
    (Violation.memberPath path property.1) options

/-
  Absent, the property is not required; given, it is not
  forbidden, and its validator accepts it.
-/
def MeetsProperty
    (g : Graph)
    (now : Calendar.Instant)
    (members : List (String × Json))
    (path : String)
    (options : CheckOptions)
    (name : String)
    (id : ValidatorId) : Prop :=
  ∃ v,
    g.node? id = some v ∧
      match members.lookup name with
      | none => v.presence ≠ .required
      | some x =>
          v.presence ≠ .forbidden ∧
            ∃ kept,
              g.check now id (some x)
                  (Violation.memberPath path name) options =
                some (Verdict.accept kept)

/- A property passes its check if it is as its validator asks. -/
theorem clean_checkProperty_iff
    {name : String}
    {id : ValidatorId} :
    (∃ verdict,
      g.checkProperty now members path options (name, id) =
          some verdict ∧
        verdict.violations = []) ↔
      g.MeetsProperty now members path options name id := by
  have hAccepts :=
    Verdict.exists_ok_iff
      (check_answers g now id (members.lookup name)
        (Violation.memberPath path name) options)
  unfold checkProperty MeetsProperty
  rw [← hAccepts]
  cases hNode : g.node? id with
  | none =>
      constructor
      · rintro ⟨accepted, hCheck⟩
        rw [check_eq_checkNode] at hCheck
        simp [checkNode, hNode] at hCheck
      · rintro ⟨v, hSome, _⟩
        cases hSome
  | some v =>
      simp only [Option.some.injEq, exists_eq_left']
      cases hGiven : members.lookup name with
      | none =>
          rw [check_none hNode]
          by_cases hRequired : v.presence = .required
          · simp [hRequired, Verdict.refuse]
          · simp [hRequired]
      | some x =>
          by_cases hForbidden : v.presence = .forbidden
          · rw [check_eq_checkNode,
              checkNode_of_forbidden hNode hForbidden]
            simp [hForbidden, Verdict.refuse]
          · rw [check_eq_ok_iff]
            simp [hForbidden]

------------------------------------------------------------
-- Other Keys
------------------------------------------------------------

/-
  A key that is not declared may be there: the validator for
  such keys accepts its value, or there is none, and either
  the rule declares no properties, or it allows or ignores
  other keys, or those are dropped.
-/
def AdmitsKey
    (g : Graph)
    (now : Calendar.Instant)
    (rule : ObjectRule)
    (path : String)
    (options : CheckOptions)
    (name : String)
    (x : Json) : Prop :=
  match rule.unknown with
  | .schema id =>
      ∃ kept,
        g.check now id (some x) (Violation.memberPath path name)
            options =
          some (Verdict.accept kept)
  | policy =>
      rule.properties = none ∨
        policy = .allow ∨ policy = .ignore ∨
        options.stripUnknown = true

/- What is reported of a key that is not declared. -/
def unknownViolations
    (g : Graph)
    (now : Calendar.Instant)
    (rule : ObjectRule)
    (path : String)
    (options : CheckOptions)
    (name : String)
    (x : Json) : List Violation :=
  match rule.unknown with
  | .schema id =>
      Verdict.reported
        (g.check now id (some x) (Violation.memberPath path name)
          options)
  | .reject =>
      if rule.properties.isSome ∧ options.stripUnknown = false then
        [Violation.of (Violation.memberPath path name) .unknownKey]
      else
        []
  | _ => []

/- A key that may be there gets no complaint. -/
theorem clean_unknownVerdict_iff
    {name : String}
    {x : Json} :
    (∃ verdict,
      unknownVerdict (g.check now) rule path options name x =
          some verdict ∧
        verdict.violations = []) ↔
      g.AdmitsKey now rule path options name x := by
  rcases options with ⟨strip⟩
  rcases rule with ⟨properties, unknown, least, most⟩
  unfold unknownVerdict AdmitsKey
  cases unknown with
  | schema id => exact clean_check_iff
  | _ =>
      cases properties <;> cases strip <;>
        simp [Verdict.violations, Verdict.refuse]

/- The answer on a key reports what there is to report. -/
theorem reported_unknownVerdict
    (name : String)
    (x : Json) :
    Verdict.reported
        (unknownVerdict (g.check now) rule path options name x) =
      g.unknownViolations now rule path options name x := by
  rcases options with ⟨strip⟩
  rcases rule with ⟨properties, unknown, least, most⟩
  unfold unknownVerdict unknownViolations
  cases unknown with
  | schema id => rfl
  | _ => cases properties <;> cases strip <;> rfl

/- There is an answer on a key if there is one of its validator. -/
theorem isSome_unknownVerdict_iff
    {name : String}
    {x : Json} :
    (unknownVerdict (g.check now) rule path options name x).isSome ↔
      ∀ id, rule.unknown = .schema id →
        (g.check now id (some x) (Violation.memberPath path name)
          options).isSome := by
  rcases options with ⟨strip⟩
  rcases rule with ⟨properties, unknown, least, most⟩
  unfold unknownVerdict
  cases unknown with
  | schema id => simp
  | _ => cases properties <;> cases strip <;> simp

------------------------------------------------------------
-- Parts of an Object
------------------------------------------------------------

/-
  The answers that the check of an object asks for, each with
  the key that it is about: on the declared properties, and
  then on the other keys.
-/
def objectParts
    (inner : Checker)
    (rule : ObjectRule)
    (members : List (String × Json))
    (path : String)
    (options : CheckOptions) : List (String × Option Verdict) :=
  (rule.properties.getD []).map (fun p =>
      (p.1, inner p.2 (members.lookup p.1)
        (Violation.memberPath path p.1) options))
    ++ (rule.undeclared members).map (fun m =>
      (m.1, unknownVerdict inner rule path options m.1 m.2))

/- The verdict on an object, from the answers on its parts. -/
theorem checkObject_object
    (inner : Checker)
    (rule : ObjectRule)
    (members : List (String × Json))
    (path : String)
    (options : CheckOptions) :
    checkObject inner rule (.object members) path options =
      ((objectParts inner rule members path options).mapM
          (fun part : String × Option Verdict =>
            part.2.map (fun verdict => (part.1, verdict)))).map
        (Verdict.ofParts
          (fun verdicts => .object (acceptedMembers verdicts))
          (fun entry => entry.2.violations)
          (rule.checkCount members.length path)) := by
  unfold objectParts
  rw [List.mapM_append, List.mapM_map, List.mapM_map,
    Option.map_eq_bind]
  simp only [checkObject, declaredVerdicts, unknownVerdicts,
    Option.bind_eq_bind, Option.bind_assoc]
  rfl

/- Something holds of all parts if it does of both kinds. -/
theorem forall_mem_objectParts_iff
    {good : String × Option Verdict → Prop} :
    (∀ part ∈ objectParts (g.check now) rule members path options,
      good part) ↔
      (∀ name id, (name, id) ∈ rule.properties.getD [] →
        good (name, g.checkProperty now members path options
          (name, id))) ∧
        ∀ name x, (name, x) ∈ rule.undeclared members →
          good (name,
            unknownVerdict (g.check now) rule path options name
              x) := by
  unfold objectParts
  rw [List.forall_mem_append, List.forall_mem_map,
    List.forall_mem_map, Prod.forall, Prod.forall]
  rfl

------------------------------------------------------------
-- Objects
------------------------------------------------------------

/-
  The checks of all declared properties end, and those of the
  other keys, if there is a validator for them.
-/
def MembersEnd
    (g : Graph)
    (now : Calendar.Instant)
    (rule : ObjectRule)
    (members : List (String × Json))
    (path : String)
    (options : CheckOptions) : Prop :=
  (∀ name id, (name, id) ∈ rule.properties.getD [] →
    (g.checkProperty now members path options (name, id)).isSome) ∧
    ∀ name x, (name, x) ∈ rule.undeclared members →
      ∀ id, rule.unknown = .schema id →
        (g.check now id (some x) (Violation.memberPath path name)
          options).isSome

/- The object is as the rule asks. -/
structure MeetsObject
    (g : Graph)
    (now : Calendar.Instant)
    (rule : ObjectRule)
    (members : List (String × Json))
    (path : String)
    (options : CheckOptions) : Prop where
  declared :
    ∀ name id, (name, id) ∈ rule.properties.getD [] →
      g.MeetsProperty now members path options name id
  others :
    ∀ name x, (name, x) ∈ rule.undeclared members →
      g.AdmitsKey now rule path options name x
  least : ∀ n, rule.minProperties = some n → n ≤ members.length
  most : ∀ n, rule.maxProperties = some n → members.length ≤ n

/-
  What is kept of an object: every key that is not dropped,
  with the value that its validator accepts, or as it is if
  it has none.
-/
structure KeepsMembers
    (g : Graph)
    (now : Calendar.Instant)
    (rule : ObjectRule)
    (members held : List (String × Json))
    (path : String)
    (options : CheckOptions) : Prop where
  sorted : Members.Sorted held
  keys :
    ∀ name,
      (∃ y, (name, y) ∈ held) ↔
        (∃ x, (name, x) ∈ members) ∧
          ¬ (options.stripUnknown = true ∧ rule.Drops name)
  judged :
    ∀ name id x y,
      rule.Asks name id →
        (name, x) ∈ members → (name, y) ∈ held →
          g.check now id (some x) (Violation.memberPath path name)
              options =
            some (Verdict.accept y)
  free :
    ∀ name x y,
      (∀ id, ¬ rule.Asks name id) →
        (name, x) ∈ members → (name, y) ∈ held → y = x

/-
  What is reported of an object: of its declared properties,
  of its other keys, and of their number.
-/
def objectViolations
    (g : Graph)
    (now : Calendar.Instant)
    (rule : ObjectRule)
    (members : List (String × Json))
    (path : String)
    (options : CheckOptions) : List Violation :=
  (rule.properties.getD []).flatMap (fun p =>
      Verdict.reported (g.checkProperty now members path options p))
    ++ (rule.undeclared members).flatMap (fun m =>
      g.unknownViolations now rule path options m.1 m.2)
    ++ (countComplaints .tooFewKeys .tooManyKeys rule.minProperties
        rule.maxProperties members.length).map (Violation.of path)

/- The parts report what is reported of an object besides counts. -/
theorem flatMap_objectParts :
    (objectParts (g.check now) rule members path options).flatMap
        (fun part =>
          ((part.2.map (fun verdict => (part.1, verdict))).map
            (fun entry => entry.2.violations)).getD []) ++
        rule.checkCount members.length path =
      g.objectViolations now rule members path options := by
  unfold objectViolations objectParts
  rw [List.flatMap_append, List.flatMap_map, List.flatMap_map,
    ObjectRule.checkCount_eq]
  congr 2
  · apply List.flatMap_congr
    rintro ⟨name, id⟩ _
    simp only [Option.map_map]
    rfl
  · apply List.flatMap_congr
    rintro ⟨name, x⟩ _
    rw [← reported_unknownVerdict]
    simp only [Option.map_map]
    rfl

/- A part is clean if its answer has no violations. -/
theorem exists_clean_part_iff
    {name : String}
    {outcome : Option Verdict} :
    (∃ entry,
      outcome.map (fun verdict => (name, verdict)) = some entry ∧
        entry.2.violations = []) ↔
      ∃ verdict, outcome = some verdict ∧ verdict.violations = [] := by
  constructor
  · rintro ⟨entry, hEntry, hNone⟩
    rcases Option.map_eq_some_iff.mp hEntry with
      ⟨verdict, hVerdict, rfl⟩
    exact ⟨verdict, hVerdict, hNone⟩
  · rintro ⟨verdict, rfl, hNone⟩
    exact ⟨_, rfl, hNone⟩

------------------------------------------------------------
-- Accepted Objects
------------------------------------------------------------

/- A key that is dropped gets no value. -/
theorem unknownVerdict_of_drops
    {name : String}
    (hDrops : rule.Drops name)
    (hStrip : options.stripUnknown = true)
    (x : Json) :
    unknownVerdict inner rule path options name x =
      some (.ok none) := by
  rcases hDrops with ⟨hProperties, _, hPolicy⟩
  have hSome : rule.properties.isNone = false := by
    simpa [Option.isSome_iff_ne_none] using hProperties
  rcases hPolicy with hPolicy | hPolicy <;>
    simp [unknownVerdict, hPolicy, hSome, hStrip]

/- A key that is dropped is not kept. -/
theorem AcceptedObject.not_drops
    {name : String}
    {y : Json}
    (hAccepted :
      AcceptedObject inner rule members held path options)
    (hStrip : options.stripUnknown = true)
    (hHeld : (name, y) ∈ held) :
    ¬ rule.Drops name := by
  intro hDrops
  rcases hAccepted.origin name y hHeld with
    ⟨id, hProperty, _⟩ | ⟨_, x, _, hVerdict⟩
  · have hUndeclared :=
      (Members.lookup_eq_none_iff_not_mem _ _).mp hDrops.2.1
    exact hUndeclared (List.mem_map_of_mem hProperty)
  · rw [unknownVerdict_of_drops hDrops hStrip] at hVerdict
    cases hVerdict

/- What is kept under a key is what its validator accepts. -/
theorem AcceptedObject.judged
    {name : String}
    {id : ValidatorId}
    {x y : Json}
    (hAccepted :
      AcceptedObject inner rule members held path options)
    (hProperties : Members.Sorted (rule.properties.getD []))
    (hMembers : Members.Sorted members)
    (hAsks : rule.Asks name id)
    (hGiven : (name, x) ∈ members)
    (hHeld : (name, y) ∈ held) :
    inner id (some x) (Violation.memberPath path name) options =
      some (Verdict.accept y) := by
  have hLookup := Members.lookup_of_mem hMembers hGiven
  rcases hAsks with hProperty | ⟨hUndeclared, hUnknown⟩
  · have hFound := hAccepted.found hProperties hProperty hHeld
    rw [hLookup] at hFound
    exact hFound
  · rcases hAccepted.origin name y hHeld with
      ⟨other, hProperty, _⟩ | ⟨_, given, hOther, hVerdict⟩
    · have hDeclared := Members.lookup_of_mem hProperties hProperty
      rw [hUndeclared] at hDeclared
      cases hDeclared
    · have hSame := Members.lookup_of_mem hMembers hOther
      rw [hLookup] at hSame
      cases hSame
      simp only [unknownVerdict, hUnknown] at hVerdict
      exact hVerdict

/- A key is kept unless it is dropped. -/
theorem keepsMembers_of_checkObject
    (hProperties : Members.Sorted (rule.properties.getD []))
    (hMembers : Members.Sorted members)
    (hCheck :
      checkObject (g.check now) rule (.object members) path options =
        some (Verdict.accept (.object held))) :
    g.KeepsMembers now rule members held path options := by
  have hAnswers := check_answers g now
  rcases acceptedObject_of_checkObject hAnswers hCheck with
    ⟨_, _, hSame, hKept, hAccepted⟩
  cases hSame
  cases hKept
  refine ⟨hAccepted.sorted, ?_, ?_, ?_⟩
  · intro name
    constructor
    · rintro ⟨y, hHeld⟩
      rcases hAccepted.given hAnswers hHeld with ⟨x, hGiven, _⟩
      refine ⟨⟨x, hGiven⟩, ?_⟩
      rintro ⟨hStrip, hDrops⟩
      exact hAccepted.not_drops hStrip hHeld hDrops
    · rintro ⟨⟨x, hGiven⟩, hStays⟩
      rcases keepsOrDrops_of_checkObject hAnswers hMembers hCheck
          hGiven with hHeld | hDropped
      · exact hHeld
      · exact absurd hDropped hStays
  · intro name id x y hAsks hGiven hHeld
    exact hAccepted.judged hProperties hMembers hAsks hGiven hHeld
  · intro name x y hFree hGiven hHeld
    rcases hAccepted.given hAnswers hHeld with
      ⟨other, hOther, rfl | ⟨id, hAsks, _⟩⟩
    · have hFirst := Members.lookup_of_mem hMembers hOther
      rw [Members.lookup_of_mem hMembers hGiven] at hFirst
      exact (Option.some.inj hFirst).symm
    · exact absurd hAsks (hFree id)

/-
  An object is checked exactly as its rule says: the check
  ends if the checks of the members do, it accepts what meets
  the rule and keeps the members that are not dropped, and it
  reports everything that is wrong with anything else.  Names
  are kept in order, and things are reported in this order.
-/
theorem checkObject_exact
    (g : Graph)
    (now : Calendar.Instant)
    (rule : ObjectRule)
    (members : List (String × Json))
    (path : String)
    (options : CheckOptions)
    (hProperties : Members.Sorted (rule.properties.getD []))
    (hMembers : Members.Sorted members) :
    let outcome :=
      checkObject (g.check now) rule (.object members) path options
    (outcome.isSome ↔ g.MembersEnd now rule members path options) ∧
      ((∃ accepted, outcome = some (.ok accepted)) ↔
        g.MeetsObject now rule members path options) ∧
      (∀ accepted, outcome = some (.ok accepted) →
        ∃ held,
          accepted = some (.object held) ∧
            g.KeepsMembers now rule members held path options) ∧
      (∀ vs, outcome = some (.error vs) →
        vs = g.objectViolations now rule members path options) := by
  intro outcome
  have hOutcome : outcome = _ := checkObject_object _ _ _ _ _
  refine ⟨?_, ?_, ?_, ?_⟩
  · rw [hOutcome]
    refine Verdict.isSome_ofParts_iff.trans ?_
    rw [forall_mem_objectParts_iff]
    simp only [Option.isSome_map, isSome_unknownVerdict_iff]
    rfl
  · rw [hOutcome]
    refine Verdict.exists_ok_ofParts_iff.trans ?_
    simp only [forall_mem_objectParts_iff, exists_clean_part_iff,
      clean_checkProperty_iff, clean_unknownVerdict_iff,
      ObjectRule.checkCount_eq_nil_iff]
    exact ⟨fun h => ⟨h.1.1, h.1.2, h.2.1, h.2.2⟩,
      fun h => ⟨⟨h.declared, h.others⟩, h.least, h.most⟩⟩
  · intro accepted hOk
    rcases acceptedObject_of_checkObject (check_answers g now) hOk
      with ⟨_, held, hSame, rfl, _⟩
    cases hSame
    exact ⟨held, rfl,
      keepsMembers_of_checkObject hProperties hMembers hOk⟩
  · intro vs hError
    rw [hOutcome] at hError
    have hViolations := Verdict.violations_of_ofParts hError
    rw [flatMap_objectParts] at hViolations
    exact hViolations

/- A flag, a value that is needed and one that must not be there. -/
def guarding : Graph where
  nodes :=
    #[{ rule := .boolean },
      { rule := .any, presence := .forbidden },
      { rule := .boolean, presence := .required }]
  cells := #[]

/- Two keys, none but those that are declared. -/
def guarded : ObjectRule where
  properties := some [("flag", ⟨0⟩), ("gone", ⟨1⟩), ("need", ⟨2⟩)]
  minProperties := some 2
  maxProperties := some 2

/-
  Everything that is wrong is reported.  A key that is
  dropped is counted, too.
-/
theorem checkObject_exact_guarded :
    let wrong :=
      [("flag", .null), ("gone", .null), ("more", .null)]
    let right := [("more", .null), ("need", .bool true)]
    Members.Sorted (guarded.properties.getD []) ∧
      Members.Sorted wrong ∧
      Members.Sorted right ∧
      ¬ guarding.MeetsObject ⟨0, ⟨0, 0⟩⟩ guarded wrong "/x" {} ∧
      guarding.objectViolations ⟨0, ⟨0, 0⟩⟩ guarded wrong "/x" {} =
        [.of "/x/flag" .notBoolean, .of "/x/gone" .forbidden,
          .of "/x/need" .required, .of "/x/more" .unknownKey,
          .of "/x" (.tooManyKeys 2)] ∧
      guarding.MeetsObject ⟨0, ⟨0, 0⟩⟩ guarded right "/x" ⟨true⟩ ∧
      guarding.KeepsMembers ⟨0, ⟨0, 0⟩⟩ guarded right
        [("need", .bool true)] "/x" ⟨true⟩ := by
  intro wrong right
  have hProperties : Members.Sorted (guarded.properties.getD []) := by
    decide +kernel
  have hWrong : Members.Sorted wrong := by
    decide +kernel
  have hRight : Members.Sorted right := by
    decide +kernel
  have hRefused :
      checkObject (guarding.check ⟨0, ⟨0, 0⟩⟩) guarded
          (.object wrong) "/x" {} =
        some (.error
          [.of "/x/flag" .notBoolean, .of "/x/gone" .forbidden,
            .of "/x/need" .required, .of "/x/more" .unknownKey,
            .of "/x" (.tooManyKeys 2)]) := by
    rfl
  have hAccepted :
      checkObject (guarding.check ⟨0, ⟨0, 0⟩⟩) guarded
          (.object right) "/x" ⟨true⟩ =
        some (Verdict.accept (.object [("need", .bool true)])) := by
    rfl
  rcases checkObject_exact guarding ⟨0, ⟨0, 0⟩⟩ guarded wrong "/x" {}
      hProperties hWrong with ⟨_, hMeets, _, hReports⟩
  rcases checkObject_exact guarding ⟨0, ⟨0, 0⟩⟩ guarded right "/x"
      ⟨true⟩ hProperties hRight with ⟨_, hPasses, hKeeps, _⟩
  refine ⟨hProperties, hWrong, hRight, ?_,
    (hReports _ hRefused).symm, hPasses.mp ⟨_, hAccepted⟩, ?_⟩
  · intro hMeet
    rcases hMeets.mpr hMeet with ⟨accepted, hOk⟩
    rw [hRefused] at hOk
    cases hOk
  · rcases hKeeps _ hAccepted with ⟨held, hSame, hHeld⟩
    cases hSame
    exact hHeld

end Graph

end SchemaGraph
