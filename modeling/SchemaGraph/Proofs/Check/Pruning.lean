import Mathlib
import SchemaGraph.Proofs.Check.Stripping

/-
  What a check makes of the values that it accepts.  Nothing
  is changed but that objects lose keys, and they lose none
  but those that the validator judging the object does not
  declare, and only if unknown keys are to be dropped.

  Main declarations:
    * `Json.Prunes`
    * `ObjectRule.Drops`
    * `ObjectRule.Asks`
    * `Graph.Trims`
    * `Graph.Trims.prunes`
    * `Graph.checkObject_reduces`
    * `Graph.checkArray_reduces`
    * `Graph.checkWithin_reduces`
    * `Graph.check_accepted_prunes`
-/

namespace SchemaGraph

------------------------------------------------------------
-- Canonical Values
------------------------------------------------------------

namespace Json

/- The items of a canonical array are canonical. -/
theorem Canonical.item
    {items : List Json}
    {x : Json}
    (hCanonical : (array items).Canonical)
    (hMem : x ∈ items) :
    x.Canonical := by
  have hItems : CanonicalItems items := by
    simpa [Canonical] using hCanonical
  clear hCanonical
  induction items with
  | nil => cases hMem
  | cons y rest ih =>
      rw [CanonicalItems] at hItems
      rcases List.mem_cons.mp hMem with rfl | hRest
      · exact hItems.1
      · exact ih hRest hItems.2

/- The members of a canonical object are in order. -/
theorem Canonical.sorted
    {members : List (String × Json)}
    (hCanonical : (object members).Canonical) :
    Members.Sorted members := by
  rw [Canonical] at hCanonical
  exact hCanonical.1

/- The members of a canonical object are canonical. -/
theorem Canonical.member
    {members : List (String × Json)}
    {name : String}
    {x : Json}
    (hCanonical : (object members).Canonical)
    (hMem : (name, x) ∈ members) :
    x.Canonical := by
  rw [Canonical] at hCanonical
  have hMembers := hCanonical.2
  clear hCanonical
  induction members with
  | nil => cases hMem
  | cons entry rest ih =>
      rcases entry with ⟨other, y⟩
      rw [CanonicalMembers] at hMembers
      rcases List.mem_cons.mp hMem with hFirst | hRest
      · cases hFirst
        exact hMembers.1
      · exact ih hRest hMembers.2

end Json

/- Names in order are part of other names, if they are among them. -/
theorem Members.names_sublist
    {α β : Type}
    {members : List (String × α)}
    {others : List (String × β)}
    (hSorted : Sorted members)
    (hOthers : Sorted others)
    (hNames :
      members.map (fun e => e.1) ⊆ others.map (fun e => e.1)) :
    (members.map (fun e => e.1)).Sublist
      (others.map (fun e => e.1)) := by
  have hAntisymm : Std.Antisymm (fun a b : String => a < b) :=
    ⟨fun a b hBefore hAfter => absurd hAfter (lt_asymm hBefore)⟩
  exact List.sublist_of_subperm_of_pairwise
    ((nodup_names hSorted).subperm hNames)
    (List.pairwise_map.mpr hSorted) (List.pairwise_map.mpr hOthers)

------------------------------------------------------------
-- Values without Some of Their Members
------------------------------------------------------------

/-
  A value is another one with nothing changed but that some
  objects inside it have lost members.
-/
inductive Json.Prunes : Json → Json → Prop where
  /- Nothing is lost. -/
  | same
      (value : Json) :
      Prunes value value
  /- The items of an array stay, in their order. -/
  | array
      (items held : List Json)
      (hLength : held.length = items.length)
      (hItems :
        ∀ (i : Nat) (x y : Json),
          items[i]? = some x → held[i]? = some y → Prunes x y) :
      Prunes (.array items) (.array held)
  /- The members that are kept stay under their names. -/
  | object
      (members kept : List (String × Json))
      (hNames :
        (kept.map (fun e => e.1)).Sublist
          (members.map (fun e => e.1)))
      (hKept :
        ∀ name x y,
          members.lookup name = some x →
            kept.lookup name = some y →
              Prunes x y) :
      Prunes (.object members) (.object kept)

/- The rule neither declares the key nor checks or allows others. -/
def ObjectRule.Drops
    (rule : ObjectRule)
    (name : String) : Prop :=
  rule.properties.isSome = true ∧
    (rule.properties.getD []).lookup name = none ∧
    (rule.unknown = .reject ∨ rule.unknown = .ignore)

/- The rule has the validator check the value of the key. -/
def ObjectRule.Asks
    (rule : ObjectRule)
    (name : String)
    (id : ValidatorId) : Prop :=
  (name, id) ∈ rule.properties.getD [] ∨
    ((rule.properties.getD []).lookup name = none ∧
      rule.unknown = .schema id)

namespace Graph

variable {g : Graph}
variable {now : Calendar.Instant}
variable {inner : Checker}
variable {path : String}
variable {options : CheckOptions}

/-
  The validator makes one value of another by dropping keys
  of objects, none of which the validator that judges the
  object declares.
-/
inductive Trims
    (g : Graph) : ValidatorId → Json → Json → Prop where
  /- Nothing is dropped. -/
  | whole
      (id : ValidatorId)
      (value : Json) :
      Trims g id value value
  /- The content of a cell decides. -/
  | content
      (id target : ValidatorId)
      (value kept : Json)
      (c : CellId)
      (hRule : g.Judges id value (.deferred c))
      (hCell : g.cell? c = some target)
      (hKept : Trims g target value kept) :
      Trims g id value kept
  /- One of the alternatives decides. -/
  | alternative
      (id chosen : ValidatorId)
      (value kept : Json)
      (branches : List ValidatorId)
      (hRule : g.Judges id value (.alternatives branches))
      (hChosen : chosen ∈ branches)
      (hKept : Trims g chosen value kept) :
      Trims g id value kept
  /- The validator for items decides on each of them. -/
  | array
      (id : ValidatorId)
      (rule : ArrayRule)
      (items held : List Json)
      (hRule : g.Judges id (.array items) (.array rule))
      (hLength : held.length = items.length)
      (hOpen : rule.items = none → held = items)
      (hItems :
        ∀ (schema : ValidatorId) (i : Nat) (x y : Json),
          rule.items = some schema →
            items[i]? = some x →
              held[i]? = some y →
                Trims g schema x y) :
      Trims g id (.array items) (.array held)
  /- A kept member has a validator, or it is as it was. -/
  | object
      (id : ValidatorId)
      (rule : ObjectRule)
      (members kept : List (String × Json))
      (judge : String → ValidatorId)
      (hRule : g.Judges id (.object members) (.object rule))
      (hNames :
        (kept.map (fun e => e.1)).Sublist
          (members.map (fun e => e.1)))
      (hDropped :
        ∀ name x,
          members.lookup name = some x →
            kept.lookup name = none →
              rule.Drops name)
      (hJudge :
        ∀ name x y,
          members.lookup name = some x →
            kept.lookup name = some y →
              rule.Asks name (judge name) ∨ y = x)
      (hKept :
        ∀ name x y,
          members.lookup name = some x →
            kept.lookup name = some y →
              Trims g (judge name) x y) :
      Trims g id (.object members) (.object kept)

/- Dropping keys changes nothing else. -/
theorem Trims.prunes
    {id : ValidatorId}
    {value kept : Json}
    (hTrims : g.Trims id value kept) :
    value.Prunes kept := by
  induction hTrims with
  | whole id value => exact .same value
  | content id target value kept c hRule hCell hKept ih => exact ih
  | alternative id chosen value kept branches hRule hChosen hKept
      ih => exact ih
  | array id rule items held hRule hLength hOpen hItems ih =>
      refine .array items held hLength ?_
      intro i x y hGiven hHeld
      cases hSchema : rule.items with
      | none =>
          rw [hOpen hSchema, hGiven] at hHeld
          cases hHeld
          exact .same x
      | some schema => exact ih schema i x y hSchema hGiven hHeld
  | object id rule members kept judge hRule hNames hDropped hJudge
      hKept ih => exact .object members kept hNames ih

/-
  What a checker accepts of a value is the value without
  some keys that are not declared, or all of the value if
  such keys are not to be dropped.
-/
structure Reduces
    (g : Graph)
    (options : CheckOptions)
    (id : ValidatorId)
    (value kept : Json) : Prop where
  exact : options.stripUnknown = false → kept = value
  trims : g.Trims id value kept

/- A value that is accepted as it is loses nothing. -/
theorem Reduces.refl
    (g : Graph)
    (options : CheckOptions)
    (id : ValidatorId)
    (value : Json) :
    g.Reduces options id value value where
  exact := fun _ => rfl
  trims := .whole id value

/- All that a checker accepts is what it was given, reduced. -/
def Reducing
    (g : Graph)
    (inner : Checker) : Prop :=
  ∀ id value path options kept,
    value.Canonical →
      inner id (some value) path options =
          some (Verdict.accept kept) →
        g.Reduces options id value kept

------------------------------------------------------------
-- Objects
------------------------------------------------------------

section Objects

variable {rule : ObjectRule}
variable {members kept : List (String × Json)}

/- An undeclared key is kept, or it may be dropped. -/
theorem unknownVerdict_keepsOrDrops
    {name : String}
    {x : Json}
    {verdict : Verdict}
    (hInner : inner.Answers)
    (hUndeclared : (rule.properties.getD []).lookup name = none)
    (hVerdict :
      unknownVerdict inner rule path options name x =
        some verdict)
    (hClean : verdict.violations = []) :
    (∃ y, verdict = .ok (some y)) ∨
      (options.stripUnknown = true ∧ rule.Drops name) := by
  rcases unknownVerdict_cases hVerdict with
    ⟨id, _, hFound⟩ | rfl | ⟨hProperties, hPolicy, hStrip, _⟩ |
      ⟨_, rfl⟩
  · have hAnswers := hInner _ _ _ _ _ hFound
    rcases hAnswers.exists_ok hClean with ⟨result, rfl, _⟩
    rcases hAnswers.exists_some with ⟨y, rfl⟩
    exact Or.inl ⟨y, rfl⟩
  · exact Or.inl ⟨x, rfl⟩
  · exact Or.inr ⟨hStrip, hProperties, hUndeclared, hPolicy⟩
  · cases hClean

/- A given member is kept, or it may be dropped. -/
theorem keepsOrDrops_of_checkObject
    {name : String}
    {x : Json}
    (hInner : inner.Answers)
    (hSorted : Members.Sorted members)
    (hCheck :
      checkObject inner rule (.object members) path options =
        some (Verdict.accept (.object kept)))
    (hGiven : (name, x) ∈ members) :
    (∃ y, (name, y) ∈ kept) ∨
      (options.stripUnknown = true ∧ rule.Drops name) := by
  simp only [checkObject, Option.bind_eq_bind,
    Option.bind_eq_some_iff, Option.pure_def,
    Option.some.injEq] at hCheck
  rcases hCheck with
    ⟨declared, hDeclared, unknown, hUnknown, hVerdict⟩
  rw [Verdict.accept, Verdict.ofViolations_eq_ok_iff,
    List.append_eq_nil_iff, List.flatMap_eq_nil_iff] at hVerdict
  rcases hVerdict with ⟨⟨hClean, _⟩, hAccepted⟩
  cases hAccepted
  cases hLookup : (rule.properties.getD []).lookup name with
  | some id =>
      rcases exists_answer_of_mapM hDeclared
          (mem_of_lookup_eq_some hLookup) with
        ⟨entry, hEntry, hFound⟩
      rcases Option.map_eq_some_iff.mp hFound with
        ⟨verdict, hVerdict, rfl⟩
      have hMem := List.mem_append_left unknown hEntry
      rw [Members.lookup_of_mem hSorted hGiven] at hVerdict
      have hAnswers := hInner _ _ _ _ _ hVerdict
      rcases hAnswers.exists_ok (hClean _ hMem) with
        ⟨result, rfl, _⟩
      rcases hAnswers.exists_some with ⟨y, rfl⟩
      exact Or.inl (exists_mem_acceptedMembers hMem)
  | none =>
      have hFilter :
          (name, x) ∈
            members.filter (fun m =>
              ((rule.properties.getD []).lookup m.1).isNone) :=
        List.mem_filter.mpr ⟨hGiven, by simp [hLookup]⟩
      rcases exists_answer_of_mapM hUnknown hFilter with
        ⟨entry, hEntry, hFound⟩
      rcases Option.map_eq_some_iff.mp hFound with
        ⟨verdict, hVerdict, rfl⟩
      have hMem := List.mem_append_right declared hEntry
      rcases unknownVerdict_keepsOrDrops hInner hLookup hVerdict
          (hClean _ hMem) with ⟨y, rfl⟩ | hDrops
      · exact Or.inl (exists_mem_acceptedMembers hMem)
      · exact Or.inr hDrops

/-
  What is kept was given under the same name, and is what a
  validator accepts of it, or just that.
-/
theorem AcceptedObject.given
    {name : String}
    {y : Json}
    (hAccepted :
      AcceptedObject inner rule members kept path options)
    (hInner : inner.Answers)
    (hKept : (name, y) ∈ kept) :
    ∃ x, (name, x) ∈ members ∧
      (y = x ∨
        ∃ id, rule.Asks name id ∧
          inner id (some x) (Violation.memberPath path name)
              options =
            some (Verdict.accept y)) := by
  rcases hAccepted.origin name y hKept with
    ⟨id, hProperty, hVerdict⟩ | ⟨hUndeclared, x, hGiven, hVerdict⟩
  · have hAnswers := hInner _ _ _ _ _ hVerdict
    cases hLookup : members.lookup name with
    | none =>
        -- An absent value is never accepted with a value.
        rw [hLookup] at hAnswers
        cases hAnswers
    | some x =>
        rw [hLookup] at hVerdict
        exact ⟨x, mem_of_lookup_eq_some hLookup,
          Or.inr ⟨id, Or.inl hProperty, hVerdict⟩⟩
  · refine ⟨x, hGiven, ?_⟩
    rcases unknownVerdict_cases hVerdict with
      ⟨id, hUnknown, hFound⟩ | hSame | ⟨_, _, _, hNone⟩ |
        ⟨_, hRefuse⟩
    · exact Or.inr ⟨id, Or.inr ⟨hUndeclared, hUnknown⟩, hFound⟩
    · cases hSame
      exact Or.inl rfl
    · cases hNone
    · cases hRefuse

/- Each key of an accepted object has one validator to judge it. -/
theorem AcceptedObject.exists_judge
    (hAccepted :
      AcceptedObject inner rule members kept path options)
    (hInner : inner.Answers)
    (hReducing : g.Reducing inner)
    (hCanonical : (Json.object members).Canonical)
    (name : String) :
    ∃ judge, ∀ x y,
      members.lookup name = some x →
        kept.lookup name = some y →
          (rule.Asks name judge ∨ y = x) ∧
            g.Reduces options judge x y := by
  cases hKept : kept.lookup name with
  | none =>
      refine ⟨⟨0⟩, ?_⟩
      intro x y _ hSome
      cases hSome
  | some y =>
      rcases hAccepted.given hInner (mem_of_lookup_eq_some hKept)
        with ⟨x, hMem, hFound⟩
      have hGiven := Members.lookup_of_mem hCanonical.sorted hMem
      rw [hGiven]
      rcases hFound with rfl | ⟨id, hAsks, hVerdict⟩
      · refine ⟨⟨0⟩, ?_⟩
        rintro x' y' ⟨⟩ ⟨⟩
        exact ⟨Or.inr rfl, Reduces.refl g options _ y⟩
      · refine ⟨id, ?_⟩
        rintro x' y' ⟨⟩ ⟨⟩
        exact ⟨Or.inl hAsks,
          hReducing id x _ options y (hCanonical.member hMem)
            hVerdict⟩

/- An accepted object is the given one, reduced. -/
theorem checkObject_reduces
    {id : ValidatorId}
    {value accepted : Json}
    (hInner : inner.Answers)
    (hReducing : g.Reducing inner)
    (hCanonical : value.Canonical)
    (hJudges : g.Judges id value (.object rule))
    (hCheck :
      checkObject inner rule value path options =
        some (Verdict.accept accepted)) :
    g.Reduces options id value accepted := by
  rcases acceptedObject_of_checkObject hInner hCheck with
    ⟨members, kept, rfl, hSame, hAccepted⟩
  cases hSame
  have hSorted := hCanonical.sorted
  have hNames :
      kept.map (fun e => e.1) ⊆ members.map (fun e => e.1) := by
    intro name hName
    rcases List.mem_map.mp hName with ⟨⟨same, y⟩, hMem, rfl⟩
    rcases hAccepted.given hInner hMem with ⟨x, hGiven, _⟩
    exact List.mem_map.mpr ⟨(same, x), hGiven, rfl⟩
  have hKeeps :
      ∀ name x, (name, x) ∈ members →
        (∃ y, (name, y) ∈ kept) ∨
          (options.stripUnknown = true ∧ rule.Drops name) :=
    fun name x hGiven =>
      keepsOrDrops_of_checkObject hInner hSorted hCheck hGiven
  choose judge hJudge using
    hAccepted.exists_judge hInner hReducing hCanonical
  constructor
  · intro hStrip
    apply congrArg Json.object
    apply Members.eq_of_mem_iff hAccepted.sorted hSorted
    rintro ⟨name, value⟩
    constructor
    · intro hMem
      rcases hAccepted.given hInner hMem with ⟨x, hGiven, _⟩
      have hReduces :=
        (hJudge name x value (Members.lookup_of_mem hSorted hGiven)
          (Members.lookup_of_mem hAccepted.sorted hMem)).2
      rw [hReduces.exact hStrip]
      exact hGiven
    · intro hGiven
      rcases hKeeps name value hGiven with
        ⟨y, hMem⟩ | ⟨hDropping, _⟩
      · have hReduces :=
          (hJudge name value y
            (Members.lookup_of_mem hSorted hGiven)
            (Members.lookup_of_mem hAccepted.sorted hMem)).2
        rw [← hReduces.exact hStrip]
        exact hMem
      · rw [hStrip] at hDropping
        cases hDropping
  · refine .object id rule members kept judge hJudges
      (Members.names_sublist hAccepted.sorted hSorted hNames)
      ?_ ?_ ?_
    · intro name x hGiven hNone
      rcases hKeeps name x (mem_of_lookup_eq_some hGiven) with
        ⟨y, hMem⟩ | ⟨_, hDrops⟩
      · rw [Members.lookup_of_mem hAccepted.sorted hMem] at hNone
        cases hNone
      · exact hDrops
    · intro name x y hGiven hKept
      exact (hJudge name x y hGiven hKept).1
    · intro name x y hGiven hKept
      exact (hJudge name x y hGiven hKept).2.trims

end Objects

------------------------------------------------------------
-- Arrays
------------------------------------------------------------

/- An accepted array is the given one, reduced. -/
theorem checkArray_reduces
    {rule : ArrayRule}
    {id : ValidatorId}
    {value accepted : Json}
    (hInner : inner.Answers)
    (hReducing : g.Reducing inner)
    (hCanonical : value.Canonical)
    (hJudges : g.Judges id value (.array rule))
    (hCheck :
      checkArray inner rule value path options =
        some (Verdict.accept accepted)) :
    g.Reduces options id value accepted := by
  rcases acceptedItems_of_checkArray hInner hCheck with
    ⟨items, held, rfl, hSame, _, hLength, hVerdicts⟩
  cases hSame
  cases hRule : rule.items with
  | none =>
      -- Without a validator for items, all are kept.
      have hAll : held = items := by
        apply List.ext_getElem?
        intro i
        cases hHeld : held[i]? with
        | none =>
            rw [List.getElem?_eq_none_iff, hLength] at hHeld
            exact (List.getElem?_eq_none_iff.mpr hHeld).symm
        | some y =>
            rcases hVerdicts i y hHeld with ⟨x, hGiven, hVerdict⟩
            simp only [itemVerdict, hRule, Option.some.injEq]
              at hVerdict
            cases hVerdict
            exact hGiven.symm
      rw [hAll]
      exact Reduces.refl g options id _
  | some schema =>
      have hEach :
          ∀ (i : Nat) (x y : Json),
            items[i]? = some x → held[i]? = some y →
              g.Reduces options schema x y := by
        intro i x y hGiven hHeld
        rcases hVerdicts i y hHeld with ⟨same, hSame, hVerdict⟩
        rw [hGiven] at hSame
        cases hSame
        simp only [itemVerdict, hRule] at hVerdict
        exact hReducing schema x _ options y
          (hCanonical.item (List.mem_of_getElem? hGiven)) hVerdict
      constructor
      · intro hStrip
        apply congrArg Json.array
        apply List.ext_getElem hLength
        intro i hHeld hItems
        exact (hEach i _ _ (List.getElem?_eq_getElem hItems)
          (List.getElem?_eq_getElem hHeld)).exact hStrip
      · refine .array id rule items held hJudges hLength ?_ ?_
        · intro hNone
          rw [hRule] at hNone
          cases hNone
        · intro same i x y hSame hGiven hHeld
          rw [hRule] at hSame
          cases hSame
          exact (hEach i x y hGiven hHeld).trims

------------------------------------------------------------
-- Checks
------------------------------------------------------------

/- What a rule accepts is what was given, reduced. -/
theorem checkRule_reduces
    {rule : Rule}
    {id : ValidatorId}
    {value accepted : Json}
    (hInner : inner.Answers)
    (hReducing : g.Reducing inner)
    (hCanonical : value.Canonical)
    (hJudges : g.Judges id value rule)
    (hCheck :
      g.checkRule now inner rule value path options =
        some (Verdict.accept accepted)) :
    g.Reduces options id value accepted := by
  by_cases hPasses : rule.PassesOn
  · cases rule with
    | object rule =>
        exact checkObject_reduces hInner hReducing hCanonical
          hJudges hCheck
    | array rule =>
        exact checkArray_reduces hInner hReducing hCanonical
          hJudges hCheck
    | alternatives branches =>
        rcases exists_first_of_checkAlternatives hCheck with
          ⟨before, chosen, after, hBranches, _, hChosen⟩
        have hMem : chosen ∈ branches := by
          rw [hBranches]
          exact List.mem_append_right _ List.mem_cons_self
        have hReduces :=
          hReducing chosen value path options accepted hCanonical
            hChosen
        exact ⟨hReduces.exact,
          .alternative id chosen value accepted branches hJudges
            hMem hReduces.trims⟩
    | deferred c =>
        simp only [checkRule] at hCheck
        cases hCell : g.cell? c with
        | none =>
            simp only [hCell, Option.some.injEq] at hCheck
            cases hCheck
            exact Reduces.refl g options id value
        | some target =>
            simp only [hCell] at hCheck
            have hReduces :=
              hReducing target value path options accepted
                hCanonical hCheck
            exact ⟨hReduces.exact,
              .content id target value accepted c hJudges hCell
                hReduces.trims⟩
    | _ => cases hPasses
  · -- The other rules accept nothing but the value itself.
    have hSame := (checkRule_keeps hPasses hCheck).given _ rfl
    cases hSame
    exact Reduces.refl g options id value

/- What a validator accepts is what was given, reduced. -/
theorem checkNode_reduces
    (hInner : inner.Answers)
    (hReducing : g.Reducing inner) :
    g.Reducing (g.checkNode now inner) := by
  intro id value path options kept hCanonical hCheck
  rcases checkNode_cases hCheck with
    hRefused | ⟨rfl, hNull⟩ | ⟨rule, hJudges, hRule⟩
  · cases hRefused
  · cases hNull
    exact Reduces.refl g options id .null
  · exact checkRule_reduces hInner hReducing hCanonical hJudges
      hRule

/- What is accepted within a budget is what was given, reduced. -/
theorem checkWithin_reduces
    (g : Graph)
    (now : Calendar.Instant)
    (budget : Nat) :
    g.Reducing (g.checkWithin now budget) := by
  induction budget with
  | zero =>
      intro id value path options kept _ hCheck
      cases hCheck
  | succ budget ih =>
      exact checkNode_reduces (checkWithin_answers g now budget) ih

/-
  A check that accepts a given value has an accepted value:
  the given one, without some members of objects if unknown
  keys are dropped.  None of these is declared by the
  validator that judges its object.
-/
theorem check_accepted_prunes
    {id : ValidatorId}
    {value : Json}
    {result : Option Json}
    (hCanonical : value.Canonical)
    (hCheck :
      g.check now id (some value) path options =
        some (.ok result)) :
    ∃ kept,
      result = some kept ∧
        (options.stripUnknown = false → kept = value) ∧
        value.Prunes kept ∧
        g.Trims id value kept := by
  have hAnswers := check_answers g now _ _ _ _ _ hCheck
  rcases hAnswers.exists_some with ⟨kept, rfl⟩
  have hReduces :=
    checkWithin_reduces g now _ _ _ _ _ _ hCanonical hCheck
  exact ⟨kept, rfl, hReduces.exact, hReduces.trims.prunes,
    hReduces.trims⟩

/- An object with a list of objects that declare one key. -/
def listing : Graph where
  nodes :=
    #[{ rule := .boolean },
      { rule := .object { properties := some [("flag", ⟨0⟩)] } },
      { rule := .array { items := some ⟨1⟩ } },
      { rule :=
          .object
            { properties := some [("list", ⟨2⟩)]
              unknown := .ignore } }]
  cells := #[]

/- Other keys are dropped from the object and from the items. -/
theorem check_accepted_prunes_listing :
    let value :=
      Json.object
        [("list", .array
          [.object [("flag", .bool true), ("more", .null)]]),
        ("other", .null)]
    let kept :=
      Json.object [("list", .array [.object [("flag", .bool true)]])]
    value.Canonical ∧
      listing.check ⟨0, ⟨0, 0⟩⟩ ⟨3⟩ (some value) "" ⟨true⟩ =
        some (.ok (some kept)) ∧
      value.Prunes kept ∧
      listing.Trims ⟨3⟩ value kept := by
  intro value kept
  have hCanonical : value.Canonical := by
    simp only [value, Json.Canonical, Json.CanonicalItems,
      Json.CanonicalMembers, and_true]
    constructor <;> decide +kernel
  have hCheck :
      listing.check ⟨0, ⟨0, 0⟩⟩ ⟨3⟩ (some value) "" ⟨true⟩ =
        some (.ok (some kept)) := by
    rfl
  rcases check_accepted_prunes hCanonical hCheck with
    ⟨same, hSame, _, hPrunes, hTrims⟩
  cases hSame
  exact ⟨hCanonical, hCheck, hPrunes, hTrims⟩

end Graph

end SchemaGraph
