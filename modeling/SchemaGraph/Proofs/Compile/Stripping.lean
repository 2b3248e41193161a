import Mathlib
import SchemaGraph.Proofs.Check.Stripping
import SchemaGraph.Proofs.Compile.Transparency

/-
  Checking against a compiled schema what it accepted.  The
  accepted value is accepted again and stays as it is, if
  the counts of keys, the uniqueness of items and the choice
  of alternatives come out on it as on the given one.  They
  are judged on the given value, so they need not.

  Main declarations:
    * `Reaches.fits`
    * `compile_check_accepted`
    * `not_acceptsAgain_of_dropped`
-/

namespace SchemaGraph

variable {setting : Setting}
variable {source : Source}
variable {workingDir : Path}
variable {s t : State}

------------------------------------------------------------
-- Rules of Compiled Schemas
------------------------------------------------------------

/- Filling the cell of a node leaves the validators alone. -/
theorem State.node?_filled
    (key : NodeKey)
    (held id : ValidatorId) :
    (s.filled key held).node? id = s.graph.node? id := by
  cases hCell : s.cells.lookup key with
  | none => rw [State.filled_of_none held hCell]
  | some c =>
      rw [State.filled_of_some held hCell]
      split <;> rfl

/- All rules of the graph are as compiling makes them. -/
def Graph.Fits
    (options : Options)
    (g : Graph) : Prop :=
  ∀ id v, g.node? id = some v → v.rule.Fits options

/- A validator with a fitting rule may be added. -/
theorem Graph.Fits.push
    {options : Options}
    {g : Graph}
    {v : Validator}
    (hFits : g.Fits options)
    (hRule : v.rule.Fits options) :
    (g.push v).2.Fits options := by
  intro id w hNode
  rcases node?_push_cases hNode with hOld | ⟨_, rfl⟩
  · exact hFits id w hOld
  · exact hRule

/- Every step makes rules that fit. -/
theorem Step.fits
    (hStep : Step setting s t)
    (hFits : s.graph.Fits setting.options) :
    t.graph.Fits setting.options := by
  cases hStep with
  | pushed v _ hRule => exact hFits.push hRule
  | copied g hCopy =>
      rcases hCopy with ⟨id, v, presence, allowNull, hNode, rfl⟩
      exact hFits.push (hFits id v hNode)
  | finished key rest held =>
      intro id v hNode
      rw [State.node?_filled] at hNode
      exact hFits id v hNode
  | _ => exact hFits

/- Steps make rules that fit. -/
theorem Reaches.fits
    (hReaches : Reaches setting s t)
    (hFits : s.graph.Fits setting.options) :
    t.graph.Fits setting.options := by
  induction hReaches with
  | refl => exact hFits
  | tail _ hStep ih => exact hStep.fits ih

/- The rules of a compiled schema are as compiling makes them. -/
theorem fits_of_compileWith
    {schema : Compiled}
    {final : State}
    (hCompiled :
      compileWith setting workingDir source = ⟨.ok schema, final⟩) :
    schema.graph.Fits setting.options := by
  unfold compileWith compileWatched at hCompiled
  split at hCompiled
  case h_1 id t hSteps =>
    cases hCompiled
    rcases compileSteps_ok hSteps with ⟨doc, r, hRooted, hRun, _⟩
    apply Reaches.fits hRun.reaches
    rw [hRooted.graph]
    intro id v hNode
    simp [Graph.node?, Graph.empty] at hNode
  case h_2 => cases hCompiled

/- In a compiled schema the properties of objects are in order. -/
theorem ordered_of_compileWith
    {schema : Compiled}
    {final : State}
    (hCompiled :
      compileWith setting workingDir source = ⟨.ok schema, final⟩) :
    schema.graph.Ordered :=
  fun id v hNode => (fits_of_compileWith hCompiled id v hNode).ordered

------------------------------------------------------------
-- Accepted Values
------------------------------------------------------------

/- A schema accepts what the validator of its root accepts. -/
theorem Compiled.check_eq_ok_iff
    {schema : Compiled}
    {now : Calendar.Instant}
    {value accepted : Json}
    {options : CheckOptions} :
    schema.check now value options = some (.ok accepted) ↔
      schema.graph.check now schema.root (some value) "" options =
        some (Verdict.accept accepted) := by
  unfold Compiled.check
  rw [Option.map_eq_some_iff]
  constructor
  · rintro ⟨verdict, hVerdict, hSame⟩
    have hAnswers :=
      Graph.check_answers schema.graph now _ _ _ _ _ hVerdict
    cases verdict with
    | error vs => cases hSame
    | ok result =>
        rcases hAnswers.exists_some with ⟨kept, rfl⟩
        cases hSame
        exact hVerdict
  · intro hVerdict
    exact ⟨_, hVerdict, rfl⟩

/-
  What a compiled schema accepts, with unknown keys dropped,
  it accepts again and as it is, under this condition.
  Wherever the check of the given value went, there are
  still enough keys in what was kept of an object, the items
  kept of an array that has to have no duplicates are still
  distinct, and the alternatives before the one that accepted
  refuse what it accepted or accept it as it is.
-/
theorem compile_check_accepted
    {schema : Compiled}
    {final : State}
    {now : Calendar.Instant}
    {value accepted : Json}
    (hCompiled :
      compileWith setting workingDir source = ⟨.ok schema, final⟩)
    (hCheck : schema.check now value ⟨true⟩ = some (.ok accepted))
    (hMeets :
      ∀ place result,
        Relation.ReflTransGen (schema.graph.Enters now)
            ⟨schema.root, value, ""⟩ place →
          schema.graph.check now place.id (some place.value)
                place.path ⟨true⟩ =
              some (Verdict.accept result) →
            schema.graph.StillMeets now place result) :
    schema.check now accepted ⟨true⟩ = some (.ok accepted) := by
  rw [Compiled.check_eq_ok_iff] at hCheck ⊢
  rcases Graph.check_eq_some_iff.mp hCheck with ⟨budget, hWithin⟩
  exact Graph.check_accepted_of_stillMeets
    (ordered_of_compileWith hCompiled) hWithin hMeets

/- An object that declares one property and needs some keys. -/
def Json.needing
    (least : Int)
    (h : IntegerRange least := by decide) : Json :=
  .object
    [("minProperties", .number (.integer least h)),
    ("properties", .object [("known", .object [])]),
    ("type", .string "object")]

/- An object with the declared key and another one. -/
def Json.knownAndMore : Json :=
  .object [("known", .bool true), ("more", .bool true)]

/-
  In a graph of an object and a property of any value, a
  check of the object goes to the property only.
-/
theorem Graph.enters_property
    {g : Graph}
    {now : Calendar.Instant}
    {start place : Place}
    {property : ValidatorId}
    (hForth : g.references start.id = [property])
    (hNowhere : g.references property = [])
    (hPath : Relation.ReflTransGen (g.Enters now) start place) :
    place = start ∨ place.id = property := by
  induction hPath with
  | refl => exact Or.inl rfl
  | tail _ hStep ih =>
      have hMentions := hStep.mentions
      rcases ih with rfl | hProperty
      · rw [Graph.Mentions, hForth, List.mem_singleton]
          at hMentions
        exact Or.inr hMentions
      · rw [Graph.Mentions, hProperty, hNowhere] at hMentions
        cases hMentions

/- The least number of keys that a rule asks for. -/
def Rule.leastKeys? : Rule → Option Nat
  | .object rule => rule.minProperties
  | _ => none

/- An object that keeps enough keys meets what was asked of it. -/
theorem Graph.stillMeets_of_leastKeys
    {g : Graph}
    {now : Calendar.Instant}
    {place : Place}
    {kept : List (String × Json)}
    {least : Nat}
    (hLeast :
      (g.node? place.id).bind (fun v => v.rule.leastKeys?) =
        some least)
    (hKept : least ≤ kept.length) :
    g.StillMeets now place (.object kept) := by
  rcases Option.bind_eq_some_iff.mp hLeast with
    ⟨v, hNode, hKeys⟩
  -- Only the rule of an object asks for keys.
  have hRule :
      ∀ rule, g.Judges place.id place.value rule →
        rule.leastKeys? = some least := by
    rintro rule ⟨w, hOther, rfl, _⟩
    rw [hNode] at hOther
    cases hOther
    exact hKeys
  constructor
  · intro rule members fewest hJudges hSame hFewest
    cases hSame
    have hOne : some fewest = some least :=
      hFewest.symm.trans (hRule _ hJudges)
    cases hOne
    exact hKept
  · intro rule held hJudges
    cases hRule _ hJudges
  · intro before chosen after hJudges
    cases hRule _ hJudges

/- How many keys a verdict keeps, and whether a name is kept. -/
def Verdict.keeping
    (name : String)
    (verdict : Verdict) : Option (Nat × Bool) :=
  (verdict.value?.bind Json.members?).map (fun kept =>
    (kept.length, (kept.lookup name).isSome))

/- A verdict that keeps keys accepts an object. -/
theorem Verdict.exists_of_keeping
    {name : String}
    {verdict : Verdict}
    {count : Nat}
    {found : Bool}
    (hKeeping : verdict.keeping name = some (count, found)) :
    ∃ kept,
      verdict = Verdict.accept (.object kept) ∧
        kept.length = count ∧
        (kept.lookup name).isSome = found := by
  rcases Option.map_eq_some_iff.mp hKeeping with
    ⟨kept, hKept, hPair⟩
  rcases Option.bind_eq_some_iff.mp hKept with
    ⟨accepted, hValue, hMembers⟩
  rcases Prod.mk.inj hPair with ⟨hCount, hFound⟩
  refine ⟨kept, ?_, hCount, hFound⟩
  cases verdict with
  | error vs => cases hValue
  | ok result =>
      cases hValue
      cases accepted with
      | object members =>
          cases hMembers
          rfl
      | _ => cases hMembers

/-
  The other key is dropped.  One key is enough, so what is
  left is accepted again.
-/
theorem compile_check_accepted_needing_one :
    ∃ schema accepted,
      (compileAlone (Json.needing 1)).result = .ok schema ∧
        schema.check ⟨0, ⟨0, 0⟩⟩ Json.knownAndMore ⟨true⟩ =
          some (.ok accepted) ∧
        accepted.member? "more" = none ∧
        schema.check ⟨0, ⟨0, 0⟩⟩ accepted ⟨true⟩ =
          some (.ok accepted) := by
  let now : Calendar.Instant := ⟨0, ⟨0, 0⟩⟩
  rcases Compilation.exists_eq_of_isOk
    (c := compileAlone (Json.needing 1)) (by decide +kernel) with
    ⟨⟨g, root⟩, hCompiled⟩
  have hOk := congrArg Compilation.result hCompiled
  have hGraph : (compileAlone (Json.needing 1)).final.graph = g :=
    (settled_of_compileWith hCompiled).2
  have hRoot :
      (compileAlone (Json.needing 1)).result.toOption.map
          Compiled.root =
        some ⟨1⟩ := by
    decide +kernel
  rw [hOk] at hRoot
  cases hRoot
  have hForth : g.references ⟨1⟩ = [⟨0⟩] := by
    rw [← hGraph]
    decide +kernel
  have hNowhere : g.references ⟨0⟩ = [] := by
    rw [← hGraph]
    decide +kernel
  have hAny :
      (g.node? ⟨0⟩).map (fun v => v.rule.kind) = some "any" := by
    rw [← hGraph]
    decide +kernel
  have hLeast :
      (g.node? ⟨1⟩).bind (fun v => v.rule.leastKeys?) =
        some 1 := by
    rw [← hGraph]
    decide +kernel
  have hKeeping :
      (g.check now ⟨1⟩ (some Json.knownAndMore) "" ⟨true⟩).bind
          (Verdict.keeping "more") =
        some (1, false) := by
    rw [← hGraph]
    decide +kernel
  rcases Option.bind_eq_some_iff.mp hKeeping with
    ⟨verdict, hVerdict, hKept⟩
  rcases Verdict.exists_of_keeping hKept with
    ⟨kept, rfl, hCount, hDropped⟩
  have hCheck :
      Compiled.check ⟨g, ⟨1⟩⟩ now Json.knownAndMore ⟨true⟩ =
        some (.ok (.object kept)) :=
    Compiled.check_eq_ok_iff.mpr hVerdict
  refine ⟨⟨g, ⟨1⟩⟩, .object kept, hOk, hCheck, ?_, ?_⟩
  · exact Option.isNone_iff_eq_none.mp
      (Option.isSome_eq_false_iff.mp hDropped)
  · apply compile_check_accepted hCompiled hCheck
    intro place result hPath hPlace
    rcases Graph.enters_property hForth hNowhere hPath with
      rfl | hProperty
    · rw [hVerdict] at hPlace
      cases hPlace
      exact Graph.stillMeets_of_leastKeys hLeast hCount.ge
    · rw [← hProperty] at hAny
      exact Graph.stillMeets_of_kind hAny (by decide) result

/- What the schema accepts of the value it accepts again, as it is. -/
def Source.AcceptsAgain
    (setting : Setting)
    (workingDir : Path)
    (source : Source)
    (value : Json) : Prop :=
  ∀ schema final now accepted,
    compileWith setting workingDir source = ⟨.ok schema, final⟩ →
      schema.check now value ⟨true⟩ = some (.ok accepted) →
        schema.check now accepted ⟨true⟩ = some (.ok accepted)

/- An array of distinct objects that declare one property. -/
def Json.distinctKnown : Json :=
  .object
    [("items", .object
      [("properties", .object [("known", .object [])]),
      ("type", .string "object")]),
    ("type", .string "array"),
    ("uniqueItems", .bool true)]

/-
  An object with one key at most that is not kept, or an
  object with one that is.
-/
def Json.fewOrKnown : Json :=
  .object
    [("anyOf", .array
      [.object
        [("maxProperties", .ofInt 1),
        ("properties", .object [("other", .object [])]),
        ("type", .string "object")],
      .object
        [("properties", .object [("known", .object [])]),
        ("type", .string "object")]])]

/- What is accepted is accepted again, with the same text. -/
def Compilation.repeats?
    (c : Compilation)
    (now : Calendar.Instant)
    (value : Json) : Option Bool := do
  let schema ← c.result.toOption
  let first ← schema.check now value ⟨true⟩
  let accepted ← first.toOption
  let second ← schema.check now accepted ⟨true⟩
  return second.toOption.map Json.write == some accepted.write

/- What is not repeated is not accepted again as it is. -/
theorem Source.not_acceptsAgain_of_repeats?
    {value : Json}
    (now : Calendar.Instant)
    (hRepeats :
      (compileWith setting workingDir source).repeats? now value =
        some false) :
    ¬ source.AcceptsAgain setting workingDir value := by
  intro hAgain
  simp only [Compilation.repeats?, Option.bind_eq_bind,
    Option.bind_eq_some_iff, Option.pure_def,
    Option.some.injEq] at hRepeats
  rcases hRepeats with
    ⟨schema, hSchema, first, hFirst, accepted, hAccepted, second,
      hSecond, hTexts⟩
  have hCompiled :
      compileWith setting workingDir source =
        ⟨.ok schema,
          (compileWith setting workingDir source).final⟩ := by
    cases hRun : compileWith setting workingDir source with
    | mk result final =>
        rw [hRun] at hSchema
        cases result with
        | error e => cases hSchema
        | ok compiled =>
            cases hSchema
            rfl
  have hCheck :
      schema.check now value ⟨true⟩ = some (.ok accepted) := by
    cases first with
    | error vs => cases hAccepted
    | ok result =>
        cases hAccepted
        exact hFirst
  have hSame := hAgain schema _ now accepted hCompiled hCheck
  rw [hSecond] at hSame
  cases hSame
  simp [Except.toOption] at hTexts

/-
  What a schema accepts it need not accept again as it is.
  Of two keys that are enough, one is dropped, and one key
  is too few.  Of two items, one loses the key that tells it
  from the other.  An alternative that refuses two keys
  accepts one, and drops it.
-/
theorem not_acceptsAgain_of_dropped :
    let again := fun schema value =>
      Source.AcceptsAgain Setting.alone ⟨"/"⟩ (.value schema) value
    ¬ again (Json.needing 2) Json.knownAndMore ∧
      ¬ again Json.distinctKnown
        (.array
          [Json.knownAndMore, .object [("known", .bool true)]]) ∧
      ¬ again Json.fewOrKnown Json.knownAndMore := by
  refine ⟨?_, ?_, ?_⟩
  · exact Source.not_acceptsAgain_of_repeats? ⟨0, ⟨0, 0⟩⟩
      (by decide +kernel)
  · exact Source.not_acceptsAgain_of_repeats? ⟨0, ⟨0, 0⟩⟩
      (by decide +kernel)
  · exact Source.not_acceptsAgain_of_repeats? ⟨0, ⟨0, 0⟩⟩
      (by decide +kernel)

end SchemaGraph
