import Mathlib
import SchemaGraph.Proofs.Check.UnknownKeys
import SchemaGraph.Proofs.Compile.Stripping

/-
  Complaints about unknown keys from compiled schemas that
  drop unknown keys.  A custom type is not told to drop any.
  A compiled schema that serves as one therefore goes on to
  refuse unknown keys, wherever the schema that uses it asks
  for it.  There is no other way to such a complaint.

  Main declarations:
    * `CustomType.Layered`
    * `Setting.Layered`
    * `NestedReport`
    * `compile_noneUnknown_of_tests`
    * `compile_unknownKey_nested`
    * `unknownKey_of_closedType`
-/

namespace SchemaGraph

------------------------------------------------------------
-- Custom Types
------------------------------------------------------------

/-
  A custom type that is made of a test, or of a compiled
  schema with none but such custom types.
-/
inductive CustomType.Layered : CustomType → Prop where
  | test
      (name : String)
      (test : Json → Option String) :
      Layered (.ofTest name test)
  | schema
      (setting : Setting)
      (workingDir : Path)
      (source : Source)
      (nested : Compiled)
      (final : State)
      (hTypes :
        ∀ name type,
          setting.options.types.lookup name = some type →
            Layered type)
      (hCompiled :
        compileWith setting workingDir source =
          ⟨.ok nested, final⟩) :
      Layered nested.toCustomType

/- All configured custom types are made of tests and schemas. -/
def Setting.Layered
    (setting : Setting) : Prop :=
  ∀ name type,
    setting.options.types.lookup name = some type → type.Layered

/- The code of a test ends otherwise. -/
theorem CustomType.noneUnknown_ofTest
    {name : String}
    {test : Json → Option String}
    {now : Calendar.Instant}
    {value : Json}
    {path : String}
    {vs : List Violation}
    (hCheck : (ofTest name test).check now value path = some vs) :
    Violation.NoneUnknown vs := by
  simp only [ofTest] at hCheck
  cases hTest : test value with
  | none =>
      simp only [hTest, Option.some.injEq] at hCheck
      simp [← hCheck]
  | some message =>
      simp only [hTest, Option.some.injEq] at hCheck
      subst hCheck
      intro v hMem hKey
      rw [List.mem_singleton.mp hMem] at hKey
      have hLast :=
        congrArg (fun code => code.toList.getLast?) hKey
      simp [Complaint.code] at hLast

/- Without the wish to drop keys, a schema reports as a type. -/
theorem Compiled.exists_error_of_toCustomType
    {nested : Compiled}
    {now : Calendar.Instant}
    {value : Json}
    {path : String}
    {vs : List Violation}
    {v : Violation}
    (hCheck :
      nested.toCustomType.check now value path = some vs)
    (hMem : v ∈ vs) :
    nested.graph.check now nested.root (some value) path {} =
      some (.error vs) := by
  rcases Option.map_eq_some_iff.mp hCheck with
    ⟨verdict, hVerdict, rfl⟩
  cases verdict with
  | ok accepted => cases hMem
  | error vs => exact hVerdict

/- A schema refuses what the validator of its root refuses. -/
theorem Compiled.check_eq_error_iff
    {schema : Compiled}
    {now : Calendar.Instant}
    {value : Json}
    {options : CheckOptions}
    {vs : List Violation} :
    schema.check now value options = some (.error vs) ↔
      schema.graph.check now schema.root (some value) "" options =
        some (.error vs) := by
  unfold Compiled.check
  rw [Option.map_eq_some_iff]
  constructor
  · rintro ⟨verdict, hVerdict, hSame⟩
    cases verdict with
    | ok accepted => cases hSame
    | error found =>
        cases hSame
        exact hVerdict
  · intro hVerdict
    exact ⟨_, hVerdict, rfl⟩

------------------------------------------------------------
-- Reports of Nested Schemas
------------------------------------------------------------

/-
  A compiled schema that is configured as a custom type, and
  is not just a test, reports the violation, without dropping
  unknown keys, at a place that the check of the first one
  asks for.
-/
structure NestedReport
    (options : Options)
    (g : Graph)
    (now : Calendar.Instant)
    (start : Place)
    (v : Violation)
    (place : Place)
    (nested : Compiled) : Prop where
  reached : Relation.ReflTransGen g.Asks start place
  configured :
    ∃ name, options.types.lookup name = some nested.toCustomType
  noTest :
    ∀ label test, nested.toCustomType ≠ .ofTest label test
  judged :
    g.Judges place.id place.value (.custom nested.toCustomType)
  reported :
    ∃ vs,
      nested.graph.check now nested.root (some place.value)
          place.path {} =
        some (.error vs) ∧
      v ∈ vs

variable {setting : Setting}
variable {workingDir : Path}
variable {source : Source}
variable {schema : Compiled}
variable {final : State}

/- What a custom type says about unknown keys, a schema says. -/
theorem exists_nestedReport_of_typeReports
    {now : Calendar.Instant}
    {start : Place}
    {v : Violation}
    (hTypes : setting.Layered)
    (hCompiled :
      compileWith setting workingDir source = ⟨.ok schema, final⟩)
    (hReports : schema.graph.TypeReports now start v)
    (hKey : v.NamesKey) :
    ∃ place nested,
      NestedReport setting.options schema.graph now start v place
        nested := by
  rcases hReports with ⟨place, type, vs, hPath, hJudges, hVs, hMem⟩
  have hConfigured :
      ∃ name, setting.options.types.lookup name = some type := by
    rcases hJudges with ⟨validator, hNode, hRule, _⟩
    exact (fits_of_compileWith hCompiled _ _ hNode).configured
      type hRule
  have hLayered : type.Layered := by
    rcases hConfigured with ⟨name, hName⟩
    exact hTypes name type hName
  cases hLayered with
  | test name test =>
      exact absurd hKey
        (CustomType.noneUnknown_ofTest hVs v hMem)
  | schema _ _ _ nested =>
      refine ⟨place, nested, hPath, hConfigured, ?_, hJudges, vs,
        Compiled.exists_error_of_toCustomType hVs hMem, hMem⟩
      intro label test hSame
      rw [hSame] at hVs
      exact CustomType.noneUnknown_ofTest hVs v hMem hKey

/-
  Without nested schemas, a schema that drops unknown keys
  never complains about one.
-/
theorem compile_noneUnknown_of_tests
    {now : Calendar.Instant}
    {value : Json}
    {vs : List Violation}
    (hTests :
      ∀ name type,
        setting.options.types.lookup name = some type →
          ∃ label test, type = .ofTest label test)
    (hCompiled :
      compileWith setting workingDir source = ⟨.ok schema, final⟩)
    (hCheck : schema.check now value ⟨true⟩ = some (.error vs)) :
    Violation.NoneUnknown vs := by
  intro v hMem hKey
  rw [Compiled.check_eq_error_iff] at hCheck
  have hTypes : setting.Layered := by
    intro name type hName
    rcases hTests name type hName with ⟨label, test, rfl⟩
    exact .test label test
  rcases exists_nestedReport_of_typeReports hTypes hCompiled
      (Graph.typeReports_of_check hCheck hMem hKey) hKey with
    ⟨place, nested, hReport⟩
  rcases hReport.configured with ⟨name, hName⟩
  rcases hTests name _ hName with ⟨label, test, hSame⟩
  exact hReport.noTest label test hSame

/-
  With unknown keys dropped, a compiled schema with layered
  custom types complains about an unknown key only where a
  nested schema does.  So does an intersection, which always
  drops them.
-/
theorem compile_unknownKey_nested
    (hTypes : setting.Layered)
    (hCompiled :
      compileWith setting workingDir source =
        ⟨.ok schema, final⟩) :
    (∀ now value vs,
        schema.check now value ⟨true⟩ = some (.error vs) →
          ∀ v ∈ vs, v.code = "object.unknown" →
            ∃ place nested,
              NestedReport setting.options schema.graph now
                ⟨schema.root, value, ""⟩ v place nested) ∧
      ∀ now id value path branches options vs,
        schema.graph.Judges id value (.all branches) →
          schema.graph.check now id (some value) path options =
              some (.error vs) →
            ∀ v ∈ vs, v.code = "object.unknown" →
              ∃ place nested,
                NestedReport setting.options schema.graph now
                  ⟨id, value, path⟩ v place nested := by
  constructor
  · intro now value vs hCheck v hMem hCode
    rw [Compiled.check_eq_error_iff] at hCheck
    exact exists_nestedReport_of_typeReports hTypes hCompiled
      (Graph.typeReports_of_check hCheck hMem hCode) hCode
  · intro now id value path branches options vs hJudges hCheck v
      hMem hCode
    rw [Graph.check_all_options hJudges options ⟨true⟩] at hCheck
    exact exists_nestedReport_of_typeReports hTypes hCompiled
      (Graph.typeReports_of_check hCheck hMem hCode) hCode

------------------------------------------------------------
-- A Closed Object as a Type
------------------------------------------------------------

/- An object that declares no property. -/
def Json.closedObject : Json :=
  .object [("properties", .object []), ("type", .string "object")]

/- What was compiled, if anything was. -/
def Compilation.compiled
    (c : Compilation) : Compiled :=
  c.result.toOption.getD ⟨Graph.empty, ⟨0⟩⟩

/- A closed object is configured as a custom type. -/
def Setting.withClosedType : Setting :=
  { Setting.alone with
    options :=
      Setting.alone.options.withType "closed"
        (compileAlone Json.closedObject).compiled.toCustomType }

/- A node of the type, alone or as the part of an intersection. -/
def Json.ofClosedType : Json :=
  .object [("type", .string "closed")]

/- An intersection with one part. -/
def Json.onlyPart
    (part : Json) : Json :=
  .object [("allOf", .array [part])]

/- The custom type is one of a schema without custom types. -/
theorem Setting.layered_withClosedType :
    Setting.withClosedType.Layered := by
  intro name type hName
  have hTypes :
      Setting.withClosedType.options.types =
        [("closed",
          (compileAlone Json.closedObject).compiled.toCustomType)] :=
    rfl
  rw [hTypes] at hName
  have hSame := mem_of_lookup_eq_some hName
  rw [List.mem_singleton, Prod.mk.injEq] at hSame
  rw [hSame.2]
  rcases Compilation.exists_eq_of_isOk
    (c := compileAlone Json.closedObject) (by decide +kernel) with
    ⟨schema, hCompiled⟩
  have hSchema :
      (compileAlone Json.closedObject).compiled = schema := by
    rw [Compilation.compiled, hCompiled]
    rfl
  rw [hSchema]
  refine .schema Setting.alone ⟨"/"⟩ (.value Json.closedObject)
    schema _ ?_ hCompiled
  intro other held hOther
  cases hOther

/- The violations of a value by what was compiled. -/
def Compilation.violations?
    (c : Compilation)
    (now : Calendar.Instant)
    (value : Json)
    (options : CheckOptions) : Option (List Violation) := do
  let schema ← c.result.toOption
  match ← schema.check now value options with
  | .ok _ => return []
  | .error vs => return vs

/- The schema has the violations that were found. -/
theorem Compilation.check_of_violations?
    {c : Compilation}
    {now : Calendar.Instant}
    {value : Json}
    {options : CheckOptions}
    {v : Violation}
    {vs : List Violation}
    (hResult : c.result = .ok schema)
    (hViolations :
      c.violations? now value options = some (v :: vs)) :
    schema.check now value options = some (.error (v :: vs)) := by
  simp only [Compilation.violations?, hResult, Except.toOption,
    Option.bind_eq_bind, Option.bind_some, Option.pure_def,
    Option.bind_eq_some_iff] at hViolations
  rcases hViolations with ⟨outcome, hCheck, hFound⟩
  cases outcome with
  | ok accepted => cases hFound
  | error found =>
      cases hFound
      exact hCheck

/- A node of the kind, without presence and `null`, intersects. -/
theorem Graph.exists_judges_all
    {g : Graph}
    {id : ValidatorId}
    (hNode :
      (g.node? id).map (fun v =>
          (v.rule.kind, v.presence, v.allowNull)) =
        some ("all", .optional, false))
    (value : Json) :
    ∃ branches, g.Judges id value (.all branches) := by
  rcases Option.map_eq_some_iff.mp hNode with ⟨v, hFound, hSame⟩
  rcases v with ⟨rule, presence, allowNull⟩
  rw [Prod.mk.injEq, Prod.mk.injEq] at hSame
  rcases hSame with ⟨hKind, rfl, rfl⟩
  cases rule with
  | all branches =>
      exact ⟨branches, _, hFound, rfl, by simp, Or.inr rfl⟩
  | number rule =>
      simp only [Rule.kind] at hKind
      split at hKind <;> simp at hKind
  | _ => simp [Rule.kind] at hKind

/- An object with one key. -/
def Json.withMore : Json :=
  .object [("more", .bool true)]

/- The key of the object is unknown. -/
def Violation.unknownMore : Violation :=
  .of "/more" .unknownKey

/-
  The nested schema reports the key, whether unknown keys are
  to be dropped or not.
-/
theorem compile_unknownKey_nested_closedType :
    ∃ schema,
      (compileWith Setting.withClosedType ⟨"/"⟩
          (.value (Json.onlyPart Json.ofClosedType))).result =
        .ok schema ∧
      ∀ options,
        schema.check ⟨0, ⟨0, 0⟩⟩ Json.withMore options =
            some (.error [Violation.unknownMore]) ∧
          ∃ place nested,
            NestedReport Setting.withClosedType.options schema.graph
              ⟨0, ⟨0, 0⟩⟩ ⟨schema.root, Json.withMore, ""⟩
              Violation.unknownMore place nested := by
  let c :=
    compileWith Setting.withClosedType ⟨"/"⟩
      (.value (Json.onlyPart Json.ofClosedType))
  rcases Compilation.exists_eq_of_isOk (c := c) (by decide +kernel)
    with ⟨schema, hCompiled⟩
  have hResult : c.result = .ok schema :=
    congrArg Compilation.result hCompiled
  have hAll :
      c.result.toOption.bind (fun schema =>
          (schema.graph.node? schema.root).map (fun v =>
            (v.rule.kind, v.presence, v.allowNull))) =
        some ("all", .optional, false) := by
    decide +kernel
  simp only [hResult, Except.toOption, Option.bind_some] at hAll
  rcases Graph.exists_judges_all hAll Json.withMore with
    ⟨branches, hJudges⟩
  rcases compile_unknownKey_nested Setting.layered_withClosedType
    hCompiled with ⟨hDropping, hParts⟩
  refine ⟨schema, hResult, ?_⟩
  intro options
  have hCheck :
      schema.check ⟨0, ⟨0, 0⟩⟩ Json.withMore options =
        some (.error [Violation.unknownMore]) := by
    apply Compilation.check_of_violations? hResult
    rcases options with ⟨_ | _⟩ <;> decide +kernel
  refine ⟨hCheck, ?_⟩
  rcases options with ⟨_ | _⟩
  · exact hParts _ _ _ _ _ _ _ hJudges
      (Compiled.check_eq_error_iff.mp hCheck) _
      (List.mem_singleton_self _) rfl
  · exact hDropping _ _ _ hCheck _ (List.mem_singleton_self _) rfl

/-
  The closed object refuses an unknown key although unknown
  keys are to be dropped, and within an intersection.
-/
theorem unknownKey_of_closedType :
    let compiled := fun schema =>
      compileWith Setting.withClosedType ⟨"/"⟩ (.value schema)
    Setting.withClosedType.Layered ∧
      (compiled Json.ofClosedType).violations? ⟨0, ⟨0, 0⟩⟩
          Json.withMore ⟨true⟩ =
        some [⟨"/more", "object.unknown", "is not allowed"⟩] ∧
      (compiled (Json.onlyPart Json.ofClosedType)).violations?
          ⟨0, ⟨0, 0⟩⟩ Json.withMore {} =
        some [⟨"/more", "object.unknown", "is not allowed"⟩] := by
  refine ⟨Setting.layered_withClosedType, ?_, ?_⟩
  · decide +kernel
  · decide +kernel

end SchemaGraph
