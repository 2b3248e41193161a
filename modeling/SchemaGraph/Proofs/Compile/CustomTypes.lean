import Mathlib
import SchemaGraph.Proofs.Check.ErrorPaths
import SchemaGraph.Proofs.Check.Relocation
import SchemaGraph.Proofs.Compile.UnknownKeys

/-
  Compiled schemas as custom types, and with custom types.
  The custom types of a compiled schema are the configured
  ones.  So what is known of these, wherever they are asked
  and at whatever path, is known of the schema: it can be
  checked anywhere, and it reports inside the checked value.

  Main declarations:
    * `allTypes_of_compileWith`
    * `CustomType.NestedOver`
    * `CustomType.ReportsHere`
    * `compile_toCustomType_faithful`
    * `compile_violations_point`
-/

namespace SchemaGraph

variable {setting : Setting}
variable {workingDir : Path}
variable {source : Source}
variable {schema : Compiled}
variable {final : State}

------------------------------------------------------------
-- Configured Types
------------------------------------------------------------

/- All configured custom types have a property. -/
def Setting.AllTypes
    (setting : Setting)
    (good : CustomType → Prop) : Prop :=
  ∀ name type,
    setting.options.types.lookup name = some type → good type

/- The custom types of a compiled schema are configured ones. -/
theorem allTypes_of_compileWith
    {good : CustomType → Prop}
    (hTypes : setting.AllTypes good)
    (hCompiled :
      compileWith setting workingDir source = ⟨.ok schema, final⟩) :
    schema.graph.AllTypes good := by
  intro id v type hNode hRule
  rcases (fits_of_compileWith hCompiled id v hNode).configured
      type hRule with ⟨name, hName⟩
  exact hTypes name type hName

/-
  The custom type is one of the plain ones, or is made of a
  compiled schema with none but such custom types.
-/
inductive CustomType.NestedOver
    (plain : CustomType → Prop) : CustomType → Prop where
  | single
      (type : CustomType)
      (hPlain : plain type) :
      NestedOver plain type
  | schema
      (setting : Setting)
      (workingDir : Path)
      (source : Source)
      (nested : Compiled)
      (final : State)
      (hTypes :
        ∀ name type,
          setting.options.types.lookup name = some type →
            NestedOver plain type)
      (hCompiled :
        compileWith setting workingDir source =
          ⟨.ok nested, final⟩) :
      NestedOver plain nested.toCustomType

/-
  A property of the plain types that schemas inherit from
  their custom types.
-/
theorem CustomType.NestedOver.inherits
    {plain good : CustomType → Prop}
    {type : CustomType}
    (hNested : type.NestedOver plain)
    (hPlain : ∀ type, plain type → good type)
    (hSchema :
      ∀ schema : Compiled,
        schema.graph.AllTypes good → good schema.toCustomType) :
    good type := by
  induction hNested with
  | single type hType => exact hPlain type hType
  | schema setting workingDir source nested final _ hCompiled ih =>
      exact hSchema nested (allTypes_of_compileWith ih hCompiled)

------------------------------------------------------------
-- Checking Anywhere
------------------------------------------------------------

/-
  A compiled schema is faithful as a custom type, if its own
  custom types report at paths that extend the given one by
  what does not depend on it.  At any path it reports what
  it reports of the value itself, in the same order, with
  that path before each of the paths.  It reports nothing
  exactly when it accepts the value, since a refusal is never
  without violations.  And it is itself such a custom type.
-/
theorem compile_toCustomType_faithful
    (hTypes : setting.AllTypes CustomType.Relative)
    (hCompiled :
      compileWith setting workingDir source = ⟨.ok schema, final⟩) :
    (∀ now value path,
      schema.toCustomType.check now value path =
        (schema.check now value {}).map (fun outcome =>
          match outcome with
          | .ok _ => []
          | .error vs =>
              vs.map (fun v => ⟨path ++ v.path, v.code, v.message⟩))) ∧
      (∀ now value path,
        schema.toCustomType.check now value path = some [] ↔
          ∃ accepted,
            schema.check now value {} = some (.ok accepted)) ∧
      (∀ now value options vs,
        schema.check now value options = some (.error vs) →
          vs ≠ []) ∧
      schema.toCustomType.Relative := by
  have hSchema := allTypes_of_compileWith hTypes hCompiled
  have hReports :
      ∀ now value path,
        schema.toCustomType.check now value path =
          (schema.check now value {}).map (fun outcome =>
            match outcome with
            | .ok _ => []
            | .error vs => vs.map (Violation.under path)) := by
    intro now value path
    rw [Compiled.toCustomType_check hSchema]
    congr 1
    funext outcome
    cases outcome <;> rfl
  have hRefused :
      ∀ now value options vs,
        schema.check now value options = some (.error vs) →
          vs ≠ [] := by
    intro now value options vs hCheck
    exact Graph.check_answers _ _ _ _ _ _ _
      (Compiled.check_eq_error_iff.mp hCheck)
  refine ⟨hReports, ?_, hRefused,
    Compiled.relative_toCustomType hSchema⟩
  intro now value path
  rw [hReports, Option.map_eq_some_iff]
  constructor
  · rintro ⟨outcome, hOutcome, hNone⟩
    cases outcome with
    | ok accepted => exact ⟨accepted, hOutcome⟩
    | error vs =>
        exact absurd (List.map_eq_nil_iff.mp hNone)
          (hRefused now value {} vs hOutcome)
  · rintro ⟨accepted, hAccepted⟩
    exact ⟨_, hAccepted, rfl⟩

/- A compilation that succeeds has the schema that it made. -/
theorem Compilation.eq_compiled_of_isOk
    {c : Compilation}
    (hOk : c.result.isOk = true) :
    c = ⟨.ok c.compiled, c.final⟩ := by
  rcases Compilation.exists_eq_of_isOk hOk with ⟨schema, hEq⟩
  have hSchema : c.compiled = schema := by
    rw [Compilation.compiled, hEq]
    rfl
  rw [hSchema]
  exact hEq

/- Alone with one custom type. -/
def Setting.withOnly
    (name : String)
    (type : CustomType) : Setting :=
  { Setting.alone with
    options := Setting.alone.options.withType name type }

/- The one custom type is all there are. -/
theorem Setting.allTypes_withOnly
    {good : CustomType → Prop}
    {type : CustomType}
    (name : String)
    (hGood : good type) :
    (Setting.withOnly name type).AllTypes good := by
  intro other found hFound
  have hMem : (other, found) ∈ [(name, type)] :=
    mem_of_lookup_eq_some hFound
  rw [List.mem_singleton, Prod.mk.injEq] at hMem
  rw [hMem.2]
  exact hGood

/- Complains twice of a text, at its path and further inside. -/
def CustomType.noisy : CustomType where
  name := "noisy"
  check := fun _ value path =>
    match value with
    | .string _ =>
        some
          [⟨path, "noisy.first", "first"⟩,
            ⟨path ++ "/x", "noisy.second", "second"⟩]
    | _ => some []

/- The second path extends the given one by a fixed text. -/
theorem CustomType.relative_noisy : noisy.Relative := by
  intro now value path
  cases value <;> simp [noisy, Violation.under]

/- An array with items of one type. -/
def Json.listOf
    (type : String) : Json :=
  .object
    [("items", .object [("type", .string type)]),
      ("type", .string "array")]

/- Arrays of the custom type. -/
def Compilation.noisyList : Compilation :=
  compileWith (Setting.withOnly "noisy" .noisy) ⟨"/"⟩
    (.value (Json.listOf "noisy"))

/- Alone with the type of such arrays. -/
def Setting.withNoisyLists : Setting :=
  Setting.withOnly "list" Compilation.noisyList.compiled.toCustomType

/- Arrays, one of which has a text. -/
def Json.nestedText : Json :=
  .array [.array [], .array [.null, .string "text"]]

/-
  An array of arrays of the custom type refuses a text inside
  it, and as a custom type it does so under any path.
-/
theorem compile_toCustomType_faithful_noisy :
    ∃ schema,
      (compileWith Setting.withNoisyLists ⟨"/"⟩
          (.value (Json.listOf "list"))).result = .ok schema ∧
        Setting.withNoisyLists.AllTypes CustomType.Relative ∧
        schema.toCustomType.check ⟨0, ⟨0, 0⟩⟩ Json.nestedText "/a" =
          some
            [⟨"/a/1/1", "noisy.first", "first"⟩,
              ⟨"/a/1/1/x", "noisy.second", "second"⟩] ∧
        schema.toCustomType.Relative := by
  -- The lists are relative, since they are made of such a type.
  have hList : Compilation.noisyList.compiled.toCustomType.Relative :=
    (compile_toCustomType_faithful
      (Setting.allTypes_withOnly "noisy" CustomType.relative_noisy)
      (Compilation.eq_compiled_of_isOk
        (c := Compilation.noisyList) (by decide +kernel))).2.2.2
  have hLists : Setting.withNoisyLists.AllTypes CustomType.Relative :=
    Setting.allTypes_withOnly "list" hList
  have hCompiled :=
    Compilation.eq_compiled_of_isOk
      (c := compileWith Setting.withNoisyLists ⟨"/"⟩
        (.value (Json.listOf "list"))) (by decide +kernel)
  have hResult := congrArg Compilation.result hCompiled
  rcases compile_toCustomType_faithful hLists hCompiled with
    ⟨hReports, _, _, hRelative⟩
  refine ⟨_, hResult, hLists, ?_, hRelative⟩
  have hViolations :
      (compileWith Setting.withNoisyLists ⟨"/"⟩
          (.value (Json.listOf "list"))).violations?
            ⟨0, ⟨0, 0⟩⟩ Json.nestedText {} =
        some
          [⟨"/1/1", "noisy.first", "first"⟩,
            ⟨"/1/1/x", "noisy.second", "second"⟩] := by
    decide +kernel
  rw [hReports, Compilation.check_of_violations? hResult hViolations]
  rfl

------------------------------------------------------------
-- Reporting Inside
------------------------------------------------------------

/-
  The custom type reports only at the path that it is given,
  and with the given codes.
-/
def CustomType.ReportsHere
    (codes : String → Prop)
    (type : CustomType) : Prop :=
  ∀ now value path vs,
    type.check now value path = some vs →
      ∀ v ∈ vs, v.path = path ∧ codes v.code

/- Such a type reports at a position of the value. -/
theorem CustomType.ReportsHere.pointsInside
    {codes : String → Prop}
    {type : CustomType}
    (hReports : type.ReportsHere codes) :
    type.PointsInside codes := by
  intro now value path vs _ hCheck v hMem
  rcases hReports now value path vs hCheck v hMem with
    ⟨hPath, hCode⟩
  exact .here value hPath (fun _ => hCode)

/- A test reports at the given path, with its own code. -/
theorem CustomType.reportsHere_ofTest
    (name : String)
    (test : Json → Option String) :
    (ofTest name test).ReportsHere
      (fun code => code = name ++ ".base") := by
  intro now value path vs hCheck v hMem
  simp only [ofTest] at hCheck
  cases hTest : test value with
  | none =>
      simp only [hTest, Option.some.injEq] at hCheck
      subst hCheck
      cases hMem
  | some message =>
      simp only [hTest, Option.some.injEq] at hCheck
      subst hCheck
      rw [List.mem_singleton.mp hMem]
      exact ⟨rfl, rfl⟩

/-
  The paths of violations are JSON pointers into the checked
  value, if the custom types report only at the path that
  they are given or are compiled schemas with such types.
  Each violation stands at a position of the value.  Or it
  says that a member is required, and its path is that of a
  member which an object of the value lacks.  At a position
  that is there, such a code is one that a custom type uses.
-/
theorem compile_violations_point
    {codes : String → Prop}
    (hTypes :
      setting.AllTypes
        (CustomType.NestedOver (CustomType.ReportsHere codes)))
    (hCompiled :
      compileWith setting workingDir source = ⟨.ok schema, final⟩)
    (now : Calendar.Instant)
    {value : Json}
    (hCanonical : value.Canonical)
    (options : CheckOptions)
    {vs : List Violation}
    (hCheck :
      schema.graph.check now schema.root (some value) "" options =
        some (.error vs)) :
    ∀ v ∈ vs,
      (∃ x, value.findText? v.path = some x) ∧
          (v.code = "any.required" → codes "any.required") ∨
        v.code = "any.required" ∧
          ∃ q name members,
            v.path = Violation.memberPath q name ∧
              value.findText? q = some (.object members) ∧
              members.lookup name = none := by
  have hInside :
      setting.AllTypes (CustomType.PointsInside codes) := by
    intro name type hName
    exact (hTypes name type hName).inherits
      (fun _ hPlain => hPlain.pointsInside)
      (fun _ hSchema => Compiled.pointsInside_toCustomType hSchema)
  intro v hMem
  have hPoints :=
    Graph.check_points (allTypes_of_compileWith hInside hCompiled)
      hCanonical hCheck hMem
  rcases hPoints.findText? with ⟨hFound, hCode⟩ | hMissing
  · refine Or.inl ⟨hFound, ?_⟩
    intro hRequired
    have hAllowed := hCode hRequired
    rwa [hRequired] at hAllowed
  · exact Or.inr hMissing

/- Refuses all but texts. -/
def CustomType.textOnly : CustomType :=
  .ofTest "text" (fun value =>
    match value with
    | .string _ => none
    | _ => some "must be text")

/- Texts under names that have to be escaped, one required. -/
def Json.textsByName : Json :=
  .object
    [("properties", .object
      [("1", .object [("type", .string "text")]),
        ("a/b~c", .object [("type", .string "text")])]),
      ("required", .array [.string "1"]),
      ("type", .string "object")]

/- Such objects. -/
def Compilation.textsByName : Compilation :=
  compileWith (Setting.withOnly "text" .textOnly) ⟨"/"⟩
    (.value Json.textsByName)

/- Alone with the type of such objects. -/
def Setting.withTexts : Setting :=
  Setting.withOnly "texts"
    Compilation.textsByName.compiled.toCustomType

/- Such objects, in order, in an array under the empty name. -/
def Json.textsUnderNothing : Json :=
  .object
    [("properties", .object [("", Json.listOf "texts")]),
      ("type", .string "object")]

/- One object has no text, and lacks another. -/
def Json.noTextUnderNothing : Json :=
  .object [("", .array [.object [("a/b~c", .null)]])]

/- What is missing, and what is no text. -/
def Violation.noTexts : List Violation :=
  [⟨"//0/1", "any.required", "is required"⟩,
    ⟨"//0/a~1b~0c", "text.base", "must be text"⟩]

/-
  The path of the text leads to it, and the path of what is
  missing to the object that lacks it.
-/
theorem compile_violations_point_noTexts :
    ∃ schema,
      (compileWith Setting.withTexts ⟨"/"⟩
          (.value Json.textsUnderNothing)).result = .ok schema ∧
        schema.graph.check ⟨0, ⟨0, 0⟩⟩ schema.root
            (some Json.noTextUnderNothing) "" {} =
          some (.error Violation.noTexts) ∧
        (∃ x,
          Json.noTextUnderNothing.findText? "//0/a~1b~0c" = some x) ∧
        ∃ q name members,
          "//0/1" = Violation.memberPath q name ∧
            Json.noTextUnderNothing.findText? q =
              some (.object members) ∧
            members.lookup name = none := by
  have hText :
      CustomType.textOnly.ReportsHere
        (fun code => code = "text.base") :=
    CustomType.reportsHere_ofTest "text" _
  have hTypes :
      Setting.withTexts.AllTypes
        (CustomType.NestedOver
          (CustomType.ReportsHere (fun code => code = "text.base"))) :=
    Setting.allTypes_withOnly "texts"
      (.schema (Setting.withOnly "text" .textOnly) ⟨"/"⟩
        (.value Json.textsByName) _ _
        (Setting.allTypes_withOnly "text" (.single _ hText))
        (Compilation.eq_compiled_of_isOk
          (c := Compilation.textsByName) (by decide +kernel)))
  have hCompiled :=
    Compilation.eq_compiled_of_isOk
      (c := compileWith Setting.withTexts ⟨"/"⟩
        (.value Json.textsUnderNothing)) (by decide +kernel)
  have hResult := congrArg Compilation.result hCompiled
  have hCanonical : Json.noTextUnderNothing.Canonical := by
    simp [Json.noTextUnderNothing, Json.Canonical,
      Json.CanonicalItems, Json.CanonicalMembers, Members.Sorted]
  have hViolations :
      (compileWith Setting.withTexts ⟨"/"⟩
          (.value Json.textsUnderNothing)).violations?
            ⟨0, ⟨0, 0⟩⟩ Json.noTextUnderNothing {} =
        some Violation.noTexts := by
    decide +kernel
  have hCheck :=
    Compiled.check_eq_error_iff.mp
      (Compilation.check_of_violations? hResult hViolations)
  have hPoints :=
    compile_violations_point hTypes hCompiled ⟨0, ⟨0, 0⟩⟩ hCanonical
      {} hCheck
  refine ⟨_, hResult, hCheck, ?_, ?_⟩
  · rcases hPoints _ (List.mem_cons_of_mem _ (List.mem_cons_self))
      with ⟨hFound, _⟩ | ⟨hCode, _⟩
    · exact hFound
    · exact absurd hCode (by decide)
  · rcases hPoints _ (List.mem_cons_self) with
      ⟨_, hCode⟩ | ⟨_, hMissing⟩
    · exact absurd (hCode rfl) (by decide)
    · exact hMissing

end SchemaGraph
