import Mathlib
import SchemaGraph.Proofs.Compile.MirroredNodes
import SchemaGraph.Proofs.Compile.Transparency

/-
  Members that are null.  A compilation does the same when
  they are left out of schemas: it ends with the same error,
  or with the same graph.  Only the least length of a plain
  string makes a difference, and only for the empty text.

  Main declarations:
    * `compile_nullMembers`
    * `get?_first_of_value`
-/

namespace SchemaGraph

/-
  A keyword that is null is like a missing one, but for the
  least length of a plain string.

  Members that are null may be left out of any documents of
  a compilation, of several nodes at once: it ends with the
  same error, or with the same graph and root, so that every
  value is judged as before.  No reference may lead to what
  is left out, and a schema that is met must not be data of
  another one, nor the names of its properties or its link.

  A plain string whose least length is null is told apart
  from one without a least length.  It has the same faults,
  and its rule says the same of every value but the empty
  text, which is refused with the null and accepted without.
-/
theorem compile_nullMembers
    (setting : Setting)
    (workingDir : Path)
    (source : Source)
    (cuts : Omissions)
    (hSpares :
      (compileWith setting workingDir source).final.Spares cuts) :
    (compileWith (setting.omitting cuts) workingDir
          (source.omitting cuts)).result =
        (compileWith setting workingDir source).result ∧
      ∀ (engine : Pattern.Engine) (o : Omission) (node : Json),
        o.OnlyNulls node → o.omits "minLength" = true →
          plainStringRule engine (o.apply node) =
              (plainStringRule engine node).map
                StringRule.admittingEmpty ∧
            ∀ rule path,
              plainStringRule engine node = .ok rule →
                rule.check (.string "") path =
                    [Violation.of path .emptyString] ∧
                  rule.admittingEmpty.check (.string "") path = [] ∧
                  ∀ value, value ≠ .string "" →
                    rule.admittingEmpty.check value path =
                      rule.check value path := by
  constructor
  · have hMirrors :=
      compileSteps_mirrors hSpares setting workingDir source
    rw [compileWith_eq_stateAfter] at hMirrors
    have hSame := hMirrors.same (Continues.steady.refl _)
    have hInitial : State.initial.omitting cuts = State.initial :=
      rfl
    rw [hInitial] at hSame
    unfold compileWith compileWatched
    rw [hSame]
    cases compileSteps setting Watch.never workingDir source
      State.initial <;> rfl
  · intro engine o node hNulls hOmits
    have hNull := hNulls.member?_eq hOmits
    exact ⟨plainStringRule_apply_null hNull hNulls hOmits,
      fun rule path hRule =>
        check_admittingEmpty hNull hRule path⟩

/- The root of an in-memory schema is the first document. -/
theorem get?_first_of_value
    (schema : Json)
    (hObject : schema.isObject = true)
    (setting : Setting)
    (workingDir : Path) :
    (compileWith setting workingDir
        (.value schema)).final.store.get? ⟨0⟩ =
      some
        ⟨schema, declaredRoot? schema <|> setting.options.baseDir,
          .inline⟩ := by
  have hLoad :
      loadRoot setting workingDir (.value schema) State.initial =
        _ :=
    loadRoot_value workingDir hObject
  rw [compileWith_eq_stateAfter]
  have hKeeps :=
    resolveWithin_keeps Continues.steady setting Watch.never
      (setting.budget + 1) (NodeKey.root ⟨0⟩)
  have hAfter :=
    hKeeps
      (State.holding
        ⟨schema, declaredRoot? schema <|> setting.options.baseDir,
          .inline⟩)
  unfold compileSteps stateAfter at *
  rw [bind_of_ok hLoad]
  exact hAfter.get? rfl

/- An object with a list, which a property refers to. -/
def Json.withNulls : Json :=
  .object
    [("additionalProperties", .null),
      ("properties", .object
        [("list", .object
          [("items", .null), ("minItems", .null),
            ("type", .string "array")]),
        ("same", .object [("$ref", .string "#/properties/list")])]),
      ("required", .null), ("type", .string "object")]

/- The object without nulls. -/
def Json.withoutNulls : Json :=
  .object
    [("properties", .object
      [("list", .object [("type", .string "array")]),
      ("same", .object [("$ref", .string "#/properties/list")])]),
      ("type", .string "object")]

/- The nulls of the object and of its list. -/
def Omission.ofNulls : Omission :=
  .members ["additionalProperties", "required"] (fun outer =>
    if outer = "properties" then
      .members [] (fun name =>
        if name = "list" then
          .members ["items", "minItems"] (fun _ => .nothing)
        else
          .nothing)
    else
      .nothing)

/- What is left out of the object are nulls. -/
theorem onlyNulls_withNulls :
    Omission.ofNulls.OnlyNulls Json.withNulls := by
  refine ⟨?_, ?_⟩
  · simp [Json.withNulls, Json.member?, List.lookup]
  · intro outer v hStep
    by_cases hOuter : outer = "properties"
    · subst hOuter
      cases hStep
      refine ⟨fun _ hMem => absurd hMem List.not_mem_nil, ?_⟩
      intro name w hName
      by_cases hList : name = "list"
      · subst hList
        cases hName
        refine ⟨?_, fun _ _ _ => trivial⟩
        simp [Json.member?, List.lookup]
      · simp only [if_neg hList]
        trivial
    · simp only [if_neg hOuter]
      trivial

/- Data, links and names of properties are spared. -/
theorem spares_ofNulls
    (segments : List String)
    (hSegments :
      segments ∈ [[], ["properties", "list"], ["properties", "same"]])
    (node : Json) :
    (Omission.ofNulls.behind segments).Spares node := by
  simp only [List.mem_cons, List.not_mem_nil, or_false] at hSegments
  rcases hSegments with rfl | rfl | rfl
  · refine ⟨?_, ?_, rfl, fun hOmits => absurd hOmits (by decide)⟩
    · intro name hName v _
      have hOther : name ≠ "properties" := by
        rintro rfl
        simp at hName
      simp only [Omission.behind, List.foldl_nil, Omission.ofNulls,
        Omission.inside, if_neg hOther]
      rfl
    · intro name
      rfl
  · exact ⟨fun _ _ _ _ => rfl, fun _ => rfl, rfl,
      fun hOmits => absurd hOmits (by decide)⟩
  · exact ⟨fun _ _ _ _ => rfl, fun _ => rfl, rfl,
      fun hOmits => absurd hOmits (by decide)⟩

/- Compiling the object meets what may be left out nowhere. -/
theorem spares_withNulls
    {f : State}
    {baseDir : Option Path}
    (hFirst :
      f.store.get? ⟨0⟩ = some ⟨Json.withNulls, baseDir, .inline⟩)
    (hOne : f.store.documents.length = 1)
    (hTargets : f.targets = [⟨⟨0⟩, ⟨["properties", "list"]⟩⟩])
    (hPlaces :
      f.places =
        [⟨⟨0⟩, ⟨["properties", "list"]⟩⟩,
          ⟨⟨0⟩, ⟨["properties", "same"]⟩⟩,
          ⟨⟨0⟩, ⟨["properties", "list"]⟩⟩, ⟨⟨0⟩, ⟨[]⟩⟩]) :
    f.Spares (fun _ => .ofNulls) where
  nulls := by
    intro d hMem
    rcases List.length_eq_one_iff.mp hOne with ⟨only, hOnly⟩
    have hSame : f.store.get? ⟨0⟩ = some d := by
      rw [hOnly] at hMem
      rw [List.mem_singleton.mp hMem, Store.get?, hOnly]
      rfl
    rw [hFirst] at hSame
    cases hSame
    exact onlyNulls_withNulls
  references := by
    rw [hTargets]
    intro target hMem d _
    rw [List.mem_singleton.mp hMem]
    exact ⟨rfl, rfl, trivial⟩
  schemas := by
    have hSpares :
        ∀ segments node,
          segments ∈
              [[], ["properties", "list"], ["properties", "same"]] →
            (f.cutAt (fun _ => .ofNulls) ⟨⟨0⟩, ⟨segments⟩⟩).Spares
              node := by
      intro segments node hSegments
      have hHere :
          f.store.get? (NodeKey.doc ⟨⟨0⟩, ⟨segments⟩⟩) = _ :=
        hFirst
      rw [State.cutAt_eq _ hHere]
      exact spares_ofNulls segments hSegments node
    rw [hPlaces]
    simp only [List.forall_mem_cons]
    exact ⟨fun node _ => hSpares _ node (by simp),
      fun node _ => hSpares _ node (by simp),
      fun node _ => hSpares _ node (by simp),
      fun node _ => hSpares _ node (by simp),
      fun _ hMem => absurd hMem List.not_mem_nil⟩

/- A plain string whose least length is null. -/
def Json.nullLength : Json :=
  .object [("minLength", .null), ("type", .string "string")]

/- The least length is what is left out of it. -/
theorem onlyNulls_nullLength :
    (Omission.members ["minLength"] (fun _ => .nothing)).OnlyNulls
      Json.nullLength := by
  refine ⟨?_, fun _ _ _ => trivial⟩
  simp [Json.nullLength, Json.member?, List.lookup]

/-
  Nulls of a schema and of a schema inside it, which is
  referred to, are left out together.  The empty text is
  refused because of a least length that is null.
-/
theorem compile_nullMembers_withNulls :
    (compileAlone Json.withoutNulls).result =
        (compileAlone Json.withNulls).result ∧
      (compileAlone Json.withNulls).result.isOk = true ∧
      ∃ rule,
        plainStringRule .expanding Json.nullLength = .ok rule ∧
          rule.check (.string "") "" =
            [Violation.of "" .emptyString] ∧
          rule.admittingEmpty.check (.string "") "" = [] := by
  unfold compileAlone
  have hFirst :=
    get?_first_of_value Json.withNulls rfl Setting.alone ⟨"/"⟩
  have hSpares :=
    spares_withNulls hFirst (by decide +kernel) (by decide +kernel)
      (by decide +kernel)
  rcases compile_nullMembers Setting.alone ⟨"/"⟩
    (.value Json.withNulls) _ hSpares with ⟨hResult, hLengths⟩
  have hChecks :=
    (hLengths .expanding _ Json.nullLength onlyNulls_nullLength
      rfl).2 _ "" rfl
  exact ⟨hResult, by decide +kernel, _, rfl, hChecks.1, hChecks.2.1⟩

end SchemaGraph
