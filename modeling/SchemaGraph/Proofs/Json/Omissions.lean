import Mathlib
import SchemaGraph.Compile.Keyword
import SchemaGraph.Compile.Reference
import SchemaGraph.Proofs.Json.Positions

/-
  Leaving members out of values.  An omission tells, for the
  positions of a value, which members are left out; other
  members and all items are kept.  What is kept is found
  where it was, by pointers as well as by references, and
  nothing else is found.

  Main declarations:
    * `Omission`
    * `Omission.apply`
    * `Omission.Leaves`
    * `Omission.OnlyNulls`
    * `SameShape`
    * `Omission.member?_apply`
    * `Omission.findSegments?_apply`
    * `Omission.looseWalk?_apply`
-/

namespace SchemaGraph

------------------------------------------------------------
-- Omissions
------------------------------------------------------------

/- What is left out of a value. -/
inductive Omission where
  | nothing
  /- Members by name, and further ones inside what is kept. -/
  | members (names : List String) (inner : String → Omission)

namespace Omission

/- A member is left out. -/
def omits : Omission → String → Bool
  | nothing, _ => false
  | members names _, name => names.contains name

/- What is left out of a member or an item that is kept. -/
def inside : Omission → String → Omission
  | nothing, _ => nothing
  | members _ inner, segment => inner segment

/- The value without what is left out. -/
def apply : Omission → Json → Json
  | nothing, value => value
  | members names inner, .object entries =>
      .object
        ((entries.filter (fun e => !names.contains e.1)).map
          (fun e => (e.1, (inner e.1).apply e.2)))
  | members _ inner, .array items =>
      .array
        (items.mapIdx (fun i x =>
          (inner (Pointer.indexSegment i)).apply x))
  | members _ _, value => value

/- What is left out behind some segments. -/
def behind
    (o : Omission)
    (segments : List String) : Omission :=
  segments.foldl inside o

/- Nothing is left out on the way along some segments. -/
def Leaves : Omission → List String → Prop
  | _, [] => True
  | o, segment :: rest =>
      o.omits segment = false ∧ (o.inside segment).Leaves rest

/- All that is left out of a value are members that are null. -/
def OnlyNulls : Omission → Json → Prop
  | nothing, _ => True
  | members names inner, value =>
      (∀ name ∈ names, value.member? name = some .null) ∧
        ∀ segment v, value.step? segment = some v →
          (inner segment).OnlyNulls v

end Omission

------------------------------------------------------------
-- Shapes
------------------------------------------------------------

/-
  The values are the same, or objects, or arrays of the same
  texts and other values.
-/
inductive SameShape : Json → Json → Prop where
  | same (v : Json) : SameShape v v
  | arrays
      {xs ys : List Json}
      (hTexts : xs.map Json.text? = ys.map Json.text?) :
      SameShape (.array xs) (.array ys)
  | objects
      (ms ns : List (String × Json)) :
      SameShape (.object ms) (.object ns)

namespace SameShape

variable {v w : Json}

/- Values of one shape have the same text. -/
theorem text?_eq
    (hShape : SameShape v w) :
    v.text? = w.text? := by
  cases hShape <;> rfl

/- Values of one shape are the same number. -/
theorem float?_eq
    (hShape : SameShape v w) :
    v.float? = w.float? := by
  cases hShape <;> rfl

/- Values of one shape count alike. -/
theorem isTruthy_eq
    (hShape : SameShape v w) :
    v.isTruthy = w.isTruthy := by
  cases hShape <;> rfl

/- Values of one shape are objects alike. -/
theorem isObject_eq
    (hShape : SameShape v w) :
    v.isObject = w.isObject := by
  cases hShape <;> rfl

end SameShape

namespace Omission

variable {o : Omission}
variable {value : Json}
variable {name segment : String}

/- Texts are kept, and no other value becomes one. -/
theorem text?_apply
    (o : Omission)
    (value : Json) :
    (o.apply value).text? = value.text? := by
  cases o with
  | nothing => rfl
  | members names inner => cases value <;> rfl

/- A value keeps its shape. -/
theorem sameShape_apply
    (o : Omission)
    (value : Json) :
    SameShape (o.apply value) value := by
  cases o with
  | nothing => exact .same value
  | members names inner =>
      cases value with
      | array items =>
          refine .arrays (List.ext_getElem? fun i => ?_)
          simp only [List.getElem?_map, List.getElem?_mapIdx,
            Option.map_map, Function.comp_def, text?_apply]
      | object entries => exact .objects _ _
      | _ => exact .same _

------------------------------------------------------------
-- Members and Items
------------------------------------------------------------

/- Looking a key up among the kept entries. -/
theorem lookup_kept
    (names : List String)
    (inner : String → Omission)
    (entries : List (String × Json))
    (name : String) :
    ((entries.filter (fun e => !names.contains e.1)).map
        (fun e => (e.1, (inner e.1).apply e.2))).lookup name =
      if names.contains name then
        none
      else
        (entries.lookup name).map (inner name).apply := by
  induction entries with
  | nil => simp
  | cons e rest ih =>
      rcases e with ⟨first, x⟩
      rw [lookup_cons_eq_ite]
      by_cases hFirst : names.contains first = true
      · rw [List.filter_cons_of_neg (by simpa using hFirst), ih]
        by_cases hSame : name = first
        · rw [hSame, if_pos hFirst, if_pos hFirst]
        · rw [if_neg hSame]
      · rw [List.filter_cons_of_pos (by simpa using hFirst),
          List.map_cons, lookup_cons_eq_ite, ih]
        by_cases hSame : name = first
        · rw [hSame, if_pos rfl, if_pos rfl, if_neg hFirst]
          rfl
        · rw [if_neg hSame, if_neg hSame]

/- A member is left out, or kept without what is left out of it. -/
theorem member?_apply
    (o : Omission)
    (value : Json)
    (name : String) :
    (o.apply value).member? name =
      if o.omits name then
        none
      else
        (value.member? name).map (o.inside name).apply := by
  cases o with
  | nothing => exact Option.map_id'.symm
  | members names inner =>
      cases value with
      | object entries => exact lookup_kept names inner entries name
      | _ => exact (ite_self none).symm

/- The items of a list without what is left out of them. -/
def applyItems
    (o : Omission)
    (items : List Json) : List Json :=
  items.mapIdx (fun i x =>
    (o.inside (Pointer.indexSegment i)).apply x)

/- No item is left out. -/
theorem length_applyItems
    (o : Omission)
    (items : List Json) :
    (o.applyItems items).length = items.length :=
  List.length_mapIdx

/- An item is kept without what is left out of it. -/
theorem getElem?_applyItems
    (o : Omission)
    (items : List Json)
    (i : Nat) :
    (o.applyItems items)[i]? =
      items[i]?.map (o.inside (Pointer.indexSegment i)).apply :=
  List.getElem?_mapIdx

/- The items of an array that members are left out of. -/
theorem apply_array
    (o : Omission)
    (items : List Json) :
    o.apply (.array items) = .array (o.applyItems items) := by
  cases o with
  | nothing =>
      refine congrArg Json.array (List.ext_getElem? fun i => ?_)
      rw [getElem?_applyItems]
      exact Option.map_id'.symm
  | members names inner => rfl

/- The members of an object keep their names if none is left out. -/
theorem names_apply
    (entries : List (String × Json))
    (hAll : ∀ name, o.omits name = false) :
    ∃ kept,
      o.apply (.object entries) = .object kept ∧
        kept.map (fun e => e.1) = entries.map (fun e => e.1) := by
  cases o with
  | nothing => exact ⟨entries, rfl, rfl⟩
  | members names inner =>
      refine ⟨_, rfl, ?_⟩
      rw [List.filter_eq_self.mpr ?_, List.map_map]
      · rfl
      · intro e _
        rw [show names.contains e.1 = false from hAll e.1]
        rfl

------------------------------------------------------------
-- Pointers
------------------------------------------------------------

/- A step to what is not left out. -/
theorem step?_apply
    (hKept : o.omits segment = false) :
    (o.apply value).step? segment =
      (value.step? segment).map (o.inside segment).apply := by
  cases value with
  | object entries =>
      have hMember := member?_apply o (.object entries) segment
      rw [hKept, if_neg Bool.false_ne_true] at hMember
      cases o <;> exact hMember
  | array items =>
      rw [apply_array, Json.step?, Json.step?]
      cases hIndex : Json.canonicalIndex? segment with
      | none => rfl
      | some i =>
          rw [Option.bind_some, Option.bind_some,
            getElem?_applyItems,
            Json.eq_indexSegment_of_canonicalIndex? hIndex]
  | _ => cases o <;> rfl

/- Pointers to what is not left out lead where they did. -/
theorem findSegments?_apply
    {segments : List String}
    (hLeaves : o.Leaves segments) :
    Json.findSegments? (o.apply value) segments =
      (Json.findSegments? value segments).map
        (o.behind segments).apply := by
  induction segments generalizing o value with
  | nil => rfl
  | cons segment rest ih =>
      rw [Json.findSegments?, Json.findSegments?,
        step?_apply hLeaves.1]
      cases value.step? segment with
      | none => rfl
      | some next => exact ih hLeaves.2

/- One segment more. -/
theorem behind_append_singleton
    (o : Omission)
    (segments : List String)
    (segment : String) :
    o.behind (segments ++ [segment]) =
      (o.behind segments).inside segment := by
  rw [behind, List.foldl_append]
  rfl

/- Nothing is left out up to a member that is kept. -/
theorem leaves_append_singleton
    {segments : List String}
    (hLeaves : o.Leaves segments)
    (hKept : (o.behind segments).omits segment = false) :
    o.Leaves (segments ++ [segment]) := by
  induction segments generalizing o with
  | nil => exact ⟨hKept, trivial⟩
  | cons first rest ih => exact ⟨hLeaves.1, ih hLeaves.2 hKept⟩

------------------------------------------------------------
-- References
------------------------------------------------------------

/- A step of a reference to what is not left out. -/
theorem looseStep?_apply
    {next : Json}
    {text : String}
    (hStep : looseStep? value text = some (segment, next))
    (hKept : o.omits segment = false) :
    looseStep? (o.apply value) text =
      some (segment, (o.inside segment).apply next) := by
  cases value with
  | object entries =>
      rcases Option.map_eq_some_iff.mp hStep with ⟨v, hLook, hPair⟩
      cases hPair
      have hMember := member?_apply o (.object entries) segment
      rw [hKept, if_neg Bool.false_ne_true,
        show (Json.object entries).member? segment = some next from
          hLook] at hMember
      cases o <;>
        exact Option.map_eq_some_iff.mpr ⟨_, hMember, rfl⟩
  | array items =>
      rcases Option.bind_eq_some_iff.mp hStep with ⟨i, hIndex, hRest⟩
      rcases Option.bind_eq_some_iff.mp hRest with ⟨v, hItem, hPair⟩
      cases hPair
      rw [apply_array]
      refine Option.bind_eq_some_iff.mpr ⟨i, hIndex, ?_⟩
      refine Option.bind_eq_some_iff.mpr ⟨_, ?_, rfl⟩
      rw [getElem?_applyItems, hItem]
      rfl
  | _ => cases hStep

/- References take no step that they did not take. -/
theorem exists_looseStep?_of_apply
    {next : Json}
    {text : String}
    (hStep : looseStep? (o.apply value) text = some (segment, next)) :
    ∃ before,
      looseStep? value text = some (segment, before) ∧
        next = (o.inside segment).apply before := by
  cases value with
  | object entries =>
      have hMember := member?_apply o (.object entries) text
      have hLook :
          (o.apply (.object entries)).member? text = some next ∧
            segment = text := by
        cases o <;>
        · rcases Option.map_eq_some_iff.mp hStep with
            ⟨v, hLook, hPair⟩
          cases hPair
          exact ⟨hLook, rfl⟩
      rcases hLook with ⟨hLook, rfl⟩
      rw [hLook] at hMember
      by_cases hOmits : o.omits segment = true
      · rw [if_pos hOmits] at hMember
        cases hMember
      · rw [if_neg hOmits] at hMember
        rcases Option.map_eq_some_iff.mp hMember.symm with
          ⟨before, hBefore, hNext⟩
        exact ⟨before,
          Option.map_eq_some_iff.mpr ⟨before, hBefore, rfl⟩,
          hNext.symm⟩
  | array items =>
      rw [apply_array] at hStep
      rcases Option.bind_eq_some_iff.mp hStep with ⟨i, hIndex, hRest⟩
      rcases Option.bind_eq_some_iff.mp hRest with ⟨v, hItem, hPair⟩
      cases hPair
      rw [getElem?_applyItems] at hItem
      rcases Option.map_eq_some_iff.mp hItem with
        ⟨before, hBefore, hNext⟩
      refine ⟨before, Option.bind_eq_some_iff.mpr ⟨i, hIndex, ?_⟩,
        hNext.symm⟩
      exact Option.bind_eq_some_iff.mpr ⟨before, hBefore, rfl⟩
  | _ => cases o <;> cases hStep

/- The segments that a walk adds to where it starts. -/
theorem looseWalk?_apply
    {here p : Pointer}
    {parts : List String}
    (hWalk : looseWalk? here value parts = some p) :
    ∃ way,
      p.segments = here.segments ++ way ∧
        (o.Leaves way →
          looseWalk? here (o.apply value) parts = some p) := by
  induction parts generalizing here value o with
  | nil =>
      cases hWalk
      exact ⟨[], (List.append_nil _).symm, fun _ => rfl⟩
  | cons part rest ih =>
      rw [looseWalk?] at hWalk
      by_cases hBlank : part = ""
      · rw [if_pos hBlank] at hWalk
        rcases ih (o := o) hWalk with ⟨way, hSegments, hSame⟩
        refine ⟨way, hSegments, fun hLeaves => ?_⟩
        rw [looseWalk?, if_pos hBlank]
        exact hSame hLeaves
      · rw [if_neg hBlank] at hWalk
        cases hStep : looseStep? value (Pointer.unescape part) with
        | none => simp [hStep] at hWalk
        | some taken =>
            rcases taken with ⟨segment, next⟩
            simp only [hStep] at hWalk
            rcases ih (o := o.inside segment) hWalk with
              ⟨way, hSegments, hSame⟩
            refine ⟨segment :: way, ?_, fun hLeaves => ?_⟩
            · rw [hSegments, Pointer.child, List.append_assoc]
              rfl
            · rw [looseWalk?, if_neg hBlank,
                looseStep?_apply hStep hLeaves.1]
              exact hSame hLeaves.2

/- Where a walk did not end, it does not end. -/
theorem looseWalk?_apply_eq_none
    {here : Pointer}
    {parts : List String}
    (hWalk : looseWalk? here value parts = none) :
    looseWalk? here (o.apply value) parts = none := by
  induction parts generalizing here value o with
  | nil => cases hWalk
  | cons part rest ih =>
      rw [looseWalk?] at hWalk ⊢
      by_cases hBlank : part = ""
      · rw [if_pos hBlank] at hWalk ⊢
        exact ih hWalk
      · rw [if_neg hBlank] at hWalk ⊢
        cases hStep :
            looseStep? (o.apply value) (Pointer.unescape part) with
        | none => rfl
        | some taken =>
            rcases taken with ⟨segment, next⟩
            rcases exists_looseStep?_of_apply hStep with
              ⟨before, hBefore, rfl⟩
            simp only [hBefore] at hWalk
            exact ih hWalk

------------------------------------------------------------
-- Nulls
------------------------------------------------------------

/- What is left out of an object is null. -/
theorem OnlyNulls.member?_eq
    (hNulls : o.OnlyNulls value)
    (hOmits : o.omits name = true) :
    value.member? name = some .null := by
  cases o with
  | nothing => cases hOmits
  | members names inner =>
      exact hNulls.1 name (List.contains_iff_mem.mp hOmits)

/- A step to what is left out led to a null, and leads nowhere. -/
theorem OnlyNulls.step?_eq
    (hNulls : o.OnlyNulls value)
    (hOmits : o.omits name = true) :
    value.step? name = some .null ∧
      (o.apply value).step? name = none := by
  have hMember := hNulls.member?_eq hOmits
  refine ⟨Json.step?_of_member? hMember, ?_⟩
  cases value with
  | object entries =>
      have hNone := member?_apply o (.object entries) name
      rw [if_pos hOmits] at hNone
      cases o <;> exact hNone
  | _ => cases hMember

/- A member that is not null is kept. -/
theorem OnlyNulls.omits_eq_false
    {v : Json}
    (hNulls : o.OnlyNulls value)
    (hMember : value.member? name = some v)
    (hSome : v ≠ .null) :
    o.omits name = false := by
  by_contra hOmits
  rw [hNulls.member?_eq (Bool.eq_true_of_not_eq_false hOmits)]
    at hMember
  exact hSome (Option.some.inj hMember).symm

/- Nothing but nulls is left out inside a value, either. -/
theorem OnlyNulls.inside
    {v : Json}
    (hNulls : o.OnlyNulls value)
    (hStep : value.step? segment = some v) :
    (o.inside segment).OnlyNulls v := by
  cases o with
  | nothing => trivial
  | members names inner => exact hNulls.2 segment v hStep

/- All items of an array are kept. -/
theorem OnlyNulls.omits_array
    {items : List Json}
    (hNulls : o.OnlyNulls (.array items)) :
    o.omits name = false := by
  by_contra hOmits
  have hMember :=
    hNulls.member?_eq (Bool.eq_true_of_not_eq_false hOmits)
  cases hMember

/- Nothing but nulls is left out behind a pointer. -/
theorem OnlyNulls.behind
    {segments : List String}
    {v : Json}
    (hNulls : o.OnlyNulls value)
    (hFound : Json.findSegments? value segments = some v) :
    (o.behind segments).OnlyNulls v := by
  induction segments generalizing o value with
  | nil =>
      cases hFound
      exact hNulls
  | cons segment rest ih =>
      rw [Json.findSegments?] at hFound
      cases hStep : value.step? segment with
      | none => simp [hStep] at hFound
      | some next =>
          simp only [hStep] at hFound
          exact ih (hNulls.inside hStep) hFound

end Omission

end SchemaGraph
