import Mathlib
import SchemaGraph.Proofs.Compile.PlainStrings
import SchemaGraph.Proofs.Compile.Resolve
import SchemaGraph.Proofs.Json.Omissions

/-
  Keywords that are null.  A keyword is looked at in one of
  many ways, and all of them but one take null for a missing
  member: the least length of a plain string.  So a node is
  compiled as before when members that are null are left
  out, and also when this is done inside its members, as
  long as these are not taken for data.

  Main declarations:
    * `Omission.Spares`
    * `Omission.Reads`
    * `Omission.keyword?_apply`
    * `stringRule_apply`
    * `plainStringRule_apply_null`
    * `check_admittingEmpty`
    * `typeRule_apply`
    * `classify_apply`
    * `compileNode_apply`
-/

namespace SchemaGraph

------------------------------------------------------------
-- Keywords
------------------------------------------------------------

namespace Omission

/-
  Nothing is left out where a node is more than a schema:
  in values that are taken as they are, among the names of
  properties and in the link to an ancestor.  The node has a
  least length that is left out only if it is no plain
  string.
-/
structure Spares
    (o : Omission)
    (node : Json) : Prop where
  values :
    ∀ name ∈ ["type", "enum", "min", "max"],
      ∀ v, node.member? name = some v → (o.inside name).apply v = v
  properties : ∀ name, (o.inside "properties").omits name = false
  link : (o.inside "extends").omits "$ref" = false
  lengths : o.omits "minLength" = true → ¬ node.IsPlainString

/- What a keyword is after, and what it was before. -/
inductive Reads : Option Json → Option Json → Prop where
  | absent : Reads none none
  | dropped : Reads none (some .null)
  | kept
      {v w : Json}
      (hShape : SameShape v w) :
      Reads (some v) (some w)

/- A look at a keyword that takes null for a missing member. -/
theorem Reads.bind_eq
    {β : Type}
    {after before : Option Json}
    {look : Json → Option β}
    (hReads : Reads after before)
    (hNull : look .null = none)
    (hShape : ∀ v w, SameShape v w → look v = look w) :
    after.bind look = before.bind look := by
  cases hReads with
  | absent => rfl
  | dropped => exact hNull.symm
  | kept hKept => exact hShape _ _ hKept

variable {o : Omission}
variable {node : Json}

section Nulls

variable (hNulls : o.OnlyNulls node)

include hNulls

/- A member is left out only if it is null. -/
theorem reads_member?
    (name : String) :
    Reads ((o.apply node).member? name) (node.member? name) := by
  rw [member?_apply]
  by_cases hOmits : o.omits name = true
  · rw [if_pos hOmits, hNulls.member?_eq hOmits]
    exact .dropped
  · rw [if_neg hOmits]
    cases node.member? name with
    | none => exact .absent
    | some v => exact .kept (sameShape_apply _ v)

/- A keyword that counts as given is kept. -/
theorem keyword?_apply
    (name : String) :
    (o.apply node).keyword? name =
      (node.keyword? name).map (o.inside name).apply := by
  unfold Json.keyword?
  rw [member?_apply]
  by_cases hOmits : o.omits name = true
  · rw [if_pos hOmits, hNulls.member?_eq hOmits]
    rfl
  · rw [if_neg hOmits]
    cases node.member? name with
    | none => rfl
    | some v =>
        have hTruthy :=
          (sameShape_apply (o.inside name) v).isTruthy_eq
        simp only [Option.map_some, Option.filter_some, hTruthy]
        split <;> rfl

/- A keyword counts as given as before. -/
theorem isSome_keyword?_apply
    (name : String) :
    ((o.apply node).keyword? name).isSome =
      (node.keyword? name).isSome := by
  rw [keyword?_apply hNulls, Option.isSome_map]

/- A keyword whose value is taken as it is. -/
theorem keyword?_apply_of_spares
    (hSpares : o.Spares node)
    {name : String}
    (hName : name ∈ ["type", "enum", "min", "max"]) :
    (o.apply node).keyword? name = node.keyword? name := by
  rw [keyword?_apply hNulls]
  cases hKeyword : node.keyword? name with
  | none => rfl
  | some v =>
      exact congrArg some
        (hSpares.values name hName v
          (Json.member?_of_keyword? hKeyword))

/- The text of a keyword. -/
theorem text_apply
    (name : String) :
    ((o.apply node).member? name).bind Json.text? =
      (node.member? name).bind Json.text? :=
  (reads_member? hNulls name).bind_eq rfl
    (fun _ _ hShape => hShape.text?_eq)

end Nulls

end Omission

open Omission (reads_member? keyword?_apply isSome_keyword?_apply
  keyword?_apply_of_spares)

variable {engine : Pattern.Engine}
variable {o : Omission}
variable {node : Json}
variable (hNulls : o.OnlyNulls node)

section Rules

include hNulls

/- Whether a node accepts `null`. -/
theorem allowsNull_apply :
    allowsNull (o.apply node) = allowsNull node := by
  unfold allowsNull
  have hReads := reads_member? hNulls "allowNull"
  generalize (o.apply node).member? "allowNull" = after,
    node.member? "allowNull" = before at hReads ⊢
  cases hReads with
  | absent => rfl
  | dropped => rfl
  | kept hShape => cases hShape <;> rfl

/- A length or a count. -/
theorem countKeyword_apply
    (name : String) :
    countKeyword (o.apply node) name = countKeyword node name := by
  unfold countKeyword
  have hReads := reads_member? hNulls name
  generalize (o.apply node).member? name = after,
    node.member? name = before at hReads ⊢
  cases hReads with
  | absent => rfl
  | dropped => rfl
  | kept hShape => cases hShape <;> rfl

/- A limit. -/
theorem limitKeyword_apply
    (name : String) :
    limitKeyword (o.apply node) name = limitKeyword node name :=
  (reads_member? hNulls name).bind_eq rfl
    (fun _ _ hShape => hShape.float?_eq)

/- A pattern. -/
theorem patternKeyword_apply :
    patternKeyword engine (o.apply node) =
      patternKeyword engine node := by
  unfold patternKeyword
  rw [keyword?_apply hNulls]
  cases node.keyword? "pattern" with
  | none => rfl
  | some v =>
      have hShape := Omission.sameShape_apply (o.inside "pattern") v
      rw [Option.map_some]
      generalize (o.inside "pattern").apply v = w at hShape ⊢
      cases hShape <;> rfl

/- The rule of a number. -/
theorem numberRule_apply
    (integer : Bool) :
    numberRule (o.apply node) integer = numberRule node integer := by
  unfold numberRule
  rw [limitKeyword_apply hNulls, limitKeyword_apply hNulls]

variable (hSpares : o.Spares node)

include hSpares

/- A bound for dates. -/
theorem dateKeyword_apply
    {name : String}
    (hName : name ∈ ["type", "enum", "min", "max"]) :
    dateKeyword (o.apply node) name = dateKeyword node name := by
  unfold dateKeyword
  rw [keyword?_apply_of_spares hNulls hSpares hName]

/- A bound for times of day. -/
theorem timeKeyword_apply
    {name : String}
    (hName : name ∈ ["type", "enum", "min", "max"]) :
    timeKeyword (o.apply node) name = timeKeyword node name := by
  unfold timeKeyword
  rw [keyword?_apply_of_spares hNulls hSpares hName]

/- The rule of a plain string, which keeps its least length. -/
theorem plainStringRule_apply
    (hPlain : node.IsPlainString) :
    plainStringRule engine (o.apply node) =
      plainStringRule engine node := by
  have hKept : ¬ o.omits "minLength" = true :=
    fun hOmits => hSpares.lengths hOmits hPlain
  have hMember := Omission.member?_apply o node "minLength"
  rw [if_neg hKept] at hMember
  unfold plainStringRule
  rw [patternKeyword_apply hNulls, countKeyword_apply hNulls,
    countKeyword_apply hNulls, hMember]
  cases node.member? "minLength" <;> rfl

/- The rule of a string node. -/
theorem stringRule_apply
    (hType : node.member? "type" = some (.string "string")) :
    stringRule engine (o.apply node) = stringRule engine node := by
  unfold stringRule
  rw [keyword?_apply_of_spares hNulls hSpares (by simp),
    Omission.text_apply hNulls]
  cases hEnum : node.keyword? "enum" with
  | some values => rfl
  | none =>
      dsimp only
      rw [dateKeyword_apply hNulls hSpares (by simp),
        dateKeyword_apply hNulls hSpares (by simp),
        timeKeyword_apply hNulls hSpares (by simp),
        timeKeyword_apply hNulls hSpares (by simp),
        countKeyword_apply hNulls]
      split
      case isTrue => rfl
      case isFalse hNoDate =>
        split
        case isTrue => rfl
        case isFalse hNoTime =>
          split
          case isTrue => rfl
          case isFalse hNoEmail =>
            -- Without a known format the node is a plain string.
            rw [plainStringRule_apply hNulls hSpares
              ⟨hType, hEnum, ?_⟩]
            intro format hMem hFormat
            simp only [hFormat, Option.bind_some, Json.text?,
              Option.some.injEq] at hNoDate hNoTime hNoEmail
            simp_all

end Rules

------------------------------------------------------------
-- Least Lengths that Are Null
------------------------------------------------------------

/- The rule without a least length, which admits the empty text. -/
def StringRule.admittingEmpty
    (rule : StringRule) : StringRule :=
  { rule with minLength := some 0, allowEmpty := true }

section LeastLengths

variable (hNull : node.member? "minLength" = some .null)

include hNull

/- A rule with a least length that is null has none. -/
theorem plainStringRule_null
    {rule : StringRule}
    (hRule : plainStringRule engine node = .ok rule) :
    rule.minLength = none ∧ rule.allowEmpty = false := by
  have hCount : countKeyword node "minLength" = .ok none := by
    simp only [countKeyword, hNull]
  unfold plainStringRule at hRule
  rw [hNull, hCount] at hRule
  cases hPattern : patternKeyword engine node with
  | error fault =>
      rw [hPattern] at hRule
      cases hRule
  | ok pattern =>
      cases hMost : countKeyword node "maxLength" with
      | error fault =>
          rw [hPattern, hMost] at hRule
          cases hRule
      | ok most =>
          rw [hPattern, hMost] at hRule
          cases hRule
          exact ⟨rfl, rfl⟩

/- Without the null there is a least length, which is zero. -/
theorem plainStringRule_apply_null
    (hNulls : o.OnlyNulls node)
    (hOmits : o.omits "minLength" = true) :
    plainStringRule engine (o.apply node) =
      (plainStringRule engine node).map
        StringRule.admittingEmpty := by
  have hGone := Omission.member?_apply o node "minLength"
  rw [if_pos hOmits] at hGone
  have hCount : countKeyword node "minLength" = .ok none := by
    simp only [countKeyword, hNull]
  unfold plainStringRule
  rw [patternKeyword_apply hNulls, countKeyword_apply hNulls,
    countKeyword_apply hNulls, hGone, hNull, hCount]
  cases patternKeyword engine node with
  | error fault => rfl
  | ok pattern => cases countKeyword node "maxLength" <;> rfl

/- The two rules differ on the empty text only. -/
theorem check_admittingEmpty
    {rule : StringRule}
    (hRule : plainStringRule engine node = .ok rule)
    (path : String) :
    rule.check (.string "") path = [Violation.of path .emptyString] ∧
      rule.admittingEmpty.check (.string "") path = [] ∧
      ∀ value, value ≠ .string "" →
        rule.admittingEmpty.check value path =
          rule.check value path := by
  rcases plainStringRule_null hNull hRule with ⟨hLeast, hEmpty⟩
  refine ⟨?_, rfl, ?_⟩
  · simp only [StringRule.check, hEmpty]
    rfl
  · intro value hValue
    cases value with
    | string text =>
        have hText : text ≠ "" :=
          fun hEqual => hValue (congrArg Json.string hEqual)
        simp only [StringRule.check, StringRule.admittingEmpty,
          checkLength, hLeast, if_neg hText]
        rfl
    | _ => rfl

end LeastLengths

------------------------------------------------------------
-- Rules with Children
------------------------------------------------------------

section Children

variable {resolve : Resolver}
variable {key : NodeKey}

include hNulls

/- The counts of an array node. -/
theorem arrayCounts_apply
    (items : Option ValidatorId) :
    arrayCounts key (o.apply node) items =
      arrayCounts key node items := by
  unfold arrayCounts
  rw [countKeyword_apply hNulls, countKeyword_apply hNulls,
    isSome_keyword?_apply hNulls]

/- The rule of an array node. -/
theorem arrayRule_apply :
    arrayRule resolve key (o.apply node) =
      arrayRule resolve key node := by
  unfold arrayRule
  simp only [arrayCounts_apply hNulls]
  have hReads := reads_member? hNulls "items"
  generalize (o.apply node).member? "items" = after,
    node.member? "items" = before at hReads ⊢
  cases hReads with
  | absent => rfl
  | dropped => rfl
  | kept hShape => cases hShape <;> rfl

/- What an object node does with undeclared keys. -/
theorem unknownKeys_apply :
    unknownKeys resolve key (o.apply node) =
      unknownKeys resolve key node := by
  unfold unknownKeys
  rw [isSome_keyword?_apply hNulls]
  have hReads := reads_member? hNulls "additionalProperties"
  generalize (o.apply node).member? "additionalProperties" = after,
    node.member? "additionalProperties" = before at hReads ⊢
  cases hReads with
  | absent => rfl
  | dropped => rfl
  | kept hShape => cases hShape <;> rfl

end Children

------------------------------------------------------------
-- Properties
------------------------------------------------------------

section Properties

include hNulls

/- A list of names of properties. -/
theorem markKeyword_apply
    (presence : Presence)
    (name : String)
    (state : Graph × PropertyMap) :
    Graph.markKeyword presence name (o.apply node) state =
      Graph.markKeyword presence name node state := by
  unfold Graph.markKeyword
  have hReads := reads_member? hNulls name
  generalize (o.apply node).member? name = after,
    node.member? name = before at hReads ⊢
  cases hReads with
  | absent => rfl
  | dropped => rfl
  | kept hShape =>
      cases hShape with
      | same => rfl
      | objects => rfl
      | arrays hTexts =>
          have hNames := congrArg (List.filterMap id) hTexts
          rw [List.filterMap_map, List.filterMap_map] at hNames
          exact congrArg
            (fun names => names.foldl (Graph.markName presence) state)
            hNames

/- The list of optional properties. -/
theorem markOptional_apply
    (state : Graph × PropertyMap) :
    Graph.markOptional (o.apply node) state =
      Graph.markOptional node state := by
  have hMark :=
    markKeyword_apply hNulls .optional "optional" state
  unfold Graph.markOptional
  rw [hMark]
  have hReads := reads_member? hNulls "optional"
  generalize (o.apply node).member? "optional" = after,
    node.member? "optional" = before at hReads ⊢
  cases hReads with
  | absent => rfl
  | dropped => rfl
  | kept hShape => cases hShape <;> rfl

/- The requirement lists of a node. -/
theorem applyRequirements_apply
    (properties : PropertyMap) :
    applyRequirements (o.apply node) properties =
      applyRequirements node properties := by
  unfold applyRequirements Graph.applyRequirements
  simp only [markKeyword_apply hNulls, markOptional_apply hNulls]

/- The names of the properties that a node declares. -/
theorem declaredNames?_apply
    (hSpares : o.Spares node) :
    declaredNames? (o.apply node) = declaredNames? node := by
  unfold declaredNames?
  rw [Omission.member?_apply]
  by_cases hOmits : o.omits "properties" = true
  · rw [if_pos hOmits, hNulls.member?_eq hOmits]
    rfl
  · rw [if_neg hOmits]
    cases node.member? "properties" with
    | none => rfl
    | some v =>
        cases v with
        | object entries =>
            rcases Omission.names_apply entries
              hSpares.properties with ⟨kept, hKept, hNames⟩
            simp only [Option.map_some, Option.bind_some, hKept,
              Json.members?, hNames]
        | _ => cases o.inside "properties" <;> rfl

/- Adding the properties that a node declares. -/
theorem addDeclared_apply
    (hSpares : o.Spares node)
    (resolve : Resolver)
    (place : String → ValidatorId → PropertyMap → PropertyMap)
    (owner : NodeKey)
    (inherited : Inherited) :
    addDeclared resolve place owner (o.apply node) inherited =
      addDeclared resolve place owner node inherited := by
  unfold addDeclared
  rw [declaredNames?_apply hNulls hSpares]

end Properties

------------------------------------------------------------
-- Branches
------------------------------------------------------------

section Branches

variable {resolve : Resolver}

/- Items are compiled by their positions. -/
theorem resolveBranches_eq_of_length
    {list : NodeKey}
    {start : Nat}
    {items others : List Json}
    (hLength : items.length = others.length) :
    resolveBranches resolve list start items =
      resolveBranches resolve list start others := by
  induction items generalizing start others with
  | nil =>
      rw [List.length_nil] at hLength
      rw [List.eq_nil_of_length_eq_zero hLength.symm]
  | cons item rest ih =>
      cases others with
      | nil => cases hLength
      | cons other more =>
          rw [resolveBranches, resolveBranches,
            ih (Nat.succ.inj hLength)]

/- One part of an intersection. -/
theorem resolvePart_apply
    (hNulls : o.OnlyNulls node)
    (slot : NodeKey) :
    resolvePart resolve slot (o.apply node) =
      resolvePart resolve slot node := by
  have hConditional :
      isConditional (o.apply node) = isConditional node := by
    simp only [isConditional, keyword?_apply hNulls,
      Option.isSome_map, Option.isNone_map]
  have hSide :
      ∀ side,
        resolveSide resolve slot (o.apply node) side =
          resolveSide resolve slot node side := by
    intro side
    unfold resolveSide
    rw [keyword?_apply hNulls]
    cases node.keyword? side <;> rfl
  simp only [resolvePart, hConditional, hSide]

/- Parts that compile alike one by one do so together. -/
theorem resolveParts_eq_of_forall
    {list : NodeKey}
    {start : Nat}
    {items others : List Json}
    (hItems :
      List.Forall₂
        (fun item other =>
          ∀ slot,
            resolvePart resolve slot item =
              resolvePart resolve slot other)
        items others) :
    resolveParts resolve list start items =
      resolveParts resolve list start others := by
  induction hItems generalizing start with
  | nil => rfl
  | cons hFirst _ ih => rw [resolveParts, resolveParts, hFirst, ih]

/- The parts of an intersection. -/
theorem resolveParts_apply
    {list : NodeKey}
    {items : List Json}
    (hNulls : o.OnlyNulls (.array items)) :
    resolveParts resolve list 0 (o.applyItems items) =
      resolveParts resolve list 0 items := by
  apply resolveParts_eq_of_forall
  rw [List.forall₂_iff_get]
  refine ⟨Omission.length_applyItems o items, ?_⟩
  intro i hLt hIndex slot
  have hPart :
      (o.applyItems items).get ⟨i, hLt⟩ =
        (o.inside (Pointer.indexSegment i)).apply
          (items.get ⟨i, hIndex⟩) :=
    List.getElem_mapIdx
  rw [hPart]
  apply resolvePart_apply
  apply hNulls.inside
  rw [Json.step?_indexSegment]
  exact List.getElem?_eq_getElem hIndex

end Branches

------------------------------------------------------------
-- Kinds
------------------------------------------------------------

/- A kind whose branches members are left out of. -/
def Discriminator.omitting
    (o : Omission) : Discriminator → Discriminator
  | .anyOf branches =>
      .anyOf ((o.inside "anyOf").applyItems branches)
  | .allOf branches =>
      .allOf ((o.inside "allOf").applyItems branches)
  | .oneOf branches =>
      .oneOf ((o.inside "oneOf").applyItems branches)
  | kind => kind

/- The items of a keyword that must be an array. -/
theorem branchList_apply
    (o : Omission)
    (name : String)
    (value : Json) :
    branchList name (o.apply value) =
      (branchList name value).map o.applyItems := by
  cases value with
  | array items =>
      rw [Omission.apply_array]
      rfl
  | _ => cases o <;> rfl

variable (hSpares : o.Spares node)

include hNulls hSpares

/- A node stays of its kind. -/
theorem classify_apply :
    classify (o.apply node) =
      (classify node).map (Discriminator.omitting o) := by
  have hType : (o.apply node).keyword? "type" = node.keyword? "type" :=
    keyword?_apply_of_spares hNulls hSpares (by simp)
  have hEnum : (o.apply node).keyword? "enum" = node.keyword? "enum" :=
    keyword?_apply_of_spares hNulls hSpares (by simp)
  unfold classify
  rw [hType, hEnum, keyword?_apply hNulls "anyOf",
    keyword?_apply hNulls "allOf", keyword?_apply hNulls "oneOf",
    keyword?_apply hNulls "$ref"]
  cases node.keyword? "type" with
  | some type => rfl
  | none =>
  cases node.keyword? "anyOf" with
  | some v =>
      simp only [Option.map_some, branchList_apply]
      cases branchList "anyOf" v <;> rfl
  | none =>
  cases node.keyword? "allOf" with
  | some v =>
      simp only [Option.map_some, Option.map_none, branchList_apply]
      cases branchList "allOf" v <;> rfl
  | none =>
  cases node.keyword? "oneOf" with
  | some v =>
      simp only [Option.map_some, Option.map_none, branchList_apply]
      cases branchList "oneOf" v <;> rfl
  | none =>
  cases node.keyword? "$ref" with
  | some v =>
      have hShape := Omission.sameShape_apply (o.inside "$ref") v
      simp only [Option.map_some, Option.map_none]
      generalize (o.inside "$ref").apply v = w at hShape ⊢
      cases hShape with
      | same => cases v <;> rfl
      | arrays => rfl
      | objects => rfl
  | none => cases node.keyword? "enum" <;> rfl

variable {setting : Setting}
variable {watch : Watch}
variable {resolve : Resolver}
variable {key : NodeKey}

/- The rule of an object node. -/
theorem objectRule_apply :
    objectRule setting watch resolve key (o.apply node) =
      objectRule setting watch resolve key node := by
  unfold objectRule mergeProperties
  simp only [addDeclared_apply hNulls hSpares,
    applyRequirements_apply hNulls, unknownKeys_apply hNulls,
    countKeyword_apply hNulls]

/- The rule of a node with a type. -/
theorem typeRule_apply
    {type : Json}
    (hType : node.member? "type" = some type) :
    typeRule setting watch resolve key (o.apply node) type =
      typeRule setting watch resolve key node type := by
  unfold typeRule
  split
  case h_1 => exact arrayRule_apply hNulls
  case h_3 => rw [numberRule_apply hNulls]
  case h_4 => rw [numberRule_apply hNulls]
  case h_5 => exact objectRule_apply hNulls hSpares
  case h_6 => rw [stringRule_apply hNulls hSpares hType]
  all_goals rfl

/- A node of a kind. -/
theorem resolveKind_apply
    {kind : Discriminator}
    (hKind : classify node = .ok kind) :
    resolveKind setting watch resolve key (o.apply node)
        (kind.omitting o) =
      resolveKind setting watch resolve key node kind := by
  have hWritten := writtenIn_of_classify hKind
  cases kind with
  | typed type =>
      simp only [Discriminator.omitting, resolveKind, resolveTyped,
        typeRule_apply hNulls hSpares hWritten,
        allowsNull_apply hNulls]
  | anyOf branches =>
      simp only [Discriminator.omitting, resolveKind]
      rw [resolveBranches_eq_of_length
        (Omission.length_applyItems _ branches)]
  | oneOf branches =>
      simp only [Discriminator.omitting, resolveKind]
      rw [resolveBranches_eq_of_length
        (Omission.length_applyItems _ branches)]
  | allOf branches =>
      simp only [Discriminator.omitting, resolveKind, resolveAllOf]
      rw [resolveParts_apply
        (hNulls.inside (Json.step?_of_member? hWritten))]
  | reference text =>
      simp only [Discriminator.omitting, resolveKind,
        resolveReference, referTo, nullable,
        allowsNull_apply hNulls]
  | listed values => rfl
  | unrecognized => rfl

/-
  A node compiles as before when members of it that are null
  are left out, and others inside its members.
-/
theorem compileNode_apply :
    compileNode setting watch resolve key (o.apply node) =
      compileNode setting watch resolve key node := by
  unfold compileNode
  rw [classify_apply hNulls hSpares]
  cases hKind : classify node with
  | error fault => rfl
  | ok kind => exact resolveKind_apply hNulls hSpares hKind

end SchemaGraph
