import Mathlib
import SchemaGraph.Proofs.Binary64.Whole
import SchemaGraph.Proofs.Compile.Leaves
import SchemaGraph.Proofs.Compile.Transparency

/-
  String nodes without listed values and without a known
  format.  What such a node asks of a text is read from its
  keywords: a pattern, if there is one, and the two lengths,
  if they are numbers.  It compiles if and only if these can
  be read, and then every check reports what is not kept, in
  the order of the keywords.  The empty text is treated on
  its own: only the least length counts for it.

  All of this holds for every engine that reads the patterns
  and finds their matches.

  Main declarations:
    * `Json.IsPlainString`
    * `Json.ReadsPattern`
    * `Json.ReadsLength`
    * `TextLimits`
    * `Json.Asks`
    * `Json.textReport`
    * `patternKeyword_cases`
    * `countKeyword_cases`
    * `plainStringRule_cases`
    * `check_plainString`
    * `compile_plainString`
-/

namespace SchemaGraph

------------------------------------------------------------
-- Reading the Keywords
------------------------------------------------------------

namespace Json

/- A string node without listed values and without a known format. -/
structure IsPlainString
    (node : Json) : Prop where
  typed : node.member? "type" = some (.string "string")
  unlisted : node.keyword? "enum" = none
  unformatted :
    ∀ format ∈ ["date", "date-time", "time", "email"],
      node.member? "format" ≠ some (.string format)

/- The pattern of a node, if it has one. -/
inductive ReadsPattern
    (engine : Pattern.Engine)
    (node : Json) : Option Pattern → Prop where
  | absent
      (hAbsent : node.keyword? "pattern" = none) :
      ReadsPattern engine node none
  | given
      {text : String}
      {p : Pattern}
      (hGiven : node.keyword? "pattern" = some (.string text))
      (hRead : engine.read? text = some p) :
      ReadsPattern engine node (some p)

/- The pattern of a node is given, and is no text or no pattern. -/
def BadPattern
    (engine : Pattern.Engine)
    (node : Json) : Prop :=
  ∃ value,
    node.keyword? "pattern" = some value ∧
      ∀ text, value = .string text → engine.read? text = none

/- The length that a keyword asks for, if it is a number. -/
inductive ReadsLength
    (node : Json)
    (name : String) : Option Nat → Prop where
  | ignored
      (hIgnored : ∀ n, node.member? name ≠ some (.number n)) :
      ReadsLength node name none
  | given
      {n : Number}
      {k : Nat}
      (hGiven : node.member? name = some (.number n))
      (hQuantity : n.quantity = k) :
      ReadsLength node name (some k)

/- The keyword is a number that is negative or no integer. -/
def BadLength
    (node : Json)
    (name : String) : Prop :=
  ∃ n,
    node.member? name = some (.number n) ∧
      (n.quantity < 0 ∨ ∀ i : Int, n.quantity ≠ i)

/- The keyword is finite, if it is a number. -/
def FiniteLength
    (node : Json)
    (name : String) : Prop :=
  ∀ n, node.member? name = some (.number n) → n.IsFinite

end Json

section Keywords

variable {engine : Pattern.Engine}
variable {node : Json}
variable {name : String}

/- A pattern that is read is not a bad one. -/
theorem Json.ReadsPattern.not_bad
    {p? : Option Pattern}
    (hReads : node.ReadsPattern engine p?) :
    ¬ node.BadPattern engine := by
  rintro ⟨value, hValue, hBad⟩
  cases hReads with
  | absent hAbsent =>
      rw [hAbsent] at hValue
      cases hValue
  | given hGiven hRead =>
      rw [hGiven, Option.some.injEq] at hValue
      rw [hBad _ hValue.symm] at hRead
      cases hRead

/- A length that is read is not a bad one. -/
theorem Json.ReadsLength.not_bad
    {k? : Option Nat}
    (hReads : node.ReadsLength name k?) :
    ¬ node.BadLength name := by
  rintro ⟨n, hNumber, hBad⟩
  cases hReads with
  | ignored hIgnored => exact hIgnored n hNumber
  | @given m k hGiven hQuantity =>
      rw [hGiven, Option.some.injEq, Json.number.injEq] at hNumber
      subst hNumber
      rcases hBad with hNegative | hFraction
      · rw [hQuantity] at hNegative
        exact absurd hNegative (not_lt.mpr (Nat.cast_nonneg k))
      · exact hFraction k hQuantity

/- A node has one pattern at most. -/
theorem Json.ReadsPattern.unique
    {p? q? : Option Pattern}
    (hFirst : node.ReadsPattern engine p?)
    (hSecond : node.ReadsPattern engine q?) :
    p? = q? := by
  rcases hFirst with hAbsent | ⟨hGiven, hRead⟩ <;>
    rcases hSecond with hAbsent' | ⟨hGiven', hRead'⟩
  · rfl
  · rw [hAbsent] at hGiven'
    cases hGiven'
  · rw [hAbsent'] at hGiven
    cases hGiven
  · rw [hGiven, Option.some.injEq, Json.string.injEq] at hGiven'
    rw [← hRead, ← hRead', hGiven']

/- A keyword asks for one length at most. -/
theorem Json.ReadsLength.unique
    {k? j? : Option Nat}
    (hFirst : node.ReadsLength name k?)
    (hSecond : node.ReadsLength name j?) :
    k? = j? := by
  rcases hFirst with hIgnored | ⟨hGiven, hQuantity⟩ <;>
    rcases hSecond with hIgnored' | ⟨hGiven', hQuantity'⟩
  · rfl
  · exact absurd hGiven' (hIgnored _)
  · exact absurd hGiven (hIgnored' _)
  · rw [hGiven, Option.some.injEq, Json.number.injEq] at hGiven'
    rw [hGiven', hQuantity', Nat.cast_inj] at hQuantity
    rw [hQuantity]

/- A pattern is read, or the node is at fault. -/
theorem patternKeyword_cases
    (engine : Pattern.Engine)
    (node : Json) :
    (∃ p?,
        node.ReadsPattern engine p? ∧
          patternKeyword engine node = .ok p?) ∨
      node.BadPattern engine ∧
        ∃ fault, patternKeyword engine node = .error fault := by
  unfold patternKeyword
  cases hKeyword : node.keyword? "pattern" with
  | none => exact Or.inl ⟨none, .absent hKeyword, rfl⟩
  | some value =>
      cases value with
      | string text =>
          cases hRead : engine.read? text with
          | none =>
              refine Or.inr ⟨⟨_, hKeyword, ?_⟩, .badPattern text, ?_⟩
              · rintro _ ⟨⟩
                exact hRead
              · simp only [compilePattern, hRead]
                rfl
          | some p =>
              refine Or.inl ⟨some p, .given hKeyword hRead, ?_⟩
              simp only [compilePattern, hRead]
              rfl
      | _ => exact Or.inr ⟨⟨_, hKeyword, nofun⟩, _, rfl⟩

/- A length is read and cut off, or the node is at fault. -/
theorem countKeyword_cases
    (hFinite : node.FiniteLength name) :
    (∃ k?,
        node.ReadsLength name k? ∧
          countKeyword node name =
            .ok (k?.map (fun k => min k largestCount))) ∨
      node.BadLength name ∧
        ∃ fault, countKeyword node name = .error fault := by
  unfold countKeyword
  by_cases hNumber : ∃ n, node.member? name = some (.number n)
  · rcases hNumber with ⟨n, hNumber⟩
    rcases Number.count?_cases (hFinite n hNumber) with
      ⟨k, hQuantity, hCount⟩ | ⟨hBad, hCount⟩
    · refine Or.inl ⟨some k, .given hNumber hQuantity, ?_⟩
      simp only [hNumber, hCount]
      rfl
    · refine Or.inr ⟨⟨n, hNumber, hBad⟩, .badCount name n, ?_⟩
      simp only [hNumber, hCount]
  · refine Or.inl
      ⟨none, .ignored (fun n hMember => hNumber ⟨n, hMember⟩), ?_⟩
    split
    case h_1 n hMember => exact absurd ⟨n, hMember⟩ hNumber
    case h_2 => rfl

end Keywords

------------------------------------------------------------
-- What a Node Asks of Texts
------------------------------------------------------------

/- A pattern and two lengths, as far as they are given. -/
structure TextLimits where
  pattern : Option Pattern
  least : Option Nat
  most : Option Nat

/- The node asks this of texts. -/
structure Json.Asks
    (engine : Pattern.Engine)
    (node : Json)
    (limits : TextLimits) : Prop where
  pattern : node.ReadsPattern engine limits.pattern
  least : node.ReadsLength "minLength" limits.least
  most : node.ReadsLength "maxLength" limits.most

/- A keyword of the node cannot be read. -/
def Json.BadText
    (engine : Pattern.Engine)
    (node : Json) : Prop :=
  node.BadPattern engine ∨ node.BadLength "minLength" ∨
    node.BadLength "maxLength"

/- The node accepts the empty text. -/
def Json.AdmitsEmpty
    (node : Json)
    (limits : TextLimits) : Prop :=
  node.member? "minLength" = none ∨ limits.least = some 0

/-
  What is reported of a text that is not empty.  A length
  that is too large to be kept is given as the largest count.
-/
def TextLimits.report
    (limits : TextLimits)
    (text path : String) : List Violation :=
  (match limits.pattern with
    | some p =>
        if p.isFoundIn text then
          []
        else
          [Violation.of path (.patternMismatch p.source)]
    | none => []) ++
  ((match limits.least with
    | some k =>
        if k ≤ text.length then
          []
        else
          [Violation.of path (.tooShort (min k largestCount))]
    | none => []) ++
  (match limits.most with
    | some k =>
        if text.length ≤ k then
          []
        else
          [Violation.of path (.tooLong (min k largestCount))]
    | none => []))

instance
    (node : Json)
    (limits : TextLimits) :
    Decidable (node.AdmitsEmpty limits) := by
  unfold Json.AdmitsEmpty
  infer_instance

/- What is reported of a text, the empty one included. -/
def Json.textReport
    (node : Json)
    (limits : TextLimits)
    (text path : String) : List Violation :=
  if text = "" then
    if node.AdmitsEmpty limits then
      []
    else
      [Violation.of path .emptyString]
  else
    limits.report text path

/- The rule that a node with such limits compiles to. -/
def Json.textRule
    (node : Json)
    (limits : TextLimits) : StringRule :=
  let least :=
    match node.member? "minLength" with
    | none => some 0
    | some _ => limits.least.map (fun k => min k largestCount)
  ⟨limits.pattern, least,
    limits.most.map (fun k => min k largestCount), least == some 0⟩

section Limits

variable {engine : Pattern.Engine}
variable {node : Json}
variable {limits : TextLimits}
variable {text path : String}

/- What can be read is not at fault. -/
theorem Json.Asks.not_bad
    (hAsks : node.Asks engine limits) :
    ¬ node.BadText engine := by
  rintro (hPattern | hLeast | hMost)
  · exact hAsks.pattern.not_bad hPattern
  · exact hAsks.least.not_bad hLeast
  · exact hAsks.most.not_bad hMost

/- A node asks one thing of texts. -/
theorem Json.Asks.unique
    {others : TextLimits}
    (hAsks : node.Asks engine limits)
    (hOthers : node.Asks engine others) :
    limits = others := by
  have hPattern := hAsks.pattern.unique hOthers.pattern
  have hLeast := hAsks.least.unique hOthers.least
  have hMost := hAsks.most.unique hOthers.most
  cases limits
  cases others
  simp_all only

/- The keywords of a node are read, or the node is at fault. -/
theorem plainStringRule_cases
    (hLeast : node.FiniteLength "minLength")
    (hMost : node.FiniteLength "maxLength") :
    (∃ limits,
        node.Asks engine limits ∧
          plainStringRule engine node =
            .ok (node.textRule limits)) ∨
      node.BadText engine ∧
        ∃ fault, plainStringRule engine node = .error fault := by
  rcases patternKeyword_cases engine node with
    ⟨p?, hPattern, hPatternRule⟩ | ⟨hPattern, fault, hFault⟩
  · rcases countKeyword_cases hLeast with
      ⟨least?, hLeastRead, hLeastRule⟩ | ⟨hLeastBad, fault, hFault⟩
    · rcases countKeyword_cases hMost with
        ⟨most?, hMostRead, hMostRule⟩ | ⟨hMostBad, fault, hFault⟩
      · refine Or.inl
          ⟨⟨p?, least?, most?⟩, ⟨hPattern, hLeastRead, hMostRead⟩, ?_⟩
        unfold plainStringRule Json.textRule
        rw [hPatternRule, hLeastRule, hMostRule]
        cases node.member? "minLength" <;> rfl
      · refine Or.inr ⟨Or.inr (Or.inr hMostBad), fault, ?_⟩
        unfold plainStringRule
        rw [hPatternRule, hLeastRule, hFault]
        cases node.member? "minLength" <;> rfl
    · refine Or.inr ⟨Or.inr (Or.inl hLeastBad), fault, ?_⟩
      rcases hLeastBad with ⟨n, hNumber, _⟩
      unfold plainStringRule
      rw [hPatternRule, hFault, hNumber]
      rfl
  · refine Or.inr ⟨Or.inl hPattern, fault, ?_⟩
    unfold plainStringRule
    rw [hFault]
    rfl

------------------------------------------------------------
-- Checking Texts
------------------------------------------------------------

/- The empty text is accepted before anything else is asked. -/
theorem allowEmpty_textRule :
    (node.textRule limits).allowEmpty = true ↔
      node.AdmitsEmpty limits := by
  have hLargest : largestCount = 2 ^ 64 - 1 := rfl
  unfold Json.textRule Json.AdmitsEmpty
  cases hMember : node.member? "minLength" with
  | none => simp
  | some value =>
      cases hLeast : limits.least with
      | none => simp
      | some k =>
          simp only [Option.map_some, beq_iff_eq, Option.some.injEq,
            reduceCtorEq, false_or]
          omega

/- Too short is what is shorter than the length that was read. -/
theorem complaintIf_short
    (hShort : text.length < largestCount)
    (k : Nat) :
    complaintIf path (text.length < min k largestCount)
        (.tooShort (min k largestCount)) =
      if k ≤ text.length then
        []
      else
        [Violation.of path (.tooShort (min k largestCount))] := by
  by_cases hReached : k ≤ text.length
  · have hNot : ¬ text.length < min k largestCount := by omega
    simp [complaintIf, hReached]
  · have hLess : text.length < min k largestCount := by omega
    simp only [complaintIf, decide_eq_true hLess, if_neg hReached,
      if_pos]

/- Too long is what is longer than the length that was read. -/
theorem complaintIf_long
    (hShort : text.length < largestCount)
    (k : Nat) :
    complaintIf path (text.length > min k largestCount)
        (.tooLong (min k largestCount)) =
      if text.length ≤ k then
        []
      else
        [Violation.of path (.tooLong (min k largestCount))] := by
  by_cases hKept : text.length ≤ k
  · have hNot : ¬ text.length > min k largestCount := by omega
    simp only [complaintIf, decide_eq_false hNot, if_pos hKept]
    rfl
  · have hMore : text.length > min k largestCount := by omega
    simp only [complaintIf, decide_eq_true hMore, if_neg hKept,
      if_pos]

/- What the lengths of the rule report. -/
theorem checkLength_textRule
    (hAsks : node.Asks engine limits)
    (hShort : text.length < largestCount) :
    checkLength (node.textRule limits).minLength
        (node.textRule limits).maxLength text path =
      (match limits.least with
        | some k =>
            if k ≤ text.length then
              []
            else
              [Violation.of path (.tooShort (min k largestCount))]
        | none => []) ++
      (match limits.most with
        | some k =>
            if text.length ≤ k then
              []
            else
              [Violation.of path (.tooLong (min k largestCount))]
        | none => []) := by
  unfold checkLength
  congr 1
  · -- Without a least length it is zero, which no text is below.
    unfold Json.textRule
    cases hMember : node.member? "minLength" with
    | none =>
        have hLeast := hAsks.least
        cases hKept : limits.least with
        | none => rfl
        | some k =>
            rw [hKept] at hLeast
            cases hLeast with
            | given hGiven _ =>
                rw [hMember] at hGiven
                cases hGiven
    | some value =>
        cases limits.least with
        | none => rfl
        | some k => exact complaintIf_short hShort k
  · unfold Json.textRule
    cases limits.most with
    | none => rfl
    | some k => exact complaintIf_long hShort k

/- A pattern is reported if it is not found. -/
theorem complaintIf_mismatch
    (p : Pattern) :
    complaintIf path (!p.isFoundIn text)
        (.patternMismatch p.source) =
      if p.isFoundIn text then
        []
      else
        [Violation.of path (.patternMismatch p.source)] := by
  cases hFound : p.isFoundIn text <;> simp [complaintIf]

/- What a rule with such limits reports of a text. -/
theorem check_textRule
    (hAsks : node.Asks engine limits)
    (hShort : text.length < largestCount) :
    (node.textRule limits).check (.string text) path =
      node.textReport limits text path := by
  unfold StringRule.check Json.textReport
  dsimp only
  split
  case isTrue =>
    by_cases hAdmits : node.AdmitsEmpty limits
    · rw [if_pos hAdmits, allowEmpty_textRule.mpr hAdmits]
      rfl
    · rw [if_neg hAdmits]
      rw [← allowEmpty_textRule, Bool.not_eq_true] at hAdmits
      rw [hAdmits]
      rfl
  case isFalse =>
    have hPattern :
        (node.textRule limits).pattern = limits.pattern := rfl
    unfold TextLimits.report
    rw [checkLength_textRule hAsks hShort, hPattern]
    congr 1
    cases limits.pattern with
    | none => rfl
    | some p => exact complaintIf_mismatch p

/-
  A check of a text against a validator with the rule: the
  text itself, or what is reported of it.
-/
theorem check_plainString
    {v : Validator}
    {graph : Graph}
    {id : ValidatorId}
    (hNode : graph.node? id = some v)
    (hRule : v.rule = .string (node.textRule limits))
    (hPresence : v.presence ≠ .forbidden)
    (hAsks : node.Asks engine limits)
    (hShort : text.length < largestCount)
    (now : Calendar.Instant)
    (asked : CheckOptions) :
    graph.check now id (some (.string text)) path asked =
      some
        (if node.textReport limits text path = [] then
          .ok (some (.string text))
        else
          .error (node.textReport limits text path)) := by
  have hChecked :
      graph.check now id (some (.string text)) path asked =
        graph.checkRule now (graph.check now) v.rule (.string text)
          path asked := by
    rw [Graph.check_eq_checkNode, Graph.checkNode, hNode]
    dsimp only
    rw [if_neg hPresence, ← Graph.check_eq_checkNode]
  rw [hChecked, hRule, ← check_textRule hAsks hShort]
  unfold Graph.checkRule Verdict.ofViolations
  simp only [List.isEmpty_iff]

end Limits

------------------------------------------------------------
-- Plain Strings
------------------------------------------------------------

/- The type of a plain string node decides how it compiles. -/
theorem Json.IsPlainString.isLeaf
    {node : Json}
    (hPlain : node.IsPlainString) :
    node.IsLeaf
      (fun engine => (plainStringRule engine node).map .string) where
  object := by
    have hTyped := hPlain.typed
    cases node with
    | object members => rfl
    | _ => cases hTyped
  typed := by
    refine ⟨.string "string", ?_, fun setting watch resolve key => ?_⟩
    · have hType : node.keyword? "type" = some (.string "string") := by
        unfold keyword?
        rw [hPlain.typed]
        rfl
      unfold classify
      rw [hType]
    · have hRule :
          stringRule setting.engine node =
            (plainStringRule setting.engine node).map .string := by
        have hFormat :
            ∀ format ∈ ["date", "date-time", "time", "email"],
              (node.member? "format").bind Json.text? ≠
                some format := by
          intro format hMem hText
          rcases Option.bind_eq_some_iff.mp hText with
            ⟨value, hMember, hIs⟩
          cases value with
          | string text =>
              cases hIs
              exact hPlain.unformatted _ hMem hMember
          | _ => cases hIs
        unfold stringRule
        rw [hPlain.unlisted]
        dsimp only
        rw [if_neg (not_or.mpr
            ⟨hFormat _ (by simp), hFormat _ (by simp)⟩),
          if_neg (hFormat _ (by simp)), if_neg (hFormat _ (by simp))]
      exact congrArg (orFault key) hRule

/-
  A plain string node compiles, wherever it is, if and only
  if its keywords can be read; otherwise it is an invalid
  schema.  The validators with its rule report of every text
  exactly what it does not keep.  A text takes up less than
  the memory of a machine, and so its length is a count.

  What a pattern is and where it is found is up to the
  engine, which may be any.
-/
theorem compile_plainString
    (engine : Pattern.Engine)
    {node : Json}
    (hPlain : node.IsPlainString)
    (hLeast : node.FiniteLength "minLength")
    (hMost : node.FiniteLength "maxLength") :
    (node.BadText engine →
      ∃ fault,
        (∀ setting watch resolve key s, setting.engine = engine →
          compileNode setting watch resolve key node s =
            .error (.invalidSchema key.fragment fault) s) ∧
        ∀ setting workingDir, setting.engine = engine →
          (compileWith setting workingDir (.value node)).result =
            .error
              (.invalidSchema (NodeKey.root ⟨0⟩).fragment fault)) ∧
      (¬ node.BadText engine →
        ∃ limits v,
          node.Asks engine limits ∧
          (∀ setting watch resolve key, setting.engine = engine →
            compileNode setting watch resolve key node =
              pushNode v) ∧
          (∀ setting workingDir, setting.engine = engine →
            (compileWith setting workingDir (.value node)).result =
              .ok (Compiled.leaf v)) ∧
          v.presence = .optional ∧
          ∀ (graph : Graph) (id : ValidatorId) (w : Validator),
            graph.node? id = some w →
            w.rule = v.rule →
            w.presence ≠ .forbidden →
              ∀ now text path asked,
                text.length < largestCount →
                graph.check now id (some (.string text)) path asked =
                  some
                    (if node.textReport limits text path = [] then
                      .ok (some (.string text))
                    else
                      .error (node.textReport limits text path))) := by
  have hLeaf := hPlain.isLeaf
  rcases plainStringRule_cases hLeast hMost with
    ⟨limits, hAsks, hRule⟩ | ⟨hBad, fault, hFault⟩
  · refine ⟨fun hBad => absurd hBad hAsks.not_bad, fun _ => ?_⟩
    refine ⟨limits,
      ⟨.string (node.textRule limits), .optional, allowsNull node⟩,
      hAsks, ?_, ?_, rfl, ?_⟩
    · rintro setting watch resolve key rfl
      rw [compileNode_leaf hLeaf, hRule]
      rfl
    · rintro setting workingDir rfl
      rw [compileWith_leaf setting workingDir hLeaf, hRule]
      rfl
    · intro graph id w hNode hSame hPresence now text path asked
        hShort
      exact check_plainString hNode hSame hPresence hAsks hShort now
        asked
  · refine ⟨fun _ => ⟨fault, ?_, ?_⟩, fun hGood => absurd hBad hGood⟩
    · rintro setting watch resolve key s rfl
      rw [compileNode_leaf hLeaf, hFault]
      rfl
    · rintro setting workingDir rfl
      rw [compileWith_leaf setting workingDir hLeaf, hFault]
      rfl

namespace Json

/- Texts of two or three characters, all of which are `a`. -/
def fewLetters : Json :=
  .object
    [("format", .string "name"), ("maxLength", .number (.real 3.0)),
      ("minLength", .ofInt 2), ("pattern", .string "^a*$"),
      ("type", .string "string")]

/- The greatest length is an integer that is written as a fraction. -/
theorem fewLetters_most :
    fewLetters.member? "maxLength" = some (.number (.real 3.0)) ∧
      (Number.real 3.0).IsFinite ∧
      (Number.real 3.0).quantity = (3 : Nat) := by
  refine ⟨rfl, ?_, ?_⟩
  · change Float.isFinite 3.0 = true
    decide +kernel
  · change Binary64.value 3.0 = (3 : Nat)
    decide +kernel

/- What the pattern finds. -/
theorem fewLetters_pattern :
    ∃ p,
      Pattern.read? "^a*$" = some p ∧
        p.source = "^a*$" ∧
        p.isFoundIn "b" = false ∧ p.isFoundIn "aa" = true ∧
        p.isFoundIn "aaaa" = true := by
  have hFound :
      (Pattern.read? "^a*$").map
          (fun p =>
            (p.source, p.isFoundIn "b", p.isFoundIn "aa",
              p.isFoundIn "aaaa")) =
        some ("^a*$", false, true, true) := by
    decide +kernel
  rcases Option.map_eq_some_iff.mp hFound with ⟨p, hRead, hIs⟩
  simp only [Prod.mk.injEq] at hIs
  exact ⟨p, hRead, hIs⟩

/- What the schema asks of texts. -/
theorem fewLetters_asks
    {p : Pattern}
    (hRead : Pattern.read? "^a*$" = some p) :
    fewLetters.Asks .expanding ⟨some p, some 2, some 3⟩ where
  pattern := .given rfl hRead
  least := .given (n := .integer 2 (by decide)) rfl rfl
  most := .given fewLetters_most.1 fewLetters_most.2.2

end Json

/-
  The pattern and the least length are reported together, the
  greatest length counts although it is written as a
  fraction, and the empty text is refused without them.
-/
theorem compile_plainString_fewLetters :
    ∃ schema,
      (compileAlone Json.fewLetters).result = .ok schema ∧
        ∀ now asked,
          schema.graph.check now schema.root (some (.string "aa")) ""
                asked =
              some (.ok (some (.string "aa"))) ∧
            schema.graph.check now schema.root (some (.string "b")) ""
                asked =
              some
                (.error
                  [Violation.of "" (.patternMismatch "^a*$"),
                    Violation.of "" (.tooShort 2)]) ∧
            schema.graph.check now schema.root
                (some (.string "aaaa")) "" asked =
              some (.error [Violation.of "" (.tooLong 3)]) ∧
            schema.graph.check now schema.root (some (.string "")) ""
                asked =
              some (.error [Violation.of "" .emptyString]) := by
  rcases Json.fewLetters_pattern with
    ⟨p, hRead, hSource, hMissed, hFound, hFoundLong⟩
  have hAsks := Json.fewLetters_asks hRead
  have hPlain : Json.fewLetters.IsPlainString :=
    ⟨rfl, rfl, by simp [Json.fewLetters, Json.member?]⟩
  have hLeast : Json.fewLetters.FiniteLength "minLength" := by
    rintro n ⟨⟩
    trivial
  have hMost : Json.fewLetters.FiniteLength "maxLength" := by
    rintro n ⟨⟩
    exact Json.fewLetters_most.2.1
  rcases (compile_plainString .expanding hPlain hLeast hMost).2
    hAsks.not_bad with
    ⟨limits, v, hLimits, _, hCompiled, hPresence, hChecks⟩
  have hReport :
      ∀ text now asked, text.length < largestCount →
        (Compiled.leaf v).graph.check now (Compiled.leaf v).root
            (some (.string text)) "" asked =
          some
            (if Json.fewLetters.textReport limits text "" = [] then
              .ok (some (.string text))
            else
              .error (Json.fewLetters.textReport limits text "")) :=
    fun text now asked hShort =>
      hChecks _ _ v rfl rfl (by rw [hPresence]; nofun) now text ""
        asked hShort
  rw [hLimits.unique hAsks] at hReport
  have hFine :
      Json.fewLetters.textReport ⟨some p, some 2, some 3⟩ "aa" "" =
        [] := by
    simp only [Json.textReport, TextLimits.report, hFound]
    rfl
  have hShorter :
      Json.fewLetters.textReport ⟨some p, some 2, some 3⟩ "b" "" =
        [Violation.of "" (.patternMismatch "^a*$"),
          Violation.of "" (.tooShort 2)] := by
    simp only [Json.textReport, TextLimits.report, hMissed, hSource]
    rfl
  have hLonger :
      Json.fewLetters.textReport ⟨some p, some 2, some 3⟩ "aaaa" "" =
        [Violation.of "" (.tooLong 3)] := by
    simp only [Json.textReport, TextLimits.report, hFoundLong]
    rfl
  refine ⟨Compiled.leaf v, hCompiled _ _ rfl, fun now asked =>
    ⟨?_, ?_, ?_, ?_⟩⟩
  · rw [hReport "aa" now asked (by decide), hFine]
    rfl
  · rw [hReport "b" now asked (by decide), hShorter]
    rfl
  · rw [hReport "aaaa" now asked (by decide), hLonger]
    rfl
  · rw [hReport "" now asked (by decide)]
    rfl

end SchemaGraph
