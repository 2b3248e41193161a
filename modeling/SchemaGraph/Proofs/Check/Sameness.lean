import Mathlib
import SchemaGraph.Proofs.Check.Stripping
import SchemaGraph.Proofs.Json.Alike
import SchemaGraph.Proofs.Json.Quantities

/-
  When values count as the same.  Values are compared by
  their structure and by what their numbers denote, except
  that an integer that no binary64 value stands for also
  counts as the same as the value that it is rounded to.

  Where no such pair of numbers is met, counting as the same
  is an equivalence, equality of the denoted values, and the
  values of an enumeration and the repeated items of an array
  do not depend on how numbers are written.

  Main declarations:
    * `Json.WellFormed`
    * `Json.Clear`
    * `Json.same_iff_indistinct`
    * `Json.ComparesExactly`
    * `Json.same_exact`
    * `Json.same_exact_mixed`
-/

namespace SchemaGraph

namespace Json

------------------------------------------------------------
-- Values with Finite Numbers
------------------------------------------------------------

/-
  A value as a text gives it: its members are in order, each
  name once, and its numbers are finite.
-/
structure WellFormed
    (a : Json) : Prop where
  canonical : a.Canonical
  finite : ∀ n, a.Holds n → n.IsFinite

/-
  No number of one of the values is an integer that is
  rounded to a number of the other one.
-/
def Clear
    (a b : Json) : Prop :=
  ∀ m n, a.Holds m → b.Holds n → ¬ m.Blurs n ∧ ¬ n.Blurs m

variable {a b : Json}

/- Values whose integers are kept by rounding are clear. -/
theorem clear_of_kept
    (hFirst :
      ∀ i hRange, a.Holds (.integer i hRange) →
        Binary64.nearestInt i = i)
    (hSecond :
      ∀ i hRange, b.Holds (.integer i hRange) →
        Binary64.nearestInt i = i) :
    a.Clear b := by
  have hNone :
      ∀ {c : Json} {m n : Number},
        (∀ i hRange, c.Holds (.integer i hRange) →
          Binary64.nearestInt i = i) →
          c.Holds m → ¬ m.Blurs n := by
    intro c m n hKept hHolds hBlurs
    cases m with
    | integer i hRange =>
        cases n with
        | integer j hOther => exact hBlurs
        | real f => exact hBlurs.1 (hKept i hRange hHolds)
    | real f => exact hBlurs
  intro m n hM hN
  exact ⟨hNone hFirst hM, hNone hSecond hN⟩

/- Well-formed values are the same if their numbers are indistinct. -/
theorem same_iff_indistinct
    (hFirst : a.WellFormed)
    (hSecond : b.WellFormed) :
    a.same b = true ↔ a.Alike Number.Indistinct b := by
  rw [same_iff_alike hFirst.canonical hSecond.canonical]
  constructor
  · refine Alike.imp ?_
    intro m n hM hN
    exact (Number.same_iff (hFirst.finite m hM)
      (hSecond.finite n hN)).mp
  · refine Alike.imp ?_
    intro m n hM hN
    exact (Number.same_iff (hFirst.finite m hM)
      (hSecond.finite n hN)).mpr

/- Clear values are the same if they denote the same. -/
theorem same_iff_sameQuantity
    (hFirst : a.WellFormed)
    (hSecond : b.WellFormed)
    (hClear : a.Clear b) :
    a.same b = true ↔ a.Alike Number.SameQuantity b := by
  rw [same_iff_indistinct hFirst hSecond]
  constructor
  · refine Alike.imp ?_
    intro m n hM hN hIndistinct
    exact hIndistinct.resolve_right
      (not_or.mpr (hClear m n hM hN))
  · exact Alike.imp (fun _ _ _ _ => Or.inl)

/- Sameness has no direction. -/
theorem same_comm
    (hFirst : a.WellFormed)
    (hSecond : b.WellFormed) :
    a.same b = b.same a := by
  rw [Bool.eq_iff_iff, same_iff_indistinct hFirst hSecond,
    same_iff_indistinct hSecond hFirst]
  exact ⟨Alike.symm (fun _ _ => Number.Indistinct.symm),
    Alike.symm (fun _ _ => Number.Indistinct.symm)⟩

------------------------------------------------------------
-- Exact Comparisons
------------------------------------------------------------

/-
  Some values count as the same exactly if they denote the
  same; an enumeration of them accepts what denotes one of
  its values, and an array of them has no repeated item if
  no two items denote the same.
-/
structure ComparesExactly
    (values : List Json) : Prop where
  same :
    ∀ a ∈ values, ∀ b ∈ values,
      a.same b = true ↔ a.Alike Number.SameQuantity b
  listed :
    ∀ allowed ⊆ values, ∀ a ∈ values,
      ∀ (g : Graph) now inner path options,
        g.checkRule now inner (.literal allowed) a path options =
            some (Verdict.accept a) ↔
          ∃ x ∈ allowed, x.Alike Number.SameQuantity a
  distinct :
    ∀ items ⊆ values, ∀ path,
      duplicates path [] items = [] ↔
        items.Pairwise (fun x y => ¬ x.Alike Number.SameQuantity y)

/- An enumeration accepts what is the same as one of its values. -/
theorem checkRule_literal_iff
    {allowed : List Json}
    {path : String}
    (g : Graph)
    (now : Calendar.Instant)
    (inner : Checker)
    (options : CheckOptions) :
    g.checkRule now inner (.literal allowed) a path options =
        some (Verdict.accept a) ↔
      ∃ x ∈ allowed, x.same a = true := by
  rw [← List.any_eq_true]
  by_cases hAny : allowed.any (fun x => x.same a) = true
  · simp only [Graph.checkRule, hAny, if_true]
  · simp [Graph.checkRule, hAny, Verdict.refuse, Verdict.accept]

/- Denoting the same number is an equivalence. -/
theorem equivalence_sameQuantity :
    Equivalence Number.SameQuantity :=
  ⟨fun _ => rfl, Eq.symm, Eq.trans⟩

/- Values are compared exactly if they are clear of each other. -/
theorem comparesExactly_of_clear
    {values : List Json}
    (hFormed : ∀ a ∈ values, a.WellFormed)
    (hClear : ∀ a ∈ values, ∀ b ∈ values, a.Clear b) :
    ComparesExactly values := by
  have hSame :
      ∀ a ∈ values, ∀ b ∈ values,
        (a.same b = true ↔ a.Alike Number.SameQuantity b) :=
    fun a hA b hB =>
      same_iff_sameQuantity (hFormed a hA) (hFormed b hB)
        (hClear a hA b hB)
  refine ⟨hSame, ?_, ?_⟩
  · intro allowed hAllowed a hA g now inner path options
    rw [checkRule_literal_iff]
    constructor
    · rintro ⟨x, hX, hFound⟩
      exact ⟨x, hX, (hSame x (hAllowed hX) a hA).mp hFound⟩
    · rintro ⟨x, hX, hAlike⟩
      exact ⟨x, hX, (hSame x (hAllowed hX) a hA).mpr hAlike⟩
  · intro items hItems path
    rw [duplicates_eq_nil_iff]
    constructor
    · rintro ⟨_, hDistinct⟩
      refine hDistinct.imp_of_mem ?_
      intro x y hX hY hDiffer hAlike
      rw [(hSame x (hItems hX) y (hItems hY)).mpr hAlike] at hDiffer
      cases hDiffer
    · intro hDistinct
      refine ⟨fun _ hNone => absurd hNone List.not_mem_nil, ?_⟩
      refine hDistinct.imp_of_mem ?_
      intro x y hX hY hDiffer
      rw [← Bool.not_eq_true, hSame x (hItems hX) y (hItems hY)]
      exact hDiffer

/-
  What counting as the same means for well-formed values.  It
  has no direction, and it holds of values that denote the
  same; it is equality of the denoted values, and so an
  equivalence, among values without an integer that is
  rounded to a number of another one.
-/
theorem same_exact
    {values : List Json}
    (hFormed : ∀ a ∈ values, a.WellFormed) :
    Equivalence (Alike Number.SameQuantity) ∧
      (∀ a ∈ values, ∀ b ∈ values,
        (a.same b = true ↔ a.Alike Number.Indistinct b) ∧
          a.same b = b.same a ∧
          (a.Alike Number.SameQuantity b → a.same b = true)) ∧
      ((∀ a ∈ values, ∀ b ∈ values, a.Clear b) →
        ComparesExactly values) := by
  refine ⟨equivalence_alike equivalence_sameQuantity, ?_,
    comparesExactly_of_clear hFormed⟩
  intro a hA b hB
  have hSame := same_iff_indistinct (hFormed a hA) (hFormed b hB)
  refine ⟨hSame, same_comm (hFormed a hA) (hFormed b hB), ?_⟩
  intro hAlike
  exact hSame.mpr (hAlike.imp (fun _ _ _ _ => Or.inl))

/- Comparing by rounded values is not transitive. -/
example :
    (ofInt 9007199254740993).same (.number (.real 9007199254740992)) ∧
      (Json.number (.real 9007199254740992)).same
        (ofInt 9007199254740992) ∧
      ¬ (ofInt 9007199254740993).same (ofInt 9007199254740992) := by
  decide +kernel

/- A number, and another one within an object. -/
def pair
    (m n : Number) : Json :=
  .array [.number m, .object [("a", .number n)]]

/- What a pair holds. -/
theorem holds_pair_iff
    {m n k : Number} :
    (pair m n).Holds k ↔ k = m ∨ k = n := by
  simp [pair]

/- A pair of finite numbers is well-formed. -/
theorem wellFormed_pair
    {m n : Number}
    (hFirst : m.IsFinite)
    (hSecond : n.IsFinite) :
    (pair m n).WellFormed := by
  refine ⟨by simp [pair, Canonical, CanonicalItems,
    CanonicalMembers, Members.Sorted], ?_⟩
  intro k hHolds
  rcases holds_pair_iff.mp hHolds with rfl | rfl
  · exact hFirst
  · exact hSecond

/- One is an integer that can be written. -/
theorem integerRange_one :
    IntegerRange 1 := by
  decide

/- Two is an integer that can be written. -/
theorem integerRange_two :
    IntegerRange 2 := by
  decide

/- One and two, the former one written as an integer. -/
def mixed : Json :=
  pair (.integer 1 integerRange_one) (.real 2.0)

/- One and two, the latter one written as an integer. -/
def mixedAgain : Json :=
  pair (.real 1.0) (.integer 2 integerRange_two)

/- Small numbers are compared exactly, however they are written. -/
theorem same_exact_mixed :
    mixed.WellFormed ∧ mixedAgain.WellFormed ∧
      ComparesExactly [mixed, mixedAgain] ∧
      mixed.Alike Number.SameQuantity mixedAgain := by
  have hMixed : mixed.WellFormed :=
    wellFormed_pair trivial
      (show Float.isFinite 2.0 = true by decide +kernel)
  have hAgain : mixedAgain.WellFormed :=
    wellFormed_pair
      (show Float.isFinite 1.0 = true by decide +kernel) trivial
  have hFormed : ∀ a ∈ [mixed, mixedAgain], a.WellFormed := by
    simp [hMixed, hAgain]
  -- one and two are kept by rounding
  have hKept :
      ∀ a ∈ [mixed, mixedAgain], ∀ i hRange,
        a.Holds (.integer i hRange) →
          Binary64.nearestInt i = i := by
    simp only [List.mem_cons, List.not_mem_nil, or_false]
    rintro a (rfl | rfl) i hRange hHolds
    · rcases holds_pair_iff.mp hHolds with hOne | hNone
      · cases hOne
        decide
      · cases hNone
    · rcases holds_pair_iff.mp hHolds with hNone | hTwo
      · cases hNone
      · cases hTwo
        decide
  have hExact : ComparesExactly [mixed, mixedAgain] :=
    (same_exact hFormed).2.2 fun a hA b hB =>
      clear_of_kept (hKept a hA) (hKept b hB)
  refine ⟨hMixed, hAgain, hExact, ?_⟩
  have hSame : mixed.same mixedAgain = true := by
    decide +kernel
  exact (hExact.same _ List.mem_cons_self _ (by simp)).mp hSame

end Json

end SchemaGraph
