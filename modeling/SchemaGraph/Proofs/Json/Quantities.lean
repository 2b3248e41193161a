import Mathlib
import SchemaGraph.Json.Equality
import SchemaGraph.Proofs.Binary64.Integer

/-
  The exact numbers that JSON numbers denote.  Integers are
  compared exactly with each other, and so are binary64
  values, but an integer is compared with a binary64 value
  after it is rounded.  So two numbers count as the same if
  they denote the same number, and besides if one of them is
  an integer that is rounded to the other one.

  Main declarations:
    * `Number.quantity`
    * `Number.IsFinite`
    * `Number.Blurs`
    * `Number.Indistinct`
    * `Number.same_iff`
-/

namespace SchemaGraph

open Binary64 (nearestInt)

namespace Number

------------------------------------------------------------
-- Quantities
------------------------------------------------------------

/- The exact number that a number denotes. -/
def quantity : Number → ℚ
  | integer i _ => i
  | real f => Binary64.value f

/- The number is no binary64 value that is infinite or undefined. -/
def IsFinite : Number → Prop
  | integer _ _ => True
  | real f => f.isFinite = true

/- Two numbers denote the same number. -/
def SameQuantity
    (m n : Number) : Prop :=
  m.quantity = n.quantity

/-
  The first number is an integer that no binary64 value
  stands for, and the second one is the value that it is
  rounded to.
-/
def Blurs : Number → Number → Prop
  | integer i _, real f =>
      nearestInt i ≠ i ∧ Binary64.value f = nearestInt i
  | _, _ => False

/- Rounding leaves no difference between the numbers. -/
def Indistinct
    (m n : Number) : Prop :=
  m.SameQuantity n ∨ m.Blurs n ∨ n.Blurs m

/- Indistinctness has no direction. -/
theorem Indistinct.symm
    {m n : Number}
    (hIndistinct : m.Indistinct n) :
    n.Indistinct m :=
  hIndistinct.imp Eq.symm Or.symm

------------------------------------------------------------
-- Comparing Numbers
------------------------------------------------------------

section Comparing

variable {i j : Int}
variable {f g : Float}

/- Integers of different signs are rounded to different values. -/
theorem floats_eq_iff_of_signs
    (hFirst : IntegerRange i)
    (hSecond : IntegerRange j)
    (hSigns : i < 0 ∧ 0 ≤ j ∨ 0 ≤ i ∧ j < 0) :
    (Float.ofInt i == Float.ofInt j) = true ↔ i = j := by
  rw [Binary64.ofInt_beq_ofInt_iff hFirst hSecond]
  constructor
  · exact Binary64.eq_of_nearestInt_eq (by omega)
  · exact congrArg nearestInt

/-
  Two integers are the same if they are equal.  Those that
  are neither both signed nor both unsigned have different
  signs.
-/
theorem same_integers
    (hFirst : IntegerRange i)
    (hSecond : IntegerRange j) :
    (integer i hFirst).same (integer j hSecond) = true ↔ i = j := by
  unfold Number.same signed? unsigned?
  dsimp only
  split_ifs <;> simp only [beq_iff_eq]
  all_goals
    first
    | omega
    | exact floats_eq_iff_of_signs hFirst hSecond (by omega)

/-
  An integer and a finite value are the same if the integer
  is rounded to the value.
-/
theorem floats_eq_iff
    (hRange : IntegerRange i)
    (hFinite : f.isFinite = true) :
    (Float.ofInt i == f) = true ↔
      (integer i hRange).Indistinct (real f) := by
  rcases Binary64.value_ofInt hRange with ⟨hRounded, hNearest⟩
  rw [Binary64.beq_iff hRounded hFinite, hNearest]
  constructor
  · intro hValue
    by_cases hKept : nearestInt i = i
    · left
      change (i : ℚ) = Binary64.value f
      rw [← hValue, hKept]
    · exact Or.inr (Or.inl ⟨hKept, hValue.symm⟩)
  · rintro (hSame | hBlurs | hBlurs)
    · change (i : ℚ) = Binary64.value f at hSame
      rw [Binary64.nearestInt_of_value hFinite hSame.symm, hSame]
    · exact hBlurs.2.symm
    · exact hBlurs.elim

/- Finite values are compared in both directions alike. -/
theorem floats_symm
    (hFirst : f.isFinite = true)
    (hSecond : g.isFinite = true) :
    (f == g) = (g == f) := by
  rw [Bool.eq_iff_iff, Binary64.beq_iff hFirst hSecond,
    Binary64.beq_iff hSecond hFirst]
  exact eq_comm

/- When two finite numbers count as the same. -/
theorem same_iff
    {m n : Number}
    (hFirst : m.IsFinite)
    (hSecond : n.IsFinite) :
    m.same n = true ↔ m.Indistinct n := by
  cases m with
  | integer i hI =>
      cases n with
      | integer j hJ =>
          rw [same_integers]
          change i = j ↔ ((i : ℚ) = j ∨ False ∨ False)
          rw [Int.cast_inj, or_false, or_false]
      | real g =>
          have hFloats :
              (integer i hI).same (real g) =
                (Float.ofInt i == g) := by
            unfold Number.same signed? unsigned?
            dsimp only
            split_ifs <;> rfl
          rw [hFloats]
          exact floats_eq_iff hI hSecond
  | real f =>
      cases n with
      | integer j hJ =>
          have hFloats :
              (real f).same (integer j hJ) =
                (f == Float.ofInt j) := rfl
          rw [hFloats, floats_symm hFirst (Binary64.value_ofInt hJ).1,
            floats_eq_iff hJ hFirst]
          exact ⟨Indistinct.symm, Indistinct.symm⟩
      | real g =>
          change (f == g) = true ↔
            (Binary64.value f = Binary64.value g ∨ False ∨ False)
          rw [Binary64.beq_iff hFirst hSecond, or_false, or_false]

end Comparing

end Number

end SchemaGraph
