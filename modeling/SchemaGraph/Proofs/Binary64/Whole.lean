import Mathlib
import SchemaGraph.Compile.Primitive
import SchemaGraph.Proofs.Json.Quantities

/-
  Binary64 values that stand for integers, and the machine
  words that they become.  A finite value counts as an
  integer exactly if it stands for one, and a number counts
  as a count exactly if it denotes a natural number, which is
  cut off at the largest count.

  Main declarations:
    * `Binary64.le_iff`
    * `Binary64.toInt_of_value`
    * `Binary64.isInteger_iff`
    * `Binary64.toNat_toUInt64`
    * `Number.count?_of_quantity`
    * `Number.count?_eq_none`
-/

namespace SchemaGraph

namespace Binary64

open Float.Model (UnpackedFloat)
open Float.Model.UnpackedFloat (ExtendedMantissa Sign)

------------------------------------------------------------
-- Order
------------------------------------------------------------

/- A finite value is at most another one if its number is. -/
theorem le_iff
    {f g : Float}
    (hFirst : f.isFinite = true)
    (hSecond : g.isFinite = true) :
    f ≤ g ↔ value f ≤ value g := by
  rcases compares_value hFirst hSecond with
    ⟨order, hCompare, hCompares⟩
  have hIsLE : order.isLE = true ↔ value f ≤ value g := by
    rw [← not_lt, ← hCompares.eq_gt]
    cases order <;> simp
  rw [← hIsLE]
  change decide (f.toModel ≤ g.toModel) = true ↔ order.isLE
  rw [decide_eq_true_iff]
  change (f.toModel.unpack.compare g.toModel.unpack).any (·.isLE) =
    true ↔ order.isLE
  rw [hCompare]
  rfl

------------------------------------------------------------
-- Integers in Parts
------------------------------------------------------------

/- The integer that parts are cut to, if they stand for one. -/
theorem roundToInt_of_parts
    {m n : Nat}
    {e : Int}
    (sign : Sign)
    (hParts : (m : ℚ) * 2 ^ e = n) :
    UnpackedFloat.roundToInt sign m e = sign.apply n := by
  unfold UnpackedFloat.roundToInt UnpackedFloat.decreaseExponent
    UnpackedFloat.shiftToExponent
  dsimp only
  rw [mantissa_shift]
  congr 1
  rcases Int.eq_nat_or_neg e with ⟨k, rfl | rfl⟩
  · rw [zpow_natCast] at hParts
    have hExact : m * 2 ^ k = n := by exact_mod_cast hParts
    simp [Nat.shiftLeft_eq, hExact]
  · rw [zpow_neg, zpow_natCast, ← div_eq_mul_inv,
      div_eq_iff (by positivity)] at hParts
    have hExact : m = n * 2 ^ k := by exact_mod_cast hParts
    simp [Nat.shiftLeft_eq, hExact]

/- The integer that a finite value is cut to, if it stands for one. -/
theorem toInt_of_value
    {f : Float}
    {i : Int}
    (low high : Int)
    (hFinite : f.isFinite = true)
    (hValue : value f = i) :
    f.toModel.unpack.toInt low high = i := by
  unfold value at hValue
  rcases isFinite_cases hFinite with
    ⟨sign, hZero⟩ | ⟨sign, m, e, hPos, hParts, hFits⟩
  · rw [hZero] at hValue ⊢
    have hIs : (0 : ℚ) = i := hValue
    exact_mod_cast hIs
  · rw [hParts] at hValue ⊢
    change UnpackedFloat.roundToInt sign m e = i
    have hAbs : (m : ℚ) * 2 ^ e = i.natAbs := by
      rw [Nat.cast_natAbs, Int.cast_abs, ← hValue]
      cases sign <;> simp [abs_mul]
    rw [roundToInt_of_parts sign hAbs]
    have hPositive : (0 : ℚ) < m * 2 ^ e := by positivity
    cases sign with
    | positive =>
        rw [unpackedValue_positive] at hValue
        have hSign : 0 < i := by
          rw [hValue] at hPositive
          exact_mod_cast hPositive
        change ((i.natAbs : Nat) : Int) = i
        omega
    | negative =>
        rw [unpackedValue_negative] at hValue
        have hSign : i < 0 := by
          have hNegative : (i : ℚ) < 0 := by
            rw [← hValue]
            exact neg_lt_zero.mpr hPositive
          exact_mod_cast hNegative
        change -((i.natAbs : Nat) : Int) = i
        omega

/- From `2 ^ 53` on, parts that fit stand for an integer. -/
theorem exists_int_of_large
    {f : Float}
    (hFinite : f.isFinite = true)
    (hLarge : 2 ^ 53 ≤ |value f|) :
    ∃ i : Int, value f = i := by
  unfold value at hLarge ⊢
  rcases isFinite_cases hFinite with
    ⟨sign, hZero⟩ | ⟨sign, m, e, hPos, hParts, hFits⟩
  · rw [hZero]
    exact ⟨0, by simp⟩
  · rw [hParts] at hLarge ⊢
    have hExponent : 0 ≤ e := by
      by_contra hNegative
      have hPower : (2 : ℚ) ^ e ≤ 1 :=
        zpow_le_one_of_nonpos₀ (by norm_num) (by omega)
      have hDigits : (m : ℚ) < 2 ^ 53 := by
        exact_mod_cast hFits.digits
      have hSmall : (m : ℚ) * 2 ^ e < 2 ^ 53 :=
        (mul_le_of_le_one_right (by positivity) hPower).trans_lt
          hDigits
      have hAbs :
          |unpackedValue (.finite sign m e hPos)| =
            (m : ℚ) * 2 ^ e := by
        cases sign <;> simp [abs_mul]
      rw [hAbs] at hLarge
      exact absurd hLarge (not_le.mpr hSmall)
    lift e to Nat using hExponent
    cases sign with
    | positive => exact ⟨m * 2 ^ e, by simp⟩
    | negative => exact ⟨-(m * 2 ^ e), by simp⟩

------------------------------------------------------------
-- Machine Words
------------------------------------------------------------

/- A number is cut off at the greatest machine word. -/
theorem toNat_ofNatClamp
    (n : Nat) :
    (UInt64.ofNatClamp n).toNat = min n largestCount := by
  have hSize : UInt64.size = largestCount + 1 := rfl
  unfold UInt64.ofNatClamp
  split
  · rw [UInt64.toNat_ofNatLT]
    omega
  · rw [UInt64.toNat_ofNatLT]
    omega

/- The machine word of a finite value that stands for a number. -/
theorem toNat_toUInt64
    {f : Float}
    {n : Nat}
    (hFinite : f.isFinite = true)
    (hValue : value f = n) :
    f.toUInt64.toNat = min n largestCount := by
  change (UInt64.ofNatClamp
    (f.toModel.unpack.toInt 0 (UInt64.size - 1)).toNat).toNat = _
  rw [toInt_of_value (i := n) _ _ hFinite hValue, toNat_ofNatClamp]
  rfl

/- The opposite of a negative value holds the opposite number. -/
theorem holds_opposite
    {f : Float}
    {number : ℚ}
    (hHolds : Holds f .negative number) :
    Holds (Float.neg f) .positive number := by
  rcases hHolds with ⟨m, e, hPos, hParts, hNormal, hNumber⟩
  refine ⟨m, e, hPos, ?_, hNormal, hNumber⟩
  change (Float.Model.pack f.toModel.unpack.neg).unpack = _
  rw [hParts]
  exact unpack_pack hNormal

/- Parts that fit are normal from one up to `2 ^ 53`. -/
theorem normal_of_fits
    {m : Nat}
    {e : Int}
    (hFits : Fits m e)
    (hLow : 1 ≤ (m : ℚ) * 2 ^ e)
    (hHigh : (m : ℚ) * 2 ^ e < 2 ^ 53) :
    Normal m e := by
  have hDigits : (m : ℚ) < 2 ^ 53 := by exact_mod_cast hFits.digits
  have hExponent : -53 < e := by
    have hPower : (2 : ℚ) ^ (-53 : Int) < 2 ^ e := by
      by_contra hSmall
      rw [not_lt] at hSmall
      have hBelow : (m : ℚ) * 2 ^ e < 1 := by
        calc (m : ℚ) * 2 ^ e
            ≤ m * 2 ^ (-53 : Int) := by gcongr
          _ < 2 ^ 53 * 2 ^ (-53 : Int) :=
              mul_lt_mul_of_pos_right hDigits (by positivity)
          _ = 1 := by norm_num
      exact absurd hLow (not_le.mpr hBelow)
    exact (zpow_lt_zpow_iff_right₀ (by norm_num)).mp hPower
  have hLeading : 2 ^ 52 ≤ m :=
    hFits.leading.resolve_right (by omega)
  have hGreatest : e < 1 := by
    have hPower : (2 : ℚ) ^ e < 2 ^ (1 : Int) := by
      have hAtLeast : (2 : ℚ) ^ 52 ≤ m := by exact_mod_cast hLeading
      have hProduct : (2 : ℚ) ^ 52 * 2 ^ e < 2 ^ 52 * 2 ^ (1 : Int) :=
        calc (2 : ℚ) ^ 52 * 2 ^ e
            ≤ m * 2 ^ e := by gcongr
          _ < 2 ^ 53 := hHigh
          _ = 2 ^ 52 * 2 ^ (1 : Int) := by norm_num
      exact lt_of_mul_lt_mul_left hProduct (by positivity)
    exact (zpow_lt_zpow_iff_right₀ (by norm_num)).mp hPower
  exact ⟨hLeading, hFits.digits, by omega, by omega⟩

/- The opposite of a value for a small negative integer. -/
theorem value_opposite
    {f : Float}
    {i : Int}
    (hFinite : f.isFinite = true)
    (hValue : value f = i)
    (hNegative : i < 0)
    (hSmall : i.natAbs < 2 ^ 53) :
    (Float.neg f).isFinite = true ∧
      value (Float.neg f) = i.natAbs := by
  have hHolds : Holds f .negative i.natAbs := by
    unfold value at hValue
    rcases isFinite_cases hFinite with
      ⟨sign, hZero⟩ | ⟨sign, m, e, hPos, hParts, hFits⟩
    · rw [hZero] at hValue
      have hIs : (0 : ℚ) = i := hValue
      have hNone : 0 = i := by exact_mod_cast hIs
      omega
    · rw [hParts] at hValue
      have hPositive : (0 : ℚ) < m * 2 ^ e := by positivity
      cases sign with
      | positive =>
          rw [unpackedValue_positive] at hValue
          have hSign : 0 < i := by
            rw [hValue] at hPositive
            exact_mod_cast hPositive
          omega
      | negative =>
          rw [unpackedValue_negative] at hValue
          have hAbs : (m : ℚ) * 2 ^ e = i.natAbs := by
            rw [Nat.cast_natAbs, abs_of_neg hNegative, Int.cast_neg,
              ← hValue, neg_neg]
          have hLow : 1 ≤ i.natAbs := by omega
          refine ⟨m, e, hPos, hParts, normal_of_fits hFits ?_ ?_,
            hAbs⟩
          · rw [hAbs]
            exact_mod_cast hLow
          · rw [hAbs]
            exact_mod_cast hSmall
  have hOpposite := holds_opposite hHolds
  exact ⟨isFinite_of_holds hOpposite, value_of_holds hOpposite⟩

/- A finite value below `2 ^ 53` for an integer is cut to it. -/
theorem truncated_of_value
    {f : Float}
    {i : Int}
    (hFinite : f.isFinite = true)
    (hValue : value f = i)
    (hSmall : i.natAbs < 2 ^ 53) :
    truncated f = i := by
  have hZero : (0 : Float).isFinite = true := rfl
  have hZeroValue : value 0 = 0 := rfl
  have hLargest : largestCount = 2 ^ 64 - 1 := rfl
  unfold truncated
  split
  case isTrue hNegative =>
    rw [lt_iff hFinite hZero, hZeroValue, hValue] at hNegative
    have hSign : i < 0 := by exact_mod_cast hNegative
    rcases value_opposite hFinite hValue hSign hSmall with
      ⟨hOpposite, hAbs⟩
    rw [toNat_toUInt64 hOpposite hAbs]
    omega
  case isFalse hPositive =>
    rw [lt_iff hFinite hZero, hZeroValue, hValue] at hPositive
    have hSign : 0 ≤ i := by
      rw [not_lt] at hPositive
      exact_mod_cast hPositive
    have hAbs : value f = i.natAbs := by
      rw [hValue, Nat.cast_natAbs, abs_of_nonneg hSign]
    rw [toNat_toUInt64 hFinite hAbs]
    omega

------------------------------------------------------------
-- Whole Values
------------------------------------------------------------

/- A value is cut to a machine word, with a sign. -/
theorem natAbs_truncated_lt
    (f : Float) :
    (truncated f).natAbs < 2 ^ 64 := by
  have hWord := f.toUInt64.toNat_lt
  have hOpposite := (Float.neg f).toUInt64.toNat_lt
  unfold truncated
  split <;> omega

/- From `2 ^ 53` on, a finite value is beyond one of the bounds. -/
theorem beyond_iff
    {f : Float}
    (hFinite : f.isFinite = true) :
    (decide (f >= Float.ofInt 9007199254740992) ||
        decide (f <= Float.ofInt (-9007199254740992))) = true ↔
      2 ^ 53 ≤ |value f| := by
  rcases value_ofInt (i := 9007199254740992) (by decide) with
    ⟨hGreatFinite, hGreat⟩
  rcases value_ofInt (i := -9007199254740992) (by decide) with
    ⟨hLeastFinite, hLeast⟩
  rw [nearestInt_of_le (by decide)] at hGreat hLeast
  rw [Bool.or_eq_true, decide_eq_true_iff, decide_eq_true_iff, ge_iff_le,
    le_iff hGreatFinite hFinite, le_iff hFinite hLeastFinite, hGreat,
    hLeast, le_abs, le_neg]
  norm_num

/- A finite value counts as an integer if it stands for one. -/
theorem isInteger_iff
    {f : Float}
    (hFinite : f.isFinite = true) :
    isInteger f = true ↔ ∃ i : Int, value f = i := by
  unfold isInteger
  rw [Bool.or_assoc, Bool.or_eq_true, beyond_iff hFinite]
  constructor
  · rintro (hCut | hLarge)
    · rcases value_ofInt_of_lt (natAbs_truncated_lt f) with
        ⟨hRounded, hNearest⟩
      rw [beq_iff hRounded hFinite, hNearest] at hCut
      exact ⟨_, hCut.symm⟩
    · exact exists_int_of_large hFinite hLarge
  · rintro ⟨i, hValue⟩
    rcases Nat.lt_or_ge i.natAbs (2 ^ 53) with hSmall | hLarge
    · left
      have hRange : IntegerRange i := by
        unfold IntegerRange
        omega
      rcases value_ofInt hRange with ⟨hRounded, hNearest⟩
      rw [truncated_of_value hFinite hValue hSmall,
        beq_iff hRounded hFinite, hNearest, hValue,
        nearestInt_of_le (Nat.le_of_lt hSmall)]
    · right
      rw [hValue, ← Int.cast_abs, ← Nat.cast_natAbs]
      exact_mod_cast hLarge

end Binary64

------------------------------------------------------------
-- Counts
------------------------------------------------------------

namespace Number

/- A number that denotes a natural number is a count. -/
theorem count?_of_quantity
    {n : Number}
    {k : Nat}
    (hFinite : n.IsFinite)
    (hQuantity : n.quantity = k) :
    n.count? = some (min k largestCount) := by
  cases n with
  | integer i hRange =>
      change (i : ℚ) = k at hQuantity
      have hIs : i = k := by exact_mod_cast hQuantity
      have hLargest : largestCount = 2 ^ 64 - 1 := rfl
      have hHigh := hRange.2
      change (if 0 ≤ i then some i.toNat else none) = _
      rw [if_pos (by omega), Option.some.injEq]
      omega
  | real f =>
      have hZero : (0 : Float).isFinite = true := rfl
      have hZeroValue : Binary64.value 0 = 0 := rfl
      change Binary64.value f = k at hQuantity
      have hWhole : Binary64.isInteger f = true :=
        (Binary64.isInteger_iff hFinite).mpr ⟨k, hQuantity⟩
      have hSign : f ≥ 0 := by
        rw [ge_iff_le, Binary64.le_iff hZero hFinite, hZeroValue,
          hQuantity]
        exact Nat.cast_nonneg k
      change (if decide (f ≥ 0) && Binary64.isInteger f then
        some f.toUInt64.toNat else none) = _
      rw [decide_eq_true hSign, hWhole, Bool.true_and, if_pos rfl,
        Binary64.toNat_toUInt64 hFinite hQuantity]

/- A number is no count if it is negative or no integer. -/
theorem count?_eq_none
    {n : Number}
    (hFinite : n.IsFinite)
    (hNone : n.quantity < 0 ∨ ∀ i : Int, n.quantity ≠ i) :
    n.count? = none := by
  cases n with
  | integer i hRange =>
      rcases hNone with hNegative | hFraction
      · have hSign : i < 0 := by
          change (i : ℚ) < 0 at hNegative
          exact_mod_cast hNegative
        exact if_neg (by omega)
      · exact absurd rfl (hFraction i)
  | real f =>
      have hZero : (0 : Float).isFinite = true := rfl
      have hZeroValue : Binary64.value 0 = 0 := rfl
      refine if_neg ?_
      rw [Bool.and_eq_true, decide_eq_true_iff, ge_iff_le,
        Binary64.le_iff hZero hFinite, hZeroValue,
        Binary64.isInteger_iff hFinite]
      rintro ⟨hSign, i, hValue⟩
      rcases hNone with hNegative | hFraction
      · exact absurd hSign (not_le.mpr hNegative)
      · exact hFraction i hValue

/- When a number is a count, and which one. -/
theorem count?_cases
    {n : Number}
    (hFinite : n.IsFinite) :
    (∃ k : Nat,
        n.quantity = k ∧ n.count? = some (min k largestCount)) ∨
      (n.quantity < 0 ∨ ∀ i : Int, n.quantity ≠ i) ∧
        n.count? = none := by
  by_cases hNone : n.quantity < 0 ∨ ∀ i : Int, n.quantity ≠ i
  · exact Or.inr ⟨hNone, count?_eq_none hFinite hNone⟩
  · push Not at hNone
    rcases hNone with ⟨hSign, i, hQuantity⟩
    rw [hQuantity] at hSign
    have hNatural : 0 ≤ i := by exact_mod_cast hSign
    lift i to Nat using hNatural
    exact Or.inl ⟨i, hQuantity, count?_of_quantity hFinite hQuantity⟩

end Number

end SchemaGraph
