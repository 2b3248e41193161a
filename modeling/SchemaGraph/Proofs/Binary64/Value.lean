import Mathlib

/-
  The numbers that binary64 values stand for.  Every finite
  value stands for a rational number, and finite values are
  compared as these numbers are.

  Main declarations:
    * `Binary64.value`
    * `Binary64.Fits`
    * `Binary64.fits_unpack`
    * `Binary64.compares_value`
    * `Binary64.lt_iff`
    * `Binary64.beq_iff`
-/

namespace SchemaGraph

namespace Binary64

open Float.Model (Format UnpackedFloat)

------------------------------------------------------------
-- Numbers of Values
------------------------------------------------------------

/- The number of a value in parts; none that is not finite has one. -/
def unpackedValue : UnpackedFloat → ℚ
  | .finite sign significand exponent _ =>
      (sign.apply significand : ℚ) * 2 ^ exponent
  | _ => 0

section Signs

variable {m : Nat}
variable {e : Int}
variable {hPos : 0 < m}

/- Positive parts stand for their magnitude. -/
@[simp] theorem unpackedValue_positive :
    unpackedValue (.finite .positive m e hPos) = m * 2 ^ e := by
  simp [unpackedValue, UnpackedFloat.Sign.apply]

/- Negative parts stand for the opposite. -/
@[simp] theorem unpackedValue_negative :
    unpackedValue (.finite .negative m e hPos) =
      -(m * 2 ^ e : ℚ) := by
  simp [unpackedValue, UnpackedFloat.Sign.apply]

/- Neither zero stands for more. -/
@[simp] theorem unpackedValue_zero
    (sign : UnpackedFloat.Sign) :
    unpackedValue (.zero sign) = 0 :=
  rfl

end Signs

/-
  The number that a binary64 value stands for; zero, if the
  value is infinite or undefined.
-/
def value
    (f : Float) : ℚ :=
  unpackedValue f.toModel.unpack

/-
  A significand of 53 digits, or of fewer with the least
  exponent.
-/
structure Fits
    (significand : Nat)
    (exponent : Int) : Prop where
  digits : significand < 2 ^ 53
  least : -1074 ≤ exponent
  leading : 2 ^ 52 ≤ significand ∨ exponent = -1074

/- The leading digit stands before the digits that are kept. -/
theorem toNat_leading
    (digits : BitVec 52) :
    (1#1 ++ digits).toNat = 2 ^ 52 + digits.toNat := by
  rw [BitVec.toNat_append, ← Nat.shiftLeft_add_eq_or_of_lt digits.isLt]
  rfl

/- The parts of a finite value fit. -/
theorem fits_unpack
    {f : Float}
    {sign : UnpackedFloat.Sign}
    {significand : Nat}
    {exponent : Int}
    {hPos : 0 < significand}
    (hParts :
      f.toModel.unpack =
        .finite sign significand exponent hPos) :
    Fits significand exponent := by
  have hBias : (Format.binary64.exponentBias : Int) = 1023 := rfl
  unfold Float.Model.unpack UnpackedFloat.unpack at hParts
  dsimp only at hParts
  split at hParts
  case isTrue => split at hParts <;> cases hParts
  case isFalse =>
    split at hParts
    case isTrue hFirst =>
      split at hParts
      case isTrue => cases hParts
      case isFalse =>
        cases hParts
        rw [hFirst, hBias]
        exact ⟨(BitVec.isLt _).trans (by decide), by decide,
          Or.inr (by decide)⟩
    case isFalse hNotFirst =>
      cases hParts
      rw [hBias, toNat_leading]
      refine ⟨?_, ?_, Or.inl (Nat.le_add_right _ _)⟩
      · have hDigits :=
          (@UnpackedFloat.unpackMantissa Format.binary64
            f.toModel.toBits.toBitVec).isLt
        change _ < 2 ^ 52 at hDigits
        omega
      · have hSome :
            (@UnpackedFloat.unpackExponent Format.binary64
              f.toModel.toBits.toBitVec).toNat ≠ 0 :=
          fun hZero => hNotFirst (BitVec.eq_of_toNat_eq hZero)
        omega

------------------------------------------------------------
-- Order
------------------------------------------------------------

section Order

variable {m₁ m₂ : Nat}
variable {e₁ e₂ : Int}

/- With a larger exponent, a significand that fits stands for more. -/
theorem magnitude_lt
    (hFirst : Fits m₁ e₁)
    (hSecond : Fits m₂ e₂)
    (hLess : e₁ < e₂) :
    (m₁ : ℚ) * 2 ^ e₁ < m₂ * 2 ^ e₂ := by
  have hDigits : (m₁ : ℚ) < 2 ^ 53 := by
    exact_mod_cast hFirst.digits
  have hLeading : (2 : ℚ) ^ 52 ≤ m₂ := by
    have hLeast := hFirst.least
    exact_mod_cast hSecond.leading.resolve_right (by omega)
  calc (m₁ : ℚ) * 2 ^ e₁
      < 2 ^ 53 * 2 ^ e₁ :=
        mul_lt_mul_of_pos_right hDigits (by positivity)
    _ = 2 ^ 52 * 2 ^ (e₁ + 1) := by
        rw [zpow_add_one₀ two_ne_zero]
        ring
    _ ≤ 2 ^ 52 * 2 ^ e₂ := by
        gcongr
        · norm_num
        · omega
    _ ≤ m₂ * 2 ^ e₂ :=
        mul_le_mul_of_nonneg_right hLeading (by positivity)

/- Significands that fit compare by their exponents first. -/
theorem compares_magnitudes
    (hFirst : Fits m₁ e₁)
    (hSecond : Fits m₂ e₂) :
    ((compare e₁ e₂).then (compare m₁ m₂)).Compares
      ((m₁ : ℚ) * 2 ^ e₁) (m₂ * 2 ^ e₂) := by
  rcases lt_trichotomy e₁ e₂ with hLess | rfl | hMore
  · rw [Int.compare_eq_lt.mpr hLess]
    exact magnitude_lt hFirst hSecond hLess
  · have hPower : (0 : ℚ) < 2 ^ e₁ := by positivity
    rw [Int.compare_eq_eq.mpr rfl]
    rcases lt_trichotomy m₁ m₂ with hLess | rfl | hMore
    · rw [Nat.compare_eq_lt.mpr hLess]
      exact mul_lt_mul_of_pos_right (by exact_mod_cast hLess) hPower
    · rw [Nat.compare_eq_eq.mpr rfl]
      rfl
    · rw [Nat.compare_eq_gt.mpr hMore]
      exact mul_lt_mul_of_pos_right (by exact_mod_cast hMore) hPower
  · rw [Int.compare_eq_gt.mpr hMore]
    exact magnitude_lt hSecond hFirst hMore

end Order

/- Negative numbers are in the opposite order. -/
theorem compares_neg
    {order : Ordering}
    {a b : ℚ}
    (hCompares : order.Compares a b) :
    order.swap.Compares (-a) (-b) := by
  cases order with
  | lt => exact neg_lt_neg hCompares
  | eq => exact congrArg Neg.neg hCompares
  | gt => exact neg_lt_neg hCompares

/- A value is finite if it is zero or has parts. -/
theorem isFinite_cases
    {f : Float}
    (hFinite : f.isFinite = true) :
    (∃ sign, f.toModel.unpack = .zero sign) ∨
      ∃ sign m e hPos,
        f.toModel.unpack = .finite sign m e hPos ∧ Fits m e := by
  change f.toModel.unpack.isFinite = true at hFinite
  cases hParts : f.toModel.unpack with
  | infinity =>
      rw [hParts] at hFinite
      cases hFinite
  | notANumber =>
      rw [hParts] at hFinite
      cases hFinite
  | zero sign => exact Or.inl ⟨sign, rfl⟩
  | finite sign m e hPos =>
      exact Or.inr ⟨sign, m, e, hPos, rfl, fits_unpack hParts⟩

/- Parts that fit compare as their numbers do. -/
theorem compares_parts
    {m₁ m₂ : Nat}
    {e₁ e₂ : Int}
    (s₁ s₂ : UnpackedFloat.Sign)
    (hPos₁ : 0 < m₁)
    (hPos₂ : 0 < m₂)
    (hFirst : Fits m₁ e₁)
    (hSecond : Fits m₂ e₂) :
    ∃ order,
      UnpackedFloat.compare (.finite s₁ m₁ e₁ hPos₁)
          (.finite s₂ m₂ e₂ hPos₂) =
        some order ∧
        order.Compares (unpackedValue (.finite s₁ m₁ e₁ hPos₁))
          (unpackedValue (.finite s₂ m₂ e₂ hPos₂)) := by
  have hNumber₁ : (0 : ℚ) < m₁ * 2 ^ e₁ := by positivity
  have hNumber₂ : (0 : ℚ) < m₂ * 2 ^ e₂ := by positivity
  have hCompares := compares_magnitudes hFirst hSecond
  cases s₁ <;> cases s₂
  case positive.positive =>
    refine ⟨_, rfl, ?_⟩
    simpa using hCompares
  case negative.negative =>
    refine ⟨_, rfl, ?_⟩
    simpa using compares_neg hCompares
  case positive.negative =>
    refine ⟨.gt, rfl, ?_⟩
    rw [unpackedValue_positive, unpackedValue_negative]
    exact (neg_lt_zero.mpr hNumber₂).trans hNumber₁
  case negative.positive =>
    refine ⟨.lt, rfl, ?_⟩
    rw [unpackedValue_positive, unpackedValue_negative]
    exact (neg_lt_zero.mpr hNumber₁).trans hNumber₂

/- Zero is between the positive and the negative parts. -/
theorem compares_zero
    {m : Nat}
    {e : Int}
    (zero sign : UnpackedFloat.Sign)
    (hPos : 0 < m) :
    ∃ order,
      UnpackedFloat.compare (.zero zero) (.finite sign m e hPos) =
          some order ∧
        UnpackedFloat.compare (.finite sign m e hPos) (.zero zero) =
          some order.swap ∧
        order.Compares (unpackedValue (.zero zero))
          (unpackedValue (.finite sign m e hPos)) := by
  have hNumber : (0 : ℚ) < m * 2 ^ e := by positivity
  cases sign with
  | positive =>
      refine ⟨.lt, rfl, rfl, ?_⟩
      simpa using hNumber
  | negative =>
      refine ⟨.gt, rfl, rfl, ?_⟩
      simpa using hNumber

/- Finite values compare as their numbers do. -/
theorem compares_value
    {f g : Float}
    (hFirst : f.isFinite = true)
    (hSecond : g.isFinite = true) :
    ∃ order,
      f.toModel.unpack.compare g.toModel.unpack = some order ∧
        order.Compares (value f) (value g) := by
  unfold value
  rcases isFinite_cases hFirst with
    ⟨s₁, hLeft⟩ | ⟨s₁, m₁, e₁, hPos₁, hLeft, hFits₁⟩
  · rcases isFinite_cases hSecond with
      ⟨s₂, hRight⟩ | ⟨s₂, m₂, e₂, hPos₂, hRight, _⟩
    · rw [hLeft, hRight]
      exact ⟨.eq, rfl, rfl⟩
    · rw [hLeft, hRight]
      rcases compares_zero (e := e₂) s₁ s₂ hPos₂ with
        ⟨order, hCompare, _, hCompares⟩
      exact ⟨order, hCompare, hCompares⟩
  · rcases isFinite_cases hSecond with
      ⟨s₂, hRight⟩ | ⟨s₂, m₂, e₂, hPos₂, hRight, hFits₂⟩
    · rw [hLeft, hRight]
      rcases compares_zero (e := e₁) s₂ s₁ hPos₁ with
        ⟨order, _, hCompare, hCompares⟩
      exact ⟨order.swap, hCompare, hCompares.swap⟩
    · rw [hLeft, hRight]
      exact compares_parts s₁ s₂ hPos₁ hPos₂ hFits₁ hFits₂

/- A finite value is less than another one if its number is. -/
theorem lt_iff
    {f g : Float}
    (hFirst : f.isFinite = true)
    (hSecond : g.isFinite = true) :
    f < g ↔ value f < value g := by
  rcases compares_value hFirst hSecond with
    ⟨order, hCompare, hCompares⟩
  rw [← hCompares.eq_lt]
  change decide (f.toModel < g.toModel) = true ↔ order = .lt
  rw [decide_eq_true_iff]
  change (f.toModel.unpack.compare g.toModel.unpack == some .lt) =
    true ↔ order = .lt
  rw [hCompare, beq_iff_eq, Option.some.injEq]

/- Finite values are equal if their numbers are. -/
theorem beq_iff
    {f g : Float}
    (hFirst : f.isFinite = true)
    (hSecond : g.isFinite = true) :
    (f == g) = true ↔ value f = value g := by
  rcases compares_value hFirst hSecond with
    ⟨order, hCompare, hCompares⟩
  rw [← hCompares.eq_eq]
  change (f.toModel.unpack.compare g.toModel.unpack == some .eq) =
    true ↔ order = .eq
  rw [hCompare, beq_iff_eq, Option.some.injEq]

end Binary64

end SchemaGraph
