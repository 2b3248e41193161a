import Mathlib
import SchemaGraph.Json.Value
import SchemaGraph.Proofs.Binary64.Nearest
import SchemaGraph.Proofs.Binary64.Value

/-
  The binary64 value that an integer becomes.  It stands for
  the nearest integer with 53 binary digits before zeros, so
  the values of integers compare as the rounded integers do.

  Main declarations:
    * `Binary64.roundedMantissa_shift`
    * `Binary64.Normal`
    * `Binary64.exists_roundWithAccuracy`
    * `Binary64.unpack_pack`
    * `Binary64.Holds`
    * `Binary64.holds_ofNat`
    * `Binary64.value_ofInt`
    * `Binary64.ofInt_lt_ofInt_iff`
    * `Binary64.ofInt_beq_ofInt_iff`
    * `Binary64.nearestInt_of_value`
-/

namespace SchemaGraph

namespace Binary64

open Float.Model (Format UnpackedFloat)
open Float.Model.UnpackedFloat
  (Accuracy ExtendedMantissa Sign roundWithAccuracy)

------------------------------------------------------------
-- Shifted Significands
------------------------------------------------------------

/-
  What is left of a number that is shifted: the quotient, the
  last digit that was lost, and whether a digit before it was
  not zero.
-/
theorem shift_eq
    (n k : Nat) :
    (⟨n, false, false⟩ : ExtendedMantissa) >>> (k + 1) =
      ⟨n / 2 ^ (k + 1), n / 2 ^ k % 2 != 0, n % 2 ^ k != 0⟩ := by
  induction k with
  | zero =>
      change ExtendedMantissa.mk (n / 2) (n % 2 != 0)
        (false || false) = _
      simp [Nat.mod_one]
  | succ k ih =>
      have hLost :
          (n / 2 ^ k % 2 != 0 || n % 2 ^ k != 0) =
            (n % 2 ^ (k + 1) != 0) := by
        have hPower : 0 < 2 ^ k := Nat.two_pow_pos k
        rw [Nat.mod_pow_succ]
        rcases Nat.mod_two_eq_zero_or_one (n / 2 ^ k) with
          hDigit | hDigit
        · simp [hDigit]
        · simp [hDigit]
      change ExtendedMantissa.shiftRightOne
        ((⟨n, false, false⟩ : ExtendedMantissa) >>> (k + 1)) = _
      rw [ih]
      change ExtendedMantissa.mk (n / 2 ^ (k + 1) / 2)
        (n / 2 ^ (k + 1) % 2 != 0) _ = _
      rw [hLost, Nat.div_div_eq_div_mul, ← Nat.pow_succ]

/- A shifted number is rounded to the nearest quotient. -/
theorem roundedMantissa_shift
    (n k : Nat) :
    (ExtendedMantissa.ofMantissaAndAccuracy n .exact >>>
        k).roundedMantissa =
      roundedQuotient n k := by
  cases k with
  | zero =>
      change n = _
      simp [roundedQuotient, Nat.mod_one]
  | succ k =>
      have hPower : 0 < 2 ^ k := Nat.two_pow_pos k
      have hBelow : n % 2 ^ k < 2 ^ k := Nat.mod_lt n hPower
      have hLost :
          n % 2 ^ (k + 1) = n % 2 ^ k + 2 ^ k * (n / 2 ^ k % 2) :=
        Nat.mod_pow_succ
      change ((⟨n, false, false⟩ : ExtendedMantissa) >>>
        (k + 1)).roundedMantissa = _
      rw [shift_eq]
      unfold roundedQuotient
      dsimp only
      rw [hLost, Nat.pow_succ]
      -- The last digit says on which side of a half the rest is.
      rcases Nat.mod_two_eq_zero_or_one (n / 2 ^ k) with
        hDigit | hDigit <;>
      rcases Nat.eq_zero_or_pos (n % 2 ^ k) with hRest | hRest
      · rw [hDigit, hRest, if_pos (by omega)]
        rfl
      · rw [hDigit, bne_iff_ne.mpr (Nat.ne_of_gt hRest),
          if_pos (by omega)]
        rfl
      · rw [hDigit, hRest, if_neg (by omega), if_pos (by omega)]
        rfl
      · rw [hDigit, bne_iff_ne.mpr (Nat.ne_of_gt hRest),
          if_neg (by omega), if_neg (by omega)]
        rfl

/- Without rounding, a shift leaves the quotient. -/
theorem mantissa_shift
    (n k : Nat) :
    (ExtendedMantissa.ofMantissaAndAccuracy n .exact >>>
        k).mantissa =
      n / 2 ^ k := by
  cases k with
  | zero => exact (Nat.div_one n).symm
  | succ k =>
      change ((⟨n, false, false⟩ : ExtendedMantissa) >>>
        (k + 1)).mantissa = _
      rw [shift_eq]

------------------------------------------------------------
-- Rounded Parts
------------------------------------------------------------

/- A significand of 53 digits, and an exponent that is stored. -/
structure Normal
    (significand : Nat)
    (exponent : Int) : Prop where
  leading : 2 ^ 52 ≤ significand
  digits : significand < 2 ^ 53
  least : -1074 ≤ exponent
  greatest : exponent ≤ 971

/- Zeros behind a number are digits. -/
theorem log2_mul_two_pow
    {n : Nat}
    (k : Nat)
    (hPos : n ≠ 0) :
    (n * 2 ^ k).log2 = n.log2 + k := by
  have hPower : 0 < 2 ^ k := Nat.two_pow_pos k
  rw [Nat.log2_eq_iff (Nat.mul_ne_zero hPos (Nat.ne_of_gt hPower)),
    Nat.add_right_comm, Nat.pow_add, Nat.pow_add _ _ k]
  exact ⟨Nat.mul_le_mul_right _ (Nat.log2_self_le hPos),
    Nat.mul_lt_mul_of_pos_right Nat.lt_log2_self hPower⟩

/- What is left of a number after a shift that keeps 53 digits. -/
theorem quotient_bounds
    {m k : Nat}
    (hDigits : m.log2 = 52 + k) :
    2 ^ 52 ≤ m / 2 ^ k ∧ m / 2 ^ k < 2 ^ 53 := by
  have hPower : 0 < 2 ^ k := Nat.two_pow_pos k
  have hPos : m ≠ 0 := by
    rintro rfl
    rw [Nat.log2_zero] at hDigits
    omega
  rw [Nat.le_div_iff_mul_le hPower, Nat.div_lt_iff_lt_mul hPower,
    ← Nat.pow_add, ← Nat.pow_add]
  constructor
  · rw [← hDigits]
    exact Nat.log2_self_le hPos
  · rw [← Nat.log2_lt hPos]
    omega

/- The exponent that keeps 53 digits. -/
theorem targetExponent_eq
    {m k : Nat}
    {e : Int}
    (hDigits : m.log2 = 52 + k)
    (hLeast : -1074 ≤ e + k) :
    Format.binary64.targetExponent
        (Float.Model.totalExponent m e) =
      e + k := by
  have hMinimum : Format.binary64.minExponent = -1074 := rfl
  have hMantissa : Format.binary64.mantissaBits = 53 := rfl
  unfold Format.targetExponent Float.Model.totalExponent
  rw [hMinimum, hMantissa]
  omega

/- A number is shifted until 53 digits are left. -/
theorem shiftToTargetExponent_eq
    {m k : Nat}
    {e : Int}
    (hDigits : m.log2 = 52 + k)
    (hLeast : -1074 ≤ e + k) :
    UnpackedFloat.shiftToTargetExponent .binary64 m e .exact =
      (ExtendedMantissa.ofMantissaAndAccuracy m .exact >>> k,
        e + k) := by
  have hShift : (e + k - e).toNat = k := by omega
  unfold UnpackedFloat.shiftToTargetExponent
    UnpackedFloat.shiftToExponent
  dsimp only
  rw [targetExponent_eq hDigits hLeast, hShift]

/-
  The parts of a rounded number.  Rounding can make one digit
  more, and so there is a second shift, by one place at most.
-/
theorem roundWithAccuracy_eq
    {m k j : Nat}
    {e : Int}
    (sign : Sign)
    (hDigits : m.log2 = 52 + k)
    (hAgain : (roundedQuotient m k).log2 = 52 + j)
    (hLeast : -1074 ≤ e + k)
    (hPos : 0 < roundedQuotient m k / 2 ^ j) :
    roundWithAccuracy .binary64 sign m e .exact =
      .finite sign (roundedQuotient m k / 2 ^ j) (e + k + j)
        hPos := by
  have hShift :=
    shiftToTargetExponent_eq (e := e + k) hAgain (by omega)
  unfold roundWithAccuracy
  rw [shiftToTargetExponent_eq hDigits hLeast]
  dsimp only
  simp only [roundedMantissa_shift, hShift, mantissa_shift]
  rw [dif_neg (Nat.ne_of_gt hPos)]

/-
  Rounding keeps 53 digits.  When it makes one digit more,
  the last digit is a zero, and the exponent goes up by one.
-/
theorem exists_roundWithAccuracy
    {m k : Nat}
    {e : Int}
    (sign : Sign)
    (hDigits : m.log2 = 52 + k)
    (hLeast : -1074 ≤ e + k)
    (hGreatest : e + k < 971) :
    ∃ m' e' hPos,
      roundWithAccuracy .binary64 sign m e .exact =
          .finite sign m' e' hPos ∧
        Normal m' e' ∧
        (m' : ℚ) * 2 ^ e' = roundedQuotient m k * 2 ^ (e + k) := by
  rcases quotient_bounds hDigits with ⟨hSome, hFew⟩
  have hLow : 2 ^ 52 ≤ roundedQuotient m k :=
    hSome.trans (roundedQuotient_bounds m k).1
  have hHigh : roundedQuotient m k ≤ 2 ^ 53 :=
    (roundedQuotient_bounds m k).2.trans hFew
  rcases Nat.lt_or_eq_of_le hHigh with hBelow | hOver
  · -- There are 53 digits.
    have hSame : roundedQuotient m k / 2 ^ 0 = roundedQuotient m k :=
      Nat.div_one _
    have hParts := roundWithAccuracy_eq (j := 0) sign hDigits
      ((Nat.log2_eq_iff (by omega)).mpr ⟨hLow, hBelow⟩) hLeast
      (by omega)
    refine ⟨_, _, _, hParts, ?_, ?_⟩
    · rw [hSame]
      exact ⟨hLow, hBelow, by omega, by omega⟩
    · rw [hSame, Int.natCast_zero, add_zero]
  · -- The significand is the power of two with 54 digits.
    have hHalf : roundedQuotient m k / 2 ^ 1 = 2 ^ 52 := by
      rw [hOver]
      decide
    have hParts := roundWithAccuracy_eq (j := 1) sign hDigits
      (by rw [hOver]; exact Nat.log2_two_pow) hLeast (by omega)
    refine ⟨_, _, _, hParts, ?_, ?_⟩
    · rw [hHalf]
      exact ⟨by decide, by decide, by omega, by omega⟩
    · rw [hHalf, hOver, Int.natCast_one,
        zpow_add_one₀ two_ne_zero]
      push_cast
      ring

------------------------------------------------------------
-- Stored Parts
------------------------------------------------------------

/- The sign is read back as it was stored. -/
theorem unpackSign_packComponents
    (sign : Sign)
    (exponent : BitVec 11)
    (digits : BitVec 52) :
    Sign.ofBitVec (UnpackedFloat.unpackSign
        (UnpackedFloat.packComponents .binary64 sign exponent
          digits)) =
      sign := by
  simp only [UnpackedFloat.unpackSign, UnpackedFloat.packComponents,
    BitVec.extractLsb]
  rw [BitVec.extractLsb'_append_eq_of_le (by omega),
    BitVec.extractLsb'_append_eq_of_le (by omega)]
  cases sign <;> rfl

/- The parts of a normal number in the format. -/
theorem pack_eq
    {sign : Sign}
    {m : Nat}
    {e : Int}
    {hPos : 0 < m}
    (hNormal : Normal m e) :
    UnpackedFloat.pack .binary64 (.finite sign m e hPos) =
      UnpackedFloat.packComponents .binary64 sign
        (BitVec.ofNat 11 (e + 1075).toNat) (BitVec.ofNat 52 m) := by
  have hLog : m.log2 = 52 :=
    (Nat.log2_eq_iff (Nat.ne_of_gt hPos)).mpr
      ⟨hNormal.leading, hNormal.digits⟩
  have hLeast := hNormal.least
  have hGreatest := hNormal.greatest
  have hBiased :
      (e + Format.binary64.exponentBias +
          Format.binary64.mantissaBitsWithoutImplicit).toNat =
        (e + 1075).toNat := by
    change (e + (1023 : Nat) + (52 : Nat)).toNat = _
    omega
  have hAll : 52 + 1 = Format.binary64.mantissaBits := rfl
  unfold UnpackedFloat.pack
  dsimp only
  rw [hLog, hBiased, if_neg (by omega), if_pos hAll]

/- Parts that are normal are read back as they were stored. -/
theorem unpack_pack
    {sign : Sign}
    {m : Nat}
    {e : Int}
    {hPos : 0 < m}
    (hNormal : Normal m e) :
    (Float.Model.pack (.finite sign m e hPos)).unpack =
      .finite sign m e hPos := by
  have hLeading := hNormal.leading
  have hDigits := hNormal.digits
  have hLeast := hNormal.least
  have hGreatest := hNormal.greatest
  have hExponent :
      (BitVec.ofNat 11 (e + 1075).toNat).toNat = (e + 1075).toNat := by
    rw [BitVec.toNat_ofNat, Nat.mod_eq_of_lt (by omega)]
  have hNotLast : BitVec.ofNat 11 (e + 1075).toNat ≠ -1#11 := by
    intro hLast
    rw [hLast] at hExponent
    change 2047 = _ at hExponent
    omega
  have hNotFirst : BitVec.ofNat 11 (e + 1075).toNat ≠ 0#11 := by
    intro hFirst
    rw [hFirst] at hExponent
    change 0 = _ at hExponent
    omega
  have hSignificand : (1#1 ++ BitVec.ofNat 52 m).toNat = m := by
    rw [toNat_leading, BitVec.toNat_ofNat]
    omega
  have hBias : (Format.binary64.exponentBias : Int) = 1023 := rfl
  change UnpackedFloat.unpack .binary64
    (UnpackedFloat.pack .binary64 (.finite sign m e hPos)) = _
  rw [pack_eq hNormal]
  unfold UnpackedFloat.unpack
  simp only [UnpackedFloat.unpackMantissa_packComponents,
    UnpackedFloat.unpackExponent_packComponents,
    unpackSign_packComponents, if_neg hNotLast, if_neg hNotFirst,
    hExponent, hSignificand, hBias]
  congr 1
  omega

------------------------------------------------------------
-- Integers
------------------------------------------------------------

/- A value is stored with normal parts that stand for a number. -/
def Holds
    (f : Float)
    (sign : Sign)
    (number : ℚ) : Prop :=
  ∃ m e hPos,
    f.toModel.unpack = .finite sign m e hPos ∧
      Normal m e ∧ (m : ℚ) * 2 ^ e = number

/- A rounded number is held by the value that stores its parts. -/
theorem holds_rounded
    {m k : Nat}
    {e : Int}
    (sign : Sign)
    (hDigits : m.log2 = 52 + k)
    (hLeast : -1074 ≤ e + k)
    (hGreatest : e + k < 971) :
    Holds
      (Float.ofModel (Float.Model.pack
        (roundWithAccuracy .binary64 sign m e .exact)))
      sign (roundedQuotient m k * 2 ^ (e + k)) := by
  rcases exists_roundWithAccuracy sign hDigits hLeast hGreatest with
    ⟨m', e', hPos, hParts, hNormal, hNumber⟩
  refine ⟨m', e', hPos, ?_, hNormal, hNumber⟩
  rw [hParts]
  exact unpack_pack hNormal

/- The digits of a small number move to the front. -/
theorem round_eq
    {n : Nat}
    (sign : Sign)
    (hDigits : n.log2 ≤ 52) :
    UnpackedFloat.round .binary64 sign n 0 =
      roundWithAccuracy .binary64 sign (n * 2 ^ (52 - n.log2))
        (-(52 - n.log2 : Nat)) .exact := by
  have hMinimum : Format.binary64.minExponent = -1074 := rfl
  have hMantissa : Format.binary64.mantissaBits = 53 := rfl
  have hShift :
      (0 - Format.binary64.targetExponent
          (Float.Model.totalExponent n 0)).toNat =
        52 - n.log2 := by
    unfold Format.targetExponent Float.Model.totalExponent
    rw [hMinimum, hMantissa]
    omega
  unfold UnpackedFloat.round UnpackedFloat.decreaseExponent
  dsimp only
  rw [hShift, Nat.shiftLeft_eq, Int.zero_sub]

/- The value of a machine word with at most 53 digits. -/
theorem toFloat_eq
    {n : Nat}
    (hPos : 0 < n)
    (hDigits : n.log2 ≤ 52) :
    n.toUInt64.toFloat =
      Float.ofModel (Float.Model.pack
        (roundWithAccuracy .binary64 .positive
          (n * 2 ^ (52 - n.log2)) (-(52 - n.log2 : Nat))
          .exact)) := by
  have hSmall : n < 2 ^ 53 := (Nat.log2_lt (by omega)).mp (by omega)
  have hWord : (n.toUInt64.toNat : Int) = n := by
    change ((UInt64.ofNat n).toNat : Int) = n
    rw [UInt64.toNat_ofNat', Nat.mod_eq_of_lt (by omega)]
  have hSign : compare (n : Int) 0 = .gt :=
    Int.compare_eq_gt.mpr (by omega)
  change Float.ofModel (Float.Model.pack
    (UnpackedFloat.normalize .binary64 (n.toUInt64.toNat : Int) 0
      .positive)) = _
  rw [hWord]
  unfold UnpackedFloat.normalize
  rw [hSign]
  dsimp only
  rw [Int.toNat_natCast, round_eq .positive hDigits]

/- A machine word with at most 53 digits is held exactly. -/
theorem holds_toFloat
    {n : Nat}
    (hPos : 0 < n)
    (hDigits : n.log2 ≤ 52) :
    Holds n.toUInt64.toFloat .positive n := by
  have hLog : (n * 2 ^ (52 - n.log2)).log2 = 52 + 0 := by
    rw [log2_mul_two_pow _ (by omega)]
    omega
  have hNumber :
      (roundedQuotient (n * 2 ^ (52 - n.log2)) 0 : ℚ) *
          2 ^ (-(52 - n.log2 : Nat) + (0 : Nat) : Int) =
        n := by
    rw [roundedQuotient_zero, Int.natCast_zero, add_zero, zpow_neg,
      zpow_natCast]
    push_cast
    field_simp
  rw [toFloat_eq hPos hDigits, ← hNumber]
  exact holds_rounded .positive hLog (by omega) (by omega)

/- The value that stands for one. -/
theorem unpack_one :
    ∃ hPos,
      (Float.ofBits 0x3FF0000000000000).toModel.unpack =
        .finite .positive (2 ^ 52) (-52) hPos :=
  ⟨by decide, rfl⟩

/- Zeros behind normal parts are shifted away again. -/
theorem roundWithAccuracy_normal
    {m : Nat}
    {e : Int}
    (sign : Sign)
    (hPos : 0 < m)
    (hNormal : Normal m e) :
    roundWithAccuracy .binary64 sign (m * 2 ^ 52) (e + -52) .exact =
      .finite sign m e hPos := by
  have hLeast := hNormal.least
  have hSame : roundedQuotient (m * 2 ^ 52) 52 = m :=
    roundedQuotient_mul m 52
  have hDigits : m.log2 = 52 :=
    (Nat.log2_eq_iff (Nat.ne_of_gt hPos)).mpr
      ⟨hNormal.leading, hNormal.digits⟩
  have hParts := roundWithAccuracy_eq (m := m * 2 ^ 52) (k := 52)
    (j := 0) (e := e + -52) sign
    (by rw [log2_mul_two_pow _ (Nat.ne_of_gt hPos), hDigits])
    (by rw [hSame, hDigits])
    (by omega)
    (by rw [hSame]; omega)
  rw [hParts]
  congr 1
  · rw [hSame, Nat.pow_zero, Nat.div_one]
  · omega

/- The product with one is held as well. -/
theorem holds_mul_one
    {f : Float}
    {number : ℚ}
    (hHolds : Holds f .positive number) :
    Holds (f * Float.ofBits 0x3FF0000000000000) .positive number := by
  rcases hHolds with ⟨m, e, hPos, hParts, hNormal, hNumber⟩
  rcases unpack_one with ⟨hOnePos, hOne⟩
  refine ⟨m, e, hPos, ?_, hNormal, hNumber⟩
  change (Float.Model.pack (UnpackedFloat.mul .binary64
    f.toModel.unpack
    (Float.ofBits 0x3FF0000000000000).toModel.unpack)).unpack = _
  rw [hParts, hOne]
  change (Float.Model.pack (roundWithAccuracy .binary64 .positive
    (m * 2 ^ 52) (e + -52) .exact)).unpack = _
  rw [roundWithAccuracy_normal .positive hPos hNormal]
  exact unpack_pack hNormal

/- The product with one keeps every digit of an integer. -/
theorem ofScientific_eq
    {n : Nat}
    (hPos : n ≠ 0) :
    UnpackedFloat.ofScientific .binary64 n 0 =
      roundWithAccuracy .binary64 .positive (n * 2 ^ 53) (-53)
        .exact := by
  have hPower : (0 : Int) < 2 ^ Format.binary64.exponentBits := by
    decide
  unfold UnpackedFloat.ofScientific
  rw [dif_neg hPos, if_neg (by decide), if_neg (by omega),
    if_pos (by omega)]
  have hMantissa : Format.binary64.mantissaBits = 53 := rfl
  unfold UnpackedFloat.mul
  dsimp only
  rw [hMantissa, Nat.shiftLeft_eq, Int.add_zero, Int.toNat_zero,
    Nat.pow_zero, Nat.mul_one]
  rfl

/- Small integers become the value of a machine word, times one. -/
theorem ofNat_of_lt
    {n : Nat}
    (hSmall : n < 2 ^ 53) :
    Float.ofNat n =
      n.toUInt64.toFloat * Float.ofBits 0x3FF0000000000000 := by
  change Float.ofScientific n false 0 = _
  unfold Float.ofScientific
  rw [dif_pos (by omega)]
  rfl

/- Large integers become a rounded number. -/
theorem ofNat_of_le
    {n : Nat}
    (hLarge : 2 ^ 53 ≤ n) :
    Float.ofNat n =
      Float.ofModel (Float.Model.pack
        (roundWithAccuracy .binary64 .positive (n * 2 ^ 53) (-53)
          .exact)) := by
  have hModel :
      Float.ofNat n =
        Float.ofModel (Float.Model.ofScientific n 0) := by
    change Float.ofScientific n false 0 = _
    unfold Float.ofScientific
    rw [dif_neg (by omega)]
    rfl
  rw [hModel, ← ofScientific_eq (by omega)]
  rfl

/- A positive integer becomes a value that holds the nearest one. -/
theorem holds_ofNat
    {n : Nat}
    (hPos : 0 < n)
    (hRange : n < 2 ^ 64) :
    Holds (Float.ofNat n) .positive (nearest n) := by
  have hFew : n.log2 < 64 := (Nat.log2_lt (by omega)).mpr hRange
  rcases Nat.lt_or_ge n (2 ^ 53) with hSmall | hLarge
  · have hDigits : n.log2 < 53 := (Nat.log2_lt (by omega)).mpr hSmall
    rw [ofNat_of_lt hSmall, nearest_of_le (by omega)]
    exact holds_mul_one (holds_toFloat hPos (by omega))
  · have hDigits : 53 ≤ n.log2 :=
      (Nat.le_log2 (by omega)).mpr hLarge
    have hSpare : n.log2 = 52 + spareBits n := by
      unfold spareBits
      omega
    have hLog : (n * 2 ^ 53).log2 = 52 + (spareBits n + 53) := by
      rw [log2_mul_two_pow _ (by omega)]
      omega
    have hExponent :
        (-53 + (spareBits n + 53 : Nat) : Int) = spareBits n := by
      omega
    have hNumber :
        (roundedQuotient (n * 2 ^ 53) (spareBits n + 53) : ℚ) *
            2 ^ (-53 + (spareBits n + 53 : Nat) : Int) =
          nearest n := by
      rw [roundedQuotient_scale, hExponent, zpow_natCast, nearest]
      push_cast
      rfl
    rw [ofNat_of_le hLarge, ← hNumber]
    exact holds_rounded .positive hLog (by omega) (by omega)

/- The opposite value holds the opposite number. -/
theorem holds_neg
    {f : Float}
    {number : ℚ}
    (hHolds : Holds f .positive number) :
    Holds (Float.neg f) .negative number := by
  rcases hHolds with ⟨m, e, hPos, hParts, hNormal, hNumber⟩
  refine ⟨m, e, hPos, ?_, hNormal, hNumber⟩
  change (Float.Model.pack f.toModel.unpack.neg).unpack = _
  rw [hParts]
  exact unpack_pack hNormal

/- A value that holds a number is finite. -/
theorem isFinite_of_holds
    {f : Float}
    {sign : Sign}
    {number : ℚ}
    (hHolds : Holds f sign number) :
    f.isFinite = true := by
  rcases hHolds with ⟨m, e, hPos, hParts, _, _⟩
  change f.toModel.unpack.isFinite = true
  rw [hParts]
  rfl

/- The number of a value that holds one, with the sign. -/
theorem value_of_holds
    {f : Float}
    {sign : Sign}
    {n : Nat}
    (hHolds : Holds f sign n) :
    value f = sign.apply n := by
  rcases hHolds with ⟨m, e, hPos, hParts, _, hNumber⟩
  unfold value
  rw [hParts]
  cases sign with
  | positive => exact_mod_cast hNumber
  | negative =>
      change ((-(m : Int) : Int) : ℚ) * 2 ^ e = ((-(n : Int) : Int) : ℚ)
      push_cast
      rw [neg_mul, hNumber]

/-
  The value that an integer becomes is finite, and it stands
  for the nearest integer.
-/
theorem value_ofInt_of_lt
    {i : Int}
    (hFew : i.natAbs < 2 ^ 64) :
    (Float.ofInt i).isFinite = true ∧
      value (Float.ofInt i) = nearestInt i := by
  cases i with
  | ofNat n =>
      rcases Nat.eq_zero_or_pos n with rfl | hPos
      · exact ⟨rfl, rfl⟩
      · have hHolds := holds_ofNat hPos hFew
        refine ⟨isFinite_of_holds hHolds, ?_⟩
        change value (Float.ofNat n) = _
        rw [value_of_holds hHolds, nearestInt_ofNat]
        rfl
  | negSucc n =>
      have hHolds := holds_neg (holds_ofNat n.succ_pos hFew)
      refine ⟨isFinite_of_holds hHolds, ?_⟩
      change value (Float.neg (Float.ofNat n.succ)) = _
      rw [value_of_holds hHolds, nearestInt_negSucc]
      rfl

/- The integers that a number keeps are few enough. -/
theorem value_ofInt
    {i : Int}
    (hRange : IntegerRange i) :
    (Float.ofInt i).isFinite = true ∧
      value (Float.ofInt i) = nearestInt i := by
  rcases hRange with ⟨hLow, hHigh⟩
  exact value_ofInt_of_lt (by omega)

/- The values of integers are in the order of the rounded ones. -/
theorem ofInt_lt_ofInt_iff
    {i j : Int}
    (hFirst : IntegerRange i)
    (hSecond : IntegerRange j) :
    Float.ofInt i < Float.ofInt j ↔ nearestInt i < nearestInt j := by
  rcases value_ofInt hFirst with ⟨hFirstFinite, hFirstValue⟩
  rcases value_ofInt hSecond with ⟨hSecondFinite, hSecondValue⟩
  rw [lt_iff hFirstFinite hSecondFinite, hFirstValue, hSecondValue,
    Int.cast_lt]

/- The values of integers are equal if the rounded ones are. -/
theorem ofInt_beq_ofInt_iff
    {i j : Int}
    (hFirst : IntegerRange i)
    (hSecond : IntegerRange j) :
    (Float.ofInt i == Float.ofInt j) = true ↔
      nearestInt i = nearestInt j := by
  rcases value_ofInt hFirst with ⟨hFirstFinite, hFirstValue⟩
  rcases value_ofInt hSecond with ⟨hSecondFinite, hSecondValue⟩
  rw [beq_iff hFirstFinite hSecondFinite, hFirstValue, hSecondValue,
    Int.cast_inj]

/- The value of an integer is zero only for zero. -/
theorem ofInt_beq_zero
    {i : Int}
    (hRange : IntegerRange i) :
    (Float.ofInt i == 0) = (i == 0) := by
  rw [Bool.eq_iff_iff, beq_iff_eq (a := i)]
  change (Float.ofInt i == Float.ofInt 0) = true ↔ i = 0
  rw [ofInt_beq_ofInt_iff hRange (by decide)]
  constructor
  · exact eq_of_nearestInt_eq (by omega)
  · rintro rfl
    rfl

/- An integer that is a significand times a power of two is kept. -/
theorem nearestInt_of_parts
    {i e : Int}
    {m : Nat}
    (hDigits : m < 2 ^ 53)
    (hParts : (m : ℚ) * 2 ^ e = i.natAbs) :
    nearestInt i = i := by
  rcases Int.eq_nat_or_neg e with ⟨k, rfl | rfl⟩
  · rw [zpow_natCast] at hParts
    exact nearestInt_of_significand (m := m) (e := k) hDigits
      (by exact_mod_cast hParts.symm)
  · -- The significand is a multiple of the integer.
    have hMultiple : m = i.natAbs * 2 ^ k := by
      rw [zpow_neg, zpow_natCast, ← div_eq_mul_inv,
        div_eq_iff (by positivity)] at hParts
      exact_mod_cast hParts
    have hAtMost : i.natAbs ≤ m := by
      rw [hMultiple]
      exact Nat.le_mul_of_pos_right _ (Nat.two_pow_pos k)
    exact nearestInt_of_le (by omega)

/- An integer that a finite value stands for is kept. -/
theorem nearestInt_of_value
    {f : Float}
    {i : Int}
    (hFinite : f.isFinite = true)
    (hValue : value f = i) :
    nearestInt i = i := by
  unfold value at hValue
  rcases isFinite_cases hFinite with
    ⟨sign, hZero⟩ | ⟨sign, m, e, hPos, hParts, hFits⟩
  · rw [hZero] at hValue
    have hIs : (0 : ℚ) = i := hValue
    rw [← Int.cast_zero, Int.cast_inj] at hIs
    rw [← hIs]
    rfl
  · rw [hParts] at hValue
    have hAbs : (m : ℚ) * 2 ^ e = i.natAbs := by
      rw [Nat.cast_natAbs, Int.cast_abs, ← hValue]
      cases sign <;> simp [abs_mul]
    exact nearestInt_of_parts hFits.digits hAbs

end Binary64

end SchemaGraph
