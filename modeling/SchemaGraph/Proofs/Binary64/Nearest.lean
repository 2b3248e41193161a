import Mathlib

/-
  Rounding integers to 53 binary digits.  An integer with
  more digits loses the last ones: it becomes the nearest
  integer whose lost digits are zeros, and of two that are
  equally near the one whose last kept digit is even.

  Rounding keeps the order of integers and leaves those
  alone that have at most 53 digits before trailing zeros.
  Two integers that it makes equal are both beyond `2 ^ 53`,
  on the same side.

  Main declarations:
    * `Binary64.roundedQuotient`
    * `Binary64.nearest`
    * `Binary64.nearest_mono`
    * `Binary64.nearestInt`
    * `Binary64.nearestInt_mono`
    * `Binary64.beyond_of_nearestInt_eq`
-/

namespace SchemaGraph

namespace Binary64

------------------------------------------------------------
-- Rounded Quotients
------------------------------------------------------------

/-
  The quotient by a power of two, rounded to the nearest
  number, and a half to the even one.
-/
def roundedQuotient
    (n k : Nat) : Nat :=
  let quotient := n / 2 ^ k
  let remainder := n % 2 ^ k
  if 2 * remainder < 2 ^ k then
    quotient
  else if 2 * remainder = 2 ^ k then
    quotient + quotient % 2
  else
    quotient + 1

/- Rounding goes up by one at most. -/
theorem roundedQuotient_bounds
    (n k : Nat) :
    n / 2 ^ k ≤ roundedQuotient n k ∧
      roundedQuotient n k ≤ n / 2 ^ k + 1 := by
  unfold roundedQuotient
  dsimp only
  split
  case isTrue => omega
  case isFalse =>
    split <;> omega

/- Larger numbers have larger rounded quotients. -/
theorem roundedQuotient_mono
    {n m : Nat}
    (k : Nat)
    (hLe : n ≤ m) :
    roundedQuotient n k ≤ roundedQuotient m k := by
  rcases Nat.lt_or_ge (n / 2 ^ k) (m / 2 ^ k) with hLess | hMore
  · calc roundedQuotient n k
        ≤ n / 2 ^ k + 1 := (roundedQuotient_bounds n k).2
      _ ≤ m / 2 ^ k := hLess
      _ ≤ roundedQuotient m k := (roundedQuotient_bounds m k).1
  · -- With one quotient, the remainders are in order.
    have hSame : n / 2 ^ k = m / 2 ^ k :=
      Nat.le_antisymm (Nat.div_le_div_right hLe) hMore
    have hRemainder : n % 2 ^ k ≤ m % 2 ^ k := by
      have hFirst := Nat.div_add_mod n (2 ^ k)
      have hSecond := Nat.div_add_mod m (2 ^ k)
      rw [hSame] at hFirst
      omega
    unfold roundedQuotient
    dsimp only
    rw [hSame]
    split_ifs <;> omega

/- A multiple is divided exactly. -/
theorem roundedQuotient_mul
    (q k : Nat) :
    roundedQuotient (q * 2 ^ k) k = q := by
  unfold roundedQuotient
  dsimp only
  rw [Nat.mul_mod_left, Nat.mul_div_cancel _ (Nat.two_pow_pos k),
    if_pos (by simp)]

/- The quotient by one. -/
theorem roundedQuotient_zero
    (n : Nat) :
    roundedQuotient n 0 = n := by
  simpa using roundedQuotient_mul n 0

/- Zeros behind both numbers make no difference. -/
theorem roundedQuotient_scale
    (n k j : Nat) :
    roundedQuotient (n * 2 ^ j) (k + j) = roundedQuotient n k := by
  have hPower : 0 < 2 ^ j := Nat.two_pow_pos j
  have hLess (a b : Nat) : a * 2 ^ j < b * 2 ^ j ↔ a < b :=
    Nat.mul_lt_mul_right hPower
  have hEqual (a b : Nat) : a * 2 ^ j = b * 2 ^ j ↔ a = b :=
    Nat.mul_left_inj (Nat.ne_of_gt hPower)
  unfold roundedQuotient
  dsimp only
  rw [Nat.pow_add, Nat.mul_div_mul_right _ _ hPower,
    Nat.mul_mod_mul_right, ← Nat.mul_assoc]
  simp only [hLess, hEqual]

------------------------------------------------------------
-- Nearest Natural Numbers
------------------------------------------------------------

/- The binary digits that a number has beyond 53. -/
def spareBits
    (n : Nat) : Nat :=
  n.log2 - 52

/- The nearest number with 53 binary digits before zeros. -/
def nearest
    (n : Nat) : Nat :=
  roundedQuotient n (spareBits n) * 2 ^ spareBits n

/- A number has no more spare digits than digits. -/
theorem pow_log2_eq
    (n : Nat) :
    2 ^ n.log2 = 2 ^ (n.log2 - spareBits n) * 2 ^ spareBits n := by
  rw [← Nat.pow_add]
  congr 1
  unfold spareBits
  omega

/- Rounding stays between two powers of two. -/
theorem nearest_bounds
    {n : Nat}
    (hPos : 0 < n) :
    2 ^ n.log2 ≤ nearest n ∧ nearest n ≤ 2 ^ (n.log2 + 1) := by
  have hSpare : 0 < 2 ^ spareBits n := Nat.two_pow_pos _
  rcases roundedQuotient_bounds n (spareBits n) with ⟨hLow, hHigh⟩
  constructor
  · have hDigits :
        2 ^ (n.log2 - spareBits n) ≤ n / 2 ^ spareBits n := by
      rw [Nat.le_div_iff_mul_le hSpare, ← pow_log2_eq]
      exact Nat.log2_self_le (Nat.ne_of_gt hPos)
    rw [pow_log2_eq]
    exact Nat.mul_le_mul_right _ (hDigits.trans hLow)
  · have hDouble :
        2 ^ (n.log2 + 1) =
          2 * 2 ^ (n.log2 - spareBits n) * 2 ^ spareBits n := by
      rw [Nat.pow_succ, pow_log2_eq n]
      ring
    have hDigits :
        n / 2 ^ spareBits n < 2 * 2 ^ (n.log2 - spareBits n) := by
      rw [Nat.div_lt_iff_lt_mul hSpare, ← hDouble]
      exact Nat.lt_log2_self
    rw [hDouble]
    exact Nat.mul_le_mul_right _ (hHigh.trans hDigits)

/- Rounding keeps the order. -/
theorem nearest_mono
    {n m : Nat}
    (hLe : n ≤ m) :
    nearest n ≤ nearest m := by
  rcases Nat.eq_zero_or_pos n with rfl | hPos
  · exact Nat.zero_le _
  have hDigits : n.log2 ≤ m.log2 := by
    rw [Nat.le_log2 (Nat.ne_of_gt (hPos.trans_le hLe))]
    exact (Nat.log2_self_le (Nat.ne_of_gt hPos)).trans hLe
  rcases Nat.eq_or_lt_of_le hDigits with hSame | hLess
  · -- As many digits are lost of both.
    have hSpare : spareBits n = spareBits m := by
      unfold spareBits
      rw [hSame]
    unfold nearest
    rw [hSpare]
    exact Nat.mul_le_mul_right _ (roundedQuotient_mono _ hLe)
  · -- A power of two is between the rounded numbers.
    calc nearest n
        ≤ 2 ^ (n.log2 + 1) := (nearest_bounds hPos).2
      _ ≤ 2 ^ m.log2 := Nat.pow_le_pow_right (by decide) hLess
      _ ≤ nearest m := (nearest_bounds (hPos.trans_le hLe)).1

/- At most 53 digits before zeros are kept. -/
theorem nearest_of_significand
    {m e : Nat}
    (hDigits : m < 2 ^ 53) :
    nearest (m * 2 ^ e) = m * 2 ^ e := by
  rcases Nat.eq_zero_or_pos m with rfl | hPos
  · simp [nearest, roundedQuotient]
  have hProduct : m * 2 ^ e ≠ 0 :=
    Nat.ne_of_gt (Nat.mul_pos hPos (Nat.two_pow_pos e))
  have hLog : (m * 2 ^ e).log2 < 53 + e := by
    rw [Nat.log2_lt hProduct, Nat.pow_add]
    exact Nat.mul_lt_mul_of_pos_right hDigits (Nat.two_pow_pos e)
  have hSpare : spareBits (m * 2 ^ e) ≤ e := by
    unfold spareBits
    omega
  have hSplit :
      m * 2 ^ e =
        m * 2 ^ (e - spareBits (m * 2 ^ e)) *
          2 ^ spareBits (m * 2 ^ e) := by
    rw [Nat.mul_assoc, ← Nat.pow_add, Nat.sub_add_cancel hSpare]
  have hQuotient :
      roundedQuotient (m * 2 ^ e) (spareBits (m * 2 ^ e)) =
        m * 2 ^ (e - spareBits (m * 2 ^ e)) := by
    generalize spareBits (m * 2 ^ e) = k at hSplit
    rw [hSplit]
    exact roundedQuotient_mul _ k
  rw [nearest, hQuotient, ← hSplit]

/- Numbers up to `2 ^ 53` are kept. -/
theorem nearest_of_le
    {n : Nat}
    (hLe : n ≤ 2 ^ 53) :
    nearest n = n := by
  rcases Nat.lt_or_eq_of_le hLe with hLess | rfl
  · simpa using nearest_of_significand (e := 0) hLess
  · simpa using nearest_of_significand (m := 1) (e := 53) (by decide)

/- The smaller of two numbers that rounding makes equal is large. -/
theorem le_of_nearest_eq
    {n m : Nat}
    (hLess : n < m)
    (hSame : nearest n = nearest m) :
    2 ^ 53 ≤ n := by
  by_contra hSmall
  have hKept : nearest n = n := nearest_of_le (by omega)
  have hLeast : nearest (n + 1) = n + 1 := nearest_of_le (by omega)
  have hMono : nearest (n + 1) ≤ nearest m := nearest_mono hLess
  omega

------------------------------------------------------------
-- Nearest Integers
------------------------------------------------------------

/- The nearest integer with 53 binary digits before zeros. -/
def nearestInt
    (i : Int) : Int :=
  if i < 0 then
    -(nearest i.natAbs : Int)
  else
    (nearest i.natAbs : Int)

/- Natural numbers are rounded without a sign. -/
theorem nearestInt_ofNat
    (n : Nat) :
    nearestInt (Int.ofNat n) = nearest n :=
  if_neg (Int.not_lt.mpr (Int.natCast_nonneg n))

/- Negative numbers are rounded as their opposites are. -/
theorem nearestInt_negSucc
    (n : Nat) :
    nearestInt (Int.negSucc n) = -(nearest n.succ : Int) :=
  if_pos (Int.negSucc_lt_zero n)

/- Rounding keeps the order of integers. -/
theorem nearestInt_mono
    {i j : Int}
    (hLe : i ≤ j) :
    nearestInt i ≤ nearestInt j := by
  unfold nearestInt
  split
  case isTrue hFirst =>
    split
    case isTrue hSecond =>
      have hMono : nearest j.natAbs ≤ nearest i.natAbs :=
        nearest_mono (by omega)
      omega
    case isFalse hSecond => omega
  case isFalse hFirst =>
    rw [if_neg (by omega)]
    have hMono : nearest i.natAbs ≤ nearest j.natAbs :=
      nearest_mono (by omega)
    omega

/- At most 53 digits before zeros are kept, with the sign. -/
theorem nearestInt_of_significand
    {i : Int}
    {m e : Nat}
    (hDigits : m < 2 ^ 53)
    (hIs : i.natAbs = m * 2 ^ e) :
    nearestInt i = i := by
  have hKept : nearest i.natAbs = i.natAbs := by
    rw [hIs]
    exact nearest_of_significand hDigits
  unfold nearestInt
  rw [hKept]
  split <;> omega

/- Integers up to `2 ^ 53` are kept, with the sign. -/
theorem nearestInt_of_le
    {i : Int}
    (hLe : i.natAbs ≤ 2 ^ 53) :
    nearestInt i = i := by
  unfold nearestInt
  rw [nearest_of_le hLe]
  split <;> omega

/- Rounding a positive number gives a positive number. -/
theorem nearest_pos
    {n : Nat}
    (hPos : 0 < n) :
    0 < nearest n :=
  (Nat.two_pow_pos _).trans_le (nearest_bounds hPos).1

/-
  Two integers that rounding makes equal are beyond `2 ^ 53`,
  on the same side.
-/
theorem beyond_of_nearestInt_eq
    {i j : Int}
    (hLess : i < j)
    (hSame : nearestInt i = nearestInt j) :
    2 ^ 53 ≤ i ∨ j ≤ -2 ^ 53 := by
  unfold nearestInt at hSame
  split at hSame
  case isTrue hFirst =>
    have hPos : 0 < nearest i.natAbs := nearest_pos (by omega)
    split at hSame
    case isTrue hSecond =>
      have hLarge := le_of_nearest_eq (n := j.natAbs)
        (m := i.natAbs) (by omega) (by omega)
      right
      omega
    case isFalse hSecond => omega
  case isFalse hFirst =>
    rw [if_neg (by omega)] at hSame
    have hLarge := le_of_nearest_eq (n := i.natAbs)
      (m := j.natAbs) (by omega) (by omega)
    left
    omega

/- Rounding does not make integers of different signs equal. -/
theorem eq_of_nearestInt_eq
    {i j : Int}
    (hSides : i ≤ 0 ∧ 0 ≤ j ∨ 0 ≤ i ∧ j ≤ 0)
    (hSame : nearestInt i = nearestInt j) :
    i = j := by
  rcases lt_trichotomy i j with hLess | hEqual | hMore
  · have hBeyond := beyond_of_nearestInt_eq hLess hSame
    omega
  · exact hEqual
  · have hBeyond := beyond_of_nearestInt_eq hMore hSame.symm
    omega

/-
  Rounding turns the order of two integers around only if it
  makes them equal.
-/
theorem beyond_of_nearestInt_le
    {i j : Int}
    (hLess : i < j)
    (hTurned : nearestInt j ≤ nearestInt i) :
    2 ^ 53 ≤ i ∨ j ≤ -2 ^ 53 :=
  beyond_of_nearestInt_eq hLess
    (Int.le_antisymm (nearestInt_mono (Int.le_of_lt hLess)) hTurned)

end Binary64

end SchemaGraph
