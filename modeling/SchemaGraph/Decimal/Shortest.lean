/-
  This file selects the digits of a binary64 value: the
  fewest decimal digits that read back as the same value,
  and of those the ones nearest to it.

  A finite value is `m * 2 ^ q`.  The reals that round to
  it form an interval around it, closed exactly when `m` is
  even.  For one digit, two digits and so on, the two
  decimals next to the value on that grid are tested against
  the interval, in exact arithmetic.

  Key definitions include:
    * `Binary64.Finite`
    * `Binary64.decode`
    * `Decimal`
    * `Decimal.shortest`
-/

namespace SchemaGraph

------------------------------------------------------------
-- Binary64 Values
------------------------------------------------------------

namespace Binary64

/- A finite magnitude `significand * 2 ^ exponent`. -/
structure Finite where
  significand : Nat
  exponent : Int
  /- The next smaller magnitude is half as far as the next larger. -/
  narrowBelow : Bool

/- The sign of a value is minus; also of minus zero. -/
def isNegative
    (f : Float) : Bool :=
  f.toBits.toNat / Nat.pow 2 63 == 1

/- The magnitude of a value, unless it is infinite or undefined. -/
def decode
    (f : Float) : Option Finite :=
  let bits : Nat := f.toBits.toNat
  let biased : Nat := bits / Nat.pow 2 52 % Nat.pow 2 11
  let fraction : Nat := bits % Nat.pow 2 52
  if biased = 2047 then
    none
  else if biased = 0 then
    some ⟨fraction, -1074, false⟩
  else
    some
      ⟨fraction + Nat.pow 2 52, (biased : Int) - 1075,
        fraction == 0 && 1 < biased⟩

end Binary64

------------------------------------------------------------
-- Decimals
------------------------------------------------------------

/-
  A positive decimal `d.ddd * 10 ^ exponent`, given by its
  digits, the first of them not zero.
-/
structure Decimal where
  digits : List Char
  exponent : Int

namespace Decimal

/- The decimal digits of a natural number. -/
def digitsOf
    (n : Nat) : List Char :=
  Nat.toDigits 10 n

/- Multiply a fraction by a power of ten. -/
def scaleTen
    (num den : Nat)
    (e : Int) : Nat × Nat :=
  if 0 ≤ e then
    (num * Nat.pow 10 e.toNat, den)
  else
    (num, den * Nat.pow 10 (-e).toNat)

/- `10 ^ e` is at most the fraction. -/
def tenPowLE
    (e : Int)
    (num den : Nat) : Bool :=
  let (n, d) := scaleTen num den (-e)
  d ≤ n

/- The power of ten of the leading digit of a fraction. -/
def leadingExponent
    (num den : Nat) : Int :=
  let bits : Int := (num.log2 : Int) - (den.log2 : Int)
  let guess := Int.fdiv (bits * 30103) 100000
  if tenPowLE (guess + 1) num den then
    guess + 1
  else if tenPowLE guess num den then
    guess
  else if tenPowLE (guess - 1) num den then
    guess - 1
  else
    guess - 2

/-
  The best decimal of a given digit count inside the
  rounding interval of a magnitude, if there is one.
-/
def onGrid
    (x : Binary64.Finite)
    (lead : Int)
    (count : Nat) : Option Nat :=
  let power := x.exponent - 2
  let (up, down) :=
    if 0 ≤ power then
      (Nat.pow 2 power.toNat, 1)
    else
      (1, Nat.pow 2 (-power).toNat)
  let (factor, den) :=
    scaleTen up down ((count : Int) - 1 - lead)
  let value := 4 * x.significand * factor
  let low :=
    (4 * x.significand - if x.narrowBelow then 1 else 2) * factor
  let high := (4 * x.significand + 2) * factor
  let closed := x.significand % 2 == 0
  let inside (c : Nat) : Bool :=
    (low < c * den && c * den < high)
      || (closed && (low == c * den || c * den == high))
  let below := value / den
  let above := below + 1
  match inside below, inside above with
  | true, true =>
      if value - below * den ≤ above * den - value then
        some below
      else
        some above
  | true, false => some below
  | false, true => some above
  | false, false => none

/-
  The fewest digits that read back as the magnitude; zero
  has the single digit zero.
-/
def shortest
    (x : Binary64.Finite) : Decimal :=
  if x.significand = 0 then
    ⟨['0'], 0⟩
  else
    let power := x.exponent
    let num :=
      x.significand * (if 0 ≤ power then Nat.pow 2 power.toNat else 1)
    let den := if 0 ≤ power then 1 else Nat.pow 2 (-power).toNat
    let lead := leadingExponent num den
    let found :=
      (List.range 17).findSome? (fun i =>
        (onGrid x lead (i + 1)).map (fun c => (i + 1, c)))
    match found with
    | some (count, c) =>
        let digits := digitsOf c
        let carried : Int := (digits.length : Int) - (count : Int)
        let trimmed :=
          (digits.reverse.dropWhile (· == '0')).reverse
        ⟨trimmed, lead + carried⟩
    | none => ⟨['0'], 0⟩

end Decimal

end SchemaGraph
