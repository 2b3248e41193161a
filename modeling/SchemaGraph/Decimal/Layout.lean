import SchemaGraph.Decimal.Shortest

/-
  This file lays the digits of a binary64 value out as text.
  A `Layout` holds the decisions of one output format:
  which magnitudes are written without an exponent, whether
  a whole number keeps a fraction, and how an exponent is
  signed.

  Key definitions include:
    * `Decimal.Layout`
    * `Decimal.Layout.write`
-/

namespace SchemaGraph

namespace Decimal

/- The decisions of one way to write binary64 values. -/
structure Layout where
  /- Leading exponents that are written without an exponent. -/
  positional : Int → Bool
  /- A whole number written without an exponent ends in `.0`. -/
  wholeFraction : Bool
  /- A positive exponent carries a plus sign. -/
  plusExponent : Bool

namespace Layout

/- A run of zeros. -/
def zeros
    (n : Nat) : List Char :=
  List.replicate n '0'

/- Write a decimal without an exponent. -/
def writePositional
    (layout : Layout)
    (d : Decimal) : List Char :=
  let count : Int := d.digits.length
  if d.exponent < 0 then
    '0' :: '.' :: zeros (-d.exponent - 1).toNat ++ d.digits
  else if count ≤ d.exponent + 1 then
    d.digits ++ zeros (d.exponent + 1 - count).toNat
      ++ (if layout.wholeFraction then ['.', '0'] else [])
  else
    let whole := (d.exponent + 1).toNat
    d.digits.take whole ++ '.' :: d.digits.drop whole

/- Write a decimal with an exponent. -/
def writeScientific
    (layout : Layout)
    (d : Decimal) : List Char :=
  let mantissa :=
    match d.digits with
    | [] => ['0']
    | [c] => [c]
    | c :: rest => c :: '.' :: rest
  let sign :=
    if d.exponent < 0 then
      ['-']
    else if layout.plusExponent then
      ['+']
    else
      []
  mantissa ++ 'e' :: sign ++ digitsOf d.exponent.natAbs

/- Write a finite binary64 value. -/
def write
    (layout : Layout)
    (f : Float) : String :=
  match Binary64.decode f with
  | none => if f.isNaN then "NaN" else if f < 0 then "-inf" else "inf"
  | some x =>
      let d := shortest x
      let body :=
        if x.significand = 0 || layout.positional d.exponent then
          layout.writePositional d
        else
          layout.writeScientific d
      String.ofList
        (if Binary64.isNegative f then '-' :: body else body)

end Layout

end Decimal

end SchemaGraph
