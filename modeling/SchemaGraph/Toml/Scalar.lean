import SchemaGraph.Calendar.Reader
import SchemaGraph.Json.Writer
import SchemaGraph.Toml.Text

/-
  This file reads the scalars of TOML that are no strings:
  booleans, integers, floats, and dates and times.

  An integer has 64 bits with a sign.  A date or a time is
  kept as its text in a uniform spelling.

  Key definitions include:
    * `Toml.readInteger`
    * `Toml.readFloat`
    * `Toml.readMoment`
    * `Toml.readScalar`
-/

namespace SchemaGraph

namespace Toml

------------------------------------------------------------
-- Digits
------------------------------------------------------------

/-
  Read digits with single underscores between them; the
  underscores are dropped.
-/
def readDigits
    (isDigit : Char → Bool) :
    List Char → Option (List Char × List Char)
  | c :: '_' :: cs =>
      if isDigit c then
        (readDigits isDigit cs).map
          (fun (digits, rest) => (c :: digits, rest))
      else
        none
  | c :: cs =>
      if isDigit c then
        match readDigits isDigit cs with
        | some (digits, rest) => some (c :: digits, rest)
        | none =>
            match cs with
            | d :: _ => if isDigit d then none else some ([c], cs)
            | [] => some ([c], [])
      else
        none
  | [] => none

/- The value of digits in a base. -/
def digitsIn
    (base : Nat)
    (digits : List Char) : Nat :=
  digits.foldl
    (fun n c => n * base + (Json.Reader.hexValue? c).getD 0) 0

/- Read the sign of a number; the flag tells of a minus. -/
def readSign : List Char → Bool × List Char
  | '-' :: cs => (true, cs)
  | '+' :: cs => (false, cs)
  | cs => (false, cs)

/- Read decimal digits without a needless zero before them. -/
def readDecimal
    (cs : List Char) : Option (List Char × List Char) :=
  match cs with
  | '0' :: rest => some (['0'], rest)
  | _ => readDigits Char.isDigit cs

------------------------------------------------------------
-- Integers
------------------------------------------------------------

/- The integer, if it has at most 64 bits with a sign. -/
def integer?
    (n : Int) : Option Json :=
  if n < 9223372036854775808 then
    (Number.ofInt? n).map Json.number
  else
    none

/- Read the digits of an integer in a given base. -/
def readInBase
    (base : Nat)
    (isDigit : Char → Bool)
    (cs : List Char) : Option (Json × List Char) := do
  let (digits, rest) ← readDigits isDigit cs
  return (← integer? (digitsIn base digits), rest)

/- Read an integer. -/
def readInteger : List Char → Option (Json × List Char)
  | '0' :: 'x' :: cs =>
      readInBase 16 (fun c => (Json.Reader.hexValue? c).isSome) cs
  | '0' :: 'o' :: cs =>
      readInBase 8 (fun c => '0' ≤ c && c ≤ '7') cs
  | '0' :: 'b' :: cs =>
      readInBase 2 (fun c => c == '0' || c == '1') cs
  | cs => do
      let (negative, cs) := readSign cs
      let (digits, rest) ← readDecimal cs
      let n : Int := digitsIn 10 digits
      return (← integer? (if negative then -n else n), rest)

------------------------------------------------------------
-- Floats
------------------------------------------------------------

/- Read the digits after a point, if there is one. -/
def readPointDigits : List Char → Option (List Char × List Char)
  | '.' :: cs => readDigits Char.isDigit cs
  | cs => some ([], cs)

/- Read an exponent, if there is one. -/
def readExponent
    (cs : List Char) : Option (Option Int × List Char) :=
  match cs with
  | c :: rest =>
      if c = 'e' ∨ c = 'E' then do
        let (negative, rest) := readSign rest
        let (digits, rest) ← readDigits Char.isDigit rest
        let n : Int := digitsIn 10 digits
        return (some (if negative then -n else n), rest)
      else
        some (none, cs)
  | [] => some (none, [])

/-
  The binary64 value nearest to decimal digits times a power
  of ten.
-/
def nearest
    (digits : List Char)
    (exponent : Int) : Float :=
  let n := digitsIn 10 digits
  if n = 0 ∨ exponent + digits.length < -400 then
    0
  else if 400 < exponent then
    1 / 0
  else if exponent < 0 then
    Float.ofScientific n true exponent.natAbs
  else
    Float.ofScientific n false exponent.natAbs

/- Read a float that is written with digits. -/
def readDigitsFloat
    (negative : Bool)
    (cs : List Char) : Option (Json × List Char) := do
  let (whole, rest) ← readDecimal cs
  let (fraction, afterFraction) ← readPointDigits rest
  let (exponent, after) ← readExponent afterFraction
  if fraction.isEmpty && exponent.isNone then
    none
  else
    let f :=
      nearest (whole ++ fraction)
        (exponent.getD 0 - fraction.length)
    if f.isInf && !negative then
      none
    else
      some (.number (.real (if negative then -f else f)), after)

/- Read a float: digits, an infinity, or no number. -/
def readFloat
    (cs : List Char) : Option (Json × List Char) :=
  let (negative, rest) := readSign cs
  let infinity : Float := 1 / 0
  let sign (f : Float) := if negative then -f else f
  match rest with
  | 'i' :: 'n' :: 'f' :: rest =>
      some (.number (.real (sign infinity)), rest)
  | 'n' :: 'a' :: 'n' :: rest =>
      some (.number (.real (sign (0 / 0))), rest)
  | _ => readDigitsFloat negative rest

------------------------------------------------------------
-- Dates and Times
------------------------------------------------------------

/- Read a date. -/
def readDateText
    (cs : List Char) : Option (String × List Char) := do
  let (year, rest) ← Calendar.readExactly 4 cs
  let rest ← Calendar.readChar '-' rest
  let (month, rest) ← Calendar.readExactly 2 rest
  let rest ← Calendar.readChar '-' rest
  let (day, rest) ← Calendar.readExactly 2 rest
  let date : Calendar.Date := ⟨year, month, day⟩
  if date.Valid then
    return (Calendar.padded 4 year ++ "-" ++ Calendar.padded 2 month
      ++ "-" ++ Calendar.padded 2 day, rest)
  else
    none

/- Write the nanoseconds of a time without needless zeros. -/
def fractionText
    (nanos : Nat) : String :=
  if nanos = 0 then
    ""
  else
    let digits := (Calendar.padded 9 nanos).toList
    "." ++ String.ofList
      (digits.reverse.dropWhile (· == '0')).reverse

/- Read a time of day. -/
def readTimeText
    (cs : List Char) : Option (String × List Char) := do
  let (hour, rest) ← Calendar.readExactly 2 cs
  let rest ← Calendar.readChar ':' rest
  let (minute, rest) ← Calendar.readExactly 2 rest
  let rest ← Calendar.readChar ':' rest
  let (second, rest) ← Calendar.readExactly 2 rest
  let (nanos, rest) ← Calendar.readOptionalFraction rest
  if hour ≤ 23 ∧ minute ≤ 59 ∧ second ≤ 60 then
    return (Calendar.padded 2 hour ++ ":"
      ++ Calendar.padded 2 minute ++ ":" ++ Calendar.padded 2 second
      ++ fractionText nanos, rest)
  else
    none

/- Read an offset from UTC, if there is one. -/
def readOffsetText
    (cs : List Char) : Option (String × List Char) :=
  match cs with
  | c :: rest =>
      if c = 'Z' ∨ c = 'z' then
        some ("Z", rest)
      else if c = '+' ∨ c = '-' then do
        let (hour, rest) ← Calendar.readExactly 2 rest
        let rest ← Calendar.readChar ':' rest
        let (minute, rest) ← Calendar.readExactly 2 rest
        if hour ≤ 23 ∧ minute ≤ 59 then
          let sign :=
            if c = '-' ∧ (hour, minute) ≠ (0, 0) then "-" else "+"
          return (sign ++ Calendar.padded 2 hour ++ ":"
            ++ Calendar.padded 2 minute, rest)
        else
          none
      else
        some ("", cs)
  | [] => some ("", [])

/- Read a time of day after a date, if there is one. -/
def readClockText
    (cs : List Char) : Option (String × List Char) :=
  match cs with
  | c :: d :: rest =>
      if (c = 'T' ∨ c = 't' ∨ c = ' ') ∧ d.isDigit then do
        let (time, rest) ← readTimeText (d :: rest)
        let (offset, rest) ← readOffsetText rest
        return ("T" ++ time ++ offset, rest)
      else
        some ("", cs)
  | _ => some ("", cs)

/- Read a date with or without a time of day, or a time. -/
def readMoment
    (cs : List Char) : Option (Json × List Char) :=
  match readDateText cs with
  | some (date, rest) =>
      (readClockText rest).map
        (fun (clock, rest) => (.string (date ++ clock), rest))
  | none =>
      (readTimeText cs).map
        (fun (time, rest) => (.string time, rest))

------------------------------------------------------------
-- Scalars
------------------------------------------------------------

/- Read a scalar that is no string. -/
def readScalar
    (cs : List Char) : Option (Json × List Char) :=
  match cs with
  | 't' :: 'r' :: 'u' :: 'e' :: rest => some (.bool true, rest)
  | 'f' :: 'a' :: 'l' :: 's' :: 'e' :: rest =>
      some (.bool false, rest)
  | _ => readMoment cs <|> readFloat cs <|> readInteger cs

end Toml

end SchemaGraph
