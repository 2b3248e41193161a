import SchemaGraph.Calendar.Instant
import SchemaGraph.Text.Blank

/-
  This file reads dates, times of day and instants.

  An instant is written as a date and a time with an offset
  from UTC, or, in a looser form, as a date and a time
  without one, or as a date alone.  In the looser forms the
  numbers may have fewer digits and blanks before them, and
  a year with a sign may have more digits.

  Key definitions include:
    * `Calendar.readZoned?`
    * `Calendar.readLocal?`
    * `Calendar.readDay?`
    * `Calendar.readInstant?`
    * `Calendar.readTime?`
-/

namespace SchemaGraph

namespace Calendar

------------------------------------------------------------
-- Digits
------------------------------------------------------------

/- The value of a run of digits. -/
def digitsValue
    (cs : List Char) : Nat :=
  Nat.ofDigitChars 10 cs 0

/- The digits at the start of a text, at most `limit`. -/
def leadingDigits : Nat → List Char → List Char × List Char
  | 0, cs => ([], cs)
  | limit + 1, c :: cs =>
      if c.isDigit then
        let (digits, rest) := leadingDigits limit cs
        (c :: digits, rest)
      else
        ([], c :: cs)
  | _ + 1, [] => ([], [])

/- Read between one and `limit` digits. -/
def readUpTo
    (limit : Nat)
    (cs : List Char) : Option (Nat × List Char) :=
  match leadingDigits limit cs with
  | ([], _) => none
  | (digits, rest) => some (digitsValue digits, rest)

/- Read exactly `width` digits. -/
def readExactly
    (width : Nat)
    (cs : List Char) : Option (Nat × List Char) :=
  match leadingDigits width cs with
  | (digits, rest) =>
      if digits.length = width then
        some (digitsValue digits, rest)
      else
        none

/- Read one given character. -/
def readChar
    (expected : Char) : List Char → Option (List Char)
  | c :: cs => if c = expected then some cs else none
  | [] => none

/-
  Read a fraction of a second after its point: the first
  nine digits as nanoseconds, any further ones dropped.
-/
def readFraction
    (cs : List Char) : Option (Nat × List Char) :=
  match leadingDigits 9 cs with
  | ([], _) => none
  | (digits, rest) =>
      some
        (digitsValue digits * Nat.pow 10 (9 - digits.length),
          rest.dropWhile Char.isDigit)

/- Read a fraction of a second, if there is one. -/
def readOptionalFraction : List Char → Option (Nat × List Char)
  | '.' :: cs => readFraction cs
  | cs => some (0, cs)

------------------------------------------------------------
-- Instants with an Offset
------------------------------------------------------------

/- Read an offset from UTC in seconds: `Z`, or a sign, hours and minutes. -/
def readOffset : List Char → Option (Int × List Char)
  | [] => none
  | c :: cs =>
      if c = 'Z' ∨ c = 'z' then
        some (0, cs)
      else
        let negative? :=
          if c = '+' then
            some false
          else if c = '-' ∨ c = Char.ofNat 0x2212 then
            some true
          else
            none
        match negative? with
        | none => none
        | some negative => do
            let (hours, cs) ← readExactly 2 cs
            let cs ← readChar ':' cs
            let (minutes, cs) ← readExactly 2 cs
            if hours < 24 ∧ minutes < 60 then
              let seconds : Int := hours * 3600 + minutes * 60
              return (if negative then -seconds else seconds, cs)
            else
              none

/- Read a date and a time with an offset. -/
def readZoned?
    (cs : List Char) : Option Instant := do
  let (year, cs) ← readExactly 4 cs
  let cs ← readChar '-' cs
  let (month, cs) ← readExactly 2 cs
  let cs ← readChar '-' cs
  let (day, cs) ← readExactly 2 cs
  let cs ←
    match cs with
    | 'T' :: cs => some cs
    | 't' :: cs => some cs
    | ' ' :: cs => some cs
    | _ => none
  let (hour, cs) ← readExactly 2 cs
  let cs ← readChar ':' cs
  let (minute, cs) ← readExactly 2 cs
  let cs ← readChar ':' cs
  let (second, cs) ← readExactly 2 cs
  let (nanos, cs) ← readOptionalFraction cs
  let (offset, cs) ← readOffset cs
  let date : Date := ⟨year, month, day⟩
  if cs = [] ∧ date.Valid then
    let time ← TimeOfDay.ofClock? hour minute second nanos
    return Instant.minusSeconds ⟨date.dayNumber, time⟩ offset
  else
    none

------------------------------------------------------------
-- Loose Forms
------------------------------------------------------------

/- Read a number of at most two digits after optional blanks. -/
def readPart
    (cs : List Char) : Option (Nat × List Char) :=
  readUpTo 2 (Text.trimStart cs)

/-
  Read a year after optional blanks: at most four digits, or
  a sign and any number of them.
-/
def readYear
    (cs : List Char) : Option (Int × List Char) :=
  match Text.trimStart cs with
  | '-' :: cs =>
      (readUpTo cs.length cs).map (fun (n, r) => (-(n : Int), r))
  | '+' :: cs =>
      (readUpTo cs.length cs).map (fun (n, r) => ((n : Int), r))
  | cs => (readUpTo 4 cs).map (fun (n, r) => ((n : Int), r))

/- Read a date in the loose form. -/
def readDate
    (cs : List Char) : Option (Date × List Char) := do
  let (year, cs) ← readYear cs
  let cs ← readChar '-' cs
  let (month, cs) ← readPart cs
  let cs ← readChar '-' cs
  let (day, cs) ← readPart cs
  let date : Date := ⟨year, month, day⟩
  if date.Valid then
    return (date, cs)
  else
    none

/- Read hours, minutes and seconds in the loose form. -/
def readClock
    (cs : List Char) : Option ((Nat × Nat × Nat) × List Char) := do
  let (hour, cs) ← readPart cs
  let cs ← readChar ':' cs
  let (minute, cs) ← readPart cs
  let cs ← readChar ':' cs
  let (second, cs) ← readPart cs
  return ((hour, minute, second), cs)

/-
  Read a date and a time without an offset, taken as UTC.
  `separator` reads what stands between them.
-/
def readLocal?
    (separator : List Char → Option (List Char))
    (cs : List Char) : Option Instant := do
  let (date, cs) ← readDate cs
  let cs ← separator cs
  let ((hour, minute, second), cs) ← readClock cs
  let (nanos, cs) ← readOptionalFraction cs
  if cs = [] then
    let time ← TimeOfDay.ofClock? hour minute second nanos
    return ⟨date.dayNumber, time⟩
  else
    none

/- Read a date alone, taken as its first instant in UTC. -/
def readDay?
    (cs : List Char) : Option Instant := do
  let (date, cs) ← readDate cs
  if cs = [] then
    return ⟨date.dayNumber, ⟨0, 0⟩⟩
  else
    none

/- Read an instant in any of its forms. -/
def readInstant?
    (text : String) : Option Instant :=
  let cs := text.toList
  readZoned? cs
    <|> readLocal? (readChar 'T') cs
    <|> readLocal? (fun r => some (Text.trimStart r)) cs
    <|> readDay? cs

/- Read a time of day. -/
def readTime?
    (text : String) : Option TimeOfDay := do
  let ((hour, minute, second), cs) ← readClock text.toList
  if cs = [] then
    TimeOfDay.ofClock? hour minute second 0
  else
    none

end Calendar

end SchemaGraph
