/-
  This file counts days in the Gregorian calendar, extended
  to all years.  Day zero is the first of January 1970.

  Key definitions include:
    * `Calendar.Date`
    * `Calendar.Date.Valid`
    * `Calendar.Date.dayNumber`
    * `Calendar.Date.ofDayNumber`
-/

namespace SchemaGraph

namespace Calendar

/- A year, a month and a day of the month. -/
structure Date where
  year : Int
  month : Nat
  day : Nat
deriving DecidableEq, Repr

/- The year has a leap day. -/
def isLeapYear
    (year : Int) : Bool :=
  year % 4 == 0 && (year % 100 != 0 || year % 400 == 0)

/- The number of days of a month. -/
def monthLength
    (year : Int)
    (month : Nat) : Nat :=
  match month with
  | 2 => if isLeapYear year then 29 else 28
  | 4 => 30
  | 6 => 30
  | 9 => 30
  | 11 => 30
  | _ => 31

/- The first year that dates are kept for. -/
def firstYear : Int := -262143

/- The last year that dates are kept for. -/
def lastYear : Int := 262142

namespace Date

/- The date exists and its year is kept. -/
def Valid
    (d : Date) : Prop :=
  firstYear ≤ d.year ∧ d.year ≤ lastYear ∧
    1 ≤ d.month ∧ d.month ≤ 12 ∧
    1 ≤ d.day ∧ d.day ≤ monthLength d.year d.month

instance
    (d : Date) :
    Decidable (Valid d) := by
  unfold Valid
  infer_instance

/-
  The number of days since day zero.  Years are counted
  from March, so that the leap day ends one.
-/
def dayNumber
    (d : Date) : Int :=
  let year := if d.month ≤ 2 then d.year - 1 else d.year
  let era := year / 400
  let yearOfEra := year - era * 400
  let month : Int := (d.month + 9) % 12
  let dayOfYear := (153 * month + 2) / 5 + d.day - 1
  let dayOfEra :=
    yearOfEra * 365 + yearOfEra / 4 - yearOfEra / 100 + dayOfYear
  era * 146097 + dayOfEra - 719468

/- The date of a number of days since day zero. -/
def ofDayNumber
    (n : Int) : Date :=
  let shifted := n + 719468
  let era := shifted / 146097
  let dayOfEra := shifted - era * 146097
  let yearOfEra :=
    (dayOfEra - dayOfEra / 1460 + dayOfEra / 36524
      - dayOfEra / 146096) / 365
  let dayOfYear :=
    dayOfEra - (365 * yearOfEra + yearOfEra / 4 - yearOfEra / 100)
  let month := (5 * dayOfYear + 2) / 153
  let day := dayOfYear - (153 * month + 2) / 5 + 1
  let civilMonth := if month < 10 then month + 3 else month - 9
  let year := yearOfEra + era * 400
  ⟨if civilMonth ≤ 2 then year + 1 else year,
    civilMonth.toNat, day.toNat⟩

end Date

end Calendar

end SchemaGraph
