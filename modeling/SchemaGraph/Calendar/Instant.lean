import SchemaGraph.Calendar.Date

/-
  This file defines times of day and instants, which are
  times of day on a day, and writes them.  A leap second is
  the last second of its minute with a full second of
  nanoseconds more, and is written as second 60.

  Key definitions include:
    * `Calendar.TimeOfDay`
    * `Calendar.TimeOfDay.text`
    * `Calendar.Instant`
    * `Calendar.Instant.text`
-/

namespace SchemaGraph

namespace Calendar

------------------------------------------------------------
-- Numbers of a Fixed Width
------------------------------------------------------------

/- A number with zeros before it up to a width. -/
def padded
    (width n : Nat) : String :=
  let digits := Nat.toDigits 10 n
  String.ofList
    (List.replicate (width - digits.length) '0' ++ digits)

------------------------------------------------------------
-- Times of Day
------------------------------------------------------------

/-
  A time of day: seconds since midnight, and nanoseconds,
  which reach below two seconds in a leap second.
-/
structure TimeOfDay where
  second : Nat
  nanos : Nat
deriving DecidableEq, Repr

namespace TimeOfDay

/- The first time is earlier than the second. -/
def earlier
    (a b : TimeOfDay) : Bool :=
  a.second < b.second
    || (a.second == b.second && a.nanos < b.nanos)

/-
  The time of an hour, a minute and a second; second 60 is
  a leap second.
-/
def ofClock?
    (hour minute second nanos : Nat) : Option TimeOfDay :=
  if hour < 24 ∧ minute < 60 ∧ second ≤ 60 then
    if second = 60 then
      some ⟨hour * 3600 + minute * 60 + 59, nanos + 1000000000⟩
    else
      some ⟨hour * 3600 + minute * 60 + second, nanos⟩
  else
    none

/- The hours, minutes and seconds of a time. -/
def text
    (t : TimeOfDay) : String :=
  padded 2 (t.second / 3600) ++ ":"
    ++ padded 2 (t.second / 60 % 60) ++ ":"
    ++ padded 2 (t.second % 60 + t.nanos / 1000000000)

/-
  The fraction of a second, with as many groups of three
  digits as it needs.
-/
def fractionText
    (t : TimeOfDay) : String :=
  let n := t.nanos % 1000000000
  if n = 0 then
    ""
  else if n % 1000000 = 0 then
    "." ++ padded 3 (n / 1000000)
  else if n % 1000 = 0 then
    "." ++ padded 6 (n / 1000)
  else
    "." ++ padded 9 n

/- A time with its fraction. -/
def fullText
    (t : TimeOfDay) : String :=
  t.text ++ t.fractionText

end TimeOfDay

------------------------------------------------------------
-- Instants
------------------------------------------------------------

/- A time of day in UTC on a day. -/
structure Instant where
  day : Int
  time : TimeOfDay
deriving DecidableEq, Repr

namespace Instant

/- The first instant is earlier than the second. -/
def earlier
    (a b : Instant) : Bool :=
  a.day < b.day || (a.day == b.day && a.time.earlier b.time)

/- The day of an instant is one that dates are kept for. -/
def InRange
    (t : Instant) : Prop :=
  Date.dayNumber ⟨firstYear, 1, 1⟩ ≤ t.day ∧
    t.day ≤ Date.dayNumber ⟨lastYear, 12, 31⟩

instance
    (t : Instant) :
    Decidable (InRange t) := by
  unfold InRange
  infer_instance

/- The instant of a number of milliseconds since day zero. -/
def ofMillis?
    (millis : Int) : Option Instant :=
  let seconds := millis / 1000
  let t : Instant :=
    ⟨seconds / 86400,
      ⟨(seconds % 86400).toNat, (millis % 1000).toNat * 1000000⟩⟩
  if t.InRange then some t else none

/- The instant of a number of nanoseconds since day zero. -/
def ofNanos
    (nanos : Int) : Instant :=
  let seconds := nanos / 1000000000
  ⟨seconds / 86400,
    ⟨(seconds % 86400).toNat, (nanos % 1000000000).toNat⟩⟩

/- Move an instant back by a number of seconds. -/
def minusSeconds
    (t : Instant)
    (seconds : Int) : Instant :=
  let moved := (t.time.second : Int) - seconds
  ⟨t.day + moved / 86400,
    ⟨(moved % 86400).toNat, t.time.nanos⟩⟩

/-
  A date; a year before 0 or after 9999 has a sign and at
  least four digits.
-/
def dateText
    (day : Int) : String :=
  let d := Date.ofDayNumber day
  let year :=
    if d.year < 0 then
      "-" ++ padded 4 d.year.natAbs
    else if d.year ≤ 9999 then
      padded 4 d.year.natAbs
    else
      "+" ++ padded 4 d.year.natAbs
  year ++ "-" ++ padded 2 d.month ++ "-" ++ padded 2 d.day

/- An instant with a time zone after it. -/
def textWith
    (zone : String)
    (t : Instant) : String :=
  dateText t.day ++ "T" ++ t.time.fullText ++ zone

/- An instant with the offset of UTC. -/
def text
    (t : Instant) : String :=
  t.textWith "+00:00"

end Instant

end Calendar

end SchemaGraph
