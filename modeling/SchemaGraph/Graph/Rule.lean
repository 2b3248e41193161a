import SchemaGraph.Json.Equality
import SchemaGraph.Violation
import SchemaGraph.Pattern
import SchemaGraph.Calendar.Reader

/-
  This file defines the rules that look at a value alone:
  numbers, strings, emails, dates, times, and the counts and
  the uniqueness of containers.

  Key definitions include:
    * `NumberRule`
    * `StringRule`
    * `EmailRule`
    * `DateBound`
    * `DateRule`
    * `TimeRule`
    * `ObjectRule`
    * `ArrayRule`
-/

namespace SchemaGraph

------------------------------------------------------------
-- Identifiers
------------------------------------------------------------

/- The position of a validator in a graph. -/
structure ValidatorId where
  index : Nat
deriving DecidableEq, Repr

/- The position of a deferred cell in a graph. -/
structure CellId where
  index : Nat
deriving DecidableEq, Repr

/- The largest count that a rule can hold. -/
def largestCount : Nat := 18446744073709551615

/- The complaint, if a condition holds. -/
def complaintIf
    (path : String)
    (condition : Bool)
    (c : Complaint) : List Violation :=
  if condition then [Violation.of path c] else []

------------------------------------------------------------
-- Numbers
------------------------------------------------------------

/- The integer that a binary64 value is cut to, if it is small. -/
def Binary64.truncated
    (f : Float) : Int :=
  if f < 0 then -(Float.neg f).toUInt64.toNat else f.toUInt64.toNat

/-
  The binary64 value is an integer; from `2 ^ 53` on, which
  is 9007199254740992, all values are.
-/
def Binary64.isInteger
    (f : Float) : Bool :=
  Float.ofInt (truncated f) == f
    || f >= Float.ofInt 9007199254740992
    || f <= Float.ofInt (-9007199254740992)

/- The number is an integer, in either form. -/
def Number.isWhole : Number → Bool
  | .integer _ _ => true
  | .real f => Binary64.isInteger f

/- A rule for numbers. -/
structure NumberRule where
  integer : Bool := false
  minimum : Option Float := none
  maximum : Option Float := none

/- Check a number. -/
def NumberRule.check
    (rule : NumberRule)
    (value : Json)
    (path : String) : List Violation :=
  match value with
  | .number n =>
      complaintIf path (rule.integer && !n.isWhole) .notInteger
        ++ (match rule.minimum with
          | some m =>
              complaintIf path (n.toFloat < m) (.belowMinimum m)
          | none => [])
        ++ (match rule.maximum with
          | some m =>
              complaintIf path (n.toFloat > m) (.aboveMaximum m)
          | none => [])
  | _ => [Violation.of path .notNumber]

------------------------------------------------------------
-- Strings
------------------------------------------------------------

/- Check the length of a text, counted in characters. -/
def checkLength
    (least most : Option Nat)
    (text path : String) : List Violation :=
  (match least with
    | some n => complaintIf path (text.length < n) (.tooShort n)
    | none => [])
  ++ (match most with
    | some n => complaintIf path (text.length > n) (.tooLong n)
    | none => [])

/- A rule for strings. -/
structure StringRule where
  pattern : Option Pattern := none
  minLength : Option Nat := none
  maxLength : Option Nat := none
  /- The empty text is accepted before anything else is asked. -/
  allowEmpty : Bool := false

/- Check a string. -/
def StringRule.check
    (rule : StringRule)
    (value : Json)
    (path : String) : List Violation :=
  match value with
  | .string text =>
      if text = "" then
        complaintIf path (!rule.allowEmpty) .emptyString
      else
        (match rule.pattern with
          | some p =>
              complaintIf path (!p.isFoundIn text)
                (.patternMismatch p.source)
          | none => [])
        ++ checkLength rule.minLength rule.maxLength text path
  | _ => [Violation.of path .notString]

/- A rule for email addresses. -/
structure EmailRule where
  pattern : Pattern
  maxLength : Option Nat := none

/- The shape of an email address. -/
def emailPattern : String :=
  "^[^\\s@]+@[^\\s@]+\\.[^\\s@]+$"

/- Check an email address. -/
def EmailRule.check
    (rule : EmailRule)
    (value : Json)
    (path : String) : List Violation :=
  match value with
  | .string text =>
      if text = "" then
        [Violation.of path .emptyString]
      else
        complaintIf path (!rule.pattern.isFoundIn text) .notEmail
          ++ checkLength none rule.maxLength text path
  | _ => [Violation.of path .notString]

------------------------------------------------------------
-- Dates and Times
------------------------------------------------------------

/- The milliseconds that a number stands for, cut to 64 bits. -/
def Number.millis
    (n : Number) : Int :=
  match n.signed? with
  | some i => i
  | none => n.toFloat.toInt64.toInt

/-
  The instant that a value stands for: a text in one of the
  forms of an instant, or a number of milliseconds.
-/
def readDate? : Json → Option Calendar.Instant
  | .number n => Calendar.Instant.ofMillis? n.millis
  | .string text => Calendar.readInstant? text
  | _ => none

/- The time of day that a value stands for. -/
def readTimeValue? : Json → Option Calendar.TimeOfDay
  | .string text => Calendar.readTime? text
  | _ => none

/- A bound for dates; `now` is the moment of the check. -/
inductive DateBound where
  | now
  | moment (at_ : Calendar.Instant)
deriving DecidableEq

/- Read a bound for dates. -/
def DateBound.read?
    (value : Json) : Option DateBound :=
  match value with
  | .string "now" => some .now
  | _ => (readDate? value).map .moment

/- The instant of a bound at the moment of a check. -/
def DateBound.instant
    (now : Calendar.Instant) : DateBound → Calendar.Instant
  | .now => now
  | moment t => t

/- A rule for dates. -/
structure DateRule where
  min : Option DateBound := none
  max : Option DateBound := none

/- Check a date. -/
def DateRule.check
    (now : Calendar.Instant)
    (rule : DateRule)
    (value : Json)
    (path : String) : List Violation :=
  match readDate? value with
  | some t =>
      (match rule.min with
        | some b =>
            complaintIf path (t.earlier (b.instant now))
              (.beforeDate (b.instant now))
        | none => [])
      ++ (match rule.max with
        | some b =>
            complaintIf path ((b.instant now).earlier t)
              (.afterDate (b.instant now))
        | none => [])
  | none => [Violation.of path .notDate]

/- A rule for times of day. -/
structure TimeRule where
  min : Option Calendar.TimeOfDay := none
  max : Option Calendar.TimeOfDay := none

/- Check a time of day. -/
def TimeRule.check
    (rule : TimeRule)
    (value : Json)
    (path : String) : List Violation :=
  match readTimeValue? value with
  | some t =>
      (match rule.min with
        | some m => complaintIf path (t.earlier m) (.beforeTime m)
        | none => [])
      ++ (match rule.max with
        | some m => complaintIf path (m.earlier t) (.afterTime m)
        | none => [])
  | none => [Violation.of path .notTime]

------------------------------------------------------------
-- Containers
------------------------------------------------------------

/- What happens to the keys that an object rule does not declare. -/
inductive UnknownKeys where
  /- Refused, or dropped when stripping. -/
  | reject
  /- Kept, but dropped when stripping. -/
  | ignore
  /- Kept. -/
  | allow
  /- Checked and kept. -/
  | schema (id : ValidatorId)
deriving DecidableEq

/- A rule for objects. -/
structure ObjectRule where
  /- Without declared properties, any key is kept. -/
  properties : Option (List (String × ValidatorId)) := none
  unknown : UnknownKeys := .reject
  minProperties : Option Nat := none
  maxProperties : Option Nat := none

/- Check the number of keys of an object. -/
def ObjectRule.checkCount
    (rule : ObjectRule)
    (count : Nat)
    (path : String) : List Violation :=
  (match rule.minProperties with
    | some n => complaintIf path (count < n) (.tooFewKeys n)
    | none => [])
  ++ (match rule.maxProperties with
    | some n => complaintIf path (count > n) (.tooManyKeys n)
    | none => [])

/- A rule for arrays. -/
structure ArrayRule where
  /- Without a validator, any item is kept. -/
  items : Option ValidatorId := none
  minItems : Option Nat := none
  maxItems : Option Nat := none
  unique : Bool := false

/- The violations of items that repeat an earlier one. -/
def duplicates
    (path : String) :
    List Json → List Json → List Violation
  | _, [] => []
  | earlier, x :: rest =>
      (match earlier.findIdx? (fun y => y.same x) with
        | some i =>
            [Violation.of (Violation.itemPath path earlier.length)
              (.duplicateOf i)]
        | none => [])
      ++ duplicates path (earlier ++ [x]) rest

/- Check the number of items of an array and their uniqueness. -/
def ArrayRule.checkItems
    (rule : ArrayRule)
    (items : List Json)
    (path : String) : List Violation :=
  (match rule.minItems with
    | some n => complaintIf path (items.length < n) (.tooFewItems n)
    | none => [])
  ++ (match rule.maxItems with
    | some n => complaintIf path (items.length > n) (.tooManyItems n)
    | none => [])
  ++ (if rule.unique then duplicates path [] items else [])

end SchemaGraph
