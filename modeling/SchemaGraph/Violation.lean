import SchemaGraph.Calendar.Instant
import SchemaGraph.Json.Writer
import SchemaGraph.Pointer

/-
  This file defines the violations that checking a value
  reports: what is wrong, and where in the value.

  Key definitions include:
    * `Complaint`
    * `Complaint.code`
    * `Complaint.message`
    * `Violation`
    * `Violation.of`
    * `Violation.location`
    * `Violation.text`
-/

namespace SchemaGraph

------------------------------------------------------------
-- Complaints
------------------------------------------------------------

/- What can be wrong with a value. -/
inductive Complaint where
  | required
  | forbidden
  | notBoolean
  | notListed (allowed : List Json)
  | noAlternative
  | notObject
  | unknownKey
  | tooFewKeys (least : Nat)
  | tooManyKeys (most : Nat)
  | notArray
  | tooFewItems (least : Nat)
  | tooManyItems (most : Nat)
  | duplicateOf (position : Nat)
  | notNumber
  | notInteger
  | belowMinimum (minimum : Float)
  | aboveMaximum (maximum : Float)
  | notString
  | emptyString
  | patternMismatch (pattern : String)
  | tooShort (least : Nat)
  | tooLong (most : Nat)
  | notEmail
  | notDate
  | beforeDate (earliest : Calendar.Instant)
  | afterDate (latest : Calendar.Instant)
  | notTime
  | beforeTime (earliest : Calendar.TimeOfDay)
  | afterTime (latest : Calendar.TimeOfDay)

namespace Complaint

/- Limits of numbers are written without an exponent. -/
def limitLayout : Decimal.Layout where
  positional := fun _ => true
  wholeFraction := false
  plusExponent := false

/- The code of a complaint: its family and its rule. -/
def code : Complaint → String
  | required => "any.required"
  | forbidden => "any.unknown"
  | notBoolean => "boolean.base"
  | notListed _ => "any.only"
  | noAlternative => "alternatives.match"
  | notObject => "object.base"
  | unknownKey => "object.unknown"
  | tooFewKeys _ => "object.min"
  | tooManyKeys _ => "object.max"
  | notArray => "array.base"
  | tooFewItems _ => "array.min"
  | tooManyItems _ => "array.max"
  | duplicateOf _ => "array.unique"
  | notNumber => "number.base"
  | notInteger => "number.integer"
  | belowMinimum _ => "number.min"
  | aboveMaximum _ => "number.max"
  | notString => "string.base"
  | emptyString => "string.empty"
  | patternMismatch _ => "string.pattern"
  | tooShort _ => "string.min"
  | tooLong _ => "string.max"
  | notEmail => "string.email"
  | notDate => "date.base"
  | beforeDate _ => "date.min"
  | afterDate _ => "date.max"
  | notTime => "time.base"
  | beforeTime _ => "time.min"
  | afterTime _ => "time.max"

/- A complaint in words. -/
def message : Complaint → String
  | required => "is required"
  | forbidden => "is not allowed"
  | notBoolean => "must be a boolean"
  | notListed allowed =>
      "must be one of " ++ (Json.array allowed).write
  | noAlternative =>
      "does not match any of the allowed alternatives"
  | notObject => "must be an object"
  | unknownKey => "is not allowed"
  | tooFewKeys n =>
      "must have at least " ++ Pointer.indexSegment n ++ " keys"
  | tooManyKeys n =>
      "must have less than or equal to "
        ++ Pointer.indexSegment n ++ " keys"
  | notArray => "must be an array"
  | tooFewItems n =>
      "must contain at least " ++ Pointer.indexSegment n ++ " items"
  | tooManyItems n =>
      "must contain less than or equal to "
        ++ Pointer.indexSegment n ++ " items"
  | duplicateOf i =>
      "contains a duplicate of position " ++ Pointer.indexSegment i
  | notNumber => "must be a number"
  | notInteger => "must be an integer"
  | belowMinimum limit =>
      "must be greater than or equal to " ++ limitLayout.write limit
  | aboveMaximum limit =>
      "must be less than or equal to " ++ limitLayout.write limit
  | notString => "must be a string"
  | emptyString => "is not allowed to be empty"
  | patternMismatch p =>
      "fails to match the required pattern: " ++ p
  | tooShort n =>
      "length must be at least "
        ++ Pointer.indexSegment n ++ " characters long"
  | tooLong n =>
      "length must be less than or equal to "
        ++ Pointer.indexSegment n ++ " characters long"
  | notEmail => "must be a valid email"
  | notDate => "must be a valid date"
  | beforeDate t => "must be later than or equal to " ++ t.text
  | afterDate t => "must be earlier than or equal to " ++ t.text
  | notTime => "must be a time in HH:mm:ss format"
  | beforeTime t => "must be later than or equal to " ++ t.text
  | afterTime t => "must be earlier than or equal to " ++ t.text

end Complaint

------------------------------------------------------------
-- Violations
------------------------------------------------------------

/-
  One violated constraint: the pointer to the offending
  value, a code for programs and a message for people.
-/
structure Violation where
  path : String
  code : String
  message : String
deriving DecidableEq, Repr

namespace Violation

/- The violation of a complaint at a path. -/
def of
    (path : String)
    (c : Complaint) : Violation :=
  ⟨path, c.code, c.message⟩

/- The path as shown to people. -/
def location
    (v : Violation) : String :=
  if v.path = "" then "<root>" else v.path

/- A violation on one line. -/
def text
    (v : Violation) : String :=
  v.location ++ " [" ++ v.code ++ "]: " ++ v.message

/- Violations on one line. -/
def listText
    (vs : List Violation) : String :=
  String.intercalate "; " (vs.map text)

/- Some violation has a code. -/
def hasCode
    (vs : List Violation)
    (code : String) : Bool :=
  vs.any (fun v => v.code == code)

/- The violations at exactly a path. -/
def atPath
    (vs : List Violation)
    (path : String) : List Violation :=
  vs.filter (fun v => v.path == path)

/- The path of a member. -/
def memberPath
    (path name : String) : String :=
  path ++ "/" ++ Pointer.escape name

/- The path of an item. -/
def itemPath
    (path : String)
    (i : Nat) : String :=
  path ++ "/" ++ Pointer.indexSegment i

------------------------------------------------------------
-- Violations as JSON
------------------------------------------------------------

/- A violation as an object of its three texts. -/
def toJson
    (v : Violation) : Json :=
  .object
    [("code", .string v.code), ("message", .string v.message),
      ("path", .string v.path)]

/-
  Read a violation: an object with the three texts, or an
  array of exactly them.
-/
def ofJson? : Json → Option Violation
  | .object members => do
      let path ← (members.lookup "path").bind Json.text?
      let code ← (members.lookup "code").bind Json.text?
      let message ← (members.lookup "message").bind Json.text?
      return ⟨path, code, message⟩
  | .array [.string path, .string code, .string message] =>
      some ⟨path, code, message⟩
  | _ => none

/- Read a list of violations. -/
def listOfJson?
    (value : Json) : Option (List Violation) :=
  match value with
  | .array xs => xs.mapM ofJson?
  | _ => none

end Violation

end SchemaGraph
