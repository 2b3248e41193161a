/-
  This file defines JSON values: the documents that schemas
  are written in and the data that they check.

  Integers that fit 64 bits, signed or unsigned, are kept
  exactly; every other number is a binary64 value.  The
  members of an object are kept in the order of their
  names, each name once.

  Key definitions include:
    * `Number`
    * `Number.toFloat`
    * `Json`
    * `Json.member?`
    * `Members.insert`
    * `Json.Canonical`
-/

namespace SchemaGraph

------------------------------------------------------------
-- Numbers
------------------------------------------------------------

/- The integers that a number keeps exactly. -/
def IntegerRange
    (n : Int) : Prop :=
  -9223372036854775808 ≤ n ∧ n < 18446744073709551616

instance
    (n : Int) :
    Decidable (IntegerRange n) := by
  unfold IntegerRange
  infer_instance

/-
  A JSON number: an integer of 64 bits, or a binary64
  value.  The two forms of one quantity are different
  numbers.
-/
inductive Number where
  | integer (value : Int) (inRange : IntegerRange value)
  | real (value : Float)
deriving DecidableEq

namespace Number

/- The integer as a number, when it fits. -/
def ofInt?
    (n : Int) : Option Number :=
  if h : IntegerRange n then
    some (.integer n h)
  else
    none

/- The binary64 value nearest to a number. -/
def toFloat : Number → Float
  | integer n _ => Float.ofInt n
  | real f => f

/- The number as a signed 64-bit integer. -/
def signed? : Number → Option Int
  | integer n _ =>
      if n < 9223372036854775808 then some n else none
  | real _ => none

/- The number as an unsigned 64-bit integer. -/
def unsigned? : Number → Option Nat
  | integer n _ => if 0 ≤ n then some n.toNat else none
  | real _ => none

end Number

------------------------------------------------------------
-- Values
------------------------------------------------------------

/- A JSON value. -/
inductive Json where
  | null
  | bool (value : Bool)
  | number (value : Number)
  | string (value : String)
  | array (items : List Json)
  | object (members : List (String × Json))
deriving Inhabited

namespace Members

/-
  Set the member of a name, keeping the order of the names.
-/
def insert
    {α : Type}
    (name : String)
    (value : α) :
    List (String × α) → List (String × α)
  | [] => [(name, value)]
  | (other, old) :: rest =>
      if name < other then
        (name, value) :: (other, old) :: rest
      else if name = other then
        (name, value) :: rest
      else
        (other, old) :: insert name value rest

/- Set the member of a name that is not there yet. -/
def insertNew
    {α : Type}
    (name : String)
    (value : α)
    (members : List (String × α)) :
    List (String × α) :=
  match members.lookup name with
  | some _ => members
  | none => insert name value members

/- The members of a list of pairs; the last one of a name wins. -/
def ofList
    {α : Type}
    (pairs : List (String × α)) :
    List (String × α) :=
  pairs.foldl (fun members pair => insert pair.1 pair.2 members) []

/- The names are in strictly increasing order. -/
def Sorted
    {α : Type}
    (members : List (String × α)) : Prop :=
  members.Pairwise (fun a b => a.1 < b.1)

instance
    {α : Type}
    (members : List (String × α)) :
    Decidable (Sorted members) := by
  unfold Sorted
  infer_instance

end Members

namespace Json

/- An integer literal that is known to fit. -/
def ofInt
    (n : Int)
    (h : IntegerRange n := by decide) : Json :=
  .number (.integer n h)

/- The member of an object. -/
def member? : Json → String → Option Json
  | object members, name => members.lookup name
  | _, _ => none

/- The text of a string. -/
def text? : Json → Option String
  | string s => some s
  | _ => none

/- The items of an array. -/
def items? : Json → Option (List Json)
  | array xs => some xs
  | _ => none

/- The members of an object. -/
def members? : Json → Option (List (String × Json))
  | object members => some members
  | _ => none

/- The number, as the nearest binary64 value. -/
def float? : Json → Option Float
  | number n => some n.toFloat
  | _ => none

/- The value is an object. -/
def isObject : Json → Bool
  | object _ => true
  | _ => false

------------------------------------------------------------
-- Canonical Values
------------------------------------------------------------

mutual

/-
  The members of every object inside the value are sorted
  and distinct, as reading a text leaves them.
-/
def Canonical : Json → Prop
  | null => True
  | bool _ => True
  | number _ => True
  | string _ => True
  | array xs => CanonicalItems xs
  | object members =>
      Members.Sorted members ∧ CanonicalMembers members

/- Every item is canonical. -/
def CanonicalItems : List Json → Prop
  | [] => True
  | x :: rest => Canonical x ∧ CanonicalItems rest

/- Every member's value is canonical. -/
def CanonicalMembers : List (String × Json) → Prop
  | [] => True
  | (_, x) :: rest => Canonical x ∧ CanonicalMembers rest

end

mutual

/- How deeply containers are nested in a value. -/
def depth : Json → Nat
  | null => 0
  | bool _ => 0
  | number _ => 0
  | string _ => 0
  | array xs => depthItems xs + 1
  | object members => depthMembers members + 1

/- The depth of the deepest item. -/
def depthItems : List Json → Nat
  | [] => 0
  | x :: rest => max (depth x) (depthItems rest)

/- The depth of the deepest member. -/
def depthMembers : List (String × Json) → Nat
  | [] => 0
  | (_, x) :: rest => max (depth x) (depthMembers rest)

end

mutual

/- The number of positions in a value, itself included. -/
def positions : Json → Nat
  | null => 1
  | bool _ => 1
  | number _ => 1
  | string _ => 1
  | array xs => positionsItems xs + 1
  | object members => positionsMembers members + 1

/- The number of positions in a list of items. -/
def positionsItems : List Json → Nat
  | [] => 0
  | x :: rest => positions x + positionsItems rest

/- The number of positions in a list of members. -/
def positionsMembers : List (String × Json) → Nat
  | [] => 0
  | (_, x) :: rest => positions x + positionsMembers rest

end

end Json

end SchemaGraph
