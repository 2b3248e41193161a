import SchemaGraph.Json.Value

/-
  This file compares JSON values by what they denote: two
  numbers are the same when they agree as signed integers,
  or as unsigned ones, or, failing both forms, as binary64
  values.

  Key definitions include:
    * `Number.same`
    * `Json.same`
-/

namespace SchemaGraph

/- Two numbers denote the same quantity. -/
def Number.same
    (a b : Number) : Bool :=
  match a.signed?, b.signed?, a.unsigned?, b.unsigned? with
  | some x, some y, _, _ => x == y
  | _, _, some x, some y => x == y
  | _, _, _, _ => a.toFloat == b.toFloat

namespace Json

mutual

/- Two values are the same, numbers compared by quantity. -/
def same : Json → Json → Bool
  | null, null => true
  | bool a, bool b => a == b
  | number a, number b => a.same b
  | string a, string b => a == b
  | array xs, array ys => sameItems xs ys
  | object xs, object ys =>
      xs.length == ys.length && sameMembers xs ys
  | _, _ => false

/- Two lists hold the same items at the same positions. -/
def sameItems : List Json → List Json → Bool
  | [], [] => true
  | x :: xs, y :: ys => same x y && sameItems xs ys
  | _, _ => false

/- Every member of the first list has the same one in the second. -/
def sameMembers :
    List (String × Json) → List (String × Json) → Bool
  | [], _ => true
  | (name, x) :: xs, ys =>
      (match ys.lookup name with
        | some y => same x y
        | none => false)
      && sameMembers xs ys

end

end Json

end SchemaGraph
