import SchemaGraph.Graph.Basic

/-
  This file checks values against the validators of a graph.
  A check gives the accepted value, with the unknown keys
  dropped that are to be dropped, or the list of all
  violations.

  A check that would go round a cycle of the graph without
  entering the value has no verdict.  A cycle is noticed by
  a budget: the nodes of the graph, with stripping and
  without, for every level of the value.

  Key definitions include:
    * `CheckOptions`
    * `Verdict`
    * `Graph.checkObject`
    * `Graph.checkArray`
    * `Graph.checkAll`
    * `Graph.checkNode`
    * `Graph.checkWithin`
    * `Graph.check`
-/

namespace SchemaGraph

/- What a caller may ask of a check. -/
structure CheckOptions where
  /- Drop undeclared keys instead of refusing them. -/
  stripUnknown : Bool := false
deriving DecidableEq

/-
  The outcome of a check: the accepted value, if one was
  given, or the violations.
-/
abbrev Verdict := Except (List Violation) (Option Json)

/- The way to check the values inside a value. -/
abbrev Checker :=
  ValidatorId → Option Json → String → CheckOptions → Option Verdict

namespace Verdict

/- Accept a value as it is. -/
def accept
    (value : Json) : Verdict :=
  .ok (some value)

/- Refuse a value for one complaint. -/
def refuse
    (path : String)
    (c : Complaint) : Verdict :=
  .error [Violation.of path c]

/- Accept a value if nothing is wrong with it. -/
def ofViolations
    (value : Json)
    (vs : List Violation) : Verdict :=
  if vs.isEmpty then .ok (some value) else .error vs

/- The violations of a verdict. -/
def violations : Verdict → List Violation
  | .ok _ => []
  | .error vs => vs

/- The accepted value of a verdict. -/
def value? : Verdict → Option Json
  | .ok v => v
  | .error _ => none

end Verdict

namespace Graph

------------------------------------------------------------
-- Objects
------------------------------------------------------------

/- The verdicts on the declared properties, in their order. -/
def declaredVerdicts
    (inner : Checker)
    (members : List (String × Json))
    (path : String)
    (options : CheckOptions)
    (properties : List (String × ValidatorId)) :
    Option (List (String × Verdict)) :=
  properties.mapM (fun (name, id) =>
    (inner id (members.lookup name)
      (Violation.memberPath path name) options).map
      (fun verdict => (name, verdict)))

/- The verdict on a key that is not declared. -/
def unknownVerdict
    (inner : Checker)
    (rule : ObjectRule)
    (path : String)
    (options : CheckOptions)
    (name : String)
    (value : Json) : Option Verdict :=
  match rule.unknown with
  | .schema id =>
      inner id (some value) (Violation.memberPath path name) options
  | policy =>
      if rule.properties.isNone then
        some (.ok (some value))
      else
        match policy with
        | .ignore =>
            some (.ok (if options.stripUnknown then none else some value))
        | .reject =>
            if options.stripUnknown then
              some (.ok none)
            else
              some
                (Verdict.refuse (Violation.memberPath path name)
                  .unknownKey)
        | _ => some (.ok (some value))

/- The verdicts on the keys that are not declared, in their order. -/
def unknownVerdicts
    (inner : Checker)
    (rule : ObjectRule)
    (path : String)
    (options : CheckOptions)
    (members : List (String × Json)) :
    Option (List (String × Verdict)) :=
  let declared := rule.properties.getD []
  (members.filter (fun m => (declared.lookup m.1).isNone)).mapM
    (fun (name, value) =>
      (unknownVerdict inner rule path options name value).map
        (fun verdict => (name, verdict)))

/- The members that were accepted. -/
def acceptedMembers
    (verdicts : List (String × Verdict)) : List (String × Json) :=
  Members.ofList
    (verdicts.filterMap (fun (name, verdict) =>
      verdict.value?.map (fun value => (name, value))))

/-
  Check an object: the declared properties, then the other
  keys, then the number of keys.
-/
def checkObject
    (inner : Checker)
    (rule : ObjectRule)
    (value : Json)
    (path : String)
    (options : CheckOptions) : Option Verdict :=
  match value with
  | .object members => do
      let declared ←
        declaredVerdicts inner members path options
          (rule.properties.getD [])
      let unknown ← unknownVerdicts inner rule path options members
      let verdicts := declared ++ unknown
      let vs :=
        verdicts.flatMap (fun entry => entry.2.violations)
          ++ rule.checkCount members.length path
      return Verdict.ofViolations
        (.object (acceptedMembers verdicts)) vs
  | _ => some (Verdict.refuse path .notObject)

------------------------------------------------------------
-- Arrays
------------------------------------------------------------

/- The verdict on one item. -/
def itemVerdict
    (inner : Checker)
    (rule : ArrayRule)
    (path : String)
    (options : CheckOptions)
    (value : Json)
    (i : Nat) : Option Verdict :=
  match rule.items with
  | some id =>
      inner id (some value) (Violation.itemPath path i) options
  | none => some (.ok (some value))

/- Check an array: its items, then its length and uniqueness. -/
def checkArray
    (inner : Checker)
    (rule : ArrayRule)
    (value : Json)
    (path : String)
    (options : CheckOptions) : Option Verdict :=
  match value with
  | .array items => do
      let verdicts ←
        items.zipIdx.mapM (fun (x, i) =>
          itemVerdict inner rule path options x i)
      let vs :=
        verdicts.flatMap Verdict.violations
          ++ rule.checkItems items path
      return Verdict.ofViolations
        (.array (verdicts.filterMap Verdict.value?)) vs
  | _ => some (Verdict.refuse path .notArray)

------------------------------------------------------------
-- Alternatives and Intersections
------------------------------------------------------------

/- The verdict of the first alternative that accepts a value. -/
def checkAlternatives
    (inner : Checker)
    (value : Json)
    (path : String)
    (options : CheckOptions) :
    List ValidatorId → Option Verdict
  | [] => some (Verdict.refuse path .noAlternative)
  | id :: rest =>
      match inner id (some value) path options with
      | none => none
      | some (.ok accepted) => some (.ok accepted)
      | some (.error _) =>
          checkAlternatives inner value path options rest

/- The validator of a part of an intersection that applies. -/
def effective
    (inner : Checker)
    (value : Json)
    (path : String)
    (options : CheckOptions) :
    Branch → Option (Option ValidatorId)
  | .schema id => some (some id)
  | .conditional test pass fail =>
      (inner test (some value) path options).map (fun verdict =>
        match verdict with
        | .ok _ => pass
        | .error _ => fail)

/- The violations of one part of an intersection. -/
def branchViolations
    (inner : Checker)
    (value : Json)
    (path : String)
    (options : CheckOptions)
    (branch : Branch) : Option (List Violation) := do
  match ← effective inner value path options branch with
  | none => return []
  | some id =>
      return (← inner id (some value) path options).violations

/-
  Check an intersection.  Every part is checked, always with
  unknown keys dropped, since each may declare only some of
  the keys; the accepted value is the value itself.
-/
def checkAll
    (inner : Checker)
    (branches : List Branch)
    (value : Json)
    (path : String) : Option Verdict := do
  let vs ←
    branches.mapM (branchViolations inner value path ⟨true⟩)
  return Verdict.ofViolations value vs.flatten

------------------------------------------------------------
-- Values
------------------------------------------------------------

/- Check a value against a rule. -/
def checkRule
    (g : Graph)
    (now : Calendar.Instant)
    (inner : Checker)
    (rule : Rule)
    (value : Json)
    (path : String)
    (options : CheckOptions) : Option Verdict :=
  match rule with
  | .any => some (Verdict.accept value)
  | .boolean =>
      match value with
      | .bool _ => some (Verdict.accept value)
      | _ => some (Verdict.refuse path .notBoolean)
  | .number rule =>
      some (Verdict.ofViolations value (rule.check value path))
  | .string rule =>
      some (Verdict.ofViolations value (rule.check value path))
  | .email rule =>
      some (Verdict.ofViolations value (rule.check value path))
  | .date rule =>
      some (Verdict.ofViolations value (rule.check now value path))
  | .time rule =>
      some (Verdict.ofViolations value (rule.check value path))
  | .custom type =>
      (type.check now value path).map (Verdict.ofViolations value)
  | .literal allowed =>
      if allowed.any (fun x => x.same value) then
        some (Verdict.accept value)
      else
        some (Verdict.refuse path (.notListed allowed))
  | .alternatives branches =>
      checkAlternatives inner value path options branches
  | .all branches => checkAll inner branches value path
  | .deferred c =>
      match g.cell? c with
      | some target => inner target (some value) path options
      | none => some (Verdict.accept value)
  | .object rule => checkObject inner rule value path options
  | .array rule => checkArray inner rule value path options

/-
  Check a value that may be absent against a validator: its
  presence first, then `null`, then its rule.
-/
def checkNode
    (g : Graph)
    (now : Calendar.Instant)
    (inner : Checker) : Checker :=
  fun id value path options =>
    match g.node? id with
    | none => none
    | some v =>
        match value with
        | none =>
            if v.presence = .required then
              some (Verdict.refuse path .required)
            else
              some (.ok none)
        | some value =>
            if v.presence = .forbidden then
              some (Verdict.refuse path .forbidden)
            else
              match value, v.allowNull with
              | .null, true => some (Verdict.accept .null)
              | _, _ =>
                  g.checkRule now inner v.rule value path options

/- Check a value within a budget of nested steps. -/
def checkWithin
    (g : Graph)
    (now : Calendar.Instant) : Nat → Checker
  | 0 => fun _ _ _ _ => none
  | budget + 1 => g.checkNode now (g.checkWithin now budget)

/- The steps that a check without an idle cycle may nest. -/
def checkBudget
    (g : Graph) : Option Json → Nat
  | none => 1
  | some value => (value.depth + 1) * (2 * g.size) + 1

/- Check a value that may be absent. -/
def check
    (g : Graph)
    (now : Calendar.Instant)
    (id : ValidatorId)
    (value : Option Json)
    (path : String)
    (options : CheckOptions) : Option Verdict :=
  g.checkWithin now (g.checkBudget value) id value path options

end Graph

end SchemaGraph
