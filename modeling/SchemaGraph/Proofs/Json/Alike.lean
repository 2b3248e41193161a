import Mathlib
import SchemaGraph.Json.Equality
import SchemaGraph.Proofs.Check.Pruning
import SchemaGraph.Proofs.Json.Members

/-
  Values of one structure.  Two values are alike with respect
  to a relation of numbers if they differ in their numbers
  only, and related numbers are at corresponding positions:
  arrays correspond item by item, and objects name by name.

  The comparison of values compares their numbers in this
  sense: canonical values are the same exactly if they are
  alike with respect to the comparison of numbers.

  Main declarations:
    * `Json.Holds`
    * `Json.Alike`
    * `Json.equivalence_alike`
    * `Json.Alike.imp`
    * `Json.same_iff_alike`
-/

namespace SchemaGraph

namespace Json

------------------------------------------------------------
-- Values of One Structure
------------------------------------------------------------

/- A number is somewhere in a value. -/
inductive Holds : Json → Number → Prop where
  | here
      {n : Number} :
      Holds (.number n) n
  | item
      {items : List Json}
      {x : Json}
      {n : Number}
      (hMem : x ∈ items)
      (hHolds : Holds x n) :
      Holds (.array items) n
  | member
      {members : List (String × Json)}
      {name : String}
      {x : Json}
      {n : Number}
      (hMem : (name, x) ∈ members)
      (hHolds : Holds x n) :
      Holds (.object members) n

/- A number holds itself only. -/
@[simp] theorem holds_number_iff
    {m n : Number} :
    (number m).Holds n ↔ n = m := by
  constructor
  · rintro ⟨⟩
    rfl
  · rintro rfl
    exact Holds.here

/- An array holds what its items hold. -/
@[simp] theorem holds_array_iff
    {n : Number}
    {items : List Json} :
    (array items).Holds n ↔ ∃ x ∈ items, x.Holds n := by
  constructor
  · rintro (_ | ⟨hMem, hHolds⟩)
    exact ⟨_, hMem, hHolds⟩
  · rintro ⟨x, hMem, hHolds⟩
    exact Holds.item hMem hHolds

/- An object holds what its members hold. -/
@[simp] theorem holds_object_iff
    {n : Number}
    {members : List (String × Json)} :
    (object members).Holds n ↔
      ∃ entry ∈ members, entry.2.Holds n := by
  constructor
  · rintro (_ | _ | ⟨hMem, hHolds⟩)
    exact ⟨_, hMem, hHolds⟩
  · rintro ⟨⟨name, x⟩, hMem, hHolds⟩
    exact Holds.member hMem hHolds

/- Two values with the same structure and with related numbers. -/
inductive Alike
    (R : Number → Number → Prop) : Json → Json → Prop where
  | null : Alike R .null .null
  | bool (b : Bool) : Alike R (.bool b) (.bool b)
  | number
      {m n : Number}
      (hRelated : R m n) :
      Alike R (.number m) (.number n)
  | string (text : String) : Alike R (.string text) (.string text)
  | array
      {xs ys : List Json}
      (hLength : xs.length = ys.length)
      (hItems :
        ∀ (i : Nat) (x y : Json),
          xs[i]? = some x → ys[i]? = some y → Alike R x y) :
      Alike R (.array xs) (.array ys)
  | object
      {ms ns : List (String × Json)}
      (hNames :
        ∀ name,
          (ms.lookup name).isSome = (ns.lookup name).isSome)
      (hMembers :
        ∀ name x y,
          ms.lookup name = some x → ns.lookup name = some y →
            Alike R x y) :
      Alike R (.object ms) (.object ns)

/- Values are made of items and of members. -/
theorem inductionOnParts
    {P : Json → Prop}
    (null : P .null)
    (bool : ∀ b, P (.bool b))
    (number : ∀ n, P (.number n))
    (string : ∀ text, P (.string text))
    (array : ∀ items, (∀ x ∈ items, P x) → P (.array items))
    (object :
      ∀ members,
        (∀ entry ∈ members, P entry.2) → P (.object members))
    (a : Json) :
    P a := by
  induction hDepth : a.depth using Nat.strong_induction_on
    generalizing a with
  | _ depth ih =>
      cases a with
      | null => exact null
      | bool b => exact bool b
      | number n => exact number n
      | string text => exact string text
      | array items =>
          apply array
          intro x hMem
          exact ih _ (by rw [← hDepth]; exact depth_lt_of_mem_items hMem)
            x rfl
      | object members =>
          apply object
          intro entry hMem
          exact ih _
            (by rw [← hDepth]; exact depth_lt_of_mem_members hMem)
            entry.2 rfl

section Relations

variable {R S : Number → Number → Prop}
variable {a b c : Json}

/- Every value is alike to itself if every number is related to itself. -/
theorem Alike.refl
    (hRefl : ∀ n, R n n)
    (a : Json) :
    a.Alike R a := by
  induction a using inductionOnParts with
  | null => exact Alike.null
  | bool b => exact Alike.bool b
  | number n => exact Alike.number (hRefl n)
  | string text => exact Alike.string text
  | array items ih =>
      refine Alike.array rfl ?_
      intro i x y hFirst hSecond
      cases hFirst.symm.trans hSecond
      exact ih x (List.mem_of_getElem? hFirst)
  | object members ih =>
      refine Alike.object (fun _ => rfl) ?_
      intro name x y hFirst hSecond
      cases hFirst.symm.trans hSecond
      exact ih _ (mem_of_lookup_eq_some hFirst)

/- Values that are alike are so in the other direction. -/
theorem Alike.symm
    (hSymm : ∀ m n, R m n → S n m)
    (hAlike : a.Alike R b) :
    b.Alike S a := by
  induction hAlike with
  | null => exact Alike.null
  | bool b => exact Alike.bool b
  | number hRelated => exact Alike.number (hSymm _ _ hRelated)
  | string text => exact Alike.string text
  | array hLength _ ih =>
      exact Alike.array hLength.symm
        (fun i y x hSecond hFirst => ih i x y hFirst hSecond)
  | object hNames _ ih =>
      exact Alike.object (fun name => (hNames name).symm)
        (fun name y x hSecond hFirst => ih name x y hFirst hSecond)

/- Values that are alike to one value are alike. -/
theorem Alike.trans
    (hTrans : ∀ l m n, R l m → R m n → R l n)
    (hFirst : a.Alike R b)
    (hSecond : b.Alike R c) :
    a.Alike R c := by
  induction hFirst generalizing c with
  | null => exact hSecond
  | bool b => exact hSecond
  | number hRelated =>
      cases hSecond with
      | number hNext => exact Alike.number (hTrans _ _ _ hRelated hNext)
  | string text => exact hSecond
  | array hLength hItems ih =>
      cases hSecond with
      | array hLengthNext hItemsNext =>
          refine Alike.array (hLength.trans hLengthNext) ?_
          intro i x z hX hZ
          have hBound := (List.getElem?_eq_some_iff.mp hX).1
          rw [hLength] at hBound
          have hY := List.getElem?_eq_getElem hBound
          exact ih i x _ hX hY (hItemsNext i _ z hY hZ)
  | object hNames hMembers ih =>
      cases hSecond with
      | object hNamesNext hMembersNext =>
          refine Alike.object
            (fun name => (hNames name).trans (hNamesNext name)) ?_
          intro name x z hX hZ
          have hSome := hNames name
          rw [hX, Option.isSome_some] at hSome
          rcases Option.isSome_iff_exists.mp hSome.symm with ⟨y, hY⟩
          exact ih name x y hX hY (hMembersNext name y z hY hZ)

/- Being alike is an equivalence if the relation of numbers is one. -/
theorem equivalence_alike
    (hEquivalence : Equivalence R) :
    Equivalence (Alike R) where
  refl := Alike.refl hEquivalence.refl
  symm := Alike.symm (fun _ _ => hEquivalence.symm)
  trans := Alike.trans (fun _ _ _ => hEquivalence.trans)

/- Only the numbers that the values hold have to be related. -/
theorem Alike.imp
    (hImp : ∀ m n, a.Holds m → b.Holds n → R m n → S m n)
    (hAlike : a.Alike R b) :
    a.Alike S b := by
  induction hAlike with
  | null => exact Alike.null
  | bool b => exact Alike.bool b
  | number hRelated =>
      exact Alike.number (hImp _ _ Holds.here Holds.here hRelated)
  | string text => exact Alike.string text
  | array hLength _ ih =>
      refine Alike.array hLength ?_
      intro i x y hX hY
      refine ih i x y hX hY ?_
      intro m n hM hN
      exact hImp m n (.item (List.mem_of_getElem? hX) hM)
        (.item (List.mem_of_getElem? hY) hN)
  | object hNames _ ih =>
      refine Alike.object hNames ?_
      intro name x y hX hY
      refine ih name x y hX hY ?_
      intro m n hM hN
      exact hImp m n (.member (mem_of_lookup_eq_some hX) hM)
        (.member (mem_of_lookup_eq_some hY) hN)

end Relations

------------------------------------------------------------
-- Comparing Values
------------------------------------------------------------

/- Lists of items are the same if their items are, in order. -/
theorem sameItems_iff
    {xs ys : List Json} :
    sameItems xs ys = true ↔
      xs.length = ys.length ∧
        ∀ (i : Nat) (x y : Json),
          xs[i]? = some x → ys[i]? = some y → x.same y = true := by
  induction xs generalizing ys with
  | nil =>
      cases ys with
      | nil => simp [sameItems]
      | cons y ys => simp [sameItems]
  | cons first xs ih =>
      cases ys with
      | nil => simp [sameItems]
      | cons second ys =>
          rw [sameItems, Bool.and_eq_true, ih]
          constructor
          · rintro ⟨hHeads, hLength, hItems⟩
            refine ⟨congrArg Nat.succ hLength, ?_⟩
            intro i x y hX hY
            cases i with
            | zero =>
                cases hX
                cases hY
                exact hHeads
            | succ i => exact hItems i x y hX hY
          · rintro ⟨hLength, hItems⟩
            exact ⟨hItems 0 first second rfl rfl,
              Nat.succ.inj hLength,
              fun i x y hX hY => hItems (i + 1) x y hX hY⟩

/- Members are among others if each finds the same under its name. -/
theorem sameMembers_iff
    {ms ns : List (String × Json)} :
    sameMembers ms ns = true ↔
      ∀ name x, (name, x) ∈ ms →
        ∃ y, ns.lookup name = some y ∧ x.same y = true := by
  induction ms with
  | nil => simp [sameMembers]
  | cons entry ms ih =>
      rcases entry with ⟨name, x⟩
      have hFirst :
          sameMembers ((name, x) :: ms) ns = true ↔
            (∃ y, ns.lookup name = some y ∧ x.same y = true) ∧
              sameMembers ms ns = true := by
        rw [sameMembers, Bool.and_eq_true]
        cases ns.lookup name <;> simp
      rw [hFirst, ih]
      simp only [List.mem_cons, Prod.mk.injEq]
      constructor
      · rintro ⟨hHead, hRest⟩ other y (⟨rfl, rfl⟩ | hMem)
        · exact hHead
        · exact hRest other y hMem
      · intro hAll
        exact ⟨hAll name x (Or.inl ⟨rfl, rfl⟩),
          fun other y hMem => hAll other y (Or.inr hMem)⟩

/- Objects are the same if each name finds the same in both. -/
theorem same_object_iff
    {ms ns : List (String × Json)}
    (hFirst : Members.Sorted ms)
    (hSecond : Members.Sorted ns) :
    (object ms).same (object ns) = true ↔
      (∀ name, (ms.lookup name).isSome = (ns.lookup name).isSome) ∧
        ∀ name x y,
          ms.lookup name = some x → ns.lookup name = some y →
            x.same y = true := by
  rw [same, Bool.and_eq_true, beq_iff_eq, sameMembers_iff]
  constructor
  · rintro ⟨hLength, hFound⟩
    have hNames :
        ms.map (fun e => e.1) ⊆ ns.map (fun e => e.1) := by
      intro name hMem
      rcases List.mem_map.mp hMem with ⟨⟨_, x⟩, hEntry, rfl⟩
      rcases hFound _ x hEntry with ⟨y, hLookup, _⟩
      exact List.mem_map.mpr
        ⟨(_, y), mem_of_lookup_eq_some hLookup, rfl⟩
    refine ⟨Members.isSome_lookup_eq hFirst hLength hNames, ?_⟩
    intro name x y hX hY
    rcases hFound name x (mem_of_lookup_eq_some hX) with
      ⟨z, hZ, hSame⟩
    cases hY.symm.trans hZ
    exact hSame
  · rintro ⟨hNames, hSame⟩
    refine ⟨Members.length_eq_of_isSome_lookup hFirst hSecond hNames,
      ?_⟩
    intro name x hEntry
    have hX := Members.lookup_of_mem hFirst hEntry
    have hSome := hNames name
    rw [hX, Option.isSome_some] at hSome
    rcases Option.isSome_iff_exists.mp hSome.symm with ⟨y, hY⟩
    exact ⟨y, hY, hSame name x y hX hY⟩

section Canonical

variable {a b : Json}

/- Canonical values that are the same have a common structure. -/
theorem alike_of_same
    (hFirst : a.Canonical)
    (hSecond : b.Canonical)
    (hSame : a.same b = true) :
    a.Alike (fun m n => m.same n = true) b := by
  induction a using inductionOnParts generalizing b with
  | null =>
      cases b with
      | null => exact Alike.null
      | _ => cases hSame
  | bool x =>
      cases b with
      | bool y =>
          rw [same, beq_iff_eq] at hSame
          rw [hSame]
          exact Alike.bool y
      | _ => cases hSame
  | number m =>
      cases b with
      | number n => exact Alike.number hSame
      | _ => cases hSame
  | string s =>
      cases b with
      | string t =>
          rw [same, beq_iff_eq] at hSame
          rw [hSame]
          exact Alike.string t
      | _ => cases hSame
  | array xs ih =>
      cases b with
      | array ys =>
          rcases sameItems_iff.mp hSame with ⟨hLength, hItems⟩
          refine Alike.array hLength ?_
          intro i x y hX hY
          have hMemX := List.mem_of_getElem? hX
          exact ih x hMemX (hFirst.item hMemX)
            (hSecond.item (List.mem_of_getElem? hY))
            (hItems i x y hX hY)
      | _ => cases hSame
  | object ms ih =>
      cases b with
      | object ns =>
          rcases (same_object_iff hFirst.sorted
            hSecond.sorted).mp hSame with ⟨hNames, hMembers⟩
          refine Alike.object hNames ?_
          intro name x y hX hY
          have hMemX := mem_of_lookup_eq_some hX
          exact ih _ hMemX (hFirst.member hMemX)
            (hSecond.member (mem_of_lookup_eq_some hY))
            (hMembers name x y hX hY)
      | _ => cases hSame

/- Values of a common structure with the same numbers are the same. -/
theorem same_of_alike
    (hFirst : a.Canonical)
    (hSecond : b.Canonical)
    (hAlike : a.Alike (fun m n => m.same n = true) b) :
    a.same b = true := by
  induction hAlike with
  | null => rfl
  | bool b => exact beq_self_eq_true b
  | number hRelated => exact hRelated
  | string text => exact beq_self_eq_true text
  | array hLength _ ih =>
      refine sameItems_iff.mpr ⟨hLength, ?_⟩
      intro i x y hX hY
      exact ih i x y hX hY (hFirst.item (List.mem_of_getElem? hX))
        (hSecond.item (List.mem_of_getElem? hY))
  | object hNames _ ih =>
      refine (same_object_iff hFirst.sorted hSecond.sorted).mpr
        ⟨hNames, ?_⟩
      intro name x y hX hY
      exact ih name x y hX hY
        (hFirst.member (mem_of_lookup_eq_some hX))
        (hSecond.member (mem_of_lookup_eq_some hY))

/-
  Canonical values are the same if they are alike with
  respect to the comparison of numbers.
-/
theorem same_iff_alike
    (hFirst : a.Canonical)
    (hSecond : b.Canonical) :
    a.same b = true ↔ a.Alike (fun m n => m.same n = true) b :=
  ⟨alike_of_same hFirst hSecond, same_of_alike hFirst hSecond⟩

end Canonical

end Json

end SchemaGraph
