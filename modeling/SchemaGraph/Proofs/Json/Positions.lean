import Mathlib
import SchemaGraph.Pointer
import SchemaGraph.Proofs.Json.Members

/-
  The positions of a value.  Every pointer that leads to a
  position is listed, and the list is as long as the number
  of positions: indexes are written in one way only, so that
  one position has one pointer.

  Main declarations:
    * `Json.canonicalIndex?_indexSegment`
    * `Json.eq_indexSegment_of_canonicalIndex?`
    * `Json.pointers`
    * `Json.length_pointers`
    * `Json.mem_pointers_of_findSegments?`
-/

namespace SchemaGraph

namespace Json

------------------------------------------------------------
-- Indexes
------------------------------------------------------------

/- A digit of a text is the digit of its value. -/
theorem digitChar_of_isDigit
    {c : Char}
    (hDigit : c.isDigit = true) :
    (c.toNat - '0'.toNat).digitChar = c ∧
      c.toNat - '0'.toNat < 10 := by
  have hRange : 48 ≤ c.toNat ∧ c.toNat ≤ 57 := by
    simp only [Char.isDigit, Bool.and_eq_true, decide_eq_true_eq]
      at hDigit
    exact ⟨hDigit.1, hDigit.2⟩
  have hChar : c = Char.ofNat c.toNat := (Char.ofNat_toNat c).symm
  rcases hRange with ⟨hLow, hHigh⟩
  have hZero : '0'.toNat = 48 := rfl
  rw [hZero]
  refine ⟨?_, by omega⟩
  rw [hChar]
  generalize c.toNat = n at hLow hHigh
  interval_cases n <;> decide

/- A number that does not start with zero is written in one way. -/
theorem toDigits_ofDigitChars
    (first : Char)
    (rest : List Char)
    (hFirst : first ≠ '0')
    (hDigits : ∀ c ∈ first :: rest, c.isDigit = true) :
    0 < Nat.ofDigitChars 10 (first :: rest) 0 ∧
      Nat.toDigits 10 (Nat.ofDigitChars 10 (first :: rest) 0) =
        first :: rest := by
  induction rest using List.reverseRecOn with
  | nil =>
      rcases digitChar_of_isDigit (hDigits first (by simp)) with
        ⟨hDigit, hLt⟩
      rw [Nat.ofDigitChars_cons, Nat.ofDigitChars_nil,
        Nat.mul_zero, Nat.zero_add, Nat.toDigits_of_lt_base hLt,
        hDigit]
      refine ⟨?_, rfl⟩
      rcases Nat.eq_zero_or_pos (first.toNat - '0'.toNat) with
        hZero | hPos
      · rw [hZero] at hDigit
        exact absurd hDigit.symm hFirst
      · exact hPos
  | append_singleton rest last ih =>
      have hLead : ∀ c ∈ first :: rest, c.isDigit = true :=
        fun c hc => hDigits c (by
          rcases List.mem_cons.mp hc with rfl | hMem
          · simp
          · simp [hMem])
      rcases ih hLead with ⟨hPos, hRead⟩
      rcases digitChar_of_isDigit (hDigits last (by simp)) with
        ⟨hDigit, hLt⟩
      have hValue :
          Nat.ofDigitChars 10 (first :: (rest ++ [last])) 0 =
            10 * Nat.ofDigitChars 10 (first :: rest) 0
              + (last.toNat - '0'.toNat) := by
        rw [← List.cons_append, Nat.ofDigitChars_append,
          Nat.ofDigitChars_cons, Nat.ofDigitChars_nil]
      rw [hValue]
      refine ⟨by omega, ?_⟩
      rw [← Nat.toDigits_append_toDigits (by omega) hPos hLt,
        hRead, Nat.toDigits_of_lt_base hLt, hDigit,
        List.cons_append]

/- A positive number is not written with a leading zero. -/
theorem head?_toDigits_ne
    {n : Nat}
    (hPos : 0 < n) :
    (Nat.toDigits 10 n).head? ≠ some '0' := by
  induction n using Nat.strongRecOn with
  | ind n ih =>
      by_cases hSmall : n < 10
      · rw [Nat.toDigits_of_lt_base hSmall]
        interval_cases n <;> decide
      · rw [Nat.toDigits_of_base_le (by omega) (by omega),
          List.head?_append_of_ne_nil _ Nat.toDigits_ne_nil]
        exact ih (n / 10) (by omega) (by omega)

/- Reading a written index. -/
@[simp] theorem canonicalIndex?_indexSegment
    (i : Nat) :
    canonicalIndex? (Pointer.indexSegment i) = some i := by
  unfold canonicalIndex? Pointer.indexSegment
  rw [String.toList_ofList]
  have hRead : Nat.ofDigitChars 10 (Nat.toDigits 10 i) 0 = i :=
    Nat.ofDigitChars_ten_toDigits
  have hDigits : (Nat.toDigits 10 i).all Char.isDigit = true := by
    rw [List.all_eq_true]
    intro c hc
    exact Nat.isDigit_of_mem_toDigits (by omega) (by omega) hc
  split
  case h_1 hNil => exact absurd hNil Nat.toDigits_ne_nil
  case h_2 hZero =>
    rw [hZero] at hRead
    exact congrArg some hRead
  case h_3 rest hRest hLead =>
    have hZero : i = 0 := by
      by_contra hNonzero
      exact head?_toDigits_ne (Nat.pos_of_ne_zero hNonzero)
        (by rw [hLead]; rfl)
    rw [hZero, Nat.toDigits_zero] at hLead
    cases hLead
    exact absurd rfl hRest
  case h_4 => rw [if_pos hDigits, hRead]

/- An index is read from its written form only. -/
theorem eq_indexSegment_of_canonicalIndex?
    {segment : String}
    {i : Nat}
    (hRead : canonicalIndex? segment = some i) :
    segment = Pointer.indexSegment i := by
  rw [Pointer.indexSegment, ← String.toList_inj,
    String.toList_ofList]
  unfold canonicalIndex? at hRead
  split at hRead
  case h_1 => cases hRead
  case h_2 hZero =>
    cases hRead
    rw [hZero, Nat.toDigits_zero]
  case h_3 => cases hRead
  case h_4 hNil _ hLead =>
    cases hText : segment.toList with
    | nil => exact absurd hText hNil
    | cons first rest =>
        rw [hText] at hRead hLead
        split at hRead
        case isTrue hDigits =>
          cases hRead
          rw [List.all_eq_true] at hDigits
          have hFirst : first ≠ '0' := by
            rintro rfl
            exact hLead rest rfl
          exact (toDigits_ofDigitChars first rest hFirst
            hDigits).2.symm
        case isFalse => cases hRead

------------------------------------------------------------
-- Steps
------------------------------------------------------------

/- Following segments one after another. -/
theorem findSegments?_append
    (value : Json)
    (first rest : List String) :
    findSegments? value (first ++ rest) =
      (findSegments? value first).bind
        (fun next => findSegments? next rest) := by
  induction first generalizing value with
  | nil => rfl
  | cons segment first ih =>
      rw [List.cons_append, findSegments?, findSegments?]
      cases step? value segment with
      | none => rfl
      | some next => exact ih next

/- The root pointer leads to the value itself. -/
@[simp] theorem find?_root
    (value : Json) :
    value.find? Pointer.root = some value := rfl

/- The pointer to a member leads one step further. -/
theorem find?_child
    (value : Json)
    (p : Pointer)
    (segment : String) :
    value.find? (p.child segment) =
      (value.find? p).bind (fun next => next.step? segment) := by
  rw [find?, Pointer.child, findSegments?_append]
  congr 1
  funext next
  simp only [findSegments?]
  cases step? next segment <;> rfl

/- A step into an object is a look at a member. -/
theorem step?_of_member?
    {value next : Json}
    {name : String}
    (hMember : value.member? name = some next) :
    value.step? name = some next := by
  cases value <;> first | exact hMember | cases hMember

/- A step to an item of an array. -/
theorem step?_indexSegment
    (items : List Json)
    (i : Nat) :
    (array items).step? (Pointer.indexSegment i) = items[i]? := by
  simp [step?]

------------------------------------------------------------
-- Lists of Pointers
------------------------------------------------------------

mutual

/- The segments that lead to the positions of a value. -/
def pointers : Json → List (List String)
  | null => [[]]
  | bool _ => [[]]
  | number _ => [[]]
  | string _ => [[]]
  | array items => [] :: pointersItems 0 items
  | object members => [] :: pointersMembers members

/- The segments that lead into items, from a position on. -/
def pointersItems : Nat → List Json → List (List String)
  | _, [] => []
  | i, x :: rest =>
      (pointers x).map (fun s => Pointer.indexSegment i :: s)
        ++ pointersItems (i + 1) rest

/- The segments that lead into members. -/
def pointersMembers : List (String × Json) → List (List String)
  | [] => []
  | (name, x) :: rest =>
      (pointers x).map (fun s => name :: s) ++ pointersMembers rest

end

mutual

/- There are as many pointers as positions. -/
theorem length_pointers :
    ∀ value : Json, value.pointers.length = value.positions
  | null => rfl
  | bool _ => rfl
  | number _ => rfl
  | string _ => rfl
  | array items => by
      rw [pointers, positions, List.length_cons,
        length_pointersItems 0 items]
  | object members => by
      rw [pointers, positions, List.length_cons,
        length_pointersMembers members]

/- There are as many pointers into items as positions in them. -/
theorem length_pointersItems :
    ∀ (i : Nat) (items : List Json),
      (pointersItems i items).length = positionsItems items
  | _, [] => rfl
  | i, x :: rest => by
      rw [pointersItems, positionsItems, List.length_append,
        List.length_map, length_pointers x,
        length_pointersItems (i + 1) rest]

/- There are as many pointers into members as positions in them. -/
theorem length_pointersMembers :
    ∀ members : List (String × Json),
      (pointersMembers members).length = positionsMembers members
  | [] => rfl
  | (_, x) :: rest => by
      rw [pointersMembers, positionsMembers, List.length_append,
        List.length_map, length_pointers x,
        length_pointersMembers rest]

end

/- The empty pointer is listed first. -/
theorem nil_mem_pointers
    (value : Json) :
    [] ∈ value.pointers := by
  cases value <;> simp [pointers]

/- Pointers into an item are listed behind its index. -/
theorem mem_pointersItems
    {items : List Json}
    (start : Nat)
    {i : Nat}
    {x : Json}
    {segments : List String}
    (hItem : items[i]? = some x)
    (hMem : segments ∈ x.pointers) :
    Pointer.indexSegment (start + i) :: segments ∈
      pointersItems start items := by
  induction items generalizing start i with
  | nil => simp at hItem
  | cons y rest ih =>
      rw [pointersItems]
      cases i with
      | zero =>
          cases hItem
          exact List.mem_append_left _
            (List.mem_map.mpr ⟨segments, hMem, rfl⟩)
      | succ i =>
          have hRest := ih (start + 1) (i := i) hItem
          rw [Nat.add_assoc, Nat.add_comm 1 i] at hRest
          exact List.mem_append_right _ hRest

/- Pointers into a member are listed behind its name. -/
theorem mem_pointersMembers
    {members : List (String × Json)}
    {name : String}
    {x : Json}
    {segments : List String}
    (hMember : members.lookup name = some x)
    (hMem : segments ∈ x.pointers) :
    name :: segments ∈ pointersMembers members := by
  induction members with
  | nil => cases hMember
  | cons entry rest ih =>
      rcases entry with ⟨other, y⟩
      rw [pointersMembers]
      rw [lookup_cons_eq_ite] at hMember
      by_cases hSame : name = other
      · subst hSame
        rw [if_pos rfl] at hMember
        cases hMember
        exact List.mem_append_left _
          (List.mem_map.mpr ⟨segments, hMem, rfl⟩)
      · rw [if_neg hSame] at hMember
        exact List.mem_append_right _ (ih hMember)

/- Every pointer that leads to a position is listed. -/
theorem mem_pointers_of_findSegments?
    {value found : Json}
    {segments : List String}
    (hFound : findSegments? value segments = some found) :
    segments ∈ value.pointers := by
  induction segments generalizing value with
  | nil => exact nil_mem_pointers value
  | cons segment rest ih =>
      rw [findSegments?] at hFound
      cases hStep : step? value segment with
      | none => simp [hStep] at hFound
      | some next =>
          simp only [hStep] at hFound
          have hRest := ih hFound
          cases value with
          | object members =>
              exact List.mem_cons_of_mem _
                (mem_pointersMembers hStep hRest)
          | array items =>
              rw [step?] at hStep
              rcases Option.bind_eq_some_iff.mp hStep with
                ⟨i, hIndex, hItem⟩
              rw [eq_indexSegment_of_canonicalIndex? hIndex]
              have hMem :=
                mem_pointersItems 0 hItem hRest
              rw [Nat.zero_add] at hMem
              exact List.mem_cons_of_mem _ hMem
          | null => cases hStep
          | bool b => cases hStep
          | number n => cases hStep
          | string text => cases hStep

end Json

end SchemaGraph
