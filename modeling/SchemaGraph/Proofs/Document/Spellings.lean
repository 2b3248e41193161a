import Mathlib
import SchemaGraph.Compile.Reference
import SchemaGraph.Proofs.Json.Routes

/-
  One node has many spellings, and one key.  The parts of a
  written pointer spell a route where each part, once it is
  unescaped, is a name or writes an index, possibly with
  zeros or a plus sign in front; empty parts count for
  nothing.  A walk follows just the routes that are spelled,
  and its result depends on the route alone.

  Main declarations:
    * `SpellsIndex`
    * `looseIndex?_eq_some_iff`
    * `Json.Spells`
    * `Json.TextSpells`
    * `looseWalk?_eq_some_iff`
    * `targetIn_eq_some_iff`
    * `targetIn_canonical`
-/

namespace SchemaGraph

------------------------------------------------------------
-- Written Indexes
------------------------------------------------------------

/-
  The text writes the index: its digits, after any number of
  zeros and at most one plus sign.
-/
def SpellsIndex
    (text : String)
    (i : Nat) : Prop :=
  ∃ sign zeros,
    (sign = [] ∨ sign = ['+']) ∧
      text.toList =
        sign ++ (List.replicate zeros '0' ++ Nat.toDigits 10 i)

/- Zeros in front do not count. -/
theorem ofDigitChars_zeros
    (zeros i : Nat) :
    Nat.ofDigitChars 10
        (List.replicate zeros '0' ++ Nat.toDigits 10 i) 0 =
      i := by
  induction zeros with
  | zero => exact Nat.ofDigitChars_ten_toDigits
  | succ zeros ih =>
      rw [List.replicate_succ, List.cons_append,
        Nat.ofDigitChars_cons]
      exact ih

/- Digits are those of a number, but for the zeros in front. -/
theorem exists_zeros
    {digits : List Char}
    (hSome : digits ≠ [])
    (hDigits : ∀ c ∈ digits, c.isDigit = true) :
    ∃ zeros,
      digits =
        List.replicate zeros '0' ++
          Nat.toDigits 10 (Nat.ofDigitChars 10 digits 0) := by
  induction digits with
  | nil => exact absurd rfl hSome
  | cons first rest ih =>
      by_cases hZero : first = '0'
      · subst hZero
        cases rest with
        | nil => exact ⟨0, rfl⟩
        | cons next more =>
            rcases ih (by simp)
              (fun c hMem => hDigits c (List.mem_cons_of_mem _ hMem))
              with ⟨zeros, hRest⟩
            refine ⟨zeros + 1, ?_⟩
            rw [Nat.ofDigitChars_cons, List.replicate_succ,
              List.cons_append]
            exact congrArg (List.cons '0') hRest
      · refine ⟨0, ?_⟩
        exact (Json.toDigits_ofDigitChars first rest hZero
          hDigits).2.symm

/- What spells an index has digits behind its sign. -/
theorem isDigit_of_mem_zeros
    {zeros i : Nat} :
    ∀ c ∈ List.replicate zeros '0' ++ Nat.toDigits 10 i,
      c.isDigit = true := by
  intro c hMem
  rcases List.mem_append.mp hMem with hZero | hDigit
  · rw [List.eq_of_mem_replicate hZero]
    rfl
  · exact Nat.isDigit_of_mem_toDigits (by omega) (by omega) hDigit

/- The digits of a text, without the sign in front. -/
theorem looseIndex?_of_digits
    {text : String}
    {sign digits : List Char}
    (hText : text.toList = sign ++ digits)
    (hSign : sign = [] ∨ sign = ['+'])
    (hSome : digits ≠ [])
    (hDigits : ∀ c ∈ digits, c.isDigit = true) :
    looseIndex? text =
      let n := Nat.ofDigitChars 10 digits 0
      if n ≤ largestCount then some n else none := by
  have hAll : digits.all Char.isDigit = true :=
    List.all_eq_true.mpr hDigits
  have hEmpty : digits.isEmpty = false := by
    simpa using hSome
  unfold looseIndex?
  rcases hSign with rfl | rfl
  · rw [List.nil_append] at hText
    rw [hText]
    split
    case h_1 rest =>
      -- A plus sign is no digit.
      exact absurd (hDigits '+' (by simp)) (by decide)
    case h_2 => simp [hAll, hEmpty]
  · rw [List.singleton_append] at hText
    simp [hText, hAll, hEmpty]

/- An index is read from digits behind at most one sign. -/
theorem exists_digits_of_looseIndex?
    {text : String}
    {i : Nat}
    (hRead : looseIndex? text = some i) :
    ∃ sign digits,
      (sign = [] ∨ sign = ['+']) ∧
        text.toList = sign ++ digits ∧
        digits ≠ [] ∧
        ∀ c ∈ digits, c.isDigit = true := by
  unfold looseIndex? at hRead
  split at hRead
  case h_1 rest hText =>
    dsimp only at hRead
    split at hRead
    case isTrue => cases hRead
    case isFalse hGood =>
      exact ⟨['+'], rest, Or.inr rfl, hText, by simpa using hGood⟩
  case h_2 =>
    dsimp only at hRead
    split at hRead
    case isTrue => cases hRead
    case isFalse hGood =>
      exact ⟨[], text.toList, Or.inl rfl, rfl, by simpa using hGood⟩

/- An index is read from its spellings, if it has 64 bits. -/
theorem looseIndex?_eq_some_iff
    {text : String}
    {i : Nat} :
    looseIndex? text = some i ↔
      SpellsIndex text i ∧ i ≤ largestCount := by
  constructor
  · intro hRead
    rcases exists_digits_of_looseIndex? hRead with
      ⟨sign, digits, hSign, hText, hSome, hDigits⟩
    rw [looseIndex?_of_digits hText hSign hSome hDigits] at hRead
    dsimp only at hRead
    split at hRead
    case isFalse => cases hRead
    case isTrue hBound =>
      cases hRead
      rcases exists_zeros hSome hDigits with ⟨zeros, hZeros⟩
      exact ⟨⟨sign, zeros, hSign, by rw [hText, ← hZeros]⟩, hBound⟩
  · rintro ⟨⟨sign, zeros, hSign, hText⟩, hBound⟩
    have hSome :
        List.replicate zeros '0' ++ Nat.toDigits 10 i ≠ [] := by
      simp [Nat.toDigits_ne_nil]
    rw [looseIndex?_of_digits hText hSign hSome isDigit_of_mem_zeros,
      ofDigitChars_zeros]
    exact if_pos hBound

/- The segment of an index spells it. -/
theorem spellsIndex_indexSegment
    (i : Nat) :
    SpellsIndex (Pointer.indexSegment i) i :=
  ⟨[], 0, Or.inl rfl, by simp [Pointer.indexSegment]⟩

------------------------------------------------------------
-- Spellings
------------------------------------------------------------

namespace Json

/- The text spells the move. -/
def Move.SpelledBy : Move → String → Prop
  | .member name, text => text = name
  | .item i _, text => SpellsIndex text i

/- Every move is spelled by its own segment. -/
theorem Move.spelledBy_segment
    (move : Move) :
    move.SpelledBy move.segment := by
  cases move with
  | member name => rfl
  | item i counts => exact spellsIndex_indexSegment i

/-
  The parts of a written pointer lead from a value along a
  route to a node.
-/
inductive Spells :
    Json → List String → List Move → Json → Prop where
  | here
      (value : Json) :
      Spells value [] [] value
  /- An empty part leads nowhere. -/
  | blank
      {value node : Json}
      {rest : List String}
      {route : List Move}
      (hRest : Spells value rest route node) :
      Spells value ("" :: rest) route node
  | step
      {value next node : Json}
      {part : String}
      {rest : List String}
      {move : Move}
      {route : List Move}
      (hPart : part ≠ "")
      (hSpelled : move.SpelledBy (Pointer.unescape part))
      (hMove : value.go? move = some next)
      (hRest : Spells next rest route node) :
      Spells value (part :: rest) (move :: route) node

/-
  A written pointer leads along a route to a node; what
  stands before its first slash is no part of it.
-/
def TextSpells
    (root : Json)
    (text : String)
    (route : List Move)
    (node : Json) : Prop :=
  root.Spells ((Pointer.slashParts text).drop 1) route node

/- What is spelled exists. -/
theorem Spells.at?_eq
    {value node : Json}
    {parts : List String}
    {route : List Move}
    (hSpells : value.Spells parts route node) :
    value.at? route = some node := by
  induction hSpells with
  | here => rfl
  | blank _ ih => exact ih
  | step _ _ hMove _ ih =>
      exact at?_cons_eq_some_iff.mpr ⟨_, hMove, ih⟩

end Json

------------------------------------------------------------
-- Walks
------------------------------------------------------------

/- A loose step is a move that is spelled. -/
theorem looseStep?_eq_some_iff
    {value next : Json}
    {text segment : String} :
    looseStep? value text = some (segment, next) ↔
      ∃ move : Json.Move,
        move.SpelledBy text ∧
          value.go? move = some next ∧
          segment = move.segment := by
  constructor
  · intro hStep
    cases value with
    | object members =>
        rcases Option.map_eq_some_iff.mp hStep with
          ⟨v, hLook, hPair⟩
        cases hPair
        exact ⟨.member text, rfl, hLook, rfl⟩
    | array items =>
        simp only [looseStep?, Option.bind_eq_bind,
          Option.bind_eq_some_iff] at hStep
        rcases hStep with ⟨i, hIndex, v, hItem, hPair⟩
        cases hPair
        rcases looseIndex?_eq_some_iff.mp hIndex with
          ⟨hSpells, hBound⟩
        exact ⟨.item i hBound, hSpells, hItem, rfl⟩
    | _ => cases hStep
  · rintro ⟨move, hSpelled, hMove, rfl⟩
    cases move with
    | member name =>
        have hName : text = name := hSpelled
        subst hName
        cases value with
        | object members =>
            exact Option.map_eq_some_iff.mpr ⟨next, hMove, rfl⟩
        | _ => cases hMove
    | item i counts =>
        have hIndex : looseIndex? text = some i :=
          looseIndex?_eq_some_iff.mpr ⟨hSpelled, counts⟩
        cases value with
        | array items =>
            have hItem : items[i]? = some next := hMove
            simp [looseStep?, hIndex, hItem, Json.Move.segment]
        | _ => cases hMove

/- A walk follows the routes that are spelled. -/
theorem looseWalk?_eq_some_iff
    {here p : Pointer}
    {value : Json}
    {parts : List String} :
    looseWalk? here value parts = some p ↔
      ∃ route node,
        value.Spells parts route node ∧
          p = ⟨here.segments ++ route.map Json.Move.segment⟩ := by
  constructor
  · intro hWalk
    induction parts generalizing here value with
    | nil =>
        cases hWalk
        exact ⟨[], value, .here value, by simp⟩
    | cons part rest ih =>
        rw [looseWalk?] at hWalk
        split at hWalk
        case isTrue hBlank =>
          subst hBlank
          rcases ih hWalk with ⟨route, node, hSpells, hEnd⟩
          exact ⟨route, node, .blank hSpells, hEnd⟩
        case isFalse hPart =>
          split at hWalk
          case h_2 => cases hWalk
          case h_1 segment next hStep =>
            rcases looseStep?_eq_some_iff.mp hStep with
              ⟨move, hSpelled, hMove, rfl⟩
            rcases ih hWalk with ⟨route, node, hSpells, rfl⟩
            exact ⟨move :: route, node,
              .step hPart hSpelled hMove hSpells,
              by simp [Pointer.child]⟩
  · rintro ⟨route, node, hSpells, rfl⟩
    induction hSpells generalizing here with
    | here => simp [looseWalk?]
    | blank _ ih => simpa [looseWalk?] using ih
    | step hPart hSpelled hMove _ ih =>
        have hStep :=
          looseStep?_eq_some_iff.mpr ⟨_, hSpelled, hMove, rfl⟩
        rw [looseWalk?, if_neg hPart, hStep]
        dsimp only
        rw [ih]
        simp [Pointer.child]

variable {s : State}
variable {doc : DocId}
variable {d : Document}

/- The target of a written pointer is the end of its route. -/
theorem targetIn_eq_some_iff
    {text : String}
    {key : NodeKey}
    (hDoc : s.store.get? doc = some d) :
    targetIn s doc (some text) = some key ↔
      ∃ route node,
        d.root.TextSpells text route node ∧
          key = (NodeKey.root doc).along route := by
  simp only [targetIn, hDoc, Option.bind_some,
    Option.map_eq_some_iff, walk?, looseWalk?_eq_some_iff]
  constructor
  · rintro ⟨p, ⟨route, node, hSpells, rfl⟩, rfl⟩
    exact ⟨route, node, hSpells, (NodeKey.along_root doc route).symm⟩
  · rintro ⟨route, node, hSpells, rfl⟩
    exact ⟨_, ⟨route, node, hSpells, rfl⟩,
      (NodeKey.along_root doc route).symm⟩

/- Every spelling of a route leads to the key along it. -/
theorem Json.TextSpells.targetIn_eq
    {text : String}
    {route : List Json.Move}
    {node : Json}
    (hSpells : d.root.TextSpells text route node)
    (hDoc : s.store.get? doc = some d) :
    targetIn s doc (some text) =
      some ((NodeKey.root doc).along route) :=
  (targetIn_eq_some_iff hDoc).mpr ⟨route, node, hSpells, rfl⟩

/-
  Keys are canonical.  A walk that ends has a key that the
  strict reader of pointers follows to the very node, and it
  ends for every spelling of a position.  Two walks have one
  key, and its pointer one text, just where their texts
  spell the same position.
-/
theorem targetIn_canonical
    (hDoc : s.store.get? doc = some d) :
    (∀ text key,
      targetIn s doc (some text) = some key →
        key.doc = doc ∧
          ∃ route node,
            d.root.TextSpells text route node ∧
              d.root.at? route = some node ∧
              d.root.findText? key.pointer.text = some node) ∧
    (∀ text route node,
      d.root.TextSpells text route node →
        ∃ key, targetIn s doc (some text) = some key) ∧
    ∀ text other key last route way node place,
      targetIn s doc (some text) = some key →
        targetIn s doc (some other) = some last →
          d.root.TextSpells text route node →
            d.root.TextSpells other way place →
              (key = last ↔ route = way) ∧
                (key.pointer.text = last.pointer.text ↔
                  route = way) := by
  refine ⟨?_, ?_, ?_⟩
  · intro text key hTarget
    rcases (targetIn_eq_some_iff hDoc).mp hTarget with
      ⟨route, node, hSpells, rfl⟩
    have hAt := hSpells.at?_eq
    refine ⟨?_, route, node, hSpells, hAt,
      NodeKey.findText?_along doc hAt⟩
    rw [NodeKey.along_root]
  · intro text route node hSpells
    exact ⟨_, hSpells.targetIn_eq hDoc⟩
  · intro text other key last route way node place hKey hLast
      hSpells hOther
    rw [hSpells.targetIn_eq hDoc] at hKey
    rw [hOther.targetIn_eq hDoc] at hLast
    cases hKey
    cases hLast
    have hKeys :=
      NodeKey.along_eq_iff doc hSpells.at?_eq hOther.at?_eq
    refine ⟨hKeys, ?_⟩
    rw [Pointer.text_inj, ← hKeys]
    simp [NodeKey.along_root]

/- A document with a name that is escaped, and a list. -/
def Document.withSlash : Document :=
  ⟨.object [("a/b", .array [.null, .bool true])], none, .inline⟩

/-
  The second item is spelled with and without an empty part,
  a sign and a zero; the first item is another position.
-/
theorem targetIn_canonical_withSlash :
    let root := Document.withSlash.root
    ∃ route node other first,
      root.TextSpells "//a~1b/+01" route node ∧
        root.TextSpells "/a~1b/1" route node ∧
        root.findText? "/a~1b/1" = some node ∧
        root.TextSpells "/a~1b/0" other first ∧
        other ≠ route := by
  intro root
  let s : State :=
    { State.initial with store := ⟨[Document.withSlash]⟩ }
  let list := (NodeKey.root ⟨0⟩).child "a/b"
  have hOdd :
      targetIn s ⟨0⟩ (some "//a~1b/+01") = some (list.index 1) := by
    decide +kernel
  have hPlain :
      targetIn s ⟨0⟩ (some "/a~1b/1") = some (list.index 1) := by
    decide +kernel
  have hFirst :
      targetIn s ⟨0⟩ (some "/a~1b/0") = some (list.index 0) := by
    decide +kernel
  have hText : (list.index 1).pointer.text = "/a~1b/1" := by
    decide +kernel
  have hDoc : s.store.get? ⟨0⟩ = some Document.withSlash := rfl
  rcases targetIn_canonical hDoc with ⟨hFound, _, hSame⟩
  rcases hFound _ _ hOdd with ⟨_, route, node, hSpells, hAt, hNode⟩
  rcases hFound _ _ hPlain with ⟨_, way, last, hAgain, hEnd, _⟩
  rcases hFound _ _ hFirst with ⟨_, other, first, hOther, _, _⟩
  have hWay : route = way :=
    (hSame _ _ _ _ _ _ _ _ hOdd hPlain hSpells hAgain).1.mp rfl
  subst hWay
  rw [hAt] at hEnd
  cases hEnd
  rw [hText] at hNode
  refine ⟨route, node, other, first, hSpells, hAgain, hNode, hOther,
    ?_⟩
  intro hEqual
  have hKeys :=
    (hSame _ _ _ _ _ _ _ _ hFirst hOdd hOther hSpells).1.mpr hEqual
  exact absurd hKeys (by decide +kernel)

end SchemaGraph
