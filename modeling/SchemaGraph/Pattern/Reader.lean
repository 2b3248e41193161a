import SchemaGraph.Pattern.Node
import SchemaGraph.Unicode.Query
import SchemaGraph.Text.Blank

/-
  This file reads patterns from their text.  A text that is
  no pattern is refused without a reason.

  Inline flags choose whether case matters (`i`), whether
  `^` and `$` stand at lines (`m`), whether `.` takes line
  feeds (`s`), whether line endings are of any kind (`R`),
  whether classes are of Unicode or ASCII (`u`), and whether
  blanks and comments are skipped (`x`).  Laziness (`U`, `?`)
  is read and has no bearing on what matches.

  Without `u`, what could take single bytes of a character
  is refused.

  Key definitions include:
    * `Pattern.Flags`
    * `Pattern.Cursor`
    * `Pattern.readEscape`
    * `Pattern.readClass`
    * `Pattern.readBranches`
    * `Pattern.readNode?`
-/

namespace SchemaGraph

namespace Pattern

------------------------------------------------------------
-- Cursors
------------------------------------------------------------

/- The inline flags. -/
structure Flags where
  ignoreCase : Bool := false
  lines : Bool := false
  dotAll : Bool := false
  lazy : Bool := false
  unicode : Bool := true
  anyEnding : Bool := false
  spaced : Bool := false

/- What is left of a text, and what its reading depends on. -/
structure Cursor where
  rest : List Char
  flags : Flags
  names : List String

/- A step of reading; it may refuse the text. -/
abbrev Parse := StateT Cursor Option

/- Refuse the text. -/
def refuse
    {α : Type} : Parse α :=
  fun _ => none

/- Use an optional value, or refuse the text. -/
def orRefuse
    {α : Type} : Option α → Parse α
  | some a => pure a
  | none => refuse

/- The next character. -/
def peek : Parse (Option Char) := do
  return (← get).rest.head?

/- Go past the next character. -/
def advance : Parse Unit :=
  modify (fun c => ⟨c.rest.tail, c.flags, c.names⟩)

/- Drop the blanks and comments at the start of a text. -/
def dropIdle : Bool → List Char → List Char
  | _, [] => []
  | true, c :: cs =>
      dropIdle (!(c == '\n')) cs
  | false, c :: cs =>
      if Text.isBlank c then
        dropIdle false cs
      else if c = '#' then
        dropIdle true cs
      else
        c :: cs

/- Skip blanks and comments, where they are skipped. -/
def skipIdle : Parse Unit :=
  modify (fun c =>
    if c.flags.spaced then
      ⟨dropIdle false c.rest, c.flags, c.names⟩
    else
      c)

/- Go past the next character and what is skipped after it. -/
def advanceIdle : Parse Unit := do
  advance
  skipIdle

/- The character after the next one, past what is skipped. -/
def peekSecond : Parse (Option Char) := do
  let c ← get
  let rest := c.rest.tail
  return (if c.flags.spaced then dropIdle false rest else rest).head?

/- Go past a given text, if it comes next. -/
def skipText
    (text : String) : Parse Bool := do
  let c ← get
  match text.toList.isPrefixOf? c.rest with
  | some rest =>
      set (⟨rest, c.flags, c.names⟩ : Cursor)
      return true
  | none => return false

/- Go past a given character, or refuse the text. -/
def expect
    (wanted : Char) : Parse Unit := do
  if (← peek) = some wanted then
    advance
  else
    refuse

/- Take characters while they satisfy a test. -/
def takeWhile
    (test : Char → Bool) : Parse (List Char) := do
  let c ← get
  set (⟨c.rest.dropWhile test, c.flags, c.names⟩ : Cursor)
  return c.rest.takeWhile test

/-
  Take characters while they satisfy a test, skipping what
  is skipped between them.
-/
def takeSpaced
    (test : Char → Bool) : Nat → Parse (List Char)
  | 0 => refuse
  | fuel + 1 => do
      match ← peek with
      | some c =>
          if test c then
            advanceIdle
            return c :: (← takeSpaced test fuel)
          else
            return []
      | none => return []

/- Take characters as `takeSpaced` does, to the end if need be. -/
def takeAll
    (test : Char → Bool) : Parse (List Char) := do
  takeSpaced test ((← get).rest.length + 1)

------------------------------------------------------------
-- Character Sets
------------------------------------------------------------

/- The set holds ASCII characters only. -/
def isAscii
    (s : CharSet) : Bool :=
  s.isBelow 0x80

/- Close a set under case, where case is ignored. -/
def fold
    (flags : Flags)
    (s : CharSet) : CharSet :=
  if flags.ignoreCase then
    if flags.unicode then
      Unicode.foldCase s
    else
      Unicode.foldAsciiCase s
  else
    s

/-
  Close a set under case, then take its complement if asked.
  A set of bytes must stay within ASCII.
-/
def foldAndNegate
    (flags : Flags)
    (negated : Bool)
    (s : CharSet) : Option CharSet :=
  let folded := fold flags s
  let result := if negated then folded.complement else folded
  if flags.unicode || isAscii result then some result else none

/- The set of a class letter: digits, blanks or word characters. -/
def letterClass
    (unicode : Bool)
    (letter : Char) : CharSet :=
  if letter = 'd' then
    if unicode then Unicode.digitSet else ⟨[(48, 57)]⟩
  else if letter = 's' then
    if unicode then Unicode.blankSet else ⟨[(9, 13), (32, 32)]⟩
  else
    if unicode then
      Unicode.wordSet
    else
      ⟨[(48, 57), (65, 90), (95, 95), (97, 122)]⟩

/- The ranges of the ASCII classes by name. -/
def asciiClass? : String → Option CharSet
  | "alnum" => some ⟨[(48, 57), (65, 90), (97, 122)]⟩
  | "alpha" => some ⟨[(65, 90), (97, 122)]⟩
  | "ascii" => some ⟨[(0, 127)]⟩
  | "blank" => some ⟨[(9, 9), (32, 32)]⟩
  | "cntrl" => some ⟨[(0, 31), (127, 127)]⟩
  | "digit" => some ⟨[(48, 57)]⟩
  | "graph" => some ⟨[(33, 126)]⟩
  | "lower" => some ⟨[(97, 122)]⟩
  | "print" => some ⟨[(32, 126)]⟩
  | "punct" => some ⟨[(33, 47), (58, 64), (91, 96), (123, 126)]⟩
  | "space" => some ⟨[(9, 13), (32, 32)]⟩
  | "upper" => some ⟨[(65, 90)]⟩
  | "word" => some ⟨[(48, 57), (65, 90), (95, 95), (97, 122)]⟩
  | "xdigit" => some ⟨[(48, 57), (65, 70), (97, 102)]⟩
  | _ => none

------------------------------------------------------------
-- Escapes
------------------------------------------------------------

/- What an escape stands for. -/
inductive Atom where
  /- A character; the flag marks one written as a single byte. -/
  | literal (c : Char) (isByte : Bool)
  | set (s : CharSet)
  | assertion (a : Assertion)

/- The value of a hexadecimal digit. -/
def hexValue?
    (c : Char) : Option Nat :=
  if c.isDigit then
    some (c.toNat - 48)
  else if 'a' ≤ c && c ≤ 'f' then
    some (c.toNat - 87)
  else if 'A' ≤ c && c ≤ 'F' then
    some (c.toNat - 55)
  else
    none

/- The character with a code point in hexadecimal digits. -/
def hexChar?
    (digits : List Char) : Option Char := do
  let values ← digits.mapM hexValue?
  let code := values.foldl (fun n d => n * 16 + d) 0
  if h : code.isValidChar then
    return Char.ofNatAux code h
  else
    none

/- Read hexadecimal digits one by one. -/
def readHexDigits : Nat → Parse (List Char)
  | 0 => return []
  | n + 1 => do
      let c ← orRefuse (← peek)
      let _ ← orRefuse (hexValue? c)
      advanceIdle
      return c :: (← readHexDigits n)

/- Read a code point: a number of digits, or digits in braces. -/
def readHex
    (width : Nat) : Parse Atom := do
  advanceIdle
  match ← peek with
  | some '{' =>
      advanceIdle
      let digits ← takeAll (· != '}')
      expect '}'
      skipIdle
      if digits.isEmpty then
        refuse
      else
        return .literal (← orRefuse (hexChar? digits)) false
  | some _ =>
      let digits ← readHexDigits width
      return .literal (← orRefuse (hexChar? digits)) (width == 2)
  | none => refuse

/- Split a list at the first place where a separator stands. -/
def splitAtText
    (separator : List Char) :
    List Char → Option (List Char × List Char)
  | [] => none
  | c :: cs =>
      match separator.isPrefixOf? (c :: cs) with
      | some rest => some ([], rest)
      | none =>
          (splitAtText separator cs).map
            (fun (a, b) => (c :: a, b))

/- The set of a property as written between braces. -/
def propertySet?
    (name : List Char) : Option (CharSet × Bool) :=
  match splitAtText ['!', '='] name with
  | some (property, value) =>
      (Unicode.valued? property value).map (fun s => (s, true))
  | none =>
      match splitAtText [':'] name with
      | some (property, value) =>
          (Unicode.valued? property value).map (fun s => (s, false))
      | none =>
          match splitAtText ['='] name with
          | some (property, value) =>
              (Unicode.valued? property value).map
                (fun s => (s, false))
          | none => (Unicode.named? name).map (fun s => (s, false))

/- Read a Unicode property. -/
def readProperty
    (negated : Bool) : Parse Atom := do
  advanceIdle
  let name ←
    match ← peek with
    | some '{' => do
        advanceIdle
        let name ← takeAll (· != '}')
        expect '}'
        pure name
    | some '\\' => refuse
    | some c => do
        advanceIdle
        pure [c]
    | none => refuse
  let flags := (← get).flags
  if flags.unicode then
    let (s, unequal) ← orRefuse (propertySet? name)
    return .set
      (← orRefuse (foldAndNegate flags (negated != unequal) s))
  else
    refuse

/- The characters that may stand in the name of a word boundary. -/
def isBoundaryChar
    (c : Char) : Bool :=
  ('A' ≤ c && c ≤ 'Z') || ('a' ≤ c && c ≤ 'z') || c == '-'

/- Read what may follow the letter of a word boundary. -/
def readBoundary
    (unicode : Bool) : Parse Atom := do
  let before ← get
  if before.rest.head? = some '{' then
    advanceIdle
    match ← peek with
    | none => refuse
    | some c =>
        if isBoundaryChar c then
          let name ← takeAll isBoundaryChar
          expect '}'
          match String.ofList name with
          | "start" => return .assertion (.wordStart unicode)
          | "end" => return .assertion (.wordEnd unicode)
          | "start-half" => return .assertion (.wordStartHalf unicode)
          | "end-half" => return .assertion (.wordEndHalf unicode)
          | _ => refuse
        else
          set before
          return .assertion (.wordBoundary unicode)
  else
    return .assertion (.wordBoundary unicode)

/- The control character of an escape letter. -/
def controlChar? : Char → Option Char
  | 'a' => some (Char.ofNat 7)
  | 'f' => some (Char.ofNat 12)
  | 't' => some '\t'
  | 'n' => some '\n'
  | 'r' => some '\r'
  | 'v' => some (Char.ofNat 11)
  | _ => none

/- An escaped character that stands for itself. -/
def isEscapable
    (c : Char) : Bool :=
  c.toNat < 128 && !c.isAlphanum && c != '<' && c != '>'

/- Read an escape, from its backslash on. -/
def readEscape : Parse Atom := do
  advance
  let c ← orRefuse (← peek)
  let flags := (← get).flags
  if c = 'x' then
    readHex 2
  else if c = 'u' then
    readHex 4
  else if c = 'U' then
    readHex 8
  else if c = 'p' ∨ c = 'P' then
    readProperty (c == 'P')
  else if c = 'd' ∨ c = 's' ∨ c = 'w' then
    advance
    return .set (letterClass flags.unicode c)
  else if c = 'D' ∨ c = 'S' ∨ c = 'W' then
    advance
    let s := (letterClass flags.unicode c.toLower).complement
    if flags.unicode then return .set s else refuse
  else
    advance
    if isEscapable c then
      return .literal c false
    else
      match controlChar? c with
      | some control => return .literal control false
      | none =>
          if c = 'A' then
            return .assertion .textStart
          else if c = 'z' then
            return .assertion .textEnd
          else if c = 'b' then
            readBoundary flags.unicode
          else if c = 'B' then
            return .assertion (.notWordBoundary flags.unicode)
          else if c = '<' then
            return .assertion (.wordStart flags.unicode)
          else if c = '>' then
            return .assertion (.wordEnd flags.unicode)
          else
            refuse

------------------------------------------------------------
-- Bracketed Classes
------------------------------------------------------------

/- How the two sides of a class are combined. -/
inductive SetOperator where
  | inter
  | diff
  | symmDiff

/- Apply an operator to its two sides, each closed under case. -/
def SetOperator.apply
    (flags : Flags)
    (op : SetOperator)
    (s t : CharSet) : CharSet :=
  match op with
  | inter => (fold flags s).inter (fold flags t)
  | diff => (fold flags s).diff (fold flags t)
  | symmDiff => (fold flags s).symmDiff (fold flags t)

/- Read an ASCII class such as `[:alpha:]`, if there is one. -/
def readAsciiClass : Parse (Option CharSet) := do
  let before ← get
  let give : Parse (Option CharSet) := do
    set before
    return none
  advance
  if (← peek) ≠ some ':' then
    give
  else
    advance
    let negated := (← peek) == some '^'
    if negated then advance
    let name ← takeWhile (· != ':')
    if ← skipText ":]" then
      match asciiClass? (String.ofList name) with
      | some s =>
          return some
            (← orRefuse (foldAndNegate before.flags negated s))
      | none => give
    else
      give

/- Read a character or an escape inside a class. -/
def readClassAtom : Parse Atom := do
  match ← peek with
  | some '\\' => readEscape
  | some c =>
      advance
      return .literal c false
  | none => refuse

/- A character that may stand in a class. -/
def classChar
    (flags : Flags) : Atom → Option Char
  | .literal c _ =>
      if flags.unicode || c.toNat < 128 then some c else none
  | _ => none

/- Read a character, a range or a set inside a class. -/
def readClassItem : Parse CharSet := do
  let flags := (← get).flags
  let first ← readClassAtom
  skipIdle
  let next ← orRefuse (← peek)
  let second ← peekSecond
  if next ≠ '-' ∨ second = some ']' ∨ second = some '-' then
    match first with
    | .set s => return s
    | .assertion _ => refuse
    | .literal _ _ =>
        return CharSet.single (← orRefuse (classChar flags first))
  else
    advanceIdle
    if (← peek).isNone then
      refuse
    else
      let last ← readClassAtom
      let a ← orRefuse (classChar flags first)
      let b ← orRefuse (classChar flags last)
      if a.toNat ≤ b.toNat then
        return ⟨[(a.toNat, b.toNat)]⟩
      else
        refuse

/-
  A class in the making: the left side of the pending
  operator, the items since, their count and the depth of
  the classes inside.
-/
structure ClassState where
  pending : Option (CharSet × SetOperator)
  items : CharSet
  count : Nat
  depth : Nat

/- Add a set to the items of a class. -/
def ClassState.add
    (state : ClassState)
    (s : CharSet)
    (depth : Nat) : ClassState :=
  ⟨state.pending, state.items.union s, state.count + 1,
    max state.depth depth⟩

/- The set of a class so far. -/
def ClassState.total
    (state : ClassState)
    (flags : Flags) : CharSet :=
  match state.pending with
  | some (left, op) => op.apply flags left state.items
  | none => state.items

/- How deeply the items of a class are nested. -/
def ClassState.itemsDepth
    (state : ClassState) : Nat :=
  if 2 ≤ state.count then state.depth + 1 else state.depth

/- Begin the right side of an operator. -/
def ClassState.operate
    (state : ClassState)
    (flags : Flags)
    (op : SetOperator) : ClassState :=
  ⟨some (state.total flags, op), CharSet.empty, 0,
    state.itemsDepth + 1⟩

/- Read the hyphens that stand for themselves at the start. -/
def readLeadingHyphens : Nat → ClassState → Parse ClassState
  | 0, _ => refuse
  | fuel + 1, state => do
      if (← peek) = some '-' then
        advanceIdle
        if (← peek).isNone then
          refuse
        else
          readLeadingHyphens fuel
            (state.add (CharSet.single '-') 0)
      else
        return state

/- Read the start of a class, up to its first proper item. -/
def readClassStart : Parse (Bool × ClassState) := do
  advanceIdle
  let negated := (← peek) == some '^'
  if negated then advanceIdle
  if (← peek).isNone then
    refuse
  else
    let state ←
      readLeadingHyphens ((← get).rest.length + 1)
        ⟨none, CharSet.empty, 0, 0⟩
    if state.count = 0 ∧ (← peek) = some ']' then
      advanceIdle
      if (← peek).isNone then
        refuse
      else
        return (negated, state.add (CharSet.single ']') 0)
    else
      return (negated, state)

mutual

/-
  Read a class from its opening bracket on: its set and how
  deeply it is nested.
-/
def readClass : Nat → Parse (CharSet × Nat)
  | 0 => refuse
  | fuel + 1 => do
      let (negated, state) ← readClassStart
      let state ← readClassItems fuel state
      let flags := (← get).flags
      let s ←
        orRefuse (foldAndNegate flags negated (state.total flags))
      return (s, state.itemsDepth + 1)

/- Read the items of a class, up to its closing bracket. -/
def readClassItems : Nat → ClassState → Parse ClassState
  | 0, _ => refuse
  | fuel + 1, state => do
      skipIdle
      let flags := (← get).flags
      let c ← orRefuse (← peek)
      if c = ']' then
        advance
        return state
      else if c = '[' then
        match ← readAsciiClass with
        | some s => readClassItems fuel (state.add s 0)
        | none =>
            let (s, depth) ← readClass fuel
            readClassItems fuel (state.add s depth)
      else if ← skipText "&&" then
        readClassItems fuel (state.operate flags .inter)
      else if ← skipText "--" then
        readClassItems fuel (state.operate flags .diff)
      else if ← skipText "~~" then
        readClassItems fuel (state.operate flags .symmDiff)
      else
        let s ← readClassItem
        readClassItems fuel (state.add s 0)

end

------------------------------------------------------------
-- Repetitions
------------------------------------------------------------

/- The largest count of a repetition. -/
def largestCount : Nat := 4294967295

/- Read a count, with blanks around it. -/
def readCount : Parse (Option Nat) := do
  let _ ← takeWhile Text.isBlank
  let digits ← takeAll Char.isDigit
  let _ ← takeAll Text.isBlank
  if digits.isEmpty then
    return none
  else
    let n := Nat.ofDigitChars 10 digits 0
    if n ≤ largestCount then return some n else refuse

/- Read the counts of a repetition, from its brace on. -/
def readCounts : Parse (Nat × Option Nat) := do
  advanceIdle
  let least ← readCount
  let range ←
    match ← peek with
    | some ',' => do
        advanceIdle
        match ← peek with
        | some '}' => pure (least, none)
        | _ => do
            let most ← readCount
            pure (least, some (← orRefuse most))
    | _ => pure (least, least)
  expect '}'
  let least ← orRefuse range.1
  match range.2 with
  | some most =>
      if least ≤ most then return (least, some most) else refuse
  | none => return (least, none)

------------------------------------------------------------
-- Groups and Flags
------------------------------------------------------------

/- Set or clear one flag. -/
def Flags.assign
    (flags : Flags)
    (letter : Char)
    (on : Bool) : Option Flags :=
  match letter with
  | 'i' => some { flags with ignoreCase := on }
  | 'm' => some { flags with lines := on }
  | 's' => some { flags with dotAll := on }
  | 'U' => some { flags with lazy := on }
  | 'u' => some { flags with unicode := on }
  | 'R' => some { flags with anyEnding := on }
  | 'x' => some { flags with spaced := on }
  | _ => none

/-
  Read flag letters up to a colon or a closing parenthesis.
  Each letter may stand once, and a hyphen, after which
  flags are cleared, too.
-/
def readFlags :
    Nat → Flags → List Char → Parse (Flags × List Char)
  | 0, _, _ => refuse
  | fuel + 1, flags, seen => do
      let c ← orRefuse (← peek)
      if c = ':' ∨ c = ')' then
        if seen.head? = some '-' then
          refuse
        else
          return (flags, seen)
      else if c ∈ seen then
        refuse
      else if c = '-' then
        advance
        readFlags fuel flags (c :: seen)
      else
        let flags ←
          orRefuse (flags.assign c (!seen.contains '-'))
        advance
        readFlags fuel flags (c :: seen)

/- The character may stand in the name of a group. -/
def isNameChar
    (first : Bool)
    (c : Char) : Bool :=
  if first then
    c == '_' || Unicode.letterSet.contains c
  else
    c == '_' || c == '.' || c == '[' || c == ']'
      || Unicode.letterSet.contains c || Unicode.numberSet.contains c

/- Read the name of a group, up to its closing bracket. -/
def readGroupName : Parse Unit := do
  let name ← takeWhile (· != '>')
  expect '>'
  match name with
  | [] => refuse
  | c :: rest =>
      if isNameChar true c && rest.all (isNameChar false) then
        let cursor ← get
        let name := String.ofList name
        if cursor.names.contains name then
          refuse
        else
          set
            (⟨cursor.rest, cursor.flags, name :: cursor.names⟩ :
              Cursor)
      else
        refuse

/- How a parenthesis goes on. -/
inductive Opening where
  /- A group follows. -/
  | group
  /- Flags were set for the rest of the group around it. -/
  | flags

/- Read the start of a group, from its parenthesis on. -/
def readOpening : Parse Opening := do
  advance
  skipIdle
  if ← skipText "?=" then
    refuse
  else if ← skipText "?!" then
    refuse
  else if ← skipText "?<=" then
    refuse
  else if ← skipText "?<!" then
    refuse
  else if ← skipText "?P<" then
    readGroupName
    return .group
  else if ← skipText "?<" then
    readGroupName
    return .group
  else if ← skipText "?" then
    let cursor ← get
    let (flags, seen) ←
      readFlags (cursor.rest.length + 1) cursor.flags []
    let closing ← peek
    advance
    modify (fun c => ⟨c.rest, flags, c.names⟩)
    if closing = some ')' then
      if seen.isEmpty then refuse else return .flags
    else
      return .group
  else
    return .group

------------------------------------------------------------
-- Patterns
------------------------------------------------------------

/- The pattern of one character. -/
def literalNode
    (flags : Flags)
    (c : Char) : Node :=
  .set (fold flags (CharSet.single c))

/- The pattern of an escape or a character. -/
def atomNode
    (flags : Flags) : Atom → Option Node
  | .literal c isByte =>
      if !flags.unicode && isByte && 128 ≤ c.toNat then
        none
      else
        some (literalNode flags c)
  | .set s => some (.set s)
  | .assertion a => some (.assertion a)

/- The pattern of a point. -/
def dotNode
    (flags : Flags) : Option Node :=
  if !flags.unicode then
    none
  else if flags.dotAll then
    some (.set CharSet.empty.complement)
  else if flags.anyEnding then
    some (.set (CharSet.complement ⟨[(10, 10), (13, 13)]⟩))
  else
    some (.set (CharSet.complement ⟨[(10, 10)]⟩))

/- Read a character, an escape, a point or an anchor. -/
def readPrimitive : Parse Node := do
  let flags := (← get).flags
  match ← peek with
  | some '\\' =>
      let atom ← readEscape
      orRefuse (atomNode flags atom)
  | some '.' =>
      advance
      orRefuse (dotNode flags)
  | some '^' =>
      advance
      if flags.lines then
        return .assertion (.lineStart flags.anyEnding)
      else
        return .assertion .textStart
  | some '$' =>
      advance
      if flags.lines then
        return .assertion (.lineEnd flags.anyEnding)
      else
        return .assertion .textEnd
  | some c =>
      advance
      return literalNode flags c
  | none => refuse

/- A part of a branch, with the depth of its nesting. -/
inductive Part where
  | node (n : Node) (depth : Nat)
  | flags

/- The pattern of a part. -/
def Part.toNode : Part → Node
  | node n _ => n
  | flags => .empty

/- The depth of a part. -/
def Part.depth : Part → Nat
  | node _ d => d
  | flags => 0

/- The pattern and the depth of a branch, given in reverse. -/
def branch
    (parts : List Part) : Node × Nat :=
  let deepest := (parts.map Part.depth).foldl max 0
  (Node.concat (parts.reverse.map Part.toNode),
    if 2 ≤ parts.length then deepest + 1 else deepest)

/- Repeat the last part of a branch. -/
def repeatLast
    (least : Nat)
    (most : Option Nat) : List Part → Option (List Part)
  | .node n depth :: rest =>
      some (.node (n.repeated least most) (depth + 1) :: rest)
  | _ => none

/- Go past the mark of a lazy repetition. -/
def skipLazy : Parse Unit := do
  if (← peek) = some '?' then advance

/-
  Read the branches of a pattern, up to a closing
  parenthesis or the end.
-/
def readBranches :
    Nat → List (Node × Nat) → List Part → Parse (Node × Nat)
  | 0, _, _ => refuse
  | fuel + 1, done, parts => do
      skipIdle
      match ← peek with
      | none => return finish (branch parts :: done)
      | some ')' => return finish (branch parts :: done)
      | some '|' =>
          advance
          readBranches fuel (branch parts :: done) []
      | some '(' =>
          let outer := (← get).flags
          match ← readOpening with
          | .flags => readBranches fuel done (.flags :: parts)
          | .group =>
              let (n, depth) ← readBranches fuel [] []
              expect ')'
              modify (fun c => ⟨c.rest, outer, c.names⟩)
              readBranches fuel done (.node n (depth + 1) :: parts)
      | some '[' =>
          let (s, depth) ← readClass fuel
          readBranches fuel done (.node (.set s) depth :: parts)
      | some '?' =>
          advance
          skipLazy
          readBranches fuel done
            (← orRefuse (repeatLast 0 (some 1) parts))
      | some '*' =>
          advance
          skipLazy
          readBranches fuel done
            (← orRefuse (repeatLast 0 none parts))
      | some '+' =>
          advance
          skipLazy
          readBranches fuel done
            (← orRefuse (repeatLast 1 none parts))
      | some '{' =>
          let (least, most) ← readCounts
          skipIdle
          skipLazy
          readBranches fuel done
            (← orRefuse (repeatLast least most parts))
      | some _ =>
          let n ← readPrimitive
          readBranches fuel done (.node n 0 :: parts)
where
  /- The pattern and the depth of branches, given in reverse. -/
  finish
      (branches : List (Node × Nat)) : Node × Nat :=
    let deepest := (branches.map (·.2)).foldl max 0
    (Node.alternation (branches.reverse.map (·.1)),
      if 2 ≤ branches.length then deepest + 1 else deepest)

/- How deeply a pattern may be nested. -/
def nestingLimit : Nat := 250

/- Read a pattern from its text. -/
def readNode?
    (text : String) : Option Node :=
  let cs := text.toList
  match readBranches (2 * cs.length + 4) [] [] ⟨cs, {}, []⟩ with
  | some ((n, depth), cursor) =>
      if cursor.rest.isEmpty ∧ depth ≤ nestingLimit
          ∧ n.cost ≤ Node.costLimit then
        some n
      else
        none
  | none => none

end Pattern

end SchemaGraph
