import SchemaGraph.Json.Value

/-
  This file reads JSON texts.

  A number literal without fraction and exponent that fits
  64 bits is an integer.  Any other literal is a binary64
  value, computed from its leading digits that fit 64 bits
  and one scaling by a power of ten, each step rounded; a
  literal beyond the largest finite value is refused.

  A text may nest containers 127 levels deep.  One leading
  byte-order mark of a document is ignored.

  Key definitions include:
    * `Json.Reader.readNumber`
    * `Json.Reader.readString`
    * `Json.read?`
    * `Json.readDocument?`
-/

namespace SchemaGraph

namespace Json

namespace Reader

------------------------------------------------------------
-- Blanks
------------------------------------------------------------

/- The characters that may stand between two tokens. -/
def isBlank
    (c : Char) : Bool :=
  c == ' ' || c == '\n' || c == '\t' || c == '\r'

/- Skip the blanks at the start of a text. -/
def skipBlanks
    (cs : List Char) : List Char :=
  cs.dropWhile isBlank

/- Skip a word at the start of a text. -/
def skipWord : List Char → List Char → Option (List Char)
  | [], cs => some cs
  | _ :: _, [] => none
  | w :: ws, c :: cs => if w = c then skipWord ws cs else none

------------------------------------------------------------
-- Numbers
------------------------------------------------------------

/- The value of a decimal digit. -/
def digitValue
    (c : Char) : Nat :=
  c.toNat - '0'.toNat

/-
  The digits of a literal that are kept, and the power of
  ten that they stand for.
-/
structure Scaled where
  significand : Nat
  exponent : Int

/- One more digit, if the significand still fits 64 bits. -/
def Scaled.push?
    (s : Scaled)
    (c : Char) : Option Nat :=
  let next := s.significand * 10 + digitValue c
  if next < Nat.pow 2 64 then some next else none

/-
  Read the digits before the point.  Once one does not fit,
  all that follow only raise the exponent; the flag tells
  whether every digit was kept.
-/
def readWhole : Scaled → Bool → List Char → Scaled × Bool × List Char
  | s, exact, c :: cs =>
      if c.isDigit then
        match exact, s.push? c with
        | true, some n => readWhole ⟨n, s.exponent⟩ true cs
        | _, _ =>
            readWhole ⟨s.significand, s.exponent + 1⟩ false cs
      else
        (s, exact, c :: cs)
  | s, exact, [] => (s, exact, [])

/-
  Read the digits after the point.  Once one does not fit,
  all that follow are dropped.
-/
def readFraction : Scaled → Bool → List Char → Scaled × List Char
  | s, exact, c :: cs =>
      if c.isDigit then
        match exact, s.push? c with
        | true, some n => readFraction ⟨n, s.exponent - 1⟩ true cs
        | _, _ => readFraction s false cs
      else
        (s, c :: cs)
  | s, _, [] => (s, [])

/-
  Multiply by a power of ten in binary64 arithmetic, in
  steps of at most 308; `none` beyond the finite values.
-/
def scale : Nat → Float → Int → Option Float
  | 0, f, _ => some f
  | steps + 1, f, e =>
      if e.natAbs ≤ 308 then
        let power := Float.ofScientific 1 false e.natAbs
        if 0 ≤ e then
          let product := f * power
          if product.isInf then none else some product
        else
          some (f / power)
      else if f == 0 then
        some f
      else if 0 ≤ e then
        none
      else
        scale steps (f / Float.ofScientific 1 false 308) (e + 308)

/- Put the sign before a binary64 value. -/
def signed
    (negative : Bool)
    (f : Float) : Float :=
  if negative then -f else f

/- The value of the digits kept, as a real number. -/
def Scaled.real
    (s : Scaled)
    (negative : Bool) : Option Number :=
  (scale (s.exponent.natAbs / 308 + 1)
      (Float.ofNat s.significand) s.exponent).map
    (fun f => .real (signed negative f))

/- The largest exponent that is added up digit by digit. -/
def exponentLimit : Nat := 2147483647

/-
  Read the digits of an exponent; the flag tells whether
  the exponent stayed within its limit.
-/
def readExponentDigits : Nat → Bool → List Char → Nat × Bool × List Char
  | n, within, c :: cs =>
      if c.isDigit then
        let next := n * 10 + digitValue c
        if within && next ≤ exponentLimit then
          readExponentDigits next true cs
        else
          readExponentDigits n false cs
      else
        (n, within, c :: cs)
  | n, within, [] => (n, within, [])

/- Keep an exponent within its limits. -/
def clampExponent
    (e : Int) : Int :=
  max (-2147483648) (min 2147483647 e)

/- Read what follows the letter of an exponent. -/
def readExponent
    (s : Scaled)
    (negative : Bool)
    (cs : List Char) : Option (Number × List Char) :=
  let (down, cs) :=
    match cs with
    | '+' :: rest => (false, rest)
    | '-' :: rest => (true, rest)
    | _ => (false, cs)
  match cs with
  | c :: rest =>
      if c.isDigit then
        let (e, within, after) :=
          readExponentDigits (digitValue c) true rest
        if within then
          let exponent :=
            clampExponent
              (if down then s.exponent - e else s.exponent + e)
          (Scaled.real ⟨s.significand, exponent⟩ negative).map
            (fun n => (n, after))
        else if s.significand ≠ 0 && !down then
          none
        else
          some (.real (signed negative 0), after)
      else
        none
  | [] => none

/- Read what may follow the digits before the point. -/
def readNumberTail
    (s : Scaled)
    (exact negative : Bool) :
    List Char → Option (Number × List Char)
  | '.' :: cs =>
      match cs with
      | c :: _ =>
          if c.isDigit then
            let (s, after) := readFraction s true cs
            match after with
            | 'e' :: rest => readExponent s negative rest
            | 'E' :: rest => readExponent s negative rest
            | _ => (s.real negative).map (fun n => (n, after))
          else
            none
      | [] => none
  | 'e' :: cs => readExponent s negative cs
  | 'E' :: cs => readExponent s negative cs
  | cs =>
      if exact then
        let n : Int := s.significand
        let plain :=
          if negative then
            if s.significand = 0 then none else Number.ofInt? (-n)
          else
            Number.ofInt? n
        match plain with
        | some n => some (n, cs)
        | none =>
            some
              (.real (signed negative (Float.ofNat s.significand)), cs)
      else
        (s.real negative).map (fun n => (n, cs))

/- Read a number that starts with a digit. -/
def readUnsigned
    (negative : Bool) :
    List Char → Option (Number × List Char)
  | '0' :: cs =>
      match cs with
      | c :: _ =>
          if c.isDigit then none
          else readNumberTail ⟨0, 0⟩ true negative cs
      | [] => readNumberTail ⟨0, 0⟩ true negative []
  | c :: cs =>
      if c.isDigit then
        let (s, exact, after) := readWhole ⟨0, 0⟩ true (c :: cs)
        readNumberTail s exact negative after
      else
        none
  | [] => none

/- Read a number. -/
def readNumber : List Char → Option (Number × List Char)
  | '-' :: cs => readUnsigned true cs
  | cs => readUnsigned false cs

------------------------------------------------------------
-- Strings
------------------------------------------------------------

/- The value of a hexadecimal digit. -/
def hexValue?
    (c : Char) : Option Nat :=
  if c.isDigit then
    some (digitValue c)
  else if 'a' ≤ c && c ≤ 'f' then
    some (c.toNat - 'a'.toNat + 10)
  else if 'A' ≤ c && c ≤ 'F' then
    some (c.toNat - 'A'.toNat + 10)
  else
    none

/- The value of four hexadecimal digits. -/
def hexQuad?
    (a b c d : Char) : Option Nat := do
  let a ← hexValue? a
  let b ← hexValue? b
  let c ← hexValue? c
  let d ← hexValue? d
  return ((a * 16 + b) * 16 + c) * 16 + d

/- The character that a simple escape stands for. -/
def simpleEscape? : Char → Option Char
  | '"' => some '"'
  | '\\' => some '\\'
  | '/' => some '/'
  | 'b' => some (Char.ofNat 8)
  | 'f' => some (Char.ofNat 12)
  | 'n' => some '\n'
  | 'r' => some '\r'
  | 't' => some '\t'
  | _ => none

/-
  Read the rest of a string, up to its closing quote.  An
  escaped high surrogate must be followed by an escaped low
  one, and a low one stands nowhere else.
-/
def readString
    (done : List Char) :
    List Char → Option (String × List Char)
  | '"' :: cs => some (String.ofList done.reverse, cs)
  | '\\' :: 'u' :: a :: b :: c :: d :: cs =>
      match hexQuad? a b c d with
      | none => none
      | some unit =>
          if 0xDC00 ≤ unit && unit ≤ 0xDFFF then
            none
          else if 0xD800 ≤ unit && unit ≤ 0xDBFF then
            match cs with
            | '\\' :: 'u' :: e :: f :: g :: h :: cs =>
                match hexQuad? e f g h with
                | none => none
                | some low =>
                    if 0xDC00 ≤ low && low ≤ 0xDFFF then
                      let code :=
                        0x10000 + (unit - 0xD800) * 0x400
                          + (low - 0xDC00)
                      readString (Char.ofNat code :: done) cs
                    else
                      none
            | _ => none
          else
            readString (Char.ofNat unit :: done) cs
  | '\\' :: c :: cs =>
      match simpleEscape? c with
      | some e => readString (e :: done) cs
      | none => none
  | c :: cs =>
      if c = '\\' || c.toNat < 0x20 then
        none
      else
        readString (c :: done) cs
  | [] => none

------------------------------------------------------------
-- Values
------------------------------------------------------------

mutual

/-
  Read a value.  `room` is the number of container levels
  left, and `fuel` bounds the steps.
-/
def readValue : Nat → Nat → List Char → Option (Json × List Char)
  | 0, _, _ => none
  | fuel + 1, room, cs =>
      match skipBlanks cs with
      | 'n' :: rest =>
          (skipWord ['u', 'l', 'l'] rest).map (fun r => (.null, r))
      | 't' :: rest =>
          (skipWord ['r', 'u', 'e'] rest).map
            (fun r => (.bool true, r))
      | 'f' :: rest =>
          (skipWord ['a', 'l', 's', 'e'] rest).map
            (fun r => (.bool false, r))
      | '"' :: rest =>
          (readString [] rest).map
            (fun (s, r) => (.string s, r))
      | '[' :: rest =>
          match room with
          | 0 => none
          | room + 1 =>
              match skipBlanks rest with
              | ']' :: rest => some (.array [], rest)
              | rest =>
                  (readItems fuel room [] rest).map
                    (fun (xs, r) => (.array xs, r))
      | '{' :: rest =>
          match room with
          | 0 => none
          | room + 1 =>
              match skipBlanks rest with
              | '}' :: rest => some (.object [], rest)
              | rest =>
                  (readMembers fuel room [] rest).map
                    (fun (ms, r) => (.object ms, r))
      | rest =>
          (readNumber rest).map (fun (n, r) => (.number n, r))

/- Read the items of an array, up to its closing bracket. -/
def readItems :
    Nat → Nat → List Json → List Char →
      Option (List Json × List Char)
  | 0, _, _, _ => none
  | fuel + 1, room, done, cs =>
      match readValue fuel room cs with
      | none => none
      | some (x, rest) =>
          match skipBlanks rest with
          | ',' :: rest => readItems fuel room (x :: done) rest
          | ']' :: rest => some ((x :: done).reverse, rest)
          | _ => none

/-
  Read the members of an object, up to its closing brace.
  The last member of a name wins.
-/
def readMembers :
    Nat → Nat → List (String × Json) → List Char →
      Option (List (String × Json) × List Char)
  | 0, _, _, _ => none
  | fuel + 1, room, done, cs =>
      match skipBlanks cs with
      | '"' :: rest =>
          match readString [] rest with
          | none => none
          | some (name, rest) =>
              match skipBlanks rest with
              | ':' :: rest =>
                  match readValue fuel room rest with
                  | none => none
                  | some (x, rest) =>
                      let done := Members.insert name x done
                      match skipBlanks rest with
                      | ',' :: rest => readMembers fuel room done rest
                      | '}' :: rest => some (done, rest)
                      | _ => none
              | _ => none
      | _ => none

end

end Reader

/- How many levels of containers a text may nest. -/
def nestingLimit : Nat := 127

/- Read a text that holds one value. -/
def read?
    (text : String) : Option Json :=
  let cs := text.toList
  match Reader.readValue (2 * cs.length + 2) nestingLimit cs with
  | some (value, rest) =>
      if Reader.skipBlanks rest = [] then some value else none
  | none => none

/- Remove one leading byte-order mark. -/
def stripMark
    (text : String) : String :=
  match text.toList with
  | c :: cs =>
      if c = Char.ofNat 0xFEFF then String.ofList cs else text
  | [] => text

/- Read the text of a document. -/
def readDocument?
    (text : String) : Option Json :=
  read? (stripMark text)

end Json

end SchemaGraph
