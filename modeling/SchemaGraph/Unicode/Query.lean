import SchemaGraph.Unicode.CharSet
import SchemaGraph.Unicode.Category
import SchemaGraph.Unicode.Script
import SchemaGraph.Unicode.ScriptExtension
import SchemaGraph.Unicode.Property
import SchemaGraph.Unicode.Age
import SchemaGraph.Unicode.GraphemeBreak
import SchemaGraph.Unicode.WordBreak
import SchemaGraph.Unicode.SentenceBreak
import SchemaGraph.Unicode.Word
import SchemaGraph.Unicode.CaseFolding

/-
  This file finds the characters of a named Unicode
  property.  Names are compared without regard to case,
  blanks, hyphens, underscores and a leading "is".

  Key definitions include:
    * `Unicode.looseName`
    * `Unicode.named?`
    * `Unicode.valued?`
    * `Unicode.wordSet`
    * `Unicode.digitSet`
    * `Unicode.blankSet`
    * `Unicode.foldCase`
-/

namespace SchemaGraph

namespace Unicode

------------------------------------------------------------
-- Names
------------------------------------------------------------

/- A name without its case and separators. -/
def looseName
    (name : List Char) : String :=
  let (hasIs, body) :=
    match name with
    | a :: b :: rest =>
        if a.toLower = 'i' ∧ b.toLower = 's' then
          (true, rest)
        else
          (false, name)
    | _ => (false, name)
  let kept :=
    (body.filter (fun c =>
      c.toNat < 128 && c != ' ' && c != '_' && c != '-')).map
      Char.toLower
  if hasIs && kept = ['c'] then "isc" else String.ofList kept

/- The set of a table entry with a name. -/
def setOf?
    (table : List (List String × String))
    (name : String) : Option CharSet :=
  (table.find? (fun e => e.1.contains name)).map
    (fun e => CharSet.ofText e.2)

/- The union of the sets of some categories. -/
def categoryUnion
    (names : List String) : CharSet :=
  CharSet.ofRanges
    (names.flatMap (fun n =>
      match setOf? categories n with
      | some s => s.ranges
      | none => []))

/- The members of a group of categories. -/
def categoryGroup? : String → Option (List String)
  | "lc" => some ["lu", "ll", "lt"]
  | "casedletter" => some ["lu", "ll", "lt"]
  | "l" => some ["lu", "ll", "lt", "lm", "lo"]
  | "letter" => some ["lu", "ll", "lt", "lm", "lo"]
  | "m" => some ["mn", "mc", "me"]
  | "mark" => some ["mn", "mc", "me"]
  | "combiningmark" => some ["mn", "mc", "me"]
  | "n" => some ["nd", "nl", "no"]
  | "number" => some ["nd", "nl", "no"]
  | "p" => some ["pc", "pd", "ps", "pe", "pi", "pf", "po"]
  | "punctuation" => some ["pc", "pd", "ps", "pe", "pi", "pf", "po"]
  | "punct" => some ["pc", "pd", "ps", "pe", "pi", "pf", "po"]
  | "s" => some ["sm", "sc", "sk", "so"]
  | "symbol" => some ["sm", "sc", "sk", "so"]
  | "z" => some ["zs", "zl", "zp"]
  | "separator" => some ["zs", "zl", "zp"]
  | "c" => some ["cc", "cf", "co", "cn"]
  | "other" => some ["cc", "cf", "co", "cn"]
  | _ => none

/- The set of a general category. -/
def category?
    (name : String) : Option CharSet :=
  match name with
  | "any" => some CharSet.empty.complement
  | "ascii" => some ⟨[(0, 127)]⟩
  | "assigned" =>
      (setOf? categories "cn").map CharSet.complement
  | _ =>
      match categoryGroup? name with
      | some group => some (categoryUnion group)
      | none => setOf? categories name

/- The set of an age: all that was assigned by then. -/
def age?
    (name : String) : Option CharSet :=
  let upTo := ages.takeWhile (fun e => !e.1.contains name)
  (ages.find? (fun e => e.1.contains name)).map
    (fun e =>
      CharSet.ofRanges
        ((e :: upTo).flatMap (fun x => (CharSet.ofText x.2).ranges)))

/- The set of the scripts that use a character. -/
def scriptExtension?
    (name : String) : Option CharSet :=
  setOf? scriptExtensions name <|> setOf? scripts name

/- The characters of a property with a single name. -/
def named?
    (name : List Char) : Option CharSet :=
  let name := looseName name
  let property :=
    if name = "cf" ∨ name = "sc" ∨ name = "lc" then
      none
    else
      setOf? properties name
  property <|> category? name <|> setOf? scripts name

/- The characters with a value of a property. -/
def valued?
    (property value : List Char) : Option CharSet :=
  let value := looseName value
  match looseName property with
  | "gc" => category? value
  | "generalcategory" => category? value
  | "sc" => setOf? scripts value
  | "script" => setOf? scripts value
  | "scx" => scriptExtension? value
  | "scriptextensions" => scriptExtension? value
  | "age" => age? value
  | "gcb" => setOf? graphemeBreaks value
  | "graphemeclusterbreak" => setOf? graphemeBreaks value
  | "wb" => setOf? wordBreaks value
  | "wordbreak" => setOf? wordBreaks value
  | "sb" => setOf? sentenceBreaks value
  | "sentencebreak" => setOf? sentenceBreaks value
  | _ => none

------------------------------------------------------------
-- Common Sets
------------------------------------------------------------

/- The word characters. -/
def wordSet : CharSet :=
  CharSet.ofText wordRanges

/- The decimal digits. -/
def digitSet : CharSet :=
  categoryUnion ["nd"]

/- The white space. -/
def blankSet : CharSet :=
  ((setOf? properties "whitespace").getD CharSet.empty)

/- The letters, in the sense of the property Alphabetic. -/
def letterSet : CharSet :=
  ((setOf? properties "alphabetic").getD CharSet.empty)

/- The numbers of every kind. -/
def numberSet : CharSet :=
  categoryUnion ["nd", "nl", "no"]

------------------------------------------------------------
-- Case Folding
------------------------------------------------------------

/- The groups of code points that differ in case only. -/
def foldingTable : List (List Nat) :=
  (CharSet.words foldingGroups).map
    (fun group => (group.splitOn '-').map CharSet.readHex)

/- A code point lies in a set. -/
def holdsCode
    (s : CharSet)
    (code : Nat) : Bool :=
  s.ranges.any (fun r => r.1 ≤ code && code ≤ r.2)

/- Add to a set all that differs from its members in case only. -/
def foldCase
    (s : CharSet) : CharSet :=
  let added :=
    foldingTable.filter (fun group => group.any (holdsCode s))
  s.union (CharSet.ofRanges (added.flatten.map (fun n => (n, n))))

/- Add the other case of every ASCII letter of a set. -/
def foldAsciiCase
    (s : CharSet) : CharSet :=
  let upper := s.inter ⟨[(65, 90)]⟩
  let lower := s.inter ⟨[(97, 122)]⟩
  (s.union ⟨upper.ranges.map (fun r => (r.1 + 32, r.2 + 32))⟩).union
    ⟨lower.ranges.map (fun r => (r.1 - 32, r.2 - 32))⟩

end Unicode

end SchemaGraph
