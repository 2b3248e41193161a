import SchemaGraph.Settings.Layer
import SchemaGraph.Toml.Scalar

/-
  This file defines the environment that a program runs in,
  and reads settings from it.  The variables whose names
  start with `SCHEMA_COMPILER__` are settings; in the rest
  of a name two underscores separate its parts.

  A value that spells a boolean, an integer or a float is
  taken for one.

  Key definitions include:
    * `Environment`
    * `Environment.get?`
    * `Environment.userFile?`
    * `Environment.value`
    * `Environment.settings`
-/

namespace SchemaGraph

/- Variables with their values. -/
abbrev Environment := List (String × String)

namespace Environment

/- The value of a variable; the last one counts. -/
def get?
    (environment : Environment)
    (name : String) : Option String :=
  environment.reverse.lookup name

/-
  The directory for settings of the user: the one that the
  environment names, or the usual one in the home directory.
-/
def userDirectory?
    (environment : Environment) : Option Path :=
  let named := (environment.get? "XDG_CONFIG_HOME").map Path.mk
  let home :=
    match environment.get? "HOME" with
    | some "" => none
    | some text => some (Path.join ⟨text⟩ ⟨".config"⟩)
    | none => none
  match named with
  | some p => if p.isAbsolute then some p else home
  | none => home

/- The file with the settings of the user. -/
def userFile?
    (environment : Environment) : Option Path :=
  environment.userDirectory?.map (fun p =>
    (p.join ⟨"schema-compiler"⟩).join ⟨"schema-compiler.toml"⟩)

------------------------------------------------------------
-- Values
------------------------------------------------------------

/- The integer of 64 bits that a text spells. -/
def integer?
    (text : String) : Option Json :=
  let (negative, cs) := Toml.readSign text.toList
  if cs.isEmpty || !cs.all Char.isDigit then
    none
  else
    let n : Int := Calendar.digitsValue cs
    Toml.integer? (if negative then -n else n)

/- Read the exponent of a float up to its end. -/
def exponent? : List Char → Option Int
  | [] => some 0
  | c :: cs =>
      if c = 'e' ∨ c = 'E' then
        let (negative, digits) := Toml.readSign cs
        if digits.isEmpty || !digits.all Char.isDigit then
          none
        else
          let n : Int := Calendar.digitsValue digits
          some (if negative then -n else n)
      else
        none

/- The float that a text without sign spells. -/
def unsignedFloat?
    (text : String) : Option Float :=
  let lower := text.toLower
  if lower = "inf" ∨ lower = "infinity" then
    some (1 / 0)
  else if lower = "nan" then
    some (0 / 0)
  else
    let cs := text.toList
    let whole := cs.takeWhile Char.isDigit
    let (fraction, rest) :=
      match cs.dropWhile Char.isDigit with
      | '.' :: rest =>
          (rest.takeWhile Char.isDigit, rest.dropWhile Char.isDigit)
      | rest => ([], rest)
    if whole.isEmpty && fraction.isEmpty then
      none
    else
      (exponent? rest).map (fun e =>
        Toml.nearest (whole ++ fraction) (e - fraction.length))

/- The float that a text spells. -/
def float?
    (text : String) : Option Json :=
  let (negative, cs) := Toml.readSign text.toList
  (unsignedFloat? (String.ofList cs)).map (fun f =>
    .number (.real (if negative then -f else f)))

/- The value that a variable stands for. -/
def value
    (text : String) : Json :=
  match text.toLower with
  | "true" => .bool true
  | "false" => .bool false
  | _ => ((integer? text) <|> (float? text)).getD (.string text)

------------------------------------------------------------
-- Settings
------------------------------------------------------------

/- The start of the names of settings, in lower case. -/
def settingStart : List Char :=
  "schema_compiler__".toList

/- Write a point for every two underscores. -/
def pointed : List Char → List Char
  | '_' :: '_' :: cs => '.' :: pointed cs
  | c :: cs => c :: pointed cs
  | [] => []

/- The key of the setting that a variable holds. -/
def settingKey?
    (name : String) : Option String :=
  let cs := name.toLower.toList
  if settingStart.isPrefixOf cs then
    some (String.ofList (pointed (cs.drop settingStart.length)))
  else
    none

/- The settings that an environment holds. -/
def settings
    (environment : Environment) : List (String × Json) :=
  Members.ofList
    (environment.filterMap (fun (name, text) =>
      (settingKey? name).map (fun key => (key, value text))))

end Environment

end SchemaGraph
