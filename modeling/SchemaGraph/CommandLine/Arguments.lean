import SchemaGraph.Path

/-
  This file reads the arguments of the command line.  An
  option has a long name after two dashes, and may have a
  letter after one.  A value follows its option as the next
  argument, or in the same one: after the letter, or after
  an equals sign.

  Key definitions include:
    * `CommandLine.Flag`
    * `CommandLine.Arguments`
    * `CommandLine.Request`
    * `CommandLine.readFlags`
    * `CommandLine.readRequest`
-/

namespace SchemaGraph

namespace CommandLine

------------------------------------------------------------
-- Flags
------------------------------------------------------------

/- The options of the command line. -/
inductive Flag where
  | schema
  | data
  | missing
  | subSchema
  | stripUnknown
  | config
  | help
deriving DecidableEq, Repr

namespace Flag

/- All options. -/
def all : List Flag :=
  [schema, data, missing, subSchema, stripUnknown, config, help]

/- The name after two dashes. -/
def longName : Flag → String
  | schema => "schema"
  | data => "data"
  | missing => "missing"
  | subSchema => "sub-schema"
  | stripUnknown => "strip-unknown"
  | config => "config"
  | help => "help"

/- The letter after one dash. -/
def letter? : Flag → Option Char
  | schema => some 's'
  | data => some 'd'
  | config => some 'c'
  | help => some 'h'
  | _ => none

/- What the value of an option is called; some options have none. -/
def valueName? : Flag → Option String
  | schema => some "SCHEMA"
  | data => some "DATA"
  | subSchema => some "ID=PATH"
  | config => some "CONFIG"
  | _ => none

/- What an option is for. -/
def purpose : Flag → String
  | schema => "Schema file to compile"
  | data => "JSON document to validate"
  | missing => "Validate an absent value instead of a document"
  | subSchema => "Extra sub-schema, as ID=PATH (repeatable)"
  | stripUnknown =>
      "Strip unknown object keys instead of rejecting them"
  | config => "Config file (defaults to schema-compiler.toml lookup)"
  | help => "Print help"

/- The option may be given more than once. -/
def isRepeatable
    (flag : Flag) : Bool :=
  flag = subSchema

/- The value of an option may be empty. -/
def allowsEmpty : Flag → Bool
  | schema => false
  | data => false
  | _ => true

/- The option with a long name. -/
def ofLongName?
    (name : String) : Option Flag :=
  all.find? (fun flag => flag.longName = name)

/- The option with a letter. -/
def ofLetter?
    (c : Char) : Option Flag :=
  all.find? (fun flag => flag.letter? = some c)

end Flag

------------------------------------------------------------
-- Requests
------------------------------------------------------------

/- What a run of the program is about. -/
structure Arguments where
  schema : Path
  /- The document to check; without one, an absent value. -/
  data : Option Path
  subSchemas : List String
  stripUnknown : Bool
  config : Option String
deriving DecidableEq, Repr

/- What the arguments ask for. -/
inductive Request where
  | run (arguments : Arguments)
  | showHelp
  /- The arguments make no sense. -/
  | misuse
deriving DecidableEq, Repr

/- Options with their values, in their order. -/
abbrev Found := List (Flag × String)

------------------------------------------------------------
-- Reading
------------------------------------------------------------

/- An argument that is an option rather than a value. -/
def isOption
    (argument : String) : Bool :=
  match argument.toList with
  | '-' :: _ :: _ => true
  | _ => false

/- Split a text at the first equals sign. -/
def splitEquals
    (text : String) : String × Option String :=
  let cs := text.toList
  match cs.dropWhile (· != '=') with
  | [] => (text, none)
  | _ :: value =>
      (String.ofList (cs.takeWhile (· != '=')),
        some (String.ofList value))

/- The option of an argument, and the value in the same argument. -/
def readOption?
    (argument : String) : Option (Flag × Option String) :=
  match argument.toList with
  | '-' :: '-' :: name =>
      let (name, value) := splitEquals (String.ofList name)
      (Flag.ofLongName? name).map (fun flag => (flag, value))
  | '-' :: c :: rest =>
      (Flag.ofLetter? c).map (fun flag =>
        match rest with
        | [] => (flag, none)
        | '=' :: value => (flag, some (String.ofList value))
        | value => (flag, some (String.ofList value)))
  | _ => none

/- Add an option, if it may be there with its value. -/
def addFlag?
    (found : Found)
    (flag : Flag)
    (value : String) : Option Found :=
  if (!flag.isRepeatable && found.any (fun e => e.1 = flag))
      || (value = "" && !flag.allowsEmpty) then
    none
  else
    some (found ++ [(flag, value)])

/-
  Read all options.  Help is given as soon as it is asked
  for; other arguments than options make no sense.
-/
def readFlags : Found → List String → Except Request Found
  | found, [] => .ok found
  | found, argument :: rest =>
      match readOption? argument with
      | none =>
          if argument = "--" ∧ rest = [] then
            .ok found
          else
            .error .misuse
      | some (.help, none) => .error .showHelp
      | some (flag, value) =>
          match flag.valueName?, value with
          | none, some _ => .error .misuse
          | none, none =>
              match addFlag? found flag "set" with
              | some found => readFlags found rest
              | none => .error .misuse
          | some _, some value =>
              match addFlag? found flag value with
              | some found => readFlags found rest
              | none => .error .misuse
          | some _, none =>
              match rest with
              | [] => .error .misuse
              | next :: more =>
                  if isOption next then
                    .error .misuse
                  else
                    match addFlag? found flag next with
                    | some found => readFlags found more
                    | none => .error .misuse

/- The values of an option. -/
def valuesOf
    (found : Found)
    (flag : Flag) : List String :=
  (found.filter (fun e => e.1 = flag)).map (·.2)

/-
  What options ask for.  A schema must be given, and either
  a document or the wish for an absent value, which excludes
  the wish to strip.
-/
def requestOf
    (found : Found) : Request :=
  let given (flag : Flag) := (valuesOf found flag).head?
  let stripUnknown := (given .stripUnknown).isSome
  match given .schema, given .data, given .missing with
  | some schema, some data, none =>
      .run
        ⟨⟨schema⟩, some ⟨data⟩, valuesOf found .subSchema,
          stripUnknown, given .config⟩
  | some schema, none, some _ =>
      if stripUnknown then
        .misuse
      else
        .run
          ⟨⟨schema⟩, none, valuesOf found .subSchema, false,
            given .config⟩
  | _, _, _ => .misuse

/- Read the arguments of the command line. -/
def readRequest
    (arguments : List String) : Request :=
  match readFlags [] arguments with
  | .ok found => requestOf found
  | .error request => request

------------------------------------------------------------
-- Help
------------------------------------------------------------

/- How an option is written, with its value. -/
def Flag.usage
    (flag : Flag) : String :=
  let letter :=
    match flag.letter? with
    | some c => "-" ++ c.toString ++ ", "
    | none => "    "
  let value :=
    match flag.valueName? with
    | some name => " <" ++ name ++ ">"
    | none => ""
  "  " ++ letter ++ "--" ++ flag.longName ++ value

/- One line of the help on an option. -/
def Flag.helpLine
    (width : Nat)
    (flag : Flag) : String :=
  let usage := flag.usage
  usage ++ String.ofList (List.replicate (width - usage.length) ' ')
    ++ "  " ++ flag.purpose

/- The text of the help. -/
def helpText : String :=
  let width :=
    (Flag.all.map (fun flag => flag.usage.length)).foldl max 0
  "Validate JSON data against a compiled schema\n\n"
    ++ "Usage: schema-validate [OPTIONS] --schema <SCHEMA>\n\n"
    ++ "Options:\n"
    ++ String.join
        (Flag.all.map (fun flag => flag.helpLine width ++ "\n"))

end CommandLine

end SchemaGraph
