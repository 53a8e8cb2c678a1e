import ReleasePipeline.Text.Basic

/-
  This file defines the commands of the program and how they
  are read from its arguments.  Arguments that make no command
  are a usage error; a request for help is answered without
  running anything.

  Key definitions include:
    * `Command`
    * `Request`
    * `Arguments.options?`
    * `Request.ofArguments?`
-/

------------------------------------------------------------
-- Commands
------------------------------------------------------------

namespace ReleasePipeline

/- What the program can be told to do. -/
inductive Command where
  | release (version : Option String) (timeout : Option Nat)
      (json : Bool)
  | lock (write json : Bool)
  | quality (rules json : Bool)
  | channel (version : Option String) (json : Bool)
  | metadata (version : Option String) (fetch json : Bool)
deriving DecidableEq, Repr

/- A command, or a request for help. -/
inductive Request where
  | run (command : Command)
  | help
deriving DecidableEq, Repr

namespace Arguments

------------------------------------------------------------
-- Options
------------------------------------------------------------

/- An option that was given; a switch has no value. -/
structure Given where
  name : String
  value : Option String
deriving DecidableEq, Repr

/- The options of a command: switches, and those with a value. -/
structure Spec where
  switches : List String
  valued : List String
deriving DecidableEq, Repr

/- The end of reading options: all of them, or help. -/
inductive Options where
  | given (options : List Given)
  | help
deriving DecidableEq, Repr

/- The name and the attached value of a long option. -/
def long? (argument : String) : Option (String × Option String) :=
  match argument.toList with
  | '-' :: '-' :: cs =>
      let name := String.ofList (cs.takeWhile (· != '='))
      match cs.dropWhile (· != '=') with
      | [] => some (name, none)
      | _ :: value => some (name, some (String.ofList value))
  | _ => none

/- Whether an argument looks like an option. -/
def isOption (argument : String) : Bool :=
  match argument.toList with
  | '-' :: _ :: _ => true
  | _ => false

/- What a group of short options asks for, if all are known. -/
inductive ShortGroup where
  | verbose
  | help
  | unknown
deriving DecidableEq, Repr

/- Read short options from left to right. -/
def shortGroup : List Char → ShortGroup
  | [] => .verbose
  | c :: cs =>
      if c = 'v' then shortGroup cs
      else if c = 'h' then .help
      else .unknown

/- The characters of a group of short options. -/
def short? (argument : String) : Option (List Char) :=
  match argument.toList with
  | '-' :: c :: cs => some (c :: cs)
  | _ => none

/- A whole number with an optional sign, within sixty-four bits. -/
def number? (text : String) : Option Nat :=
  let digits :=
    match text.toList with
    | '+' :: cs => cs
    | cs => cs
  if digits = [] ∨ !digits.all Char.isDigit then
    none
  else
    let n := digits.foldl (fun n c => n * 10 + (c.toNat - 0x30)) 0
    if n < Nat.pow 2 64 then some n else none

/- The option whose value has to be a number. -/
def timeoutOption : String :=
  "timeout"

/- Whether a value may be given to an option. -/
def isAcceptable (name value : String) : Bool :=
  name != timeoutOption || (number? value).isSome

/-
  Add an option to those given so far.  An option may be given
  only once.
-/
def add?
    (given : List Given)
    (name : String)
    (value : Option String) : Option (List Given) :=
  if given.any (·.name == name) then none
  else some (given ++ [.mk name value])

/-
  Read the options of a command.  A value may be attached or
  be the next argument, which must not look like an option.
-/
def options?
    (spec : Spec) : List Given → List String → Option Options
  | given, [] => some (.given given)
  | given, argument :: rest =>
      if argument = "--" then
        if rest = [] then some (.given given) else none
      else
        match long? argument with
        | some ("help", none) => some .help
        | some ("verbose", none) => options? spec given rest
        | some (name, attached) =>
            if spec.switches.contains name then
              if attached.isNone then
                match add? given name none with
                | some given => options? spec given rest
                | none => none
              else
                none
            else if spec.valued.contains name then
              match attached, rest with
              | some value, rest =>
                  if isAcceptable name value then
                    match add? given name (some value) with
                    | some given => options? spec given rest
                    | none => none
                  else
                    none
              | none, value :: rest =>
                  if !isOption value && isAcceptable name value then
                    match add? given name (some value) with
                    | some given => options? spec given rest
                    | none => none
                  else
                    none
              | none, [] => none
            else
              none
        | none =>
            match (short? argument).map shortGroup with
            | some .verbose => options? spec given rest
            | some .help => some .help
            | _ => none

/- Whether a switch was given. -/
def hasSwitch
    (given : List Given)
    (name : String) : Bool :=
  given.any (·.name == name)

/- The value that an option was given. -/
def valueOf?
    (given : List Given)
    (name : String) : Option String :=
  (given.find? (·.name == name)).bind (·.value)

------------------------------------------------------------
-- Commands
------------------------------------------------------------

/- The options of the command of a name. -/
def spec? (name : String) : Option Spec :=
  [("release", ⟨["json"], ["version", timeoutOption]⟩),
    ("lock", ⟨["write", "json"], []⟩),
    ("quality", ⟨["rules", "json"], []⟩),
    ("channel", ⟨["json"], ["version"]⟩),
    ("metadata", ⟨["fetch", "json"], ["version"]⟩)].lookup name

/- The command of a name with the options that were given. -/
def command
    (name : String)
    (given : List Given) : Command :=
  let json := hasSwitch given "json"
  let version := valueOf? given "version"
  if name = "release" then
    .release version ((valueOf? given timeoutOption).bind number?) json
  else if name = "lock" then
    .lock (hasSwitch given "write") json
  else if name = "quality" then
    .quality (hasSwitch given "rules") json
  else if name = "channel" then
    .channel version json
  else
    .metadata version (hasSwitch given "fetch") json

/- Whether arguments after `help` name a command, or nothing. -/
def namesTopic : List String → Bool
  | [] => true
  | [name] => name = "help" || (spec? name).isSome
  | _ => false

end Arguments

open Arguments

/-
  Read the arguments of the program: options that apply to any
  command, then the command and its own options.
-/
def Request.ofArguments? : List String → Option Request
  | [] => none
  | argument :: rest =>
      match spec? argument with
      | some spec =>
          match options? spec [] rest with
          | some (.given given) => some (.run (command argument given))
          | some .help => some .help
          | none => none
      | none =>
          if argument = "help" then
            if namesTopic rest then some .help else none
          else if argument = "--help" ∨ argument = "--version" then
            some .help
          else if argument = "--verbose" then
            ofArguments? rest
          else
            match short? argument with
            | some ('-' :: _) => none
            | some cs =>
                match cs.dropWhile (· == 'v') with
                | [] => ofArguments? rest
                | 'h' :: _ => some .help
                | 'V' :: _ => some .help
                | _ => none
            | none => none

end ReleasePipeline
