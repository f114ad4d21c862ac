/-
Module: WebHost.CommandLine.Arguments
Purpose: The grammar of command lines.
Main exports:
  OptionKind, OptionRule, Given, ArgumentStop, readArguments, helpRule
-/
import WebHost.Text.Ascii

namespace WebHost

open Text

/-!
An option has a long name after two hyphens and may have a letter after one.
Its value is the next argument, or follows the long name after an equals sign,
or follows the letter, with an equals sign between them or without.  An
argument that starts with a hyphen is no value, unless it is a hyphen alone.
Nothing but options is expected.  Arguments are read from left to right, and
the first problem, or the first wish for help, decides.
-/

/-- What an option takes and how often it may be given. -/
inductive OptionKind where
  | help
  | flag
  | single
  | repeated
deriving Repr, Inhabited, DecidableEq

/-- An option: its names, its kind and the values it accepts. -/
structure OptionRule where
  name : String
  letter : Option Char
  kind : OptionKind
  accepts : String → Bool

/-- The option that asks for help. -/
def helpRule : OptionRule :=
  { name := "help"
    letter := some 'h'
    kind := .help
    accepts := fun _ => false }

/-- The options that were given, with their values, in order. -/
abbrev Given := List (String × String)

namespace Given

/-- The values of an option. -/
def values (given : Given) (name : String) : List String :=
  (given.filter fun (option, _) => option == name).map Prod.snd

/-- The value of an option that is given at most once. -/
def value? (given : Given) (name : String) : Option String :=
  given.lookup name

/-- The option was given. -/
def has (given : Given) (name : String) : Bool :=
  given.any fun (option, _) => option == name

end Given

/-- Why a program ends before it starts. -/
inductive ArgumentStop where
  | help
  | usage
deriving Repr, Inhabited, DecidableEq

/-- The exit status of a program that ends before it starts. -/
def ArgumentStop.status : ArgumentStop → Nat
  | .help => 0
  | .usage => 2

namespace OptionRule

/-- The option takes a value. -/
def takesValue (rule : OptionRule) : Bool :=
  rule.kind = .single || rule.kind = .repeated

/-- Give an option a value. -/
def give (rule : OptionRule) (value : String) (given : Given) : Except ArgumentStop Given :=
  if !rule.accepts value then .error .usage
  else if rule.kind = .single ∧ given.has rule.name then .error .usage
  else .ok (given ++ [(rule.name, value)])

/-- Set an option that takes no value. -/
def raise (rule : OptionRule) (given : Given) : Except ArgumentStop Given :=
  if rule.kind = .help then .error .help
  else if given.has rule.name then .error .usage
  else .ok (given ++ [(rule.name, "")])

end OptionRule

/-- What has been given after an argument, and the option that awaits the next
argument as its value. -/
abbrev ArgumentState := Given × Option OptionRule

/-- An argument of two hyphens and a name. -/
def readLong (rules : List OptionRule) (written : List Char) (given : Given) :
    Except ArgumentStop ArgumentState :=
  let (name, value) := match cutAt '=' written with
    | some (name, value) => (String.ofList name, some (String.ofList value))
    | none => (String.ofList written, none)
  match rules.find? fun rule => rule.name == name, value with
  | none, _ => .error .usage
  | some rule, some value =>
      if rule.takesValue then (rule.give value given).map fun given => (given, none)
      else .error .usage
  | some rule, none =>
      if rule.takesValue then .ok (given, some rule)
      else (rule.raise given).map fun given => (given, none)

/-- The letters after one hyphen. -/
def readLetters (rules : List OptionRule) : List Char → Given → Except ArgumentStop ArgumentState
  | [], given => .ok (given, none)
  | letter :: rest, given =>
      match rules.find? fun rule => rule.letter == some letter with
      | none => .error .usage
      | some rule =>
          if rule.takesValue then
            match rest with
            | [] => .ok (given, some rule)
            | '=' :: value => (rule.give (String.ofList value) given).map fun given => (given, none)
            | value => (rule.give (String.ofList value) given).map fun given => (given, none)
          else
            match rule.raise given with
            | .ok given => readLetters rules rest given
            | .error stop => .error stop

/-- One argument that is not the value of an option before it. -/
def readArgument (rules : List OptionRule) (argument : String) (given : Given) :
    Except ArgumentStop ArgumentState :=
  match argument.toList with
  | '-' :: '-' :: written => readLong rules written given
  | '-' :: letter :: rest => readLetters rules (letter :: rest) given
  | _ => .error .usage

/-- The argument cannot be the value of an option before it. -/
def startsOption (argument : String) : Bool :=
  match argument.toList with
  | '-' :: _ :: _ => true
  | _ => false

/-- Read arguments after others.  Two hyphens alone end the options. -/
def readArgumentsFrom (rules : List OptionRule) :
    ArgumentState → List String → Except ArgumentStop Given
  | (given, none), [] => .ok given
  | (_, some _), [] => .error .usage
  | (given, some rule), argument :: rest =>
      if startsOption argument then .error .usage
      else
        match rule.give argument given with
        | .ok given => readArgumentsFrom rules (given, none) rest
        | .error stop => .error stop
  | (given, none), argument :: rest =>
      if argument = "--" then
        if rest = [] then .ok given else .error .usage
      else
        match readArgument rules argument given with
        | .ok state => readArgumentsFrom rules state rest
        | .error stop => .error stop

/-- Read a command line. -/
def readArguments (rules : List OptionRule) (arguments : List String) :
    Except ArgumentStop Given :=
  readArgumentsFrom rules ([], none) arguments

end WebHost
