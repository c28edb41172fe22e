/-!
# Command-line options

Options are written `--name`, `--name value` or `--name=value`, or with one letter after one
hyphen, where several letters can share the hyphen.  They stand before, between and after the other
arguments; a double hyphen ends them.  What starts with a hyphen is never taken for a value, a
single hyphen alone excepted.

Arguments are judged in their order: the first fault counts, and a request for help is heard only
if no fault comes before it.
-/

namespace TextScan

structure OptionSpec where
  name : String
  letter : Option Char
  takesValue : Bool
  repeatable : Bool
  deriving DecidableEq

/-- An argument of a tool: an option with its value, if it takes one, or anything else. -/
inductive Argument where
  | option (name : String) (value : Option String)
  | positional (value : String)
  deriving DecidableEq

/-- Why a tool does not start. -/
inductive Refusal where
  /-- The arguments are not as they should be. -/
  | usage
  /-- Help was asked for. -/
  | help
  deriving DecidableEq

/-- The arguments of a tool as far as they were read, and what stopped the reading, if anything
did. -/
structure Arguments where
  found : List Argument
  stopped : Option Refusal
  deriving DecidableEq

namespace Arguments

def stop (refusal : Refusal) : Arguments :=
  ⟨[], some refusal⟩

def cons (argument : Argument) (others : Arguments) : Arguments :=
  ⟨argument :: others.found, others.stopped⟩

end Arguments

namespace Argument

/-- Whether the argument starts options: a hyphen and something after it. -/
def isOptionLike (argument : String) : Bool :=
  match argument.toList with
  | '-' :: _ :: _ => true
  | _ => false

/-- Reads letters that share a hyphen, in front of other arguments.  None of them can take a
value. -/
def readLetters (specs : List OptionSpec) (others : Arguments) : List Char → Arguments
  | [] => others
  | 'h' :: _ => .stop .help
  | letter :: rest =>
    match specs.find? fun spec => spec.letter == some letter && !spec.takesValue with
    | none => .stop .usage
    | some spec => .cons (option spec.name none) (readLetters specs others rest)

/-- Divides an option into its name and the value after an equals sign. -/
def splitValue (body : List Char) : String × Option String :=
  match body.dropWhile (· != '=') with
  | [] => (String.ofList body, none)
  | _ :: value => (String.ofList (body.takeWhile (· != '=')), some (String.ofList value))

/-- Reads the arguments of a tool, up to a request for help or an argument that is none. -/
def read (specs : List OptionSpec) : List String → Arguments
  | [] => ⟨[], none⟩
  | argument :: rest =>
    match argument.toList with
    | ['-', '-'] => ⟨rest.map positional, none⟩
    | '-' :: '-' :: body =>
      let (name, attached) := splitValue body
      if name = "help" && attached.isNone then .stop .help
      else
        match specs.find? fun spec => spec.name == name with
        | none => .stop .usage
        | some spec =>
          if spec.takesValue then
            match attached, rest with
            | some value, rest => .cons (option name (some value)) (read specs rest)
            | none, [] => .stop .usage
            | none, value :: rest =>
              if isOptionLike value then .stop .usage
              else .cons (option name (some value)) (read specs rest)
          else if attached.isSome then .stop .usage
          else .cons (option name none) (read specs rest)
    | '-' :: letter :: letters => readLetters specs (read specs rest) (letter :: letters)
    | _ => .cons (positional argument) (read specs rest)

def values (arguments : List Argument) (name : String) : List String :=
  arguments.filterMap fun argument =>
    match argument with
    | option other (some value) => if other = name then some value else none
    | _ => none

def count (arguments : List Argument) (name : String) : Nat :=
  arguments.countP fun argument =>
    match argument with
    | option other _ => other = name
    | positional _ => false

def positionals (arguments : List Argument) : List String :=
  arguments.filterMap fun argument =>
    match argument with
    | option _ _ => none
    | positional value => some value

/-- Whether arguments are as they should be: each one is valid, no option comes twice without
being repeatable, and no more than `places` of them are no options. -/
def allFit (specs : List OptionSpec) (isValid : Argument → Bool) (places : Nat)
    (arguments : List Argument) : Bool :=
  arguments.all isValid && (positionals arguments).length ≤ places &&
    specs.all fun spec => spec.repeatable || count arguments spec.name ≤ 1

/-- Reads the arguments of a tool.  A fault among those in front of what stopped the reading
comes first. -/
def parse (specs : List OptionSpec) (isValid : Argument → Bool) (places : Nat)
    (arguments : List String) : Except Refusal (List Argument) :=
  let result := read specs arguments
  if allFit specs isValid places result.found then
    match result.stopped with
    | none => .ok result.found
    | some refusal => .error refusal
  else .error .usage

def verbose : OptionSpec :=
  ⟨"verbose", some 'v', false, true⟩

end Argument

end TextScan
