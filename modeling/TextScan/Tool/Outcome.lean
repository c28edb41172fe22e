import TextScan.Address.Block
import TextScan.Tool.Log

/-!
# Outcomes of a tool

A tool either prints a text or fails with what it was about and, mostly, the cause.  Either way it
leaves records of what it did.
-/

namespace TextScan

inductive ReadError where
  | notFound
  /-- The path goes through a file as if it were a folder. -/
  | notFolder
  /-- The path leads to a folder. -/
  | isFolder
  | notText
  /-- Another fault, as the system words it. -/
  | fault (message : String)
  deriving DecidableEq

namespace ReadError

def message : ReadError → String
  | notFound => "No such file or directory (os error 2)"
  | notFolder => "Not a directory (os error 20)"
  | isFolder => "Is a directory (os error 21)"
  | notText => "stream did not contain valid UTF-8"
  | fault message => message

end ReadError

/-- The text whose UTF-8 form the bytes are. -/
def Text.ofBytes (bytes : ByteArray) : Except ReadError Text :=
  match String.fromUTF8? bytes with
  | none => .error .notText
  | some decoded => .ok decoded.toList

structure Failure where
  context : String
  cause : Option String
  deriving DecidableEq

def Failure.report (failure : Failure) : List String :=
  let text :=
    match failure.cause with
    | none => "Error: " ++ failure.context
    | some cause => "Error: " ++ failure.context ++ "\n\nCaused by:\n    " ++ cause
  (Text.lines text.toList).map String.ofList

inductive Source where
  | standardInput
  | file (path : String)
  deriving DecidableEq

namespace Source

/-- The input that arguments name: at most one file, and not one without a name. -/
def ofPaths? : List String → Option Source
  | [] => some standardInput
  | [path] => if path = "" then none else some (file path)
  | _ => none

def failure (source : Source) (error : ReadError) : Failure :=
  match source with
  | standardInput => ⟨"failed to read stdin", some error.message⟩
  | file path => ⟨"failed to read " ++ path, some error.message⟩

end Source

/-- The records that a tool leaves, and what it prints or why it fails. -/
structure Outcome where
  records : List Record
  result : Except Failure Text

/-- The exit code of a tool that started: one if it failed. -/
def Outcome.code (outcome : Outcome) : Nat :=
  match outcome.result with
  | .ok _ => 0
  | .error _ => 1

def Outcome.output (outcome : Outcome) : Text :=
  match outcome.result with
  | .ok output => output
  | .error _ => []

def Outcome.report (outcome : Outcome) : List String :=
  match outcome.result with
  | .ok _ => []
  | .error failure => failure.report

end TextScan
