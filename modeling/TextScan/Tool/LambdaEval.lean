import TextScan.Lambda.Evaluation
import TextScan.Lambda.Reader
import TextScan.Tool.Options
import TextScan.Tool.Outcome

/-!
# Evaluating a term

Reads a term given on the command line, with bindings for its free names, and prints its value or,
if that is all that is asked for, the term as it was read.
-/

namespace TextScan.LambdaEval

structure Options where
  expression : Text
  /-- Bindings of the form `name=term`, in order. -/
  bindings : List Text
  /-- Print the term without evaluating it. -/
  parseOnly : Bool
  verbosity : Nat
  deriving DecidableEq

def specs : List OptionSpec :=
  [⟨"let", none, true, true⟩, ⟨"parse-only", none, false, false⟩, Argument.verbose]

def parseOptions (arguments : List String) : Except Refusal Options :=
  match Argument.parse specs (fun _ => true) 1 arguments with
  | .error refusal => .error refusal
  | .ok found =>
    match Argument.positionals found with
    | [expression] =>
      .ok ⟨expression.toList, (Argument.values found "let").map String.toList,
        0 < Argument.count found "parse-only", Argument.count found "verbose"⟩
    | _ => .error .usage

/-- The records of a journal: one for each term that was entered again. -/
def journalRecords (journal : List Term.Entry) : List Record :=
  (journal.filter fun entry => entry.again).map fun entry =>
    { level := .trace
      target := "recognizer_example::lambda"
      message := "application re-entered without progress"
      fields := [("offset", .number entry.offset)] }

def summary (term : Term) : Record where
  level := .info
  target := "lambda_eval"
  message := "parsed"
  fields := [("term", .plain term.display)]

/-- Divides a binding at its first equals sign. -/
def splitBinding? (binding : Text) : Option (Text × Text) :=
  match binding.dropWhile (· != '=') with
  | [] => none
  | _ :: term => some (binding.takeWhile (· != '='), term)

/-- Adds a binding to an environment. -/
def bind (environment : Environment) (binding : Text) :
    List Record × Except Failure Environment :=
  match splitBinding? binding with
  | none =>
    ([], .error ⟨"binding " ++ String.ofList binding.quoted ++
      " is not of the form NAME=TERM", none⟩)
  | some (left, right) =>
    let name := Text.trim left isWhiteSpace
    let (journal, parsed) := Term.readNoted right
    match parsed with
    | .error error =>
      (journalRecords journal,
        .error ⟨"invalid term for " ++ String.ofList name, some error.message⟩)
    | .ok term => (journalRecords journal, .ok (environment.insert name term))

/-- Adds bindings to an environment, up to the first that is not well formed. -/
def bindAll (environment : Environment) : List Text → List Record × Except Failure Environment
  | [] => ([], .ok environment)
  | binding :: rest =>
    match bind environment binding with
    | (records, .error failure) => (records, .error failure)
    | (records, .ok extended) =>
      let others := bindAll extended rest
      (records ++ others.1, others.2)

def run (options : Options) : Outcome :=
  match bindAll .empty options.bindings with
  | (records, .error failure) => ⟨records, .error failure⟩
  | (records, .ok environment) =>
    let (journal, parsed) := Term.readNoted options.expression
    let records := records ++ journalRecords journal
    match parsed with
    | .error error => ⟨records, .error ⟨"invalid term", some error.message⟩⟩
    | .ok term =>
      let records := records ++ [summary term]
      if options.parseOnly then ⟨records, .ok (term.display ++ ['\n'])⟩
      else
        match term.eval environment with
        | .error error => ⟨records, .error ⟨error.message, none⟩⟩
        | .ok value => ⟨records, .ok (value.display ++ ['\n'])⟩

end TextScan.LambdaEval
