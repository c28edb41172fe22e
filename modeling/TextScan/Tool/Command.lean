import TextScan.Tool.AddressFilter
import TextScan.Tool.LambdaEval
import TextScan.Tool.MarkupTree

/-!
# Commands

A command is one of the tools with its options.  Running it takes the input that it asks for and
gives what it prints, so that only fetching the input and writing the output are left to do.
-/

namespace TextScan

inductive Command where
  | addressFilter (options : AddressFilter.Options)
  | markupTree (options : MarkupTree.Options)
  | lambdaEval (options : LambdaEval.Options)
  deriving DecidableEq

namespace Command

def parse (tool : String) (arguments : List String) : Except Refusal Command :=
  match tool with
  | "address-filter" => (AddressFilter.parseOptions arguments).map addressFilter
  | "xml-tree" => (MarkupTree.parseOptions arguments).map markupTree
  | "lambda-eval" => (LambdaEval.parseOptions arguments).map lambdaEval
  | _ => .error .usage

def source? : Command → Option Source
  | addressFilter options => some options.source
  | markupTree options => some options.source
  | lambdaEval _ => none

/-- How detailed the records are that the command shows. -/
def level : Command → Level
  | addressFilter options => .ofVerbosity options.verbosity
  | markupTree options => .ofVerbosity options.verbosity
  | lambdaEval options => .ofVerbosity options.verbosity

def run (command : Command) (input : Except ReadError Text) : Outcome :=
  match command with
  | addressFilter options => AddressFilter.run options input
  | markupTree options => MarkupTree.run options input
  | lambdaEval options => LambdaEval.run options

/-- The lines that the command logs, given its outcome. -/
def log (command : Command) (outcome : Outcome) : List String :=
  Record.shown command.level outcome.records

def usage : String :=
  "usage: address-filter [--kind KIND] [--addressee] [-v] [FILE]\n" ++
  "       xml-tree [--prolog] [-v] [FILE]\n" ++
  "       lambda-eval [--let NAME=TERM] [--parse-only] [-v] EXPR"

end Command

end TextScan
