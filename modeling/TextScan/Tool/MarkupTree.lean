import TextScan.Tool.Options
import TextScan.Tool.Outcome

/-!
# Printing the tree of a document

Reads a document and prints its element tree, after the attributes of its declaration if they are
asked for.
-/

namespace TextScan.MarkupTree

structure Options where
  /-- Print the attributes of the declaration too. -/
  withProlog : Bool
  source : Source
  verbosity : Nat
  deriving DecidableEq

def specs : List OptionSpec :=
  [⟨"prolog", none, false, false⟩, Argument.verbose]

/-- Whether the value of an argument is possible: a file has a name. -/
def isValid : Argument → Bool
  | .option _ _ => true
  | .positional path => path != ""

def parseOptions (arguments : List String) : Except Refusal Options :=
  match Argument.parse specs isValid 1 arguments with
  | .error refusal => .error refusal
  | .ok found =>
    match Source.ofPaths? (Argument.positionals found) with
    | some source =>
      .ok ⟨0 < Argument.count found "prolog", source, Argument.count found "verbose"⟩
    | none => .error .usage

def noteRecord : Element.Note → Record
  | .overwritten overwrite =>
    { level := .debug
      target := "recognizer_framework::key_value"
      message := "duplicate attribute overwritten"
      fields := [("key", .plain overwrite.key), ("previous", .plain overwrite.previous),
        ("value", .plain overwrite.value)] }
  | .mismatched opened closed offset =>
    { level := .debug
      target := "xml_recognizers::recognizers"
      message := "mismatched close tag"
      fields := [("open", .plain opened), ("close", .plain closed), ("offset", .number offset)] }
  | .unclosed tag offset =>
    { level := .debug
      target := "xml_recognizers::recognizers"
      message := "element not closed"
      fields := [("tag", .plain tag), ("offset", .number offset)] }

def summary (document : Document) : Record where
  level := .debug
  target := "xml_tree"
  message := "parsed document"
  fields := [("root", .quoted document.root.tag),
    ("children", .number document.root.children.length)]

def printEntry (entry : Text × Text) : Text :=
  entry.1 ++ " = ".toList ++ entry.2 ++ ['\n']

def print (withProlog : Bool) (document : Document) : Text :=
  (if withProlog then document.prolog.entries.flatMap printEntry else []) ++
    document.root.display

def run (options : Options) (input : Except ReadError Text) : Outcome :=
  match input with
  | .error error => ⟨[], .error (options.source.failure error)⟩
  | .ok text =>
    let (notes, parsed) := Document.readNoted text
    match parsed with
    | .error error =>
      ⟨notes.map noteRecord, .error ⟨"invalid document", some error.message⟩⟩
    | .ok document =>
      ⟨notes.map noteRecord ++ [summary document], .ok (print options.withProlog document)⟩

end TextScan.MarkupTree
