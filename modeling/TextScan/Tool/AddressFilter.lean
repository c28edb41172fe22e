import TextScan.Tool.Options
import TextScan.Tool.Outcome

/-!
# Filtering an address block

Prints the lines of an address block that are of a kind, or, of its attention lines, the names.
-/

namespace TextScan.AddressFilter

structure Options where
  kind : LineKind
  /-- Of attention lines, print only whom they name. -/
  addresseeOnly : Bool
  source : Source
  verbosity : Nat
  deriving DecidableEq

def specs : List OptionSpec :=
  [⟨"kind", none, true, false⟩, ⟨"addressee", none, false, false⟩, Argument.verbose]

/-- The kind that the arguments name; telephone numbers if they name none. -/
def kindOf? : List String → Option LineKind
  | [] => some .phone
  | word :: _ => LineKind.ofName? word

/-- Whether the value of an argument is possible: a kind that there is, a file that has a name. -/
def isValid : Argument → Bool
  | .option "kind" value => (value.bind LineKind.ofName?).isSome
  | .option _ _ => true
  | .positional path => path != ""

def parseOptions (arguments : List String) : Except Refusal Options :=
  match Argument.parse specs isValid 1 arguments with
  | .error refusal => .error refusal
  | .ok found =>
    match kindOf? (Argument.values found "kind"), Source.ofPaths? (Argument.positionals found) with
    | some kind, some source =>
      .ok ⟨kind, 0 < Argument.count found "addressee", source, Argument.count found "verbose"⟩
    | _, _ => .error .usage

def kindName : LineKind → String
  | .phone => "Phone"
  | .postal => "Postal"
  | .zip => "Zip"
  | .attention => "Attention"
  | .careOf => "CareOf"

def lineRecord (kind : LineKind) (line : Text) : Record where
  level := .trace
  target := "address_recognizers::lines"
  message := if kind.filter.keeps line then "accepted" else "rejected"
  fields := [("filter", .quoted kind.name.toList), ("line", .quoted line)]

def summary (kind : LineKind) (matched : Nat) : Record where
  level := .info
  target := "address_filter"
  message := "filtered address block"
  fields := [("kind", .plain (kindName kind).toList), ("matched", .number matched)]

def select (kind : LineKind) (addresseeOnly : Bool) (text : Text) : List Text :=
  let kept := kind.filter.keep text.lines
  if kind = .attention && addresseeOnly then kept.filterMap Routing.addressee else kept

def run (options : Options) (input : Except ReadError Text) : Outcome :=
  match input with
  | .error error => ⟨[], .error (options.source.failure error)⟩
  | .ok text =>
    let selected := select options.kind options.addresseeOnly text
    ⟨text.lines.map (lineRecord options.kind) ++ [summary options.kind selected.length],
      .ok (Text.unlines selected)⟩

end TextScan.AddressFilter
