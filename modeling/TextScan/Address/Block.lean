import TextScan.Rule

/-!
# Address blocks

An address block is a text of several lines.  A filter keeps the lines that a rule matches, either
as a whole, white space at the end aside, or by how they begin.
-/

namespace TextScan

namespace Text

/-- The lines of a text.  A line feed ends a line, together with one carriage return in front of
it; after the last line feed there is no further line unless something follows. -/
def lines : Text → List Text
  | [] => []
  | '\n' :: rest => [] :: lines rest
  | '\r' :: '\n' :: rest => [] :: lines rest
  | c :: rest =>
    match lines rest with
    | [] => [[c]]
    | line :: others => (c :: line) :: others

/-- Lines as a text, each ended by a line feed. -/
def unlines (lines : List Text) : Text :=
  lines.flatMap fun line => line ++ ['\n']

end Text

/-- How much of a line a rule has to account for. -/
inductive Coverage where
  /-- The line begins with a match. -/
  | beginning
  /-- The match and white space after it are the whole line. -/
  | whole
  deriving DecidableEq

/-- Keeps the lines that a rule matches. -/
structure LineFilter where
  rule : Rule
  coverage : Coverage

namespace LineFilter

def keeps (filter : LineFilter) (line : Text) : Bool :=
  let outcome := filter.rule.apply line .start
  outcome.1.matched &&
    match filter.coverage with
    | .beginning => true
    | .whole => ((Scanner.space.test line outcome.2).2).isAtEnd line

/-- The lines that the filter keeps, in their order. -/
def keep (filter : LineFilter) (lines : List Text) : List Text :=
  lines.filter filter.keeps

end LineFilter

/-- The kinds of lines that can be picked from an address block. -/
inductive LineKind where
  /-- A labelled telephone number. -/
  | phone
  /-- A zip code or a postal code. -/
  | postal
  | zip
  /-- A line that begins with an attention label. -/
  | attention
  /-- A line that begins with a label for "care of". -/
  | careOf
  deriving DecidableEq

namespace LineKind

def all : List LineKind :=
  [phone, postal, zip, attention, careOf]

def name : LineKind → String
  | phone => "phone"
  | postal => "postal"
  | zip => "zip"
  | attention => "attention"
  | careOf => "care-of"

def ofName? (word : String) : Option LineKind :=
  all.find? fun kind => kind.name == word

def filter : LineKind → LineFilter
  | phone => ⟨.labelledPhone, .whole⟩
  | postal => ⟨.zipOrPostal .test, .whole⟩
  | zip => ⟨.zip .test, .whole⟩
  | attention => ⟨.attention .test, .beginning⟩
  | careOf => ⟨.careOf .test, .beginning⟩

end LineKind

end TextScan
