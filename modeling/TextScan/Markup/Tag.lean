import TextScan.Attribute

/-!
# Tags

Opening and closing tags and the declaration in front of a document.  A tag name is whatever
stands between the angle bracket and white space or the end of the tag; in an opening tag a slash
ends it too.
-/

namespace TextScan.Tag

structure Opening where
  name : Span
  attributes : Attributes
  /-- The tag ends with `/>`: nothing is nested in the element. -/
  selfClosing : Bool
  deriving DecidableEq

def isOpeningNameEnd (c : Char) : Bool :=
  isWhiteSpace c || c == '/' || c == '>'

def isClosingNameEnd (c : Char) : Bool :=
  c == '>' || isWhiteSpace c

/-- Reads an opening tag up to and including its attributes. -/
def openingHead : Scanner (Span × List Pair) := do
  let _ ← .blank
  let _ ← .char '<'
  let name ← .run (.not (.char isOpeningNameEnd))
  let pairs ← Attributes.pairs Attributes.separator
  return (name, pairs)

/-- Reads the end of an opening tag and says whether it closes the element too. -/
def openingEnd : Scanner Bool := do
  let _ ← .blank
  let slash ← .maybe (.char '/')
  let _ ← .char '>'
  return slash.isSome

def opening : Scanner Opening := do
  let (name, pairs) ← openingHead
  let selfClosing ← openingEnd
  return ⟨name, .ofPairs pairs, selfClosing⟩

/-- Reads a closing tag and returns its name. -/
def closing : Scanner Span := do
  let _ ← .blank
  let _ ← .word .strict "</".toList
  let name ← .run (.not (.char isClosingNameEnd))
  let _ ← .blank
  let _ ← .char '>'
  return name

/-- Reads the declaration of a document up to and including its attributes. -/
def prologHead : Scanner (List Pair) := do
  let _ ← .word .strict "<?xml".toList
  Attributes.pairs Attributes.separator

def prolog : Scanner Attributes := do
  let pairs ← prologHead
  let _ ← .blank
  let _ ← .word .strict "?>".toList
  return .ofPairs pairs

/-- The replacements among the attributes of an opening tag, whether or not the tag ends as it
should. -/
def openingOverwrites (site : Site) : List Overwrite :=
  match openingHead site with
  | none => []
  | some ((_, pairs), _) => Attributes.overwrites pairs

/-- The replacements among the attributes of a declaration, whether or not it ends as it should. -/
def prologOverwrites (site : Site) : List Overwrite :=
  match prologHead site with
  | none => []
  | some (pairs, _) => Attributes.overwrites pairs

end TextScan.Tag
