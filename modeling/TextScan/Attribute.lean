import TextScan.Dictionary
import TextScan.Scanner

/-!
# Attributes

Attributes are written `key="value"`, with a separator that need not be `=`.  A key starts with a
letter or digit and goes on to the separator, to white space or to one of `"<>/?`; a value is
everything up to the closing quote and may be empty.  In a list of pairs white space between
them is optional, and of several values for one key the last is kept.
-/

namespace TextScan

abbrev Attributes := Dictionary Text

/-- A key and its value, as written. -/
structure Pair where
  key : Span
  value : Span
  deriving DecidableEq

/-- A value that was replaced because its key came again. -/
structure Overwrite where
  key : Text
  previous : Text
  value : Text
  deriving DecidableEq

namespace Attributes

def separator : Char := '='

/-- Whether the character cannot belong to a key after its first character. -/
def isKeyEnd (separator c : Char) : Bool :=
  c == separator || isWhiteSpace c || ['"', '<', '>', '/', '?'].contains c

/-- Reads `key="value"` with the given separator. -/
def pair (separator : Char) : Scanner Pair := do
  let first ← .one (.ofClass .letterOrDigit)
  let more ← .stretch (.not (.char (isKeyEnd separator)))
  let _ ← .char separator
  let _ ← .char '"'
  let value ← .stretch (.not (.is '"'))
  let _ ← .char '"'
  return ⟨⟨first.start, first.text ++ more.text⟩, value⟩

def nextPair (separator : Char) : Scanner Pair := do
  let _ ← .blank
  pair separator

/-- Reads the first `fuel` pairs, or all if there are fewer.  White space that no pair follows is
left. -/
def pairsWithin (separator : Char) : (fuel : Nat) → Site → List Pair × Site
  | 0, site => ([], site)
  | fuel + 1, site =>
    match nextPair separator site with
    | none => ([], site)
    | some (found, next) =>
      let others := pairsWithin separator fuel next
      (found :: others.1, others.2)

/-- Reads pairs as long as there are any, maybe none.  Each takes a character at least. -/
def pairs (separator : Char) : Scanner (List Pair) := fun site =>
  some (pairsWithin separator site.rest.length site)

/-- The values under the keys of the pairs; the last pair of a key counts. -/
def ofPairs (pairs : List Pair) : Attributes :=
  .ofList (pairs.map fun pair => (pair.key.text, pair.value.text))

/-- Reads one pair or more. -/
def read (separator : Char) : Scanner Attributes := fun site =>
  match pairs separator site with
  | some (found, next) => if found.isEmpty then none else some (ofPairs found, next)
  | none => none

/-- The replacements that happen when pairs are added to attributes one by one. -/
def overwritesFrom (attributes : Attributes) : List Pair → List Overwrite
  | [] => []
  | pair :: rest =>
    let others := overwritesFrom (attributes.insert pair.key.text pair.value.text) rest
    match attributes.get? pair.key.text with
    | none => others
    | some previous => ⟨pair.key.text, previous, pair.value.text⟩ :: others

/-- The replacements among pairs, in the order in which they happen. -/
def overwrites (pairs : List Pair) : List Overwrite :=
  overwritesFrom .empty pairs

end Attributes

end TextScan
