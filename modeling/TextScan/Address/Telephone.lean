import TextScan.Scanner

/-!
# Telephone numbers

A number is an optional `+`, an optional country code, an optional area code in brackets, an
optional slash and then digit groups divided by spaces and hyphens, with white space allowed
between the parts.  Only the digit groups at the end are required.  A line may name the number with
a label.
-/

namespace TextScan.Telephone

def inBrackets (inner : Scanner Span) : Scanner Span := do
  let _ ← .char '('
  let found ← inner
  let _ ← .char ')'
  return found

/-- What the inner recogniser takes between round brackets.  All three parts are recognised on a
copy of the cursor; it moves when the closing bracket is passed. -/
def takeInBrackets (inner : Cursor → Option Span × Cursor) (text : Text) (cursor : Cursor) :
    Option Span × Cursor :=
  match Probe.test (.is '(') text cursor with
  | (false, _) => (none, cursor)
  | (true, opened) =>
    match inner opened with
    | (none, _) => (none, cursor)
    | (some found, ended) =>
      match Probe.test (.is ')') text ended with
      | (false, _) => (none, cursor)
      | (true, closed) =>
        match cursor.moveTo? closed with
        | none => (none, cursor)
        | some moved => (some found, moved)

/-- Reads digits in brackets, such as `(089)`, and returns the digits. -/
def digitsInBrackets : Scanner Span :=
  inBrackets (.run (.ofClass .digit))

/-- Reads runs of digits and runs of delimiters, no more than `fuel` of them, and collects the
runs of digits.  Digits are looked for first; a run of delimiters goes on over a digit only if it
is one of them. -/
def groupsWithin (delimiters : Text) : (fuel : Nat) → Site → List Span × Site
  | 0, site => ([], site)
  | fuel + 1, site =>
    match Scanner.run (.ofClass .digit) site with
    | some (group, next) =>
      let others := groupsWithin delimiters fuel next
      (group :: others.1, others.2)
    | none =>
      match Scanner.run (.oneOf delimiters) site with
      | some (_, next) => groupsWithin delimiters fuel next
      | none => ([], site)

/-- Reads digits and delimiters as far as they go and returns the groups of digits, of which there
must be one at least.  Each run takes a character at least, so the remaining length bounds their
number. -/
def delimitedDigits (delimiters : Text) : Scanner (List Span) := fun site =>
  let found := groupsWithin delimiters site.rest.length site
  if found.1.isEmpty then none else some found

/-- What may divide the digit groups of a number. -/
def delimiters : Text :=
  [' ', '-']

/-- Reads a telephone number and returns its digit groups: country code, area code, then the
rest. -/
def number : Scanner (List Span) := do
  let _ ← .blank
  let _ ← .maybe (.char '+')
  let _ ← .blank
  let country ← .maybe (.run (.ofClass .digit))
  let _ ← .blank
  let area ← .maybe digitsInBrackets
  let _ ← .blank
  let _ ← .maybe (.char '/')
  let _ ← .blank
  let groups ← delimitedDigits delimiters
  return country.toList ++ area.toList ++ groups

def labels : List Text :=
  ["Fax".toList, "Phone".toList]

/-- Reads a label, an optional colon and a number. -/
def labelledNumber : Scanner (List Span) := do
  let _ ← .blank
  let _ ← .anyWord .ignored labels
  let _ ← .blank
  let _ ← .maybe (.char ':')
  let _ ← .blank
  number

end TextScan.Telephone
