import TextScan.Probe
import TextScan.Site
import TextScan.Word

/-!
# Scanners

A scanner reads something at a site: it fails, or it returns what it read and the site past it.
The scanners below find one character, a run of characters, or a word, and all of them fail where
they would find nothing; `stretch` and `maybe` make a part optional.

A scanner is put to use at a cursor in one of several forms: `test` says whether it succeeds,
`capture` and `captureBehind` return the text it moved over, and `value` returns what it read.  In
each of them the cursor moves only if the scanner succeeds and made progress.  A single character
is recognised without a scanner: there is nothing to be undone, so `Probe.test` steps over it in
place.
-/

namespace TextScan

namespace Probe

/-- Steps over the character at the cursor if the probe accepts it. -/
def test (probe : Probe) (text : Text) (cursor : Cursor) : Bool × Cursor :=
  match (cursor.peek text).filter (probe []) with
  | none => (false, cursor)
  | some c => (true, cursor.stepOver c)

/-- Takes the character at the cursor if the probe accepts it. -/
def capture (probe : Probe) (text : Text) (cursor : Cursor) : Option Span × Cursor :=
  match (cursor.peek text).filter (probe []) with
  | none => (none, cursor)
  | some c =>
    match cursor.takeOver? text c with
    | none => (none, cursor)
    | some (span, moved) => (some span, moved)

end Probe

/-- Reads a value at a site and moves past it, or fails. -/
abbrev Scanner (α : Type) := StateT Site Option α

namespace Scanner

variable {α : Type}

/-- Moves past a run unless it is empty. -/
def advance (run : Text) : Scanner Span := fun site =>
  if run.isEmpty then none else some (site.span run, site.past run)

def one (probe : Probe) : Scanner Span := fun site =>
  match site.rest with
  | [] => none
  | c :: _ => if probe [] c then advance [c] site else none

/-- Reads the longest run that the probe accepts. -/
def run (probe : Probe) : Scanner Span := fun site =>
  advance (probe.run site.rest) site

/-- Reads the longest run that the probe accepts, which may be empty. -/
def stretch (probe : Probe) : Scanner Span := fun site =>
  some (site.span (probe.run site.rest), site.past (probe.run site.rest))

def word (mode : CaseMode) (word : Text) : Scanner Span := fun site =>
  match Text.spelled? mode word site.rest with
  | none => none
  | some found => advance found site

/-- Reads a word as often as it is repeated without a gap. -/
def words (mode : CaseMode) (word : Text) : Scanner Span := fun site =>
  advance (Text.repeated mode word site.rest) site

/-- Reads the first of the words that is found. -/
def anyWord (mode : CaseMode) (choices : List Text) : Scanner Span := fun site =>
  choices.findSome? fun choice => word mode choice site

/-- Reads a value if it is there.  Where it is not, the site stays. -/
def maybe (part : Scanner α) : Scanner (Option α) := fun site =>
  match part site with
  | none => some (none, site)
  | some (value, next) => some (some value, next)

def either (first second : Scanner α) : Scanner α := fun site =>
  match first site with
  | none => second site
  | some result => some result

/-- Reads white space, if there is any. -/
def blank : Scanner Span :=
  stretch (.char isWhiteSpace)

def space : Scanner Span :=
  run (.char isWhiteSpace)

def char (c : Char) : Scanner Span :=
  one (.is c)

/-- Whether the scanner succeeds at the cursor, and the cursor after it. -/
def test (scanner : Scanner α) (text : Text) (cursor : Cursor) : Bool × Cursor :=
  match scanner (.ofCursor text cursor) with
  | none => (false, cursor)
  | some (_, site) =>
    match cursor.moveTo? site.cursor with
    | none => (false, cursor)
    | some moved => (true, moved)

/-- The text that the scanner moves over, and the cursor after it. -/
def capture (scanner : Scanner α) (text : Text) (cursor : Cursor) : Option Span × Cursor :=
  match scanner (.ofCursor text cursor) with
  | none => (none, cursor)
  | some (_, site) =>
    match cursor.takeTo? text site.cursor with
    | none => (none, cursor)
    | some (span, moved) => (some span, moved)

/-- The text between the cursor and where the scanner moved it, taken only after the move: had
there been none, the cursor would be moved all the same. -/
def captureBehind (scanner : Scanner α) (text : Text) (cursor : Cursor) : Option Span × Cursor :=
  match scanner.test text cursor with
  | (false, next) => (none, next)
  | (true, next) => (text.slice cursor.offset next.offset, next)

/-- What the scanner reads, and the cursor after it. -/
def value (scanner : Scanner α) (text : Text) (cursor : Cursor) : Option α × Cursor :=
  match scanner (.ofCursor text cursor) with
  | none => (none, cursor)
  | some (result, site) =>
    match cursor.moveTo? site.cursor with
    | none => (none, cursor)
    | some moved => (some result, moved)

end Scanner

end TextScan
