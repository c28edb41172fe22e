import TextScan.Guard
import TextScan.Lambda.Term
import TextScan.Scanner

/-!
# Reading terms

    term      := ws? apply
    apply     := term (ws argument)*
    argument  := lambda | bracketed | var
    lambda    := letters ws? "->" term
    bracketed := '(' term ws? ')'
    var       := letters

An application starts with a term and so with an application at the same place.  A guard cuts
this: a term that is entered again where it was entered last is read as a single argument.
Application associates to the left, and the body of a lambda goes as far to the right as it can.

A part of the grammar is given as a function of the way in which terms are read; `termWithin` ties
the knot.  What the guard answered is kept in a journal.
-/

namespace TextScan.Term

/-- An answer of the guard to a term that was entered: where, and whether it had been entered
there before. -/
structure Entry where
  offset : Nat
  again : Bool
  deriving DecidableEq

/-- The outcome of reading: the value and the site past it, if the reading succeeds, the guard
afterwards, and the entries on the way, in order. -/
structure Outcome where
  result : Option (Term × Site)
  guard : Guard
  journal : List Entry
  deriving DecidableEq

/-- Reads a term, or part of one, under a guard. -/
abbrev Reader := Site → Guard → Outcome

/-- The mark under which applications are entered. -/
def applyMark : Mark := 0

def arrow : Text :=
  ['-', '>']

def name : Scanner Span :=
  .run (.ofClass .letter)

def binder : Scanner Span := do
  let param ← name
  let _ ← .blank
  let _ ← .word .strict arrow
  return param

def bracketEnd : Scanner Span := do
  let _ ← .blank
  .char ')'

def lambdaBy (term : Reader) : Reader := fun site guard =>
  match binder site with
  | none => ⟨none, guard, []⟩
  | some (param, next) =>
    let body := term next guard
    match body.result with
    | none => ⟨none, body.guard, body.journal⟩
    | some (found, last) =>
      ⟨some (lambda param.text found, last), .clear last.offset, body.journal⟩

def bracketedBy (term : Reader) : Reader := fun site guard =>
  match Scanner.char '(' site with
  | none => ⟨none, guard, []⟩
  | some (_, next) =>
    let inner := term next guard
    match inner.result with
    | none => ⟨none, inner.guard, inner.journal⟩
    | some (found, last) =>
      match bracketEnd last with
      | none => ⟨none, inner.guard, inner.journal⟩
      | some (_, past) => ⟨some (found, past), .clear past.offset, inner.journal⟩

def readVar : Reader := fun site guard =>
  match name site with
  | none => ⟨none, guard, []⟩
  | some (found, next) => ⟨some (var found.text, next), guard, []⟩

/-- Reads with the first reader or else with the second, which then works under the guard that the
first one left. -/
def orElse (first second : Reader) : Reader := fun site guard =>
  let tried := first site guard
  match tried.result with
  | some _ => tried
  | none =>
    let other := second site tried.guard
    { other with journal := tried.journal ++ other.journal }

def argumentBy (term : Reader) : Reader :=
  orElse (lambdaBy term) (orElse (bracketedBy term) readVar)

/-- Applies a function to the arguments that follow, no more than `fuel` of them.  White space that
no argument follows is left. -/
def argumentsBy (term : Reader) : (fuel : Nat) → (function : Term) → Reader
  | 0, function => fun site guard => ⟨some (function, site), guard, []⟩
  | fuel + 1, function => fun site guard =>
    match Scanner.space site with
    | none => ⟨some (function, site), guard, []⟩
    | some (_, next) =>
      let argument := argumentBy term next guard
      match argument.result with
      | none => ⟨some (function, site), argument.guard, argument.journal⟩
      | some (found, last) =>
        let others := argumentsBy term fuel (apply function found) last argument.guard
        { others with journal := argument.journal ++ others.journal }

/-- Reads a term and the arguments that it is applied to, if any.  Each argument takes a character
at least, so what remains bounds their number. -/
def applyBy (term : Reader) : Reader := fun site guard =>
  let function := term site guard
  match function.result with
  | none => function
  | some (found, next) =>
    let whole := argumentsBy term next.rest.length found next function.guard
    match whole.result with
    | none => { whole with journal := function.journal ++ whole.journal }
    | some (read, last) =>
      ⟨some (read, last), .clear last.offset, function.journal ++ whole.journal⟩

/-- Reads a term: an application or, where one was entered already, an argument. -/
def termBy (term : Reader) : Reader := fun site guard =>
  let start := site.past (Probe.run (.char isWhiteSpace) site.rest)
  let entered := guard.enter applyMark start.offset
  let read := if entered.1 then argumentBy term else applyBy term
  let outcome := read start entered.2
  { outcome with journal := ⟨start.offset, entered.1⟩ :: outcome.journal }

/-- Reads a term that is entered no more than `fuel` times within itself. -/
def termWithin : (fuel : Nat) → Reader
  | 0 => fun _ guard => ⟨none, guard, []⟩
  | fuel + 1 => termBy (termWithin fuel)

/-- Reads a term.  It is entered twice at one place at most, and then a character is taken, so
what remains bounds the entries. -/
def read : Reader := fun site guard =>
  termWithin (2 * site.rest.length + 2) site guard

/-- Reads a term at a cursor: the term if there is one, the cursor and the guard afterwards. -/
def readAt (text : Text) (cursor : Cursor) (guard : Guard) : Option Term × Cursor × Guard :=
  let outcome := read (.ofCursor text cursor) guard
  match outcome.result with
  | none => (none, cursor, outcome.guard)
  | some (term, site) =>
    match cursor.moveTo? site.cursor with
    | none => (none, cursor, outcome.guard)
    | some moved => (some term, moved, outcome.guard)

/-- Why a text is no term.  The offset is where the failing part starts. -/
inductive ParseError where
  | expectedTerm (offset : Nat)
  | trailingInput (offset : Nat)
  deriving DecidableEq

def ParseError.message : ParseError → String
  | expectedTerm offset => s!"expected a term at byte {offset}"
  | trailingInput offset => s!"unexpected input at byte {offset}"

/-- Reads a text that is a term, with white space around it.  Also returns the journal. -/
def readNoted (text : Text) : List Entry × Except ParseError Term :=
  let outcome := read (.start text) .fresh
  match outcome.result with
  | none => (outcome.journal, .error (.expectedTerm 0))
  | some (term, site) =>
    let last := site.past (Probe.run (.char isWhiteSpace) site.rest)
    if last.isAtEnd then (outcome.journal, .ok term)
    else (outcome.journal, .error (.trailingInput last.offset))

/-- Reads a text that is a term, with white space around it. -/
def parse (text : Text) : Except ParseError Term :=
  (readNoted text).2

end TextScan.Term
