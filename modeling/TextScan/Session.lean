import TextScan.Lambda.Reader
import TextScan.Rule

/-!
# Sessions

A session works on one text with one cursor and one guard, step by step, and remembers cursors
under names.  A step is a rule, or a question or change that concerns the text, the cursor or the
guard directly.
-/

namespace TextScan

inductive Step where
  /-- Applies a rule at the cursor. -/
  | rule (rule : Rule)
  /-- The length of the text in bytes. -/
  | textSize
  | textIsEmpty
  | showText
  | isAtEnd
  | peek
  | remaining
  /-- The text between two byte offsets. -/
  | slice (start stop : Nat)
  /-- Goes to the beginning. -/
  | begin
  /-- Puts the cursor somewhere, without a check. -/
  | put (cursor : Cursor)
  | save (slot : String)
  /-- Puts the cursor where it was remembered. -/
  | restore (slot : String)
  /-- Moves the cursor to where it was remembered. -/
  | moveTo (slot : String)
  /-- Moves the cursor to where it was remembered and takes the text between. -/
  | takeTo (slot : String)
  /-- Moves the cursor to where it was remembered and starts the guard afresh. -/
  | moveAfresh (slot : String)
  /-- Moves past a character, whatever the text holds. -/
  | stepOver (c : Char)
  /-- Moves past as many bytes as the character takes and takes the text there. -/
  | takeOver (c : Char)
  /-- Whether the cursor equals the remembered one. -/
  | isSame (slot : String)
  /-- The cursor as messages show it. -/
  | showCursor
  /-- Enters a rule at the cursor; whether it was entered there before. -/
  | enter (number : Nat)
  | isMarked (number : Nat)
  /-- The number of a mark. -/
  | markNumber (number : Nat)
  /-- Forgets all marks. -/
  | resetGuard
  | guardIsEmpty
  /-- Takes a fresh guard. -/
  | freshGuard
  /-- Reads a term of the lambda calculus at the cursor. -/
  | term

inductive StepAnswer where
  | nothing
  | flag (holds : Bool)
  | number (value : Nat)
  | text (value : Text)
  | char (found : Option Char)
  | span (found : Option Span)
  | term (found : Option Term)
  | rule (answer : Answer)
  /-- The number is too large for a mark. -/
  | outOfRange
  deriving DecidableEq

/-- The text, the cursor, the guard and the remembered cursors, the latest first. -/
structure Session where
  text : Text
  cursor : Cursor
  guard : Guard
  slots : List (String × Cursor)

namespace Session

def start (text : Text) (cursor : Cursor) : Session :=
  ⟨text, cursor, .fresh, []⟩

/-- The cursor remembered under a name; the beginning if there is none. -/
def slot (session : Session) (name : String) : Cursor :=
  (session.slots.lookup name).getD .start

/-- Runs one step: its answer, and the session afterwards. -/
def step (session : Session) : Step → StepAnswer × Session
  | .rule rule =>
    let outcome := rule.apply session.text session.cursor
    (.rule outcome.1, { session with cursor := outcome.2 })
  | .textSize => (.number session.text.byteSize, session)
  | .textIsEmpty => (.flag session.text.isEmpty, session)
  | .showText => (.text session.text, session)
  | .isAtEnd => (.flag (session.cursor.isAtEnd session.text), session)
  | .peek => (.char (session.cursor.peek session.text), session)
  | .remaining => (.text (session.text.remaining session.cursor.offset), session)
  | .slice start stop => (.span (session.text.slice start stop), session)
  | .begin => (.nothing, { session with cursor := .start })
  | .put cursor => (.nothing, { session with cursor := cursor })
  | .save name => (.nothing, { session with slots := (name, session.cursor) :: session.slots })
  | .restore name => (.nothing, { session with cursor := session.slot name })
  | .moveTo name =>
    match session.cursor.moveTo? (session.slot name) with
    | none => (.flag false, session)
    | some moved => (.flag true, { session with cursor := moved })
  | .takeTo name =>
    match session.cursor.takeTo? session.text (session.slot name) with
    | none => (.span none, session)
    | some (span, moved) => (.span (some span), { session with cursor := moved })
  | .moveAfresh name =>
    match Guard.moveTo? session.cursor (session.slot name) with
    | none => (.flag false, session)
    | some (moved, guard) => (.flag true, { session with cursor := moved, guard := guard })
  | .stepOver c => (.flag true, { session with cursor := session.cursor.stepOver c })
  | .takeOver c =>
    match session.cursor.takeOver? session.text c with
    | none => (.span none, session)
    | some (span, moved) => (.span (some span), { session with cursor := moved })
  | .isSame name => (.flag (session.cursor = session.slot name), session)
  | .showCursor => (.text session.cursor.display.toList, session)
  | .enter number =>
    match Mark.ofNat? number with
    | none => (.outOfRange, session)
    | some mark =>
      let entered := session.guard.enter mark session.cursor.offset
      (.flag entered.1, { session with guard := entered.2 })
  | .isMarked number =>
    match Mark.ofNat? number with
    | none => (.outOfRange, session)
    | some mark => (.flag (session.guard.contains mark), session)
  | .markNumber number =>
    match Mark.ofNat? number with
    | none => (.outOfRange, session)
    | some mark => (.number mark.val, session)
  | .resetGuard => (.nothing, { session with guard := session.guard.reset })
  | .guardIsEmpty => (.flag session.guard.isEmpty, session)
  | .freshGuard => (.nothing, { session with guard := .fresh })
  | .term =>
    let outcome := Term.readAt session.text session.cursor session.guard
    (.term outcome.1, { session with cursor := outcome.2.1, guard := outcome.2.2 })

/-- Runs steps in order: the answer of each with the session after it. -/
def run (session : Session) : List Step → List (StepAnswer × Session)
  | [] => []
  | first :: rest =>
    let outcome := session.step first
    outcome :: outcome.2.run rest

end Session

end TextScan
