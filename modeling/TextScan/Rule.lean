import TextScan.Address.PostCode
import TextScan.Address.Routing
import TextScan.Address.Telephone
import TextScan.Markup.Document

/-!
# Rules

A rule is a recogniser together with the form of its answer.  Rules are put together by "and",
"or" and "optional", which pass one cursor from part to part: when a part fails, the cursor stays
where that part left it, and only `attempt` goes back.
-/

namespace TextScan

/-- Whether a rule only says that it matched or also returns the text. -/
inductive Form where
  | test
  | capture
  deriving DecidableEq

inductive Answer where
  | verdict (matched : Bool)
  | span (found : Option Span)
  | spans (found : Option (List Span))
  | place (found : Option Cursor)
  | pair (found : Option Pair)
  | attributes (found : Option Attributes)
  | named (found : Option Text)
  | opening (found : Option Tag.Opening)
  | element (found : Option Element)
  | document (found : Option Document)
  deriving DecidableEq

/-- A rule matched unless it said no or found nothing. -/
def Answer.matched : Answer → Bool
  | verdict matched => matched
  | span found => found.isSome
  | spans found => found.isSome
  | place found => found.isSome
  | pair found => found.isSome
  | attributes found => found.isSome
  | named found => found.isSome
  | opening found => found.isSome
  | element found => found.isSome
  | document found => found.isSome

/-- A recogniser and the form of its answer. -/
inductive Rule where
  /-- Matches without moving. -/
  | always
  | never
  /-- The one rule and then the other. -/
  | both (first second : Rule)
  /-- The one rule or else the other. -/
  | either (first second : Rule)
  /-- The rule, if it matches; where it fails, the cursor still stays where it left it. -/
  | optional (rule : Rule)
  /-- Whether the rule matches, without going back where it fails. -/
  | holds (rule : Rule)
  /-- The rule as a whole: the cursor moves only if it matches and makes progress. -/
  | attempt (form : Form) (rule : Rule)
  /-- Whether the rule, at the beginning of another text, takes all of it. -/
  | wholly (rule : Rule) (text : Text)
  | one (form : Form) (probe : Probe)
  /-- The longest run of characters. -/
  | run (form : Form) (probe : Probe)
  /-- Where the longest run of characters ends.  The cursor stays. -/
  | runEnd (probe : Probe)
  | word (form : Form) (mode : CaseMode) (spelling : Text)
  /-- A word, repeated without a gap. -/
  | words (form : Form) (mode : CaseMode) (spelling : Text)
  /-- Where the word ends.  The cursor stays. -/
  | wordEnd (mode : CaseMode) (spelling : Text)
  /-- Where the repetitions of the word end.  The cursor stays. -/
  | wordsEnd (mode : CaseMode) (spelling : Text)
  | pair (separator : Char)
  /-- A key and a value, returned as written. -/
  | pairParts (separator : Char)
  | attributes (separator : Char)
  /-- A digit in brackets, returned without them. -/
  | digitInBrackets (form : Form)
  /-- Digits in brackets, returned without them. -/
  | digitsInBrackets (form : Form)
  | delimitedDigits (form : Form) (delimiters : Text)
  /-- Groups of digits with delimiters, returned one by one. -/
  | digitGroups (delimiters : Text)
  | phoneNumber (form : Form)
  /-- A telephone number, returned as its groups of digits. -/
  | phoneGroups
  | labelledPhone
  | zip (form : Form)
  | postal (form : Form)
  /-- A zip code or else a postal code. -/
  | zipOrPostal (form : Form)
  | attentionLabel (form : Form)
  /-- An attention label and what divides it from the name, returned as the label. -/
  | attention (form : Form)
  /-- A label for "care of", returned without the white space before it. -/
  | careOf (form : Form)
  /-- Whom a line of its own names. -/
  | addressee (line : Text)
  /-- The declaration of a document. -/
  | prolog
  | openingTag
  /-- A closing tag, returned as its name. -/
  | closingTag
  | element
  | document

namespace Rule

def sequence (rules : List Rule) : Rule :=
  rules.foldr both always

def choice (rules : List Rule) : Rule :=
  rules.foldr either never

def answer {α : Type} (wrap : Option α → Answer) (outcome : Option α × Cursor) :
    Answer × Cursor :=
  (wrap outcome.1, outcome.2)

/-- Only whether the rule matched, in place of what it found. -/
def asVerdict (outcome : Answer × Cursor) : Answer × Cursor :=
  (.verdict outcome.1.matched, outcome.2)

/-- Goes on with another rule where one matched. -/
def andThen (tried : Answer × Cursor) (next : Cursor → Answer × Cursor) : Answer × Cursor :=
  if tried.1.matched then next tried.2 else tried

/-- Turns to another rule where one did not match. -/
def orElse (tried : Answer × Cursor) (next : Cursor → Answer × Cursor) : Answer × Cursor :=
  if tried.1.matched then tried else next tried.2

/-- Answers with a verdict, or with the text that the scanner moved over. -/
def report {α : Type} (form : Form) (scanner : Scanner α) (text : Text) (cursor : Cursor) :
    Answer × Cursor :=
  match form with
  | .test => (.verdict (scanner.test text cursor).1, (scanner.test text cursor).2)
  | .capture => answer .span (scanner.capture text cursor)

def reportOne (form : Form) (probe : Probe) (text : Text) (cursor : Cursor) : Answer × Cursor :=
  match form with
  | .test => (.verdict (probe.test text cursor).1, (probe.test text cursor).2)
  | .capture => answer .span (probe.capture text cursor)

/-- Answers with the span that the scanner read, or just whether there is one. -/
def reportInner (form : Form) (scanner : Scanner Span) (text : Text) (cursor : Cursor) :
    Answer × Cursor :=
  match form with
  | .test => asVerdict (answer .span (scanner.value text cursor))
  | .capture => answer .span (scanner.value text cursor)

/-- Moves a cursor to where a rule ended, if it matched and made progress. -/
def settle (form : Form) (text : Text) (cursor : Cursor) (outcome : Answer × Cursor) :
    Answer × Cursor :=
  match form with
  | .test =>
    match (if outcome.1.matched then cursor.moveTo? outcome.2 else none) with
    | none => (.verdict false, cursor)
    | some moved => (.verdict true, moved)
  | .capture =>
    match (if outcome.1.matched then cursor.takeTo? text outcome.2 else none) with
    | none => (.span none, cursor)
    | some (span, moved) => (.span (some span), moved)

/-- Answers for digits in brackets, given the two forms in which the digits are recognised.  The
verdict is an attempt at the three parts in turn. -/
def reportInBrackets (form : Form) (test : Cursor → Answer × Cursor)
    (capture : Cursor → Option Span × Cursor) (text : Text) (cursor : Cursor) : Answer × Cursor :=
  match form with
  | .test =>
    settle .test text cursor <|
      andThen (reportOne .test (.is '(') text cursor) fun opened =>
        andThen (test opened) (reportOne .test (.is ')') text)
  | .capture => answer .span (Telephone.takeInBrackets capture text cursor)

def reportDelimited (form : Form) (delimiters text : Text) (cursor : Cursor) : Answer × Cursor :=
  match form with
  | .test => report .test (Telephone.delimitedDigits delimiters) text cursor
  | .capture => answer .span ((Telephone.delimitedDigits delimiters).captureBehind text cursor)

def reportLabel (form : Form) (text : Text) (cursor : Cursor) : Answer × Cursor :=
  match form with
  | .test => asVerdict (report .capture Routing.attentionLabel text cursor)
  | .capture => report .capture Routing.attentionLabel text cursor

/-- Applies a rule at a cursor: the answer, and the cursor afterwards. -/
def apply : Rule → Text → Cursor → Answer × Cursor
  | always, _, cursor => (.verdict true, cursor)
  | never, _, cursor => (.verdict false, cursor)
  | both first second, text, cursor =>
    asVerdict (andThen (first.apply text cursor) (second.apply text))
  | either first second, text, cursor =>
    asVerdict (orElse (first.apply text cursor) (second.apply text))
  | optional rule, text, cursor => (.verdict true, (rule.apply text cursor).2)
  | holds rule, text, cursor => asVerdict (rule.apply text cursor)
  | attempt form rule, text, cursor => settle form text cursor (rule.apply text cursor)
  | wholly rule other, _, cursor =>
    let tried := rule.apply other .start
    (.verdict (tried.1.matched && tried.2.isAtEnd other), cursor)
  | one form probe, text, cursor => reportOne form probe text cursor
  | run form probe, text, cursor => report form (.run probe) text cursor
  | runEnd probe, text, cursor =>
    (.place (some (cursor.walk (probe.run (text.remaining cursor.offset)))), cursor)
  | word form mode spelling, text, cursor => report form (.word mode spelling) text cursor
  | words form mode spelling, text, cursor => report form (.words mode spelling) text cursor
  | wordEnd mode spelling, text, cursor =>
    (.place ((Text.spelled? mode spelling (text.remaining cursor.offset)).map cursor.walk), cursor)
  | wordsEnd mode spelling, text, cursor =>
    (.place (some (cursor.walk (Text.repeated mode spelling (text.remaining cursor.offset)))),
      cursor)
  | pair separator, text, cursor =>
    asVerdict (answer .pair ((Attributes.pair separator).value text cursor))
  | pairParts separator, text, cursor =>
    answer .pair ((Attributes.pair separator).value text cursor)
  | attributes separator, text, cursor =>
    answer .attributes ((Attributes.read separator).value text cursor)
  | digitInBrackets form, text, cursor =>
    reportInBrackets form (reportOne .test (.ofClass .digit) text)
      (Probe.capture (.ofClass .digit) text) text cursor
  | digitsInBrackets form, text, cursor =>
    reportInBrackets form (report .test (Scanner.run (.ofClass .digit)) text)
      (Scanner.capture (.run (.ofClass .digit)) text) text cursor
  | delimitedDigits form delimiters, text, cursor =>
    reportDelimited form delimiters text cursor
  | digitGroups delimiters, text, cursor =>
    answer .spans ((Telephone.delimitedDigits delimiters).value text cursor)
  | phoneNumber form, text, cursor => report form Telephone.number text cursor
  | phoneGroups, text, cursor => answer .spans (Telephone.number.value text cursor)
  | labelledPhone, text, cursor => report .test Telephone.labelledNumber text cursor
  | zip form, text, cursor => report form PostCode.zip text cursor
  | postal form, text, cursor => report form PostCode.postal text cursor
  | zipOrPostal form, text, cursor =>
    orElse (report form PostCode.zip text cursor) (report form PostCode.postal text)
  | attentionLabel form, text, cursor => reportLabel form text cursor
  | attention form, text, cursor => reportInner form Routing.attention text cursor
  | careOf form, text, cursor => reportInner form Routing.careOf text cursor
  | addressee line, _, cursor => (.named (Routing.addressee line), cursor)
  | prolog, text, cursor => answer .attributes (Tag.prolog.value text cursor)
  | openingTag, text, cursor => answer .opening (Tag.opening.value text cursor)
  | closingTag, text, cursor => answer .span (Tag.closing.value text cursor)
  | element, text, cursor => answer .element (Element.scanner.value text cursor)
  | document, text, cursor => answer .document (Document.scanner.value text cursor)

end Rule

end TextScan
