import TextScan.Lambda.Evaluation
import TextScan.Lambda.Reader

/-!
# Working on a term

A term is changed step by step.  Terms that a step needs may be written out, and then they have to
be read first; a step that fails leaves the term as it was.
-/

namespace TextScan.Term

inductive Problem where
  | unreadable (error : ParseError)
  | noValue (error : EvalError)
  deriving DecidableEq

def Problem.message : Problem → String
  | unreadable error => error.message
  | noValue error => error.message

/-- A term that is put together from its parts, of which some may be written out. -/
inductive Source where
  | var (name : Text)
  | lambda (param : Text) (body : Source)
  | apply (function argument : Source)
  | written (text : Text)
  deriving DecidableEq

/-- The term that a source gives.  The first written part that cannot be read is the problem. -/
def Source.term : Source → Except Problem Term
  | var name => .ok (.var name)
  | lambda param body => body.term.map (.lambda param)
  | apply function argument =>
    match function.term with
    | .error problem => .error problem
    | .ok function => argument.term.map (.apply function)
  | written text =>
    match parse text with
    | .ok term => .ok term
    | .error error => .error (.unreadable error)

/-- Adds bindings to an environment one by one, up to the first that cannot be read. -/
def bindAll (environment : Environment) : List (Text × Source) → Except Problem Environment
  | [] => .ok environment
  | (name, source) :: rest =>
    match source.term with
    | .ok term => bindAll (environment.insert name term) rest
    | .error problem => .error problem

def evalWith (bindings : List (Text × Source)) (term : Term) : Except Problem Term :=
  match bindAll .empty bindings with
  | .error problem => .error problem
  | .ok environment =>
    match term.eval environment with
    | .ok value => .ok value
    | .error error => .error (.noValue error)

inductive Change where
  | substitute (name : Text) (value : Source)
  /-- Puts values in the place of names, all in one pass. -/
  | substituteAll (bindings : List (Text × Source))
  | eval (bindings : List (Text × Source))
  | applyTo (argument : Source)
  /-- Makes the term the body of a lambda. -/
  | abstractOver (param : Text)
  /-- Reads the printed form. -/
  | reread
  deriving DecidableEq

def change (term : Term) : Change → Except Problem Term
  | .substitute name value => value.term.map fun value => term.substitute name value
  | .substituteAll bindings =>
    (bindAll .empty bindings).map fun environment => term.substituteAll environment
  | .eval bindings => term.evalWith bindings
  | .applyTo argument => argument.term.map (.apply term)
  | .abstractOver param => .ok (.lambda param term)
  | .reread => Source.term (.written term.display)

/-- The results of changes that are made one after the other. -/
def changes (term : Term) : List Change → List (Except Problem Term)
  | [] => []
  | first :: rest =>
    match term.change first with
    | .ok changed => .ok changed :: changed.changes rest
    | .error problem => .error problem :: term.changes rest

end TextScan.Term
