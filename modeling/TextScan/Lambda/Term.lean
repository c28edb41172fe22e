import TextScan.Dictionary

/-!
# Terms of the lambda calculus

Terms with named variables, their printed form, and the two ways of putting terms in the place of
names: one name at a time, or all names of an environment in one pass.  Neither renames bound
variables, so a name that is free in the value can be caught by a binder around the place where
the value is put.
-/

namespace TextScan

/-- A term of the untyped lambda calculus. -/
inductive Term where
  | var (name : Text)
  | lambda (param : Text) (body : Term)
  | apply (function argument : Term)
  deriving DecidableEq

/-- Terms for free names. -/
abbrev Environment := Dictionary Term

namespace Term

instance : Inhabited Term :=
  ⟨var []⟩

def isApply : Term → Bool
  | apply _ _ => true
  | _ => false

/-- The printed form in front of other text.  A lambda is bracketed wherever it stands, an
application only as an argument. -/
def printBefore : Term → (rest : Text) → Text
  | var name, rest => name ++ rest
  | lambda param body, rest => '(' :: param ++ '-' :: '>' :: body.printBefore (')' :: rest)
  | apply function argument, rest =>
    function.printBefore <|
      if argument.isApply then ' ' :: '(' :: argument.printBefore (')' :: rest)
      else ' ' :: argument.printBefore rest

def display (term : Term) : Text :=
  term.printBefore []

/-- Puts a value in the place of the free occurrences of a name. -/
def substitute : (term : Term) → (name : Text) → (value : Term) → Term
  | var other, name, value => if other = name then value else var other
  | lambda param body, name, value =>
    if param = name then lambda param body else lambda param (body.substitute name value)
  | apply function argument, name, value =>
    apply (function.substitute name value) (argument.substitute name value)

/-- Puts the values of an environment in the place of names, those in `bound` excepted.  The
values are not looked into. -/
def instantiate (environment : Environment) (bound : List Text) : Term → Term
  | var name =>
    if bound.contains name then var name else (environment.get? name).getD (var name)
  | lambda param body => lambda param (body.instantiate environment (param :: bound))
  | apply function argument =>
    apply (function.instantiate environment bound) (argument.instantiate environment bound)

/-- Puts the values of an environment in the place of the free names. -/
def substituteAll (environment : Environment) (term : Term) : Term :=
  term.instantiate environment []

end Term

end TextScan
