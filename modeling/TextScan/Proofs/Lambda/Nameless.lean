import Mathlib.Data.List.Basic
import TextScan.Proofs.Lambda.Scope

/-!
# Terms without names

In a nameless term a variable is the number of the lambdas between it and the
one that binds it.  The type of a nameless term says how many binders may
stand around it, so that there is no variable without a binder, and
substitution moves a value under a binder only with its variables renumbered:
nothing is ever captured.

Dropping the names of a term whose free names are all in scope gives a
nameless term.  Terms that differ only in the names of their parameters, and
no others, become the same one (`alpha_iff`).
-/

namespace TextScan

open Term

/-- A term in which variables are numbers of binders. -/
inductive Nameless : Nat → Type
  | var {depth : Nat} (index : Fin depth) : Nameless depth
  | lambda {depth : Nat} (body : Nameless (depth + 1)) : Nameless depth
  | apply {depth : Nat} (function argument : Nameless depth) : Nameless depth
  deriving DecidableEq

namespace Nameless

variable {source target depth : Nat}

/-- A renumbering under one more binder, which keeps its number. -/
def liftIndex (renumber : Fin source → Fin target) : Fin (source + 1) → Fin (target + 1) :=
  Fin.cases 0 fun index => (renumber index).succ

def rename {source target : Nat} (renumber : Fin source → Fin target) :
    Nameless source → Nameless target
  | var index => var (renumber index)
  | lambda body => lambda (body.rename (liftIndex renumber))
  | apply function argument => apply (function.rename renumber) (argument.rename renumber)

theorem liftIndex_cast (h : source = target) :
    liftIndex (Fin.cast h) = Fin.cast (congrArg (· + 1) h) := by
  funext index
  cases index using Fin.cases with
  | zero => rfl
  | succ index => rfl

theorem rename_cast (term : Nameless depth) (h : depth = depth) :
    term.rename (Fin.cast h) = term := by
  induction term with
  | var index => rfl
  | lambda body ih => rw [rename, liftIndex_cast, ih]
  | apply function argument ihfunction ihargument => rw [rename, ihfunction, ihargument]

/-- A substitution under one more binder, which stays as it is. -/
def lift (values : Fin source → Nameless target) : Fin (source + 1) → Nameless (target + 1) :=
  Fin.cases (var 0) fun index => (values index).rename Fin.succ

def substitute {source target : Nat} (values : Fin source → Nameless target) :
    Nameless source → Nameless target
  | var index => values index
  | lambda body => lambda (body.substitute (lift values))
  | apply function argument => apply (function.substitute values) (argument.substitute values)

/-- The value for the innermost binder; the variables of the others stay. -/
def only (value : Nameless depth) : Fin (depth + 1) → Nameless depth :=
  Fin.cases value var

/-- Evaluates call by value with the given number of levels left: the argument
first, then the function, and nothing under a lambda. -/
def evalWithin : (levels : Nat) → Nameless depth → Except EvalError (Nameless depth)
  | 0, _ => .error (.tooDeep depthLimit)
  | _ + 1, var index => .ok (var index)
  | _ + 1, lambda body => .ok (lambda body)
  | levels + 1, apply function argument =>
    match evalWithin levels argument with
    | .error error => .error error
    | .ok argument =>
      match evalWithin levels function with
      | .error error => .error error
      | .ok (lambda body) => evalWithin levels (body.substitute (only argument))
      | .ok function => .ok (apply function argument)

def eval (term : Nameless depth) : Except EvalError (Nameless depth) :=
  term.evalWithin (depthLimit + 1)

end Nameless

namespace Term

/-! ### Dropping the names -/

/-- The number of the innermost binder of a name. -/
def binderIndex (scope : List Text) (name : Text) (h : name ∈ scope) : Fin scope.length :=
  ⟨scope.idxOf name, List.idxOf_lt_length_of_mem h⟩

/-- Drops the names of a term whose free names are in scope, the innermost
binder first. -/
def nameless : (term : Term) → (scope : List Text) → term.freeNames ⊆ scope →
    Nameless scope.length
  | var name, scope, h => .var (binderIndex scope name (freeNames_var_subset_iff.1 h))
  | lambda param body, scope, h =>
    .lambda (body.nameless (param :: scope) (freeNames_lambda_subset_iff.1 h))
  | apply function argument, scope, h =>
    .apply (function.nameless scope (freeNames_apply_subset_iff.1 h).1)
      (argument.nameless scope (freeNames_apply_subset_iff.1 h).2)

theorem binderIndex_cons_self (param : Text) (scope : List Text) (h : param ∈ param :: scope) :
    binderIndex (param :: scope) param h = (0 : Fin (scope.length + 1)) := by
  apply Fin.ext
  simp [binderIndex]

theorem binderIndex_cons_of_ne {param name : Text} {scope : List Text}
    (h : name ∈ param :: scope) (hne : name ≠ param) :
    binderIndex (param :: scope) name h =
      (binderIndex scope name (List.mem_of_ne_of_mem hne h)).succ := by
  apply Fin.ext
  simp [binderIndex, List.idxOf_cons_ne scope (Ne.symm hne)]

/-- Numbers of binders change with the scope, and nothing else does. -/
theorem nameless_eq_rename {term : Term} {source target : List Text}
    (hsource : term.freeNames ⊆ source) (htarget : term.freeNames ⊆ target)
    (renumber : Fin source.length → Fin target.length)
    (hrenumber : ∀ name (hname : name ∈ term.freeNames),
      renumber (binderIndex source name (hsource hname)) =
        binderIndex target name (htarget hname)) :
    term.nameless target htarget = (term.nameless source hsource).rename renumber := by
  induction term generalizing source target with
  | var name =>
      rw [nameless, nameless, Nameless.rename, hrenumber name (by simp [freeNames])]
  | lambda param body ih =>
      rw [nameless, nameless, Nameless.rename]
      congr 1
      refine @ih (param :: source) (param :: target) _ _ (Nameless.liftIndex renumber) ?_
      intro name hname
      by_cases hparam : name = param
      · subst hparam
        rw [binderIndex_cons_self, binderIndex_cons_self]
        rfl
      · rw [binderIndex_cons_of_ne _ hparam, binderIndex_cons_of_ne _ hparam,
          ← hrenumber name (mem_freeNames_lambda.2 ⟨hname, hparam⟩)]
        rfl
  | apply function argument ihfunction ihargument =>
      rw [nameless, nameless, Nameless.rename]
      congr 1
      · refine ihfunction _ _ renumber ?_
        intro name hname
        exact hrenumber name (List.mem_append_left _ hname)
      · refine ihargument _ _ renumber ?_
        intro name hname
        exact hrenumber name (List.mem_append_right _ hname)

/-- Under a binder of a name that is not free all numbers go up by one. -/
theorem nameless_cons {term : Term} {scope : List Text} {param : Text}
    (hfresh : param ∉ term.freeNames) (hterm : term.freeNames ⊆ scope)
    (hcons : term.freeNames ⊆ param :: scope) :
    term.nameless (param :: scope) hcons = (term.nameless scope hterm).rename Fin.succ := by
  refine nameless_eq_rename hterm hcons Fin.succ ?_
  intro name hname
  have hne : name ≠ param := fun heq => hfresh (heq ▸ hname)
  exact (binderIndex_cons_of_ne _ hne).symm

/-! ### Names of parameters -/

/-- Two names are names of the same variable under pairs of parameters, the
innermost first: each is bound in the same pair, or both are free and equal. -/
def SameVariable : List (Text × Text) → Text → Text → Prop
  | [], left, right => left = right
  | (param, other) :: pairs, left, right =>
    (left = param ∧ right = other) ∨ (left ≠ param ∧ right ≠ other ∧ SameVariable pairs left right)

/-- Two terms differ only in the names of their parameters, under pairs of
parameters around them. -/
def AlphaUnder : List (Text × Text) → Term → Term → Prop
  | pairs, var left, var right => SameVariable pairs left right
  | pairs, lambda param body, lambda other counterpart =>
    AlphaUnder ((param, other) :: pairs) body counterpart
  | pairs, apply function argument, apply function' argument' =>
    AlphaUnder pairs function function' ∧ AlphaUnder pairs argument argument'
  | _, _, _ => False

/-- Two terms differ only in the names of their parameters. -/
def Alpha : Term → Term → Prop :=
  AlphaUnder []

instance decidableSameVariable :
    (pairs : List (Text × Text)) → (left right : Text) → Decidable (SameVariable pairs left right)
  | [], left, right => inferInstanceAs (Decidable (left = right))
  | (param, other) :: pairs, left, right =>
    have := decidableSameVariable pairs left right
    inferInstanceAs (Decidable
      ((left = param ∧ right = other) ∨
        (left ≠ param ∧ right ≠ other ∧ SameVariable pairs left right)))

instance decidableAlphaUnder :
    (pairs : List (Text × Text)) → (left right : Term) → Decidable (AlphaUnder pairs left right)
  | pairs, var left, var right => decidableSameVariable pairs left right
  | pairs, lambda param body, lambda other counterpart =>
    decidableAlphaUnder ((param, other) :: pairs) body counterpart
  | pairs, apply function argument, apply function' argument' =>
    have := decidableAlphaUnder pairs function function'
    have := decidableAlphaUnder pairs argument argument'
    inferInstanceAs (Decidable
      (AlphaUnder pairs function function' ∧ AlphaUnder pairs argument argument'))
  | _, var _, lambda _ _ | _, var _, apply _ _ | _, lambda _ _, var _
  | _, lambda _ _, apply _ _ | _, apply _ _, var _ | _, apply _ _, lambda _ _ =>
    .isFalse (fun h => h)

instance (left right : Term) : Decidable (Alpha left right) :=
  decidableAlphaUnder [] left right

/-- Bound names are names of the same variable if their binders have the same number. -/
theorem sameVariable_iff {pairs : List (Text × Text)} {left right : Text}
    (hleft : left ∈ pairs.map Prod.fst) (hright : right ∈ pairs.map Prod.snd) :
    SameVariable pairs left right ↔
      (pairs.map Prod.fst).idxOf left = (pairs.map Prod.snd).idxOf right := by
  induction pairs with
  | nil => simp at hleft
  | cons pair pairs ih =>
      simp only [List.map_cons, List.mem_cons] at hleft hright
      simp only [SameVariable, List.map_cons, List.idxOf_cons]
      grind

/-- Terms that differ only in the names of their parameters are those that are
equal once the names are dropped. -/
theorem alphaUnder_iff {left right : Term} {pairs : List (Text × Text)}
    (hleft : left.freeNames ⊆ pairs.map Prod.fst) (hright : right.freeNames ⊆ pairs.map Prod.snd)
    (hlength : (pairs.map Prod.fst).length = (pairs.map Prod.snd).length) :
    AlphaUnder pairs left right ↔
      (left.nameless _ hleft).rename (Fin.cast hlength) = right.nameless _ hright := by
  induction left generalizing pairs right with
  | var name =>
      cases right with
      | var other =>
          rw [AlphaUnder, sameVariable_iff (freeNames_var_subset_iff.1 hleft)
            (freeNames_var_subset_iff.1 hright)]
          simp [nameless, Nameless.rename, binderIndex, Fin.ext_iff]
      | _ => simp [AlphaUnder, nameless, Nameless.rename]
  | lambda param body ih =>
      cases right with
      | lambda other counterpart =>
          rw [AlphaUnder, nameless, nameless, Nameless.rename, Nameless.liftIndex_cast,
            Nameless.lambda.injEq]
          exact @ih counterpart ((param, other) :: pairs) (freeNames_lambda_subset_iff.1 hleft)
            (freeNames_lambda_subset_iff.1 hright) (congrArg (· + 1) hlength)
      | _ => simp [AlphaUnder, nameless, Nameless.rename]
  | apply function argument ihfunction ihargument =>
      cases right with
      | apply function' argument' =>
          have hleft' := freeNames_apply_subset_iff.1 hleft
          have hright' := freeNames_apply_subset_iff.1 hright
          rw [AlphaUnder, ihfunction hleft'.1 hright'.1 hlength,
            ihargument hleft'.2 hright'.2 hlength]
          simp [nameless, Nameless.rename]
      | _ => simp [AlphaUnder, nameless, Nameless.rename]

theorem alpha_iff {left right : Term}
    (hleft : left.freeNames ⊆ []) (hright : right.freeNames ⊆ []) :
    Alpha left right ↔ left.nameless [] hleft = right.nameless [] hright := by
  rw [Alpha, alphaUnder_iff hleft hright rfl]
  exact Eq.congr_left (Nameless.rename_cast _ rfl)

end Term

end TextScan
