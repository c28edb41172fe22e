import TextScan.Lambda.Term

/-!
# Evaluation

Call by value: the argument first, then the function, and if that is a lambda its body with the
argument's value for the parameter.  Nothing is evaluated under a lambda, names stand for
themselves, and an application of anything but a lambda stays.  Each of the three evaluations that
an application asks for goes one level deeper, and there is a limit to the levels.
-/

namespace TextScan.Term

inductive EvalError where
  /-- The evaluation is nested deeper than the limit. -/
  | tooDeep (limit : Nat)
  deriving DecidableEq

def EvalError.message : EvalError → String
  | tooDeep limit => s!"evaluation exceeded {limit} nested reductions"

/-- The deepest level at which a term is still evaluated. -/
def depthLimit : Nat := 512

/-- Evaluates a term with the given number of levels left. -/
def evalWithin : (levels : Nat) → Term → Except EvalError Term
  | 0, _ => .error (.tooDeep depthLimit)
  | _ + 1, var name => .ok (var name)
  | _ + 1, lambda param body => .ok (lambda param body)
  | levels + 1, apply function argument =>
    match evalWithin levels argument with
    | .error error => .error error
    | .ok argument =>
      match evalWithin levels function with
      | .error error => .error error
      | .ok (lambda param body) => evalWithin levels (body.substitute param argument)
      | .ok function => .ok (apply function argument)

/-- What the value of an application comes from: the values of both parts, and the body of the
function if that is a lambda. -/
theorem evalWithin_apply_eq_ok {levels : Nat} {function argument value : Term}
    (h : evalWithin (levels + 1) (apply function argument) = .ok value) :
    ∃ operand operator, evalWithin levels argument = .ok operand ∧
      evalWithin levels function = .ok operator ∧
      ((∃ param body, operator = lambda param body ∧
          evalWithin levels (body.substitute param operand) = .ok value) ∨
        (∀ param body, operator ≠ lambda param body) ∧ value = apply operator operand) := by
  rw [evalWithin] at h
  split at h
  · contradiction
  · rename_i operand hoperand
    split at h
    · contradiction
    · rename_i param body hoperator
      exact ⟨operand, _, hoperand, hoperator, .inl ⟨param, body, rfl, h⟩⟩
    · rename_i operator hother hoperator
      exact ⟨operand, operator, hoperand, hoperator, .inr ⟨hother, (Except.ok.inj h).symm⟩⟩

/-- Evaluates a term after its free names got their values.  The levels count from zero. -/
def eval (environment : Environment) (term : Term) : Except EvalError Term :=
  evalWithin (depthLimit + 1) (term.substituteAll environment)

end TextScan.Term
