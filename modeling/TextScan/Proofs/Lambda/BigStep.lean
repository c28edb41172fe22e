import TextScan.Lambda.Evaluation

/-!
# Evaluation as a relation

Call by value as a system of rules, whose derivations may be of any height.
The evaluator carries one count of levels through the evaluations of the
argument, of the function and of the body, and the body after a substitution
is no part of the term, so neither the term nor the count alone bounds the
other.  The height of the derivation does: with a number of levels left the
evaluator finds exactly the values that have a derivation below this height,
and where there is none it reports that it went too deep.
-/

namespace TextScan.Term

/-- The ways in which a term can come to its value, without a limit. -/
inductive Derivation : Term → Term → Type
  | var (name : Text) : Derivation (var name) (var name)
  | lambda (param : Text) (body : Term) : Derivation (lambda param body) (lambda param body)
  /-- The function has a lambda as its value, and the body gets the value of the argument. -/
  | reduce {function argument operand body value : Term} {param : Text}
      (onArgument : Derivation argument operand)
      (onFunction : Derivation function (lambda param body))
      (onBody : Derivation (body.substitute param operand) value) :
      Derivation (apply function argument) value
  /-- The function has another value, and the application of the two values stays. -/
  | stay {function argument operand operator : Term}
      (onArgument : Derivation argument operand) (onFunction : Derivation function operator)
      (hother : ∀ param body, operator ≠ lambda param body) :
      Derivation (apply function argument) (apply operator operand)

/-- The number of applications on the longest way from the root to a leaf. -/
def Derivation.height : {term value : Term} → Derivation term value → Nat
  | _, _, .var _ => 0
  | _, _, .lambda _ _ => 0
  | _, _, .reduce onArgument onFunction onBody =>
      1 + max onArgument.height (max onFunction.height onBody.height)
  | _, _, .stay onArgument onFunction _ => 1 + max onArgument.height onFunction.height

section Levels

variable {levels : Nat} {function argument operand operator body value : Term} {param : Text}

theorem evalWithin_apply_of_lambda (hargument : evalWithin levels argument = .ok operand)
    (hfunction : evalWithin levels function = .ok (lambda param body)) :
    evalWithin (levels + 1) (apply function argument) =
      evalWithin levels (body.substitute param operand) := by
  rw [evalWithin, hargument]
  dsimp only
  rw [hfunction]

theorem evalWithin_apply_of_other (hargument : evalWithin levels argument = .ok operand)
    (hfunction : evalWithin levels function = .ok operator)
    (hother : ∀ param body, operator ≠ lambda param body) :
    evalWithin (levels + 1) (apply function argument) = .ok (apply operator operand) := by
  rw [evalWithin, hargument]
  dsimp only
  rw [hfunction]
  cases operator with
  | lambda param body => exact absurd rfl (hother param body)
  | var name => rfl
  | apply _ _ => rfl

/-- All that a derivation evaluates fits if the derivation does. -/
theorem Derivation.evalWithin {term value : Term} (derivation : Derivation term value)
    {levels : Nat} (hheight : derivation.height < levels) :
    term.evalWithin levels = .ok value := by
  induction derivation generalizing levels with
  | var name =>
      obtain ⟨levels, rfl⟩ := Nat.exists_eq_succ_of_ne_zero (Nat.ne_zero_of_lt hheight)
      rfl
  | lambda param body =>
      obtain ⟨levels, rfl⟩ := Nat.exists_eq_succ_of_ne_zero (Nat.ne_zero_of_lt hheight)
      rfl
  | reduce onArgument onFunction onBody ihArgument ihFunction ihBody =>
      obtain ⟨levels, rfl⟩ := Nat.exists_eq_succ_of_ne_zero (Nat.ne_zero_of_lt hheight)
      rw [height] at hheight
      rw [evalWithin_apply_of_lambda (ihArgument (by omega)) (ihFunction (by omega))]
      exact ihBody (by omega)
  | stay onArgument onFunction hother ihArgument ihFunction =>
      obtain ⟨levels, rfl⟩ := Nat.exists_eq_succ_of_ne_zero (Nat.ne_zero_of_lt hheight)
      rw [height] at hheight
      exact evalWithin_apply_of_other (ihArgument (by omega)) (ihFunction (by omega)) hother

/-- An evaluation that ends leaves a derivation behind.  The induction is on the
levels, since the body that is evaluated last is no part of the term. -/
theorem exists_derivation {term : Term} (h : evalWithin levels term = .ok value) :
    ∃ derivation : Derivation term value, derivation.height < levels := by
  induction levels generalizing term value with
  | zero => contradiction
  | succ levels ih =>
      cases term with
      | var name =>
          obtain rfl := Except.ok.inj h
          exact ⟨.var name, Nat.succ_pos levels⟩
      | lambda param body =>
          obtain rfl := Except.ok.inj h
          exact ⟨.lambda param body, Nat.succ_pos levels⟩
      | apply function argument =>
          obtain ⟨operand, operator, hargument, hfunction, hvalue⟩ := evalWithin_apply_eq_ok h
          obtain ⟨onArgument, hleft⟩ := ih hargument
          obtain ⟨onFunction, hright⟩ := ih hfunction
          rcases hvalue with ⟨param, body, rfl, hbody⟩ | ⟨hother, rfl⟩
          · obtain ⟨onBody, hlast⟩ := ih hbody
            refine ⟨.reduce onArgument onFunction onBody, ?_⟩
            rw [Derivation.height]
            omega
          · refine ⟨.stay onArgument onFunction hother, ?_⟩
            rw [Derivation.height]
            omega

theorem evalWithin_eq_ok_iff {term : Term} :
    evalWithin levels term = .ok value ↔
      ∃ derivation : Derivation term value, derivation.height < levels := by
  constructor
  · exact exists_derivation
  · rintro ⟨derivation, hheight⟩
    exact derivation.evalWithin hheight

/-- The limit that is reported is the one that is set, at whatever level it was felt. -/
theorem evalWithin_eq_error {term : Term} {error : EvalError}
    (h : evalWithin levels term = .error error) : error = .tooDeep depthLimit := by
  induction levels generalizing term with
  | zero => exact (Except.error.inj h).symm
  | succ levels ih =>
      cases term with
      | var name => contradiction
      | lambda param body => contradiction
      | apply function argument =>
          rw [evalWithin] at h
          split at h
          · rename_i hargument
            exact ih (hargument.trans h)
          · split at h
            · rename_i hfunction
              exact ih (hfunction.trans h)
            · exact ih h
            · contradiction

end Levels

/-- A term has a value in an environment exactly if there is a derivation of
height 512 at most once its free names have their values, and all other terms
go too deep.  A level further out more fits and nothing comes out differently. -/
theorem evaluation_iff_derivation :
    (∀ (environment : Environment) (term value : Term),
      term.eval environment = .ok value ↔
        ∃ derivation : Derivation (term.substituteAll environment) value,
          derivation.height ≤ 512) ∧
    (∀ (environment : Environment) (term : Term),
      term.eval environment = .error (.tooDeep 512) ↔
        ¬ ∃ value, ∃ derivation : Derivation (term.substituteAll environment) value,
          derivation.height ≤ 512) ∧
    ∀ (term value : Term) (depth less : Nat), less ≤ depth →
      term.evalWithin (depthLimit + 1 - depth) = .ok value →
        term.evalWithin (depthLimit + 1 - less) = .ok value := by
  have hvalue : ∀ (environment : Environment) (term value : Term),
      term.eval environment = .ok value ↔
        ∃ derivation : Derivation (term.substituteAll environment) value,
          derivation.height ≤ 512 := by
    intro environment term value
    rw [eval, evalWithin_eq_ok_iff]
    exact exists_congr fun derivation => Nat.lt_succ_iff
  refine ⟨hvalue, ?_, ?_⟩
  · intro environment term
    simp only [← hvalue]
    cases h : term.eval environment with
    | error error =>
        obtain rfl := evalWithin_eq_error h
        simp [depthLimit]
    | ok value => simp
  · intro term value depth less hless h
    obtain ⟨derivation, hheight⟩ := evalWithin_eq_ok_iff.1 h
    exact derivation.evalWithin (by omega)

/-- An application that fits into the last two levels has its value in all of them. -/
theorem last_levels_evaluation :
    0 ≤ 511 ∧
      evalWithin (depthLimit + 1 - 511) (apply (lambda ['x'] (var ['x'])) (var ['y'])) =
        .ok (var ['y']) ∧
      evalWithin (depthLimit + 1 - 0) (apply (lambda ['x'] (var ['x'])) (var ['y'])) =
        .ok (var ['y']) := by
  have hlast : evalWithin (depthLimit + 1 - 511)
      (apply (lambda ['x'] (var ['x'])) (var ['y'])) = .ok (var ['y']) :=
    rfl
  exact ⟨Nat.zero_le _, hlast,
    evaluation_iff_derivation.2.2 _ _ 511 0 (Nat.zero_le _) hlast⟩

end TextScan.Term
