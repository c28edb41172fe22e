import TextScan.Proofs.Lambda.BigStep
import TextScan.Proofs.Lambda.Scope

/-!
# Values

What evaluation ends with.  A value is put together from parts that were
evaluated at different levels and from bodies after a substitution, so both
what it looks like and how deep it is nested are read off its derivation: a
value is a weak normal form, and it is nested no deeper than the derivation is
high.  A weak normal form derives itself at a height that is its own nesting.
So there are levels enough to evaluate a value once more, and nothing changes.

Evaluation also makes no name free.  A closed weak normal form is a lambda,
since what stands at the head of any other is a name, so a closed term
evaluates to a closed lambda or goes too deep.
-/

namespace TextScan.Term

/-- Nothing is left to evaluate outside of lambdas: no lambda stands as a function there. -/
inductive WeakNormal : Term → Prop
  | var (name : Text) : WeakNormal (var name)
  | lambda (param : Text) (body : Term) : WeakNormal (lambda param body)
  | apply {function argument : Term} (hfunction : WeakNormal function)
      (hargument : WeakNormal argument) (hother : ∀ param body, function ≠ lambda param body) :
      WeakNormal (apply function argument)

/-- How deep applications are nested outside of lambdas. -/
def nesting : Term → Nat
  | var _ => 0
  | lambda _ _ => 0
  | apply function argument => 1 + max function.nesting argument.nesting

variable {term value : Term}

/-! ### Normal forms -/

theorem Derivation.weakNormal (derivation : Derivation term value) : value.WeakNormal := by
  induction derivation with
  | var name => exact .var name
  | lambda param body => exact .lambda param body
  | reduce onArgument onFunction onBody ihArgument ihFunction ihBody => exact ihBody
  | stay onArgument onFunction hother ihArgument ihFunction =>
      exact .apply ihFunction ihArgument hother

/-- Each application in a value was left there by a rule of its own. -/
theorem Derivation.nesting_le_height (derivation : Derivation term value) :
    value.nesting ≤ derivation.height := by
  induction derivation with
  | var name => exact Nat.le_refl 0
  | lambda param body => exact Nat.le_refl 0
  | reduce onArgument onFunction onBody ihArgument ihFunction ihBody =>
      rw [height]
      omega
  | stay onArgument onFunction hother ihArgument ihFunction =>
      rw [height, nesting]
      omega

/-- A weak normal form is its own value. -/
theorem WeakNormal.exists_derivation (h : value.WeakNormal) :
    ∃ derivation : Derivation value value, derivation.height = value.nesting := by
  induction h with
  | var name => exact ⟨.var name, rfl⟩
  | lambda param body => exact ⟨.lambda param body, rfl⟩
  | apply hfunction hargument hother ihFunction ihArgument =>
      obtain ⟨onFunction, hleft⟩ := ihFunction
      obtain ⟨onArgument, hright⟩ := ihArgument
      refine ⟨.stay onArgument onFunction hother, ?_⟩
      rw [Derivation.height, nesting, hleft, hright, Nat.max_comm]

theorem WeakNormal.evalWithin (h : value.WeakNormal) {levels : Nat}
    (hnesting : value.nesting < levels) : value.evalWithin levels = .ok value := by
  obtain ⟨derivation, hheight⟩ := h.exists_derivation
  exact derivation.evalWithin (hheight ▸ hnesting)

/-- A value is a weak normal form with no more than 512 applications inside one
another, and evaluating it again gives the same value. -/
theorem values_are_final {environment : Environment} (h : term.eval environment = .ok value) :
    value.WeakNormal ∧ value.nesting ≤ 512 ∧ value.eval Dictionary.empty = .ok value := by
  obtain ⟨derivation, hheight⟩ := evalWithin_eq_ok_iff.1 h
  have hnormal := derivation.weakNormal
  have hnesting : value.nesting < depthLimit + 1 :=
    Nat.lt_of_le_of_lt derivation.nesting_le_height hheight
  refine ⟨hnormal, Nat.lt_succ_iff.1 hnesting, ?_⟩
  rw [eval, substituteAll, instantiate_empty]
  exact hnormal.evalWithin hnesting

/-- An application stays where its function is a name, with its argument evaluated. -/
theorem stuck_application_is_final :
    eval (Dictionary.empty.insert ['i'] (lambda ['x'] (var ['x'])))
        (apply (var ['f']) (apply (var ['i']) (var ['y']))) =
      .ok (apply (var ['f']) (var ['y'])) ∧
      WeakNormal (apply (var ['f']) (var ['y'])) ∧
      nesting (apply (var ['f']) (var ['y'])) ≤ 512 ∧
      eval Dictionary.empty (apply (var ['f']) (var ['y'])) =
        .ok (apply (var ['f']) (var ['y'])) := by
  have heval : eval (Dictionary.empty.insert ['i'] (lambda ['x'] (var ['x'])))
      (apply (var ['f']) (apply (var ['i']) (var ['y']))) =
        .ok (apply (var ['f']) (var ['y'])) :=
    rfl
  exact ⟨heval, values_are_final heval⟩

/-! ### Free names -/

/-- Evaluation makes no name free. -/
theorem Derivation.freeNames_subset (derivation : Derivation term value) :
    value.freeNames ⊆ term.freeNames := by
  induction derivation with
  | var name => exact List.Subset.refl _
  | lambda param body => exact List.Subset.refl _
  | reduce onArgument onFunction onBody ihArgument ihFunction ihBody =>
      intro name hname
      rcases mem_freeNames_substitute (ihBody hname) with hfunction | hargument
      · exact List.mem_append_left _ (ihFunction hfunction)
      · exact List.mem_append_right _ (ihArgument hargument)
  | stay onArgument onFunction hother ihArgument ihFunction =>
      intro name hname
      rcases List.mem_append.1 hname with hfunction | hargument
      · exact List.mem_append_left _ (ihFunction hfunction)
      · exact List.mem_append_right _ (ihArgument hargument)

theorem Derivation.closed (derivation : Derivation term value) (h : term.Closed) :
    value.Closed :=
  closed_iff.2 (List.Subset.trans derivation.freeNames_subset (closed_iff.1 h))

/-- The head of a weak normal form is a name or a lambda, and a closed one has no name there. -/
theorem WeakNormal.eq_lambda (h : value.WeakNormal) (hclosed : value.Closed) :
    ∃ param body, value = Term.lambda param body := by
  induction h with
  | var name => exact absurd hclosed not_closed_var
  | lambda param body => exact ⟨param, body, rfl⟩
  | apply hfunction hargument hother ihFunction ihArgument =>
      obtain ⟨param, body, hlambda⟩ := ihFunction (closed_apply_iff.1 hclosed).1
      exact absurd hlambda (hother param body)

/-- A name that is free in the value of a term is a free name of the term that
the environment leaves alone, or it is free in what the environment has for a
free name of the term.  A term that the environment makes closed evaluates to a
closed lambda unless it goes too deep. -/
theorem evaluation_frees_no_names :
    (∀ (environment : Environment) (term value : Term), term.eval environment = .ok value →
      ∀ name ∈ value.freeNames,
        (name ∈ term.freeNames ∧ environment.get? name = none) ∨
          ∃ replaced found, replaced ∈ term.freeNames ∧
            environment.get? replaced = some found ∧ name ∈ found.freeNames) ∧
    ∀ (environment : Environment) (term : Term), (term.substituteAll environment).Closed →
      term.eval environment = .error (.tooDeep 512) ∨
        ∃ param body, term.eval environment = .ok (lambda param body) ∧
          (lambda param body).Closed := by
  constructor
  · intro environment term value h name hname
    obtain ⟨derivation, -⟩ := evalWithin_eq_ok_iff.1 h
    rcases mem_freeNames_instantiate (derivation.freeNames_subset hname) with
      ⟨hfree, hbound | hnone⟩ | ⟨replaced, found, hreplaced, -, hfound⟩
    · contradiction
    · exact .inl ⟨hfree, hnone⟩
    · exact .inr ⟨replaced, found, hreplaced, hfound⟩
  · intro environment term hclosed
    cases h : term.eval environment with
    | error error =>
        rw [evalWithin_eq_error h]
        exact .inl rfl
    | ok value =>
        obtain ⟨derivation, -⟩ := evalWithin_eq_ok_iff.1 h
        have hvalue := derivation.closed hclosed
        obtain ⟨param, body, rfl⟩ := derivation.weakNormal.eq_lambda hvalue
        exact .inr ⟨param, body, rfl, hvalue⟩

/-- The name that the environment brings in stays free unless a lambda catches it, and applying
the identity to itself ends with a lambda. -/
theorem brought_name_stays_free :
    (eval (Dictionary.empty.insert ['k'] (lambda ['x'] (var ['z'])))
        (apply (var ['k']) (var ['y'])) = .ok (var ['z']) ∧
      ((['z'] ∈ freeNames (apply (var ['k']) (var ['y'])) ∧
          (Dictionary.empty.insert ['k'] (lambda ['x'] (var ['z']))).get? ['z'] = none) ∨
        ∃ replaced found, replaced ∈ freeNames (apply (var ['k']) (var ['y'])) ∧
          (Dictionary.empty.insert ['k'] (lambda ['x'] (var ['z']))).get? replaced = some found ∧
          ['z'] ∈ found.freeNames)) ∧
    ((apply (var ['i']) (var ['i'])).substituteAll
        (Dictionary.empty.insert ['i'] (lambda ['x'] (var ['x'])))).Closed ∧
      (eval (Dictionary.empty.insert ['i'] (lambda ['x'] (var ['x'])))
          (apply (var ['i']) (var ['i'])) = .error (.tooDeep 512) ∨
        ∃ param body, eval (Dictionary.empty.insert ['i'] (lambda ['x'] (var ['x'])))
          (apply (var ['i']) (var ['i'])) = .ok (lambda param body) ∧
            (lambda param body).Closed) := by
  have heval : eval (Dictionary.empty.insert ['k'] (lambda ['x'] (var ['z'])))
      (apply (var ['k']) (var ['y'])) = .ok (var ['z']) :=
    rfl
  have hclosed : ((apply (var ['i']) (var ['i'])).substituteAll
      (Dictionary.empty.insert ['i'] (lambda ['x'] (var ['x'])))).Closed := by
    decide
  exact ⟨⟨heval, evaluation_frees_no_names.1 _ _ _ heval ['z'] (List.mem_singleton_self _)⟩,
    hclosed, evaluation_frees_no_names.2 _ _ hclosed⟩

end TextScan.Term
