import TextScan.Proofs.Lambda.Nameless

/-!
# Evaluation of closed terms

Substitution does not rename parameters, so a free name of a value is caught
by a parameter of the same name around the place where the value is put.  In
the evaluation of a closed term this never happens: every value that is put
anywhere is closed itself.  Dropping the names before the evaluation is
therefore the same as dropping them after it, with shadowed and repeated names
as with any others, and the names of parameters have no influence on the value.
-/

namespace TextScan

open Term

/-! ### Substitution -/

namespace Term

variable {environment : Environment} {scope bound : List Text}

/-- What a closed environment puts in the place of a name has no other free
name. -/
theorem freeNames_instantiate_var (henvironment : environment.Closed) (name : Text) :
    ((var name).instantiate environment bound).freeNames ⊆ [name] := by
  rw [instantiate_var]
  split
  · simp [freeNames]
  · cases hvalue : environment.get? name with
    | none => simp [freeNames]
    | some value => exact (henvironment.value hvalue).subset [name]

/-- Without names, a closed environment is a simultaneous substitution of what
it puts in the place of each name. -/
theorem nameless_instantiate (henvironment : environment.Closed) {term : Term}
    (hterm : term.freeNames ⊆ scope)
    (hresult : (term.instantiate environment bound).freeNames ⊆ bound)
    (values : Fin scope.length → Nameless bound.length)
    (hvalues : ∀ name (hname : name ∈ scope)
      (hvalue : ((var name).instantiate environment bound).freeNames ⊆ bound),
      values (binderIndex scope name hname) =
        ((var name).instantiate environment bound).nameless bound hvalue) :
    (term.instantiate environment bound).nameless bound hresult =
      (term.nameless scope hterm).substitute values := by
  induction term generalizing scope bound with
  | var name =>
      rw [nameless, Nameless.substitute]
      exact (hvalues name (freeNames_var_subset_iff.1 hterm) hresult).symm
  | lambda param body ih =>
      simp only [instantiate, nameless, Nameless.substitute]
      congr 1
      refine @ih (param :: scope) (param :: bound) _ _ (Nameless.lift values) ?_
      intro name hname hvalue
      by_cases hparam : name = param
      · subst hparam
        rw [binderIndex_cons_self]
        simp [instantiate_var, nameless, binderIndex_cons_self, Nameless.lift]
      · -- The value goes under a parameter that is not free in it.
        have hfresh : param ∉ ((var name).instantiate environment bound).freeNames := by
          intro hfree
          have hmem := freeNames_instantiate_var henvironment name hfree
          exact hparam (List.mem_singleton.1 hmem).symm
        simp only [instantiate_var_cons hparam] at hvalue ⊢
        have houter : ((var name).instantiate environment bound).freeNames ⊆ bound := by
          intro other hother
          have hne : other ≠ param := fun heq => hfresh (heq ▸ hother)
          exact List.mem_of_ne_of_mem hne (hvalue hother)
        have hscope : name ∈ scope := List.mem_of_ne_of_mem hparam hname
        calc Nameless.lift values (binderIndex (param :: scope) name hname)
            = (values (binderIndex scope name hscope)).rename Fin.succ := by
              rw [binderIndex_cons_of_ne _ hparam]
              rfl
          _ = (((var name).instantiate environment bound).nameless bound houter).rename
                Fin.succ := by
              rw [hvalues name hscope houter]
          _ = ((var name).instantiate environment bound).nameless (param :: bound) hvalue :=
              (nameless_cons hfresh houter hvalue).symm
  | apply function argument ihfunction ihargument =>
      simp only [instantiate, nameless, Nameless.substitute]
      rw [ihfunction _ _ values hvalues, ihargument _ _ values hvalues]

/-- The value of an argument goes to the variables of the innermost binder. -/
theorem nameless_substitute {param : Text} {body value : Term}
    (hbody : body.freeNames ⊆ [param]) (hvalue : value.Closed)
    (hresult : (body.substitute param value).freeNames ⊆ []) :
    (body.substitute param value).nameless [] hresult =
      (body.nameless [param] hbody).substitute
        (Nameless.only (value.nameless [] (closed_iff.1 hvalue))) := by
  simp only [substitute_eq_instantiate] at hresult ⊢
  refine nameless_instantiate (Environment.closed_insert_empty hvalue param) hbody hresult _ ?_
  intro name hname _
  obtain rfl := List.mem_singleton.1 hname
  rw [binderIndex_cons_self]
  simp [instantiate_var, Dictionary.get?_insert, Nameless.only]

end Term

/-! ### Environments -/

namespace Dictionary

variable {α : Type} {dictionary : Dictionary α}

def entryAt (dictionary : Dictionary α) (index : Fin dictionary.names.length) : Text × α :=
  dictionary.entries.get (index.cast (List.length_map _))

theorem entryAt_mem (index : Fin dictionary.names.length) :
    dictionary.entryAt index ∈ dictionary.entries :=
  List.get_mem _ _

theorem entryAt_fst (index : Fin dictionary.names.length) :
    (dictionary.entryAt index).1 = dictionary.names.get index :=
  (List.getElem_map Prod.fst).symm

theorem entryAt_binderIndex {name : Text} {value : α} (hvalue : dictionary.get? name = some value)
    (hname : name ∈ dictionary.names) :
    (dictionary.entryAt (binderIndex dictionary.names name hname)).2 = value := by
  have hfirst : (dictionary.entryAt (binderIndex dictionary.names name hname)).1 = name := by
    rw [entryAt_fst]
    exact List.idxOf_get _
  have hfound : dictionary.get? (dictionary.entryAt (binderIndex _ name hname)).1 =
      some (dictionary.entryAt (binderIndex _ name hname)).2 :=
    mem_entries_iff.1 (entryAt_mem _)
  rw [hfirst, hvalue] at hfound
  exact (Option.some.inj hfound).symm

end Dictionary

/-- The values of a closed environment without their names, in the order of
the names that they stand under. -/
def Environment.nameless (environment : Environment) (h : environment.Closed)
    (index : Fin environment.names.length) : Nameless 0 :=
  (environment.entryAt index).2.nameless [] (closed_iff.1 (h _ (Dictionary.entryAt_mem index)))

namespace Term

variable {environment : Environment} {term : Term}

/-- A closed environment that has values for all free names leaves none. -/
theorem closed_substituteAll (henvironment : environment.Closed)
    (hterm : term.freeNames ⊆ environment.names) : (term.substituteAll environment).Closed :=
  closed_iff.2 (freeNames_instantiate henvironment fun _ hname => .inr (hterm hname))

theorem nameless_substituteAll (henvironment : environment.Closed)
    (hterm : term.freeNames ⊆ environment.names)
    (hresult : (term.substituteAll environment).freeNames ⊆ []) :
    (term.substituteAll environment).nameless [] hresult =
      (term.nameless environment.names hterm).substitute (environment.nameless henvironment) := by
  refine nameless_instantiate henvironment hterm hresult _ ?_
  intro name hname _
  obtain ⟨value, hvalue⟩ := Dictionary.mem_names_iff.1 hname
  have hput : (var name).instantiate environment [] = value := by
    simp [instantiate_var, hvalue]
  simp only [Environment.nameless, Dictionary.entryAt_binderIndex hvalue, hput]

/-! ### Evaluation -/

/-- Two evaluations both go too deep, or the one ends in a closed value and the
other in that value without its names. -/
inductive Agree : Except EvalError Term → Except EvalError (Nameless 0) → Prop
  | tooDeep : Agree (.error (.tooDeep depthLimit)) (.error (.tooDeep depthLimit))
  | ended {value : Term} (h : value.Closed) :
    Agree (.ok value) (.ok (value.nameless [] (closed_iff.1 h)))

/-- With the given number of levels left, the names of a closed term can be
dropped before the evaluation or after it. -/
def AgreesWithin (levels : Nat) : Prop :=
  ∀ (term : Term) (h : term.Closed),
    Agree (term.evalWithin levels) ((term.nameless [] (closed_iff.1 h)).evalWithin levels)

variable {levels : Nat}

/-- The body of a function, once the argument is a value. -/
theorem AgreesWithin.body (h : AgreesWithin levels) {param : Text} {body operand : Term}
    (hbody : body.freeNames ⊆ [param]) (hoperand : operand.Closed) :
    Agree ((body.substitute param operand).evalWithin levels)
      (((body.nameless [param] hbody).substitute
        (Nameless.only (operand.nameless [] (closed_iff.1 hoperand)))).evalWithin levels) := by
  have hclosed := closed_substitute hbody hoperand
  rw [← nameless_substitute hbody hoperand (closed_iff.1 hclosed)]
  exact h _ hclosed

/-- All that an application evaluates has one level less and is closed. -/
theorem AgreesWithin.apply (h : AgreesWithin levels) {function argument : Term}
    (hclosed : (apply function argument).Closed) :
    Agree ((apply function argument).evalWithin (levels + 1))
      (((apply function argument).nameless [] (closed_iff.1 hclosed)).evalWithin
        (levels + 1)) := by
  have hparts := closed_apply_iff.1 hclosed
  have hargument := h argument hparts.2
  have hfunction := h function hparts.1
  rw [nameless, evalWithin, Nameless.evalWithin]
  generalize argument.evalWithin levels = operand at hargument ⊢
  generalize (argument.nameless [] _).evalWithin levels = operand' at hargument ⊢
  cases hargument with
  | tooDeep => exact .tooDeep
  | @ended operand hoperand =>
      generalize function.evalWithin levels = operator at hfunction ⊢
      generalize (function.nameless [] _).evalWithin levels = operator' at hfunction ⊢
      cases hfunction with
      | tooDeep => exact .tooDeep
      | @ended operator hoperator =>
          cases operator with
          | var name => exact absurd hoperator not_closed_var
          | lambda param body =>
              exact h.body (freeNames_lambda_subset_iff.1 (closed_iff.1 hoperator)) hoperand
          | apply _ _ => exact .ended (closed_apply_iff.2 ⟨hoperator, hoperand⟩)

theorem agreesWithin (levels : Nat) : AgreesWithin levels := by
  induction levels with
  | zero => exact fun term h => .tooDeep
  | succ levels ih =>
      intro term h
      cases term with
      | var name => exact absurd h not_closed_var
      | lambda param body => exact .ended h
      | apply function argument => exact ih.apply h

/-- What agrees with the same evaluation without names differs only in the
names of parameters. -/
theorem Agree.alpha {left right : Except EvalError Term}
    {first second : Except EvalError (Nameless 0)}
    (hleft : Agree left first) (hright : Agree right second) (heq : first = second) :
    (left = .error (.tooDeep depthLimit) ∧ right = .error (.tooDeep depthLimit)) ∨
      ∃ value counterpart,
        left = .ok value ∧ right = .ok counterpart ∧ Alpha value counterpart := by
  cases hleft with
  | tooDeep =>
      cases hright with
      | tooDeep => exact .inl ⟨rfl, rfl⟩
      | ended _ => contradiction
  | ended hvalue =>
      cases hright with
      | tooDeep => contradiction
      | ended hcounterpart =>
          exact .inr ⟨_, _, rfl, rfl, (alpha_iff _ _).2 (Except.ok.inj heq)⟩

theorem eval_of_closed (h : term.Closed) (environment : Environment) :
    term.eval environment = term.evalWithin (depthLimit + 1) := by
  rw [eval, substituteAll, instantiate_of_subset environment (closed_iff.1 h)]

/-- In an environment of closed values for all free names, the evaluation of a
term agrees with the evaluation without names, where nothing can be captured.
So closed terms that differ only in the names of parameters have values that
differ only in these, or both have none. -/
theorem closed_evaluation_nameless :
    (∀ (term : Term) (environment : Environment) (henvironment : environment.Closed)
      (hterm : term.freeNames ⊆ environment.names),
      Agree (term.eval environment)
        ((term.nameless environment.names hterm).substitute
          (environment.nameless henvironment)).eval) ∧
    ∀ left right : Term, left.Closed → right.Closed → Alpha left right →
      ∀ environment : Environment,
        (left.eval environment = .error (.tooDeep depthLimit) ∧
          right.eval environment = .error (.tooDeep depthLimit)) ∨
        ∃ value counterpart, left.eval environment = .ok value ∧
          right.eval environment = .ok counterpart ∧ Alpha value counterpart := by
  constructor
  · intro term environment henvironment hterm
    have hclosed := closed_substituteAll henvironment hterm
    rw [← nameless_substituteAll henvironment hterm (closed_iff.1 hclosed)]
    exact agreesWithin (depthLimit + 1) _ hclosed
  · intro left right hleft hright halpha environment
    rw [eval_of_closed hleft, eval_of_closed hright]
    have hnameless := (alpha_iff (closed_iff.1 hleft) (closed_iff.1 hright)).1 halpha
    exact (agreesWithin _ left hleft).alpha (agreesWithin _ right hright)
      (congrArg (Nameless.evalWithin _) hnameless)

/-- Values that have the name they stand under as a parameter, and a parameter
that another one shadows. -/
theorem shadowed_evaluation_nameless :
    Agree
        (eval (Dictionary.ofList [(['f'], lambda ['x'] (lambda ['x'] (var ['x']))),
            (['x'], lambda ['x'] (var ['x']))])
          (apply (var ['f']) (var ['x'])))
        (.ok (.lambda (.var 0))) ∧
      ∃ value counterpart,
        eval default (apply (lambda ['x'] (lambda ['x'] (var ['x']))) (lambda ['x'] (var ['x']))) =
          .ok value ∧
        eval default (apply (lambda ['x'] (lambda ['y'] (var ['y']))) (lambda ['x'] (var ['x']))) =
          .ok counterpart ∧
        Alpha value counterpart := by
  constructor
  · exact closed_evaluation_nameless.1
      (apply (var ['f']) (var ['x']))
      (Dictionary.ofList [(['f'], lambda ['x'] (lambda ['x'] (var ['x']))),
        (['x'], lambda ['x'] (var ['x']))])
      (by decide) (by decide)
  · refine (closed_evaluation_nameless.2
      (apply (lambda ['x'] (lambda ['x'] (var ['x']))) (lambda ['x'] (var ['x'])))
      (apply (lambda ['x'] (lambda ['y'] (var ['y']))) (lambda ['x'] (var ['x'])))
      (by decide) (by decide) (by decide) default).resolve_left ?_
    decide +kernel

end Term

end TextScan
