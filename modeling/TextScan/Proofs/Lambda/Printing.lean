import TextScan.Lambda.Evaluation
import TextScan.Proofs.Lambda.Derivations

/-!
# Printing and reading back

A printed term is an expression of the term if all its names are made of
letters, and names that are not cannot be read at all.  So exactly the terms
with such names are read back from their printed form.  Neither substitution
nor evaluation makes up a name, and whatever was read has names of this kind;
values of terms that were read can be read back too.
-/

namespace TextScan.Term

open Grammar

def names : Term → List Text
  | var name => [name]
  | lambda param body => param :: body.names
  | apply function argument => function.names ++ argument.names

def WellNamed (term : Term) : Prop :=
  ∀ name ∈ term.names, Letters name

@[simp]
theorem wellNamed_var {name : Text} : (var name).WellNamed ↔ Letters name := by
  simp [WellNamed, names]

@[simp]
theorem wellNamed_lambda {param : Text} {body : Term} :
    (lambda param body).WellNamed ↔ Letters param ∧ body.WellNamed := by
  simp [WellNamed, names]

@[simp]
theorem wellNamed_apply {function argument : Term} :
    (apply function argument).WellNamed ↔ function.WellNamed ∧ argument.WellNamed := by
  simp [WellNamed, names, or_imp, forall_and]

/-! ### The printed form -/

theorem printBefore_append (term : Term) (before after : Text) :
    term.printBefore (before ++ after) = term.printBefore before ++ after := by
  induction term generalizing before with
  | var name => simp [printBefore]
  | lambda param body ih =>
      have hbody := ih (')' :: before)
      rw [List.cons_append] at hbody
      simp [printBefore, hbody]
  | apply function argument ihfunction ihargument =>
      have hbracket := ihargument (')' :: before)
      rw [List.cons_append] at hbracket
      simp only [printBefore, ← ihfunction]
      split
      · simp [hbracket]
      · simp [ihargument]

/-- The printed form of a term does not depend on what follows it. -/
theorem printBefore_eq (term : Term) (rest : Text) :
    term.printBefore rest = term.display ++ rest :=
  printBefore_append term [] rest

theorem display_lambda (param : Text) (body : Term) :
    (lambda param body).display = ['('] ++ (param ++ ['-', '>'] ++ body.display) ++ [')'] := by
  rw [display, printBefore, printBefore_eq]
  simp

/-- The printed form of an argument: in brackets if it is an application. -/
def displayArgument (argument : Term) : Text :=
  if argument.isApply then ['('] ++ argument.display ++ [')'] else argument.display

theorem display_apply (function argument : Term) :
    (apply function argument).display =
      function.display ++ ([' '] ++ argument.displayArgument) := by
  rw [display, printBefore, printBefore_eq, displayArgument]
  split
  · simp [printBefore_eq argument]
  · rfl

/-! ### A printed term is an expression of the term -/

theorem gap_space : Gap [' '] where
  ne_nil := List.cons_ne_nil _ _
  blank := blank_singleton (by decide)

theorem derives_bracketed {inner : Term} {written : Text}
    (h : Derives .expression inner written) : Derives .atom inner (['('] ++ written ++ [')']) := by
  simpa using Derives.bracketed blank_nil h blank_nil

/-- A printed application is a spine, and everything else is printed as an atom. -/
structure Printed (term : Term) : Prop where
  spine : Derives .spine term term.display
  atom : term.isApply = false → Derives .atom term term.display

theorem Printed.of_atom {term : Term} (h : Derives .atom term term.display) : Printed term :=
  ⟨.single h, fun _ => h⟩

theorem Printed.argument {term : Term} (h : Printed term) :
    Derives .atom term term.displayArgument := by
  rw [displayArgument]
  split
  · exact derives_bracketed (.atoms h.spine)
  · rename_i hatom
    exact h.atom (Bool.not_eq_true _ ▸ hatom)

theorem WellNamed.printed {term : Term} (h : term.WellNamed) : Printed term := by
  induction term with
  | var name =>
      have hname : Letters name := wellNamed_var.1 h
      apply Printed.of_atom
      simpa [display, printBefore] using Derives.named hname
  | lambda param body ih =>
      have hnames := wellNamed_lambda.1 h
      have hlambda : Derives .lambda (lambda param body)
          (param ++ ['-', '>'] ++ body.display) := by
        simpa using Derives.lambda hnames.1 blank_nil blank_nil (.atoms (ih hnames.2).spine)
      apply Printed.of_atom
      rw [display_lambda]
      exact derives_bracketed (.alone hlambda)
  | apply function argument ihfunction ihargument =>
      have hnames := wellNamed_apply.1 h
      refine ⟨?_, fun hatom => absurd hatom (by simp [isApply])⟩
      rw [display_apply]
      exact .applied (ihfunction hnames.1).spine gap_space (ihargument hnames.2).argument

theorem WellNamed.parse_display {term : Term} (h : term.WellNamed) :
    parse term.display = .ok term := by
  have hpadded : Padded term ([] ++ term.display ++ []) :=
    .mk blank_nil (.atoms h.printed.spine) blank_nil
  rw [List.nil_append, List.append_nil] at hpadded
  exact parse_of_padded hpadded

/-! ### What is read is well named -/

theorem wellNamed_of_derives {kind : Nonterminal} {term : Term} {written : Text}
    (h : Derives kind term written) : term.WellNamed := by
  induction h with
  | named hname => exact wellNamed_var.2 hname
  | bracketed _ _ _ ih => exact ih
  | single _ ih => exact ih
  | applied _ _ _ ihspine ihatom => exact wellNamed_apply.2 ⟨ihspine, ihatom⟩
  | lambda hparam _ _ _ ih => exact wellNamed_lambda.2 ⟨hparam, ih⟩
  | atoms _ ih => exact ih
  | alone _ ih => exact ih
  | endingIn _ _ _ ihspine ihlambda => exact wellNamed_apply.2 ⟨ihspine, ihlambda⟩

theorem wellNamed_of_parse {text : Text} {term : Term} (h : parse text = .ok term) :
    term.WellNamed := by
  cases padded_of_parse h with
  | mk _ hderives _ => exact wellNamed_of_derives hderives

/-! ### No name is made up -/

theorem WellNamed.substitute {term value : Term} (hterm : term.WellNamed)
    (hvalue : value.WellNamed) (name : Text) : (term.substitute name value).WellNamed := by
  induction term with
  | var other =>
      rw [Term.substitute]
      split
      · exact hvalue
      · exact hterm
  | lambda param body ih =>
      have hnames := wellNamed_lambda.1 hterm
      rw [Term.substitute]
      split
      · exact hterm
      · exact wellNamed_lambda.2 ⟨hnames.1, ih hnames.2⟩
  | apply function argument ihfunction ihargument =>
      have hnames := wellNamed_apply.1 hterm
      exact wellNamed_apply.2 ⟨ihfunction hnames.1, ihargument hnames.2⟩

theorem WellNamed.instantiate {environment : Environment}
    (henvironment : ∀ name value, environment.get? name = some value → value.WellNamed)
    {term : Term} (hterm : term.WellNamed) (bound : List Text) :
    (term.instantiate environment bound).WellNamed := by
  induction term generalizing bound with
  | var name =>
      rw [Term.instantiate]
      split
      · exact hterm
      · cases hvalue : environment.get? name with
        | none => exact hterm
        | some value => exact henvironment name value hvalue
  | lambda param body ih =>
      have hnames := wellNamed_lambda.1 hterm
      exact wellNamed_lambda.2 ⟨hnames.1, ih hnames.2 _⟩
  | apply function argument ihfunction ihargument =>
      have hnames := wellNamed_apply.1 hterm
      exact wellNamed_apply.2 ⟨ihfunction hnames.1 bound, ihargument hnames.2 bound⟩

/-- Every value on the way to a value is well named. -/
theorem WellNamed.evalWithin {levels : Nat} {term value : Term} (hterm : term.WellNamed)
    (h : term.evalWithin levels = .ok value) : value.WellNamed := by
  induction levels generalizing term value with
  | zero => contradiction
  | succ levels ih =>
      cases term with
      | var name => exact Except.ok.inj h ▸ hterm
      | lambda param body => exact Except.ok.inj h ▸ hterm
      | apply function argument =>
          have hnames := wellNamed_apply.1 hterm
          obtain ⟨operand, operator, hoperand, hoperator, hvalue⟩ := evalWithin_apply_eq_ok h
          have hargument : operand.WellNamed := ih hnames.2 hoperand
          have hfunction : operator.WellNamed := ih hnames.1 hoperator
          rcases hvalue with ⟨param, body, rfl, hbody⟩ | ⟨-, rfl⟩
          · exact ih ((wellNamed_lambda.1 hfunction).2.substitute hargument param) hbody
          · exact wellNamed_apply.2 ⟨hfunction, hargument⟩

/-- A term is read back from its printed form exactly if all its names are made
of letters.  Every term that was read is of this kind, and so is every value of
such a term in an environment of such terms. -/
theorem reread_iff_wellNamed (term : Term) :
    (parse term.display = .ok term ↔ ∀ name ∈ term.names, Letters name) ∧
      (∀ text, parse text = .ok term → parse term.display = .ok term) ∧
      ∀ text environment value, parse text = .ok term →
        (∀ name bound, environment.get? name = some bound → ∃ source, parse source = .ok bound) →
        term.eval environment = .ok value → parse value.display = .ok value := by
  refine ⟨⟨wellNamed_of_parse, WellNamed.parse_display⟩, ?_, ?_⟩
  · intro text hparse
    exact (wellNamed_of_parse hparse).parse_display
  · intro text environment value hparse henvironment hvalue
    have hbound : ∀ name bound, environment.get? name = some bound → bound.WellNamed := by
      intro name bound hget
      obtain ⟨source, hsource⟩ := henvironment name bound hget
      exact wellNamed_of_parse hsource
    have hclosed : (term.substituteAll environment).WellNamed :=
      (wellNamed_of_parse hparse).instantiate hbound []
    exact (hclosed.evalWithin hvalue).parse_display

/-- An application as an argument, and the value of the whole. -/
theorem applied_value_reread :
    parse (apply (lambda ['x'] (var ['x'])) (apply (var ['f']) (var ['f']))).display =
        .ok (apply (lambda ['x'] (var ['x'])) (apply (var ['f']) (var ['f']))) ∧
      parse (lambda ['y'] (var ['y'])).display = .ok (lambda ['y'] (var ['y'])) := by
  obtain ⟨-, hterm, hvalue⟩ := reread_iff_wellNamed
    (apply (lambda ['x'] (var ['x'])) (apply (var ['f']) (var ['f'])))
  have hparse : parse " (x -> x) (f  f)".toList =
      .ok (apply (lambda ['x'] (var ['x'])) (apply (var ['f']) (var ['f']))) := by
    decide +kernel
  have henvironment : ∀ name bound,
      (Dictionary.empty.insert ['f'] (lambda ['y'] (var ['y']))).get? name = some bound →
        ∃ source, parse source = .ok bound := by
    intro name bound hget
    rw [Dictionary.get?_insert] at hget
    split at hget
    · rw [← Option.some.inj hget]
      exact ⟨"y->y".toList, by decide +kernel⟩
    · simp [Dictionary.get?, Dictionary.empty] at hget
  have heval : eval (Dictionary.empty.insert ['f'] (lambda ['y'] (var ['y'])))
      (apply (lambda ['x'] (var ['x'])) (apply (var ['f']) (var ['f']))) =
        .ok (lambda ['y'] (var ['y'])) := by
    decide +kernel
  exact ⟨hterm _ hparse, hvalue _ _ _ hparse henvironment heval⟩

end TextScan.Term
