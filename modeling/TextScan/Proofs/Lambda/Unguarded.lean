import TextScan.Lambda.Reader
import TextScan.Proofs.Progress

/-!
# Reading terms without a guard

The grammar of terms with its left recursion removed by hand: a term is an
argument and the arguments that follow it.  Nothing is remembered between two
readings.  The recursion is cut by a bound on the nesting, and `term_eq` and
`arguments_eq` show that the bound is never felt: the readers satisfy the
recursive equations of the grammar.
-/

namespace TextScan.Term.Unguarded

open Scanner

def lambdaBy (term : Scanner Term) : Scanner Term := do
  let param ← binder
  let body ← term
  return .lambda param.text body

def bracketedBy (term : Scanner Term) : Scanner Term := do
  let _ ← .char '('
  let inner ← term
  let _ ← bracketEnd
  return inner

def variableName : Scanner Term := do
  let found ← name
  return .var found.text

/-- The first that succeeds of a lambda, a term in brackets and a variable. -/
def argumentBy (term : Scanner Term) : Scanner Term :=
  .either (lambdaBy term) (.either (bracketedBy term) variableName)

def nextArgument (argument : Scanner Term) : Scanner Term := do
  let _ ← .space
  argument

/-- Applies a function to the arguments that follow, the leftmost first. -/
def argumentsWithin (argument : Scanner Term) :
    (fuel : Nat) → (function : Term) → Scanner Term
  | 0, function => pure function
  | fuel + 1, function => fun site =>
      match nextArgument argument site with
      | none => some (function, site)
      | some (found, last) => argumentsWithin argument fuel (.apply function found) last

/-- The recursion as an equation that rewriting can use. -/
theorem argumentsWithin_succ (argument : Scanner Term) (fuel : Nat) (function : Term)
    (site : Site) :
    argumentsWithin argument (fuel + 1) function site =
      match nextArgument argument site with
      | none => some (function, site)
      | some (found, last) => argumentsWithin argument fuel (.apply function found) last :=
  rfl

def arguments (argument : Scanner Term) (function : Term) : Scanner Term := fun site =>
  argumentsWithin argument site.rest.length function site

/-- `argument (ws argument)*`, folded to the left. -/
def applicationBy (term : Scanner Term) : Scanner Term := do
  let function ← argumentBy term
  arguments (argumentBy term) function

/-- `ws? argument (ws argument)*`. -/
def termBy (term : Scanner Term) : Scanner Term := do
  let _ ← .blank
  applicationBy term

def termWithin : (fuel : Nat) → Scanner Term
  | 0 => fun _ => none
  | fuel + 1 => termBy (termWithin fuel)

/-- Reads a term in full.  Each nested term starts after a character at least. -/
def term : Scanner Term := fun site =>
  termWithin (site.rest.length + 1) site

def argument : Scanner Term :=
  argumentBy term

def application : Scanner Term :=
  applicationBy term

theorem application_of_none {site : Site} (hargument : argument site = none) :
    application site = none :=
  bind_of_none _ hargument

theorem application_of_some {site next : Site} {function : Term}
    (hargument : argument site = some (function, next)) :
    application site = arguments argument function next :=
  bind_of_some _ hargument

/-- Where no argument follows, the function is what was read, so this cannot fail. -/
theorem argumentsWithin_ne_none (argument : Scanner Term) (fuel : Nat) (function : Term)
    (site : Site) : argumentsWithin argument fuel function site ≠ none := by
  induction fuel generalizing function site with
  | zero => exact Option.some_ne_none _
  | succ fuel ih =>
      rw [argumentsWithin_succ]
      split
      · exact Option.some_ne_none _
      · exact ih _ _

/-- Only the first argument of an application can be missing. -/
theorem application_eq_none_iff {site : Site} :
    application site = none ↔ argument site = none := by
  refine ⟨fun h => ?_, application_of_none⟩
  cases hargument : argument site with
  | none => rfl
  | some result =>
      rw [application_of_some hargument] at h
      exact absurd h (argumentsWithin_ne_none _ _ _ _)

def parse (text : Text) : Except ParseError Term :=
  match term (.start text) with
  | none => .error (.expectedTerm 0)
  | some (found, site) =>
      let last := site.past (Probe.run (.char isWhiteSpace) site.rest)
      if last.isAtEnd then .ok found else .error (.trailingInput last.offset)

/-! ### Progress -/

theorem consumes_binder : Consumes binder :=
  (consumes_run _).bind fun _ => advances_blank.bind fun _ =>
    (consumes_word _ _).advances.bind fun _ => advances_pure _

theorem consumes_bracketEnd : Consumes bracketEnd :=
  advances_blank.bind_consumes fun _ => consumes_char _

theorem consumes_variableName : Consumes variableName :=
  (consumes_run _).bind fun _ => advances_pure _

section Parts

variable {reader : Scanner Term}

/-- Each kind of argument begins with a character of its own, so the nested
reader only has to advance. -/
theorem consumes_argumentBy (hreader : reader.Advances) : Consumes (argumentBy reader) := by
  have hlambda : Consumes (lambdaBy reader) :=
    consumes_binder.bind fun _ => hreader.bind fun _ => advances_pure _
  have hbracketed : Consumes (bracketedBy reader) :=
    (consumes_char _).bind fun _ => hreader.bind fun _ =>
      consumes_bracketEnd.advances.bind fun _ => advances_pure _
  exact hlambda.either (hbracketed.either consumes_variableName)

/-- The white space makes the progress. -/
theorem consumes_nextArgument (hreader : reader.Advances) : Consumes (nextArgument reader) :=
  consumes_space.bind fun _ => hreader

/-- The loop goes over the arguments that it reads and stays past the last one.
-/
theorem advances_argumentsWithin (hreader : reader.Advances) (fuel : Nat) (function : Term) :
    Advances (argumentsWithin reader fuel function) := by
  induction fuel generalizing function with
  | zero => exact advances_pure function
  | succ fuel ih =>
      intro site next value hread
      rw [argumentsWithin_succ] at hread
      split at hread
      · obtain ⟨-, rfl⟩ := Prod.mk.inj (Option.some.inj hread)
        exact .refl site
      · rename_i found last hfound
        exact (consumes_nextArgument hreader hfound).leads.trans (ih _ hread)

theorem advances_arguments (hreader : reader.Advances) (function : Term) :
    Advances (arguments reader function) :=
  fun _ _ _ hread => advances_argumentsWithin hreader _ function hread

theorem consumes_applicationBy (hreader : reader.Advances) :
    Consumes (applicationBy reader) :=
  (consumes_argumentBy hreader).bind fun _ =>
    advances_arguments (consumes_argumentBy hreader).advances _

/-- White space in front of a term may be missing; the argument may not. -/
theorem consumes_termBy (hreader : reader.Advances) : Consumes (termBy reader) :=
  advances_blank.bind_consumes fun _ => consumes_applicationBy hreader

end Parts

/-- The fuel is the depth of nesting, so each level adds its own first argument.
-/
theorem consumes_termWithin (fuel : Nat) : Consumes (termWithin fuel) := by
  induction fuel with
  | zero =>
      intro site next value hread
      contradiction
  | succ fuel ih => exact consumes_termBy ih.advances

theorem consumes_term : Consumes term :=
  fun _ _ _ hread => consumes_termWithin _ hread

theorem consumes_argument : Consumes argument :=
  consumes_argumentBy consumes_term.advances

/-! ### The bounds are never felt -/

/-- The readers agree wherever fewer than `size` characters remain. -/
def AgreeBelow (size : Nat) (reader other : Scanner Term) : Prop :=
  ∀ site : Site, site.rest.length < size → reader site = other site

theorem AgreeBelow.mono {size small : Nat} {reader other : Scanner Term}
    (h : AgreeBelow size reader other) (hsmall : small ≤ size) :
    AgreeBelow small reader other :=
  fun site hsite => h site (Nat.lt_of_lt_of_le hsite hsmall)

section Agreement

variable {reader other : Scanner Term} {site : Site}

/-- An argument reads a nested term only past its first character, and there
fewer characters remain. -/
theorem argumentBy_congr (h : AgreeBelow site.rest.length reader other) :
    argumentBy reader site = argumentBy other site := by
  have hlambda : lambdaBy reader site = lambdaBy other site := by
    apply bind_eq_bind
    intro param next hnext
    have hbody := h next (consumes_binder hnext).length_lt
    change (reader next >>= fun result => _) = (other next >>= fun result => _)
    rw [hbody]
  have hbracketed : bracketedBy reader site = bracketedBy other site := by
    apply bind_eq_bind
    intro bracket next hnext
    have hinner := h next (consumes_char '(' hnext).length_lt
    change (reader next >>= fun result => _) = (other next >>= fun result => _)
    rw [hinner]
  rw [argumentBy, argumentBy, either, either, either, either, hlambda, hbracketed]

/-- The first argument comes after white space, so it begins where fewer
characters remain. -/
theorem argumentsWithin_congr (hadvances : other.Advances)
    (h : AgreeBelow site.rest.length reader other) (fuel : Nat) (function : Term) :
    argumentsWithin reader fuel function site = argumentsWithin other fuel function site := by
  induction fuel generalizing site function with
  | zero => rfl
  | succ fuel ih =>
      have hnext : nextArgument reader site = nextArgument other site := by
        apply bind_eq_bind
        intro space next hspace
        exact h next (consumes_space hspace).length_lt
      rw [argumentsWithin_succ, argumentsWithin_succ, hnext]
      split
      · rfl
      · rename_i found last hfound
        have hlast := (consumes_nextArgument hadvances hfound).length_lt
        exact ih (h.mono (Nat.le_of_lt hlast)) _

/-- A term depends on the reader of nested terms only where fewer characters
remain than at its own site. -/
theorem termBy_congr (hadvances : other.Advances)
    (h : AgreeBelow site.rest.length reader other) :
    termBy reader site = termBy other site := by
  have hargument : ∀ next : Site, next.rest.length ≤ site.rest.length →
      argumentBy reader next = argumentBy other next :=
    fun next hnext => argumentBy_congr (h.mono hnext)
  apply bind_eq_bind
  intro blank start hstart
  have hle := (advances_blank hstart).length_le
  rw [applicationBy, applicationBy]
  change (argumentBy reader start >>= fun result => _) =
    (argumentBy other start >>= fun result => _)
  rw [hargument start hle]
  apply Option.bind_congr
  rintro ⟨function, next⟩ hfunction
  have hnext := (consumes_argumentBy hadvances hfunction).length_lt
  exact argumentsWithin_congr (consumes_argumentBy hadvances).advances
    (fun last hlast => hargument last (by omega)) _ _

end Agreement

/-- More fuel than there are characters makes no difference, however much it is.
-/
theorem termWithin_eq_termWithin {fuel more : Nat} {site : Site}
    (hfuel : site.rest.length < fuel) (hmore : site.rest.length < more) :
    termWithin fuel site = termWithin more site := by
  induction fuel generalizing more site with
  | zero => omega
  | succ fuel ih =>
      obtain ⟨more, rfl⟩ := Nat.exists_eq_succ_of_ne_zero (by omega : more ≠ 0)
      apply termBy_congr (consumes_termWithin more).advances
      intro next hnext
      exact ih (by omega) (by omega)

/-- The recursive equation of the grammar: every nested term is read in full. -/
theorem term_eq (site : Site) : term site = termBy term site := by
  apply termBy_congr consumes_term.advances
  intro next hnext
  exact termWithin_eq_termWithin hnext (Nat.lt_succ_self _)

/-- With as much fuel as there are characters the loop ends because no argument
follows. -/
theorem argumentsWithin_eq_argumentsWithin {reader : Scanner Term}
    (hadvances : reader.Advances) {fuel more : Nat} {site : Site}
    (hfuel : site.rest.length ≤ fuel) (hmore : site.rest.length ≤ more) (function : Term) :
    argumentsWithin reader fuel function site = argumentsWithin reader more function site := by
  induction fuel generalizing more site function with
  | zero =>
      have hnone : nextArgument reader site = none := by
        cases hread : nextArgument reader site with
        | none => rfl
        | some result =>
            have hlt := (consumes_nextArgument hadvances hread).length_lt
            omega
      cases more with
      | zero => rfl
      | succ more =>
          rw [argumentsWithin_succ, hnone]
          rfl
  | succ fuel ih =>
      cases hread : nextArgument reader site with
      | none =>
          cases more with
          | zero =>
              rw [argumentsWithin_succ, hread]
              rfl
          | succ more => rw [argumentsWithin_succ, argumentsWithin_succ, hread]
      | some result =>
          have hlt := (consumes_nextArgument hadvances hread).length_lt
          obtain ⟨more, rfl⟩ := Nat.exists_eq_succ_of_ne_zero (by omega : more ≠ 0)
          rw [argumentsWithin_succ, argumentsWithin_succ, hread]
          exact ih (by omega) (by omega) _

/-- Arguments are read one after the other until none follows. -/
theorem arguments_eq {reader : Scanner Term} (hadvances : reader.Advances)
    (function : Term) (site : Site) :
    arguments reader function site =
      match nextArgument reader site with
      | none => some (function, site)
      | some (found, last) => arguments reader (.apply function found) last := by
  rw [arguments, argumentsWithin_eq_argumentsWithin hadvances (Nat.le_refl _)
    (Nat.le_succ _) function, argumentsWithin_succ]
  split
  · rfl
  · rename_i found last hread
    have hlt := (consumes_nextArgument hadvances hread).length_lt
    exact argumentsWithin_eq_argumentsWithin hadvances (Nat.le_of_lt hlt)
      (Nat.le_refl _) _

/-- The function has all its arguments. -/
theorem arguments_of_none {site : Site} (function : Term)
    (hnext : nextArgument argument site = none) :
    arguments argument function site = some (function, site) := by
  rw [arguments_eq consumes_argument.advances, hnext]

theorem arguments_of_some {site last : Site} (function : Term) {found : Term}
    (hnext : nextArgument argument site = some (found, last)) :
    arguments argument function site = arguments argument (.apply function found) last := by
  rw [arguments_eq consumes_argument.advances, hnext]

end TextScan.Term.Unguarded
