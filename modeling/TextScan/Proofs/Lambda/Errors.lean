import TextScan.Lambda.Workbench
import TextScan.Proofs.Beginnings
import TextScan.Proofs.Lambda.Derivations

/-!
# Where reading a term stops

The error about a text that is no term points at the end of the longest
beginning that is one.  What follows a beginning may change how it is read: a
name goes on, an arrow makes a lambda of it, a bracket that is never closed is
dropped together with all that is in it.  But it never makes the reading
shorter.  All operands of an expression but the last are followed by white
space and another operand, and so is everything in brackets by the closing one,
and they are read as before; and the last operand is read at least as far as it
goes, since a lambda that fails is still read as a name.
-/

namespace TextScan.Grammar

open Scanner Term Term.Unguarded

section Reaching

variable {site middle next last : Site} {gap written : Text} {found : Term}

/-! ### What is derivable is read at least as far as it goes -/

theorem exists_name_of_letters {text : Text} (htext : Letters text)
    (hlead : site.LeadsBy text next) :
    ∃ span last, name site = some (span, last) ∧ next.Leads last := by
  obtain ⟨hmore, hrest, hstops⟩ :=
    run_rest_iff.1 (rfl : (Probe.char isLetter).run next.rest = _)
  have hletters : ∀ c ∈ text ++ (Probe.char isLetter).run next.rest, isLetter c = true := by
    intro c hc
    exact (List.mem_append.1 hc).elim (htext.letters c) (hmore c)
  exact ⟨_, _, run_iff.2 ⟨_, by simp [htext.ne_nil], hletters, hlead.trans hrest, hstops, rfl⟩,
    hrest.leads⟩

/-- Where a name stands an argument does, be it the name alone or a lambda. -/
theorem exists_argument_of_name {span : Span} (hname : name site = some (span, next)) :
    ∃ found last, argument site = some (found, last) ∧ next.Leads last := by
  cases hlambda : Unguarded.lambdaBy term site with
  | none => exact ⟨_, next, argument_of_name hname hlambda, .refl next⟩
  | some result =>
      obtain ⟨found, last⟩ := result
      have hargument : argument site = some (found, last) :=
        either_eq_some_iff.2 (.inl hlambda)
      obtain ⟨param, bodyStart, hbinder, hbody⟩ := bind_eq_some_iff.1 hlambda
      obtain ⟨named, nameEnd, hnamed, harrow⟩ := bind_eq_some_iff.1 hbinder
      rw [hname] at hnamed
      obtain ⟨-, rfl⟩ := Prod.mk.inj (Option.some.inj hnamed)
      have hbodyStart : next.Leads bodyStart :=
        (advances_blank.bind fun _ => (consumes_word _ _).advances.bind fun _ =>
          advances_pure _) harrow
      have hlast : bodyStart.Leads last :=
        (consumes_term.advances.bind fun _ => advances_pure _) hbody
      exact ⟨found, last, hargument, hbodyStart.trans hlast⟩

/-- The arguments of a function end no earlier than they start. -/
theorem exists_arguments (function : Term) (site : Site) :
    ∃ found last, arguments argument function site = some (found, last) ∧ site.Leads last := by
  cases hread : arguments argument function site with
  | none => exact absurd hread (argumentsWithin_ne_none _ _ _ _)
  | some result =>
      exact ⟨_, _, rfl, advances_arguments consumes_argument.advances function hread⟩

theorem exists_application_of_argument (hargument : argument site = some (found, last))
    (hlast : next.Leads last) :
    ∃ whole stop, application site = some (whole, stop) ∧ next.Leads stop := by
  obtain ⟨whole, stop, hread, hstop⟩ := exists_arguments found last
  exact ⟨whole, stop, (application_of_some hargument).trans hread, hlast.trans hstop⟩

/-- After operands that are read as they are written comes one that may be read further. -/
theorem exists_application_of_spine {function : Term} {first second : Text}
    (hspine : Derives .spine function first) (hgap : Gap gap) (hsecond : Begins second)
    (hread : ∀ {site : Site}, site.LeadsBy second next →
      ∃ found last, argument site = some (found, last) ∧ next.Leads last)
    (hlead : site.LeadsBy (first ++ (gap ++ second)) next) :
    ∃ found last, application site = some (found, last) ∧ next.Leads last := by
  obtain ⟨spineEnd, hfirst, hlead⟩ := Site.leadsBy_append_iff.1 hlead
  obtain ⟨start, hspace, hoperand⟩ := Site.leadsBy_append_iff.1 hlead
  obtain ⟨found, middle, hargument, hmiddle⟩ := hread hoperand
  have hnext := nextArgument_of_gap hgap hsecond hspace hoperand hargument
  obtain ⟨whole, last, hrest, hlast⟩ := exists_arguments (.apply function found) middle
  refine ⟨whole, last, ?_, hmiddle.trans hlast⟩
  rw [hspine.reads hfirst (endsAtom_of_gap hgap hsecond hlead), arguments_of_some _ hnext]
  exact hrest

def reader : Nonterminal → Scanner Term
  | .atom | .lambda => argument
  | .spine | .expression => application

theorem Derives.reaches {kind : Nonterminal} (h : Derives kind found written)
    (hlead : site.LeadsBy written next) :
    ∃ value last, reader kind site = some (value, last) ∧ next.Leads last := by
  induction h generalizing site next with
  | named hname =>
      obtain ⟨span, nameEnd, hread, hnameEnd⟩ := exists_name_of_letters hname hlead
      obtain ⟨value, last, hargument, hlast⟩ := exists_argument_of_name hread
      exact ⟨value, last, hargument, hnameEnd.trans hlast⟩
  | bracketed hbefore hinner hafter _ =>
      exact ⟨_, next, complete_bracketed hbefore hinner.begins hafter hinner.reads hlead,
        .refl next⟩
  | single _ ih =>
      obtain ⟨value, last, hargument, hlast⟩ := ih hlead
      exact exists_application_of_argument hargument hlast
  | applied hspine hgap hatom _ ihatom =>
      exact exists_application_of_spine hspine hgap hatom.begins ihatom hlead
  | lambda hparam hgap hbefore hbody ih =>
      obtain ⟨bodyStart, hhead, hlead⟩ := Site.leadsBy_append_iff.1 hlead
      obtain ⟨start, hspace, hlead⟩ := Site.leadsBy_append_iff.1 hlead
      obtain ⟨body, last, hread, hlast⟩ := ih hlead
      exact ⟨_, last, argument_of_body (complete_binder hparam hgap hhead)
        (term_of_application hbefore hbody.begins hspace hlead hread), hlast⟩
  | atoms _ ih => exact ih hlead
  | alone _ ih =>
      obtain ⟨value, last, hargument, hlast⟩ := ih hlead
      exact exists_application_of_argument hargument hlast
  | endingIn hspine hgap hlambda _ ihlambda =>
      exact exists_application_of_spine hspine hgap hlambda.begins ihlambda hlead

end Reaching

/-! ### Whole texts -/

inductive Indented : Term → Text → Prop
  | mk {term : Term} {before written : Text} (hbefore : Blank before)
      (hwritten : Derives .expression term written) : Indented term (before ++ written)

theorem greedy_term : Greedy term Indented where
  sound := by
    intro site next found hread
    obtain ⟨before, written, hbefore, hlead, hderives⟩ := sound_term site hread
    exact ⟨before ++ written, hlead, .mk hbefore hderives⟩
  reaches := by
    rintro site next found - ⟨hbefore, hderives⟩ hlead
    obtain ⟨start, hspace, hlead⟩ := Site.leadsBy_append_iff.1 hlead
    obtain ⟨value, last, hread, hlast⟩ := hderives.reaches hlead
    exact ⟨value, last, term_of_application hbefore hderives.begins hspace hlead hread, hlast⟩

theorem readsBlankAfter_parse : ReadsBlankAfter Term.parse Indented := by
  intro text found
  rw [parse_eq_ok_iff_padded]
  constructor
  · rintro ⟨hbefore, hwritten, hafter⟩
    exact ⟨_, _, rfl, .mk hbefore hwritten, hafter⟩
  · rintro ⟨-, after, rfl, ⟨hbefore, hwritten⟩, hafter⟩
    exact .mk hbefore hwritten hafter

theorem parse_eq_expectedTerm_iff {text : Text} {offset : Nat} :
    Term.parse text = .error (.expectedTerm offset) ↔
      offset = 0 ∧ term (.start text) = none := by
  rw [parse_eq_parse, Unguarded.parse]
  cases hread : term (.start text) with
  | none => simp [eq_comm]
  | some result =>
      dsimp only
      rw [ite_isAtEnd_eq_error_iff]
      simp

theorem parse_eq_trailingInput_iff {text : Text} {offset : Nat} :
    Term.parse text = .error (.trailingInput offset) ↔
      ∃ found last stop, term (.start text) = some (found, last) ∧ last.Skips stop ∧
        stop.rest ≠ [] ∧ stop.offset = offset := by
  rw [parse_eq_parse, Unguarded.parse]
  cases hread : term (.start text) with
  | none => simp
  | some result =>
      dsimp only
      rw [ite_isAtEnd_eq_error_iff]
      simp [Prod.ext_iff]

theorem longestRead_of_trailingInput {text : Text} {offset : Nat}
    (h : Term.parse text = .error (.trailingInput offset)) :
    text.SolidAt offset ∧ ∃ found, LongestRead Term.parse text offset found := by
  obtain ⟨found, last, stop, hread, hskips, hne, rfl⟩ := parse_eq_trailingInput_iff.1 h
  exact ⟨hskips.solidAt (consumes_term hread).leads hne,
    found, greedy_term.longestRead readsBlankAfter_parse hread hskips⟩

theorem noneRead_of_expectedTerm {text : Text} {offset : Nat}
    (h : Term.parse text = .error (.expectedTerm offset)) :
    offset = 0 ∧ NoneRead Term.parse text := by
  obtain ⟨rfl, hnone⟩ := parse_eq_expectedTerm_iff.1 h
  exact ⟨rfl, greedy_term.noneRead readsBlankAfter_parse hnone⟩

/-- The longest beginning is where the error points, since there is only one. -/
theorem trailingInput_of_longestRead {text : Text} {offset : Nat} {found : Term}
    (hsolid : text.SolidAt offset) (h : LongestRead Term.parse text offset found) :
    Term.parse text = .error (.trailingInput offset) := by
  obtain ⟨error, herror⟩ :=
    h.longest text.byteSize text hsolid.lt_byteSize text.uptoByte?_byteSize
  cases error with
  | expectedTerm other => exact absurd (noneRead_of_expectedTerm herror).2 h.not_noneRead
  | trailingInput other =>
      obtain ⟨-, value, hother⟩ := longestRead_of_trailingInput herror
      rw [herror, h.unique hother]

theorem expectedTerm_of_noneRead {text : Text} (h : NoneRead Term.parse text) :
    Term.parse text = .error (.expectedTerm 0) := by
  obtain ⟨error, herror⟩ := h text.byteSize text text.uptoByte?_byteSize
  cases error with
  | expectedTerm offset => rw [herror, (noneRead_of_expectedTerm herror).1]
  | trailingInput offset =>
      obtain ⟨-, value, hlongest⟩ := longestRead_of_trailingInput herror
      exact absurd h hlongest.not_noneRead

/-- The error about trailing input points at the end of the longest beginning
that is a term, white space at its end included, and there stands a character
that is no white space; the other error says that no beginning is a term.
Reading never reports what only evaluation reports. -/
theorem parse_error_iff_longest_read (text : Text) :
    (∀ offset, Term.parse text = .error (.trailingInput offset) ↔
      text.IsBoundary offset ∧ offset < text.byteSize ∧ text.SolidAt offset ∧
        ∃ found, LongestRead Term.parse text offset found) ∧
    (∀ offset, Term.parse text = .error (.expectedTerm offset) ↔
      offset = 0 ∧ NoneRead Term.parse text) ∧
    ∀ error, (Term.Source.written text).term ≠ .error (.noValue error) := by
  refine ⟨fun offset => ⟨fun h => ?_, fun h => ?_⟩, fun offset => ⟨noneRead_of_expectedTerm, ?_⟩,
    fun error h => ?_⟩
  · obtain ⟨hsolid, hlongest⟩ := longestRead_of_trailingInput h
    exact ⟨hsolid.isBoundary, hsolid.lt_byteSize, hsolid, hlongest⟩
  · obtain ⟨-, -, hsolid, found, hlongest⟩ := h
    exact trailingInput_of_longestRead hsolid hlongest
  · rintro ⟨rfl, hnone⟩
    exact expectedTerm_of_noneRead hnone
  · rw [Term.Source.term] at h
    cases hparse : Term.parse text with
    | ok found => simp [hparse] at h
    | error problem => simp [hparse] at h

/-- A bracket after a lambda is never closed: what stands before it is the
longest term, and not the operand before the lambda alone. -/
theorem open_bracket_after_longest_read :
    Term.parse "f é->g (y é".toList = .error (.trailingInput 8) ∧
      ∃ found, LongestRead Term.parse "f é->g (y é".toList 8 found := by
  have hparse : Term.parse "f é->g (y é".toList = .error (.trailingInput 8) := by
    decide +kernel
  exact ⟨hparse, (((parse_error_iff_longest_read _).1 8).1 hparse).2.2.2⟩

end TextScan.Grammar
