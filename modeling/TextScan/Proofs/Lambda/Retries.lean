import Mathlib.Data.List.Perm.Subperm
import TextScan.Proofs.Extent
import TextScan.Proofs.Lambda.Starts

/-!
# Readings that start over

A bracket that is not closed makes its operand fail, and the application that
tried it ends in front of it.  If that application is the body of a lambda,
the application around the lambda goes on at the same place and tries the
bracket once more, with all that is nested in it.  This is the only way in
which a parse starts an application twice at one offset: no offset is started
twice exactly if no lambda that is read ends in front of an opening bracket.
-/

namespace TextScan.Term

open Unguarded Scanner

def BracketAhead (site : Site) : Prop :=
  ∃ blank next, space site = some (blank, next) ∧ ['('] <+: next.rest

/-- The places where the application that is read at a site looks for operands. -/
inductive Tries (site : Site) : Site → Prop
  | first : Tries site (pastBlank site)
  | next {operand last next : Site} {found : Term} {blank : Span}
      (htries : Tries site operand) (hfound : argument operand = some (found, last))
      (hspace : space last = some (blank, next)) : Tries site next

/-- Reading a term at the site meets a lambda that ends in front of an opening
bracket, in the term itself or in one nested in it. -/
inductive Retries : Site → Prop
  | lambda {site operand body last : Site} {param : Span} {found : Term}
      (htries : Tries site operand) (hbinder : binder operand = some (param, body))
      (hbody : term body = some (found, last)) (hbracket : BracketAhead last) : Retries site
  | body {site operand body : Site} {param : Span}
      (htries : Tries site operand) (hbinder : binder operand = some (param, body))
      (hnested : Retries body) : Retries site
  | bracket {site operand inner : Site} {bracket : Span}
      (htries : Tries site operand) (hchar : char '(' operand = some (bracket, inner))
      (hnested : Retries inner) : Retries site

/-! ### Operands -/

section Operands

variable {site next last : Site} {span : Span} {found : Term}

theorem argument_of_body (hbinder : binder site = some (span, next))
    (hbody : term next = some (found, last)) :
    argument site = some (.lambda span.text found, last) := by
  have hlambda : Unguarded.lambdaBy term site = some (.lambda span.text found, last) := by
    rw [Unguarded.lambdaBy, bind_of_some _ hbinder, bind_of_some _ hbody]
    rfl
  rw [argument, Unguarded.argumentBy, either, hlambda]

/-- A name that begins no lambda is read as a variable. -/
theorem argument_of_name (hname : name site = some (span, next))
    (hlambda : Unguarded.lambdaBy term site = none) :
    argument site = some (.var span.text, next) := by
  have hbracketed : Unguarded.bracketedBy term site = none :=
    bind_of_none _ (char_eq_none_of_name hname)
  rw [argument, Unguarded.argumentBy, either, hlambda]
  dsimp only
  rw [either, hbracketed]
  dsimp only
  rw [variableName, bind_of_some _ hname]
  rfl

/-- A lambda without a body is read as its parameter, in front of the arrow. -/
theorem exists_argument_of_binder (hbinder : binder site = some (span, next))
    (hbody : term next = none) :
    ∃ value stop, argument site = some (value, stop) ∧ ArrowAhead stop := by
  obtain ⟨param, stop, hname, harrow⟩ := exists_of_binder hbinder
  have hlambda : Unguarded.lambdaBy term site = none := by
    rw [Unguarded.lambdaBy, bind_of_some _ hbinder]
    exact bind_of_none _ hbody
  exact ⟨.var param.text, stop, argument_of_name hname hlambda, harrow⟩

/-- At a bracket the operand is what stands between it and its closing bracket. -/
theorem argument_of_char (hchar : char '(' site = some (span, next)) :
    argument site = (do let inner ← term; let _ ← bracketEnd; return inner : Scanner Term)
      next := by
  have hname := name_eq_none_of_char hchar
  have hlambda : Unguarded.lambdaBy term site = none :=
    bind_of_none _ (binder_eq_none_of_name hname)
  have hvariable : variableName site = none := bind_of_none _ hname
  rw [argument, Unguarded.argumentBy, either, hlambda]
  dsimp only
  rw [either, Unguarded.bracketedBy, bind_of_some _ hchar, hvariable]
  split
  · rename_i hnone
    exact hnone.symm
  · rename_i hsome
    exact hsome.symm

theorem nextArgument_of_arrowAhead (h : ArrowAhead site) : nextArgument argument site = none := by
  cases hspace : space site with
  | none => exact bind_of_none _ hspace
  | some result =>
      rw [nextArgument, bind_of_some _ hspace]
      exact argument_of_arrow (arrow_of_space h hspace)

/-- A closing bracket ahead excludes an arrow and an opening bracket. -/
theorem bracketEnd_eq_none (h : ArrowAhead site ∨ BracketAhead site) :
    bracketEnd site = none := by
  cases hend : bracketEnd site with
  | none => rfl
  | some result =>
      rw [bracketEnd, bind_of_some _ (blank_eq site)] at hend
      obtain ⟨rest, hrest⟩ := exists_of_char hend
      rcases h with harrow | ⟨blank, next, hspace, hbracket⟩
      · obtain ⟨tail, htail⟩ := harrow
        rw [hrest] at htail
        exact absurd (List.cons.inj htail).1 (by decide)
      · obtain ⟨-, -, hnext⟩ := advance_eq_some_iff.1 hspace
        obtain ⟨tail, htail⟩ := hbracket
        rw [← hnext] at htail
        replace htail : ['('] ++ tail = (pastBlank site).rest := htail
        rw [hrest] at htail
        exact absurd (List.cons.inj htail).1 (by decide)

theorem term_eq_application (site : Site) : term site = application (pastBlank site) := by
  rw [Unguarded.term_eq, termBy_pastBlank]
  rfl

/-- What an application does from one of its operands on. -/
theorem Tries.term_eq {operand : Site} (h : Tries site operand) :
    (∀ value stop, argument operand = some (value, stop) →
      ∃ function, term site = arguments argument function stop) ∧
    (argument operand = none → term site = none ∨
      ∃ value stop blank, term site = some (value, stop) ∧
        space stop = some (blank, operand)) := by
  induction h with
  | first =>
      rw [term_eq_application]
      constructor
      · intro value stop hvalue
        exact ⟨value, application_of_some hvalue⟩
      · intro hnone
        exact .inl (application_of_none hnone)
  | @next operand last next found blank htries hfound hspace ih =>
      obtain ⟨function, hterm⟩ := ih.1 found last hfound
      rw [arguments_eq consumes_argument.advances, nextArgument,
        bind_of_some _ hspace] at hterm
      constructor
      · intro value stop hvalue
        rw [hvalue] at hterm
        exact ⟨_, hterm⟩
      · intro hnone
        rw [hnone] at hterm
        exact .inr ⟨function, last, blank, hterm, hspace⟩

/-- The operands of an application up to the last one. -/
theorem Tries.exists_last {operand middle : Site} {function value : Term}
    (h : Tries site operand) (hvalue : argument operand = some (value, middle))
    (hrest : arguments argument function middle = some (found, last)) :
    ∃ operand value, Tries site operand ∧ argument operand = some (value, last) ∧
      nextArgument argument last = none := by
  induction hsize : middle.rest.length using Nat.strongRecOn
    generalizing operand middle function value with
  | ind size ih =>
      rw [arguments_eq consumes_argument.advances] at hrest
      cases hnext : nextArgument argument middle with
      | none =>
          rw [hnext] at hrest
          obtain ⟨-, rfl⟩ := Prod.mk.inj (Option.some.inj hrest)
          exact ⟨operand, value, h, hvalue, hnext⟩
      | some result =>
          obtain ⟨later, stop⟩ := result
          rw [hnext] at hrest
          have hlt := (consumes_nextArgument consumes_argument.advances hnext).length_lt
          obtain ⟨blank, start, hspace, hlater⟩ := bind_eq_some_iff.1 hnext
          exact ih _ (hsize ▸ hlt) (h.next hvalue hspace) hlater hrest rfl

/-- A term ends where its last operand does, and no operand follows there. -/
theorem exists_last_operand (h : term site = some (found, last)) :
    ∃ operand value, Tries site operand ∧ argument operand = some (value, last) ∧
      nextArgument argument last = none := by
  have hfirst : Tries site (pastBlank site) := .first
  rw [term_eq_application] at h
  cases hvalue : argument (pastBlank site) with
  | none =>
      rw [application_of_none hvalue] at h
      contradiction
  | some result =>
      rw [application_of_some hvalue] at h
      exact hfirst.exists_last hvalue h

end Operands

/-! ### A term that is retried is not closed -/

section Closing

variable {site operand stop last : Site} {value found : Term}

/-- An application ends in front of an arrow. -/
theorem Tries.arrowAhead (h : Tries site operand)
    (hvalue : argument operand = some (value, stop)) (harrow : ArrowAhead stop)
    (hterm : term site = some (found, last)) : ArrowAhead last := by
  obtain ⟨function, hends⟩ := h.term_eq.1 value stop hvalue
  rw [arguments_eq consumes_argument.advances, nextArgument_of_arrowAhead harrow] at hends
  rw [hends] at hterm
  obtain ⟨-, rfl⟩ := Prod.mk.inj (Option.some.inj hterm)
  exact harrow

/-- An application ends in front of a bracket that it cannot read. -/
theorem Tries.bracketAhead (h : Tries site operand) (hbracket : ['('] <+: operand.rest)
    (hnone : argument operand = none) (hterm : term site = some (found, last)) :
    BracketAhead last := by
  rcases h.term_eq.2 hnone with hfailed | ⟨value, stop, blank, hends, hspace⟩
  · rw [hfailed] at hterm
    contradiction
  · rw [hends] at hterm
    obtain ⟨-, rfl⟩ := Prod.mk.inj (Option.some.inj hterm)
    exact ⟨blank, operand, hspace, hbracket⟩

theorem Tries.bracketAhead_of_lambda {body : Site} {param : Span}
    (h : Tries site operand) (hbinder : binder operand = some (param, body))
    (hbody : term body = some (value, stop)) (hbracket : BracketAhead stop)
    (hterm : term site = some (found, last)) : BracketAhead last := by
  obtain ⟨blank, next, hspace, hnext⟩ := hbracket
  obtain ⟨-, -, -, -, hnone⟩ := exists_last_operand hbody
  rw [nextArgument, bind_of_some _ hspace] at hnone
  exact (h.next (argument_of_body hbinder hbody) hspace).bracketAhead hnext hnone hterm

/-- After a term with a retry in it neither the text ends nor a bracket closes. -/
theorem Retries.ahead (h : Retries site) (hterm : term site = some (found, last)) :
    ArrowAhead last ∨ BracketAhead last := by
  induction h generalizing found last with
  | lambda htries hbinder hbody hbracket =>
      exact .inr (htries.bracketAhead_of_lambda hbinder hbody hbracket hterm)
  | @body site operand body param htries hbinder hnested ih =>
      cases hbody : term body with
      | none =>
          obtain ⟨value, stop, hvalue, harrow⟩ := exists_argument_of_binder hbinder hbody
          exact .inl (htries.arrowAhead hvalue harrow hterm)
      | some result =>
          obtain ⟨value, stop⟩ := result
          rcases ih hbody with harrow | hbracket
          · exact .inl (htries.arrowAhead (argument_of_body hbinder hbody) harrow hterm)
          · exact .inr (htries.bracketAhead_of_lambda hbinder hbody hbracket hterm)
  | @bracket site operand inner bracket htries hchar hnested ih =>
      have hnone : argument operand = none := by
        rw [argument_of_char hchar]
        cases hinner : term inner with
        | none => exact bind_of_none _ hinner
        | some result =>
            rw [bind_of_some _ hinner]
            exact bind_of_none _ (bracketEnd_eq_none (ih hinner))
      exact .inr (htries.bracketAhead (char_eq_some_iff.1 hchar).1 hnone hterm)

end Closing

/-! ### A retry starts an application twice -/

section Twice

variable {site operand : Site}

/-- The starts of a term end with those from any of its operands on. -/
theorem Tries.sublist (h : Tries site operand) :
    (operandStarts operand).Sublist (termStarts site) := by
  induction h with
  | first =>
      rw [termStarts_eq]
      exact List.sublist_cons_self ..
  | next htries hfound hspace ih =>
      rw [operandStarts_of_some hfound, laterStarts_of_some hspace] at ih
      exact (List.sublist_append_right ..).trans ih

theorem nestedStarts_sublist (operand : Site) :
    (nestedStarts operand).Sublist (operandStarts operand) := by
  rw [operandStarts]
  exact List.sublist_append_left ..

theorem Retries.not_nodup (h : Retries site) : ¬ (termStarts site).Nodup := by
  induction h with
  | @lambda site operand body last param found htries hbinder hbody hbracket =>
      -- Both applications try the operand at the bracket, the one in the body first.
      intro hnodup
      obtain ⟨blank, next, hspace, tail, hnext⟩ := hbracket
      obtain ⟨inner, value, hinner, hvalue, -⟩ := exists_last_operand hbody
      obtain ⟨⟨bracket, start⟩, hchar⟩ : ∃ result, char '(' next = some result :=
        ⟨_, char_eq_some_iff.2 ⟨⟨tail, hnext⟩, rfl, rfl⟩⟩
      have hstart : (pastBlank start).offset ∈ nestedStarts next := by
        rw [nestedStarts_of_char hchar, termStarts_eq]
        exact List.mem_cons_self
      have hagain := (nestedStarts_sublist next).subset hstart
      have hbefore := (hinner.next hvalue hspace).sublist.subset hagain
      have hboth := htries.sublist.nodup hnodup
      rw [operandStarts_of_some (argument_of_body hbinder hbody),
        laterStarts_of_some hspace, nestedStarts_of_binder hbinder] at hboth
      exact (List.nodup_append.1 hboth).2.2 _ hbefore _ hagain rfl
  | @body site operand body param htries hbinder hnested ih =>
      intro hnodup
      apply ih
      rw [← nestedStarts_of_binder hbinder]
      exact ((nestedStarts_sublist operand).trans htries.sublist).nodup hnodup
  | @bracket site operand inner bracket htries hchar hnested ih =>
      intro hnodup
      apply ih
      rw [← nestedStarts_of_char hchar]
      exact ((nestedStarts_sublist operand).trans htries.sublist).nodup hnodup

end Twice

/-! ### Without a retry every start is at an offset of its own -/

section Once

variable {site operand last : Site} {offset : Nat} {found : Term}

/-- What is nested in an operand: a body, something in brackets, or nothing. -/
theorem nestedStarts_cases (site : Site) :
    (∃ param body, binder site = some (param, body) ∧ nestedStarts site = termStarts body) ∨
      (∃ bracket inner, char '(' site = some (bracket, inner) ∧
        nestedStarts site = termStarts inner) ∨
      nestedStarts site = [] := by
  cases hbinder : binder site with
  | some result => exact .inl ⟨_, _, rfl, nestedStarts_of_binder hbinder⟩
  | none =>
      cases hchar : char '(' site with
      | some result => exact .inr (.inl ⟨_, _, rfl, nestedStarts_of_char hchar⟩)
      | none => exact .inr (.inr (nestedStarts_of_none hbinder hchar))

theorem exists_of_mem_nestedStarts (h : offset ∈ nestedStarts site) :
    ∃ next, site.LeadsOn next ∧ offset ∈ termStarts next := by
  rcases nestedStarts_cases site with
    ⟨param, body, hbinder, hstarts⟩ | ⟨bracket, inner, hchar, hstarts⟩ | hstarts
  · exact ⟨body, consumes_binder hbinder, hstarts ▸ h⟩
  · exact ⟨inner, consumes_char '(' hchar, hstarts ▸ h⟩
  · rw [hstarts] at h
    contradiction

/-- The starts in operands lie ahead. -/
theorem exists_of_mem_operandStarts (h : offset ∈ operandStarts site) :
    ∃ next, site.LeadsOn next ∧ next.offset = offset := by
  induction hsize : site.rest.length using Nat.strongRecOn generalizing site with
  | ind size ih =>
      have hnested : offset ∈ nestedStarts site →
          ∃ next, site.LeadsOn next ∧ next.offset = offset := by
        intro hmem
        obtain ⟨next, hnext, hmem⟩ := exists_of_mem_nestedStarts hmem
        have hstart := hnext.trans_leads (leads_pastBlank next)
        rw [termStarts_eq] at hmem
        rcases List.mem_cons.1 hmem with heq | hmem
        · exact ⟨pastBlank next, hstart, heq.symm⟩
        · obtain ⟨later, hlater, heq⟩ := ih _ (hsize ▸ hstart.length_lt) hmem rfl
          exact ⟨later, hstart.trans_leads hlater.leads, heq⟩
      cases hfound : argument site with
      | none =>
          rw [operandStarts_of_none hfound] at h
          exact hnested h
      | some result =>
          rw [operandStarts_of_some hfound] at h
          rcases List.mem_append.1 h with hmem | hmem
          · exact hnested hmem
          · cases hspace : space result.2 with
            | none =>
                rw [laterStarts_of_none hspace] at hmem
                contradiction
            | some next =>
                rw [laterStarts_of_some hspace] at hmem
                have hnext := (consumes_argument hfound).trans_leads (consumes_space hspace).leads
                obtain ⟨later, hlater, heq⟩ := ih _ (hsize ▸ hnext.length_lt) hmem rfl
                exact ⟨later, hnext.trans_leads hlater.leads, heq⟩

/-- The starts in a term lie ahead, the first one possibly at the site itself. -/
theorem exists_of_mem_termStarts (h : offset ∈ termStarts site) :
    ∃ next, site.Leads next ∧ next.offset = offset := by
  rw [termStarts_eq] at h
  have hstart := leads_pastBlank site
  rcases List.mem_cons.1 h with heq | hmem
  · exact ⟨pastBlank site, hstart, heq.symm⟩
  · obtain ⟨next, hnext, heq⟩ := exists_of_mem_operandStarts hmem
    exact ⟨next, hstart.trans hnext.leads, heq⟩

/-- Each start has an offset of its own, and the starts lie before the end of the
term, if it has one, unless an arrow or a bracket that was tried stands there. -/
structure StartsOnce (site : Site) : Prop where
  nodup : (termStarts site).Nodup
  before : ∀ {found last}, term site = some (found, last) →
    (∀ offset ∈ termStarts site, offset < last.offset) ∨ ArrowAhead last ∨ BracketAhead last

/-- The nested term of an operand ends where the operand ends or before. -/
theorem before_of_argument (hclean : ¬ Retries site) (htries : Tries site operand)
    (honce : ∀ next, operand.LeadsOn next → ¬ Retries next → StartsOnce next)
    (hfound : argument operand = some (found, last)) :
    (∀ offset ∈ nestedStarts operand, offset < last.offset) ∨ ArrowAhead last := by
  rcases nestedStarts_cases operand with
    ⟨param, body, hbinder, hstarts⟩ | ⟨bracket, inner, hchar, hstarts⟩ | hstarts
  · rw [hstarts]
    have hnested := honce body (consumes_binder hbinder)
      fun hretries => hclean (.body htries hbinder hretries)
    cases hbody : term body with
    | none =>
        obtain ⟨value, stop, hvalue, harrow⟩ := exists_argument_of_binder hbinder hbody
        rw [hvalue] at hfound
        obtain ⟨-, rfl⟩ := Prod.mk.inj (Option.some.inj hfound)
        exact .inr harrow
    | some result =>
        rw [argument_of_body hbinder hbody] at hfound
        obtain ⟨-, rfl⟩ := Prod.mk.inj (Option.some.inj hfound)
        rcases hnested.before hbody with hbefore | harrow | hbracket
        · exact .inl hbefore
        · exact .inr harrow
        · exact absurd (.lambda htries hbinder hbody hbracket) hclean
  · rw [hstarts]
    have hnested := honce inner (consumes_char '(' hchar)
      fun hretries => hclean (.bracket htries hchar hretries)
    rw [argument_of_char hchar] at hfound
    obtain ⟨value, middle, hinner, hrest⟩ := bind_eq_some_iff.1 hfound
    obtain ⟨closing, stop, hend, hrest⟩ := bind_eq_some_iff.1 hrest
    obtain ⟨-, rfl⟩ := pure_eq_some_iff.1 hrest
    -- The closing bracket has been read, so neither of the two exceptions applies.
    rcases hnested.before hinner with hbefore | hahead
    · have hlt := (consumes_bracketEnd hend).offset_lt
      exact .inl fun offset hmem => Nat.lt_trans (hbefore offset hmem) hlt
    · rw [bracketEnd_eq_none hahead] at hend
      contradiction
  · rw [hstarts]
    exact .inl fun offset hmem => absurd hmem List.not_mem_nil

theorem nodup_nestedStarts (hclean : ¬ Retries site) (htries : Tries site operand)
    (honce : ∀ next, operand.LeadsOn next → ¬ Retries next → StartsOnce next) :
    (nestedStarts operand).Nodup := by
  rcases nestedStarts_cases operand with
    ⟨param, body, hbinder, hstarts⟩ | ⟨bracket, inner, hchar, hstarts⟩ | hstarts
  · rw [hstarts]
    exact (honce body (consumes_binder hbinder)
      fun hretries => hclean (.body htries hbinder hretries)).nodup
  · rw [hstarts]
    exact (honce inner (consumes_char '(' hchar)
      fun hretries => hclean (.bracket htries hchar hretries)).nodup
  · rw [hstarts]
    exact List.nodup_nil

theorem Tries.leads (h : Tries site operand) : site.Leads operand := by
  induction h with
  | first => exact leads_pastBlank site
  | next htries hfound hspace ih =>
      exact (ih.trans (consumes_argument hfound).leads).trans (consumes_space hspace).leads

theorem lt_of_mem_laterStarts (h : offset ∈ laterStarts site) : site.offset < offset := by
  cases hspace : space site with
  | none =>
      rw [laterStarts_of_none hspace] at h
      contradiction
  | some result =>
      rw [laterStarts_of_some hspace] at h
      obtain ⟨next, hnext, rfl⟩ := exists_of_mem_operandStarts h
      exact ((consumes_space hspace).trans_leads hnext.leads).offset_lt

theorem laterStarts_of_arrowAhead (h : ArrowAhead site) : laterStarts site = [] := by
  cases hspace : space site with
  | none => exact laterStarts_of_none hspace
  | some result =>
      have hstop := arrow_of_space h hspace
      obtain ⟨hname, hchar⟩ := eq_none_of_arrow hstop
      rw [laterStarts_of_some hspace, operandStarts_of_none (argument_of_arrow hstop)]
      exact nestedStarts_of_none (binder_eq_none_of_name hname) hchar

theorem nodup_operandStarts (hclean : ¬ Retries site)
    (honce : ∀ next, site.LeadsOn next → ¬ Retries next → StartsOnce next)
    (htries : Tries site operand) : (operandStarts operand).Nodup := by
  induction hsize : operand.rest.length using Nat.strongRecOn generalizing operand with
  | ind size ih =>
      have hahead : ∀ next, operand.LeadsOn next → ¬ Retries next → StartsOnce next :=
        fun next hnext => honce next (htries.leads.trans_leadsOn hnext)
      have hnested := nodup_nestedStarts hclean htries hahead
      cases hfound : argument operand with
      | none =>
          rw [operandStarts_of_none hfound]
          exact hnested
      | some result =>
          rw [operandStarts_of_some hfound]
          rcases before_of_argument hclean htries hahead hfound with hbefore | harrow
          · refine List.nodup_append.2 ⟨hnested, ?_, ?_⟩
            · cases hspace : space result.2 with
              | none =>
                  rw [laterStarts_of_none hspace]
                  exact List.nodup_nil
              | some next =>
                  rw [laterStarts_of_some hspace]
                  have hlt := ((consumes_argument hfound).trans_leads
                    (consumes_space hspace).leads).length_lt
                  exact ih _ (hsize ▸ hlt) (htries.next hfound hspace) rfl
            · intro first hfirst second hsecond
              have hlt := hbefore first hfirst
              have hgt := lt_of_mem_laterStarts hsecond
              omega
          · rw [laterStarts_of_arrowAhead harrow, List.append_nil]
            exact hnested

/-- Only a bracket can be tried without success. -/
theorem nestedStarts_of_argument_eq_none (hnone : argument site = none)
    (hchar : char '(' site = none) : nestedStarts site = [] := by
  cases hbinder : binder site with
  | none => exact nestedStarts_of_none hbinder hchar
  | some result =>
      cases hbody : term result.2 with
      | none =>
          obtain ⟨value, stop, hvalue, -⟩ := exists_argument_of_binder hbinder hbody
          rw [hvalue] at hnone
          contradiction
      | some found =>
          rw [argument_of_body hbinder hbody] at hnone
          contradiction

theorem before_of_arguments (hclean : ¬ Retries site)
    (honce : ∀ next, site.LeadsOn next → ¬ Retries next → StartsOnce next)
    (htries : Tries site operand) {function value : Term} {middle : Site}
    (hvalue : argument operand = some (value, middle))
    (hrest : arguments argument function middle = some (found, last)) :
    (∀ offset ∈ operandStarts operand, offset < last.offset) ∨
      ArrowAhead last ∨ BracketAhead last := by
  induction hsize : middle.rest.length using Nat.strongRecOn
    generalizing operand function value middle with
  | ind size ih =>
      have hle := (advances_arguments consumes_argument.advances function hrest).offset_le
      rw [arguments_eq consumes_argument.advances] at hrest
      rw [operandStarts_of_some hvalue]
      rcases before_of_argument hclean htries
        (fun next hnext => honce next (htries.leads.trans_leadsOn hnext)) hvalue with
        hbefore | harrow
      · cases hspace : space middle with
        | none =>
            rw [nextArgument, bind_of_none _ hspace] at hrest
            obtain ⟨-, rfl⟩ := Prod.mk.inj (Option.some.inj hrest)
            rw [laterStarts_of_none hspace, List.append_nil]
            exact .inl hbefore
        | some result =>
            obtain ⟨blank, next⟩ := result
            rw [nextArgument, bind_of_some _ hspace] at hrest
            rw [laterStarts_of_some hspace]
            cases hnext : argument next with
            | none =>
                rw [hnext] at hrest
                obtain ⟨-, rfl⟩ := Prod.mk.inj (Option.some.inj hrest)
                rw [operandStarts_of_none hnext]
                cases hchar : char '(' next with
                | none =>
                    rw [nestedStarts_of_argument_eq_none hnext hchar, List.append_nil]
                    exact .inl hbefore
                | some result =>
                    exact .inr (.inr ⟨blank, next, hspace, (char_eq_some_iff.1 hchar).1⟩)
            | some result =>
                rw [hnext] at hrest
                have hlt := ((consumes_space hspace).trans_leads
                  (consumes_argument hnext).leads).length_lt
                rcases ih _ (hsize ▸ hlt) (htries.next hvalue hspace) hnext hrest rfl with
                  hlater | hahead
                · refine .inl fun offset hmem => ?_
                  rcases List.mem_append.1 hmem with hmem | hmem
                  · exact Nat.lt_of_lt_of_le (hbefore offset hmem) hle
                  · exact hlater offset hmem
                · exact .inr hahead
      · rw [nextArgument_of_arrowAhead harrow] at hrest
        obtain ⟨-, rfl⟩ := Prod.mk.inj (Option.some.inj hrest)
        exact .inr (.inl harrow)

theorem startsOnce_of_not_retries (hclean : ¬ Retries site) : StartsOnce site := by
  induction hsize : site.rest.length using Nat.strongRecOn generalizing site with
  | ind size ih =>
      have honce : ∀ next, site.LeadsOn next → ¬ Retries next → StartsOnce next :=
        fun next hnext hclean => ih _ (hsize ▸ hnext.length_lt) hclean rfl
      constructor
      · rw [termStarts_eq]
        refine List.nodup_cons.2 ⟨?_, nodup_operandStarts hclean honce .first⟩
        intro hmem
        obtain ⟨next, hnext, heq⟩ := exists_of_mem_operandStarts hmem
        exact absurd heq (Nat.ne_of_gt hnext.offset_lt)
      · intro found last hterm
        rw [term_eq_application] at hterm
        cases hvalue : argument (pastBlank site) with
        | none =>
            rw [application_of_none hvalue] at hterm
            contradiction
        | some result =>
            rw [application_of_some hvalue] at hterm
            rcases before_of_arguments hclean honce .first hvalue hterm with hbefore | hahead
            · have hlt := ((consumes_argument hvalue).trans_leads
                (advances_arguments consumes_argument.advances _ hterm)).offset_lt
              rw [termStarts_eq]
              exact .inl (List.forall_mem_cons.2 ⟨hlt, hbefore⟩)
            · exact .inr hahead

end Once

/-! ### Parses -/

theorem nodup_termStarts_iff (site : Site) : (termStarts site).Nodup ↔ ¬ Retries site :=
  ⟨fun hnodup hretries => hretries.not_nodup hnodup,
    fun hclean => (startsOnce_of_not_retries hclean).nodup⟩

theorem le_byteSize_of_mem_applicationStarts {text : Text} {offset : Nat}
    (h : offset ∈ applicationStarts text) : offset ≤ text.byteSize := by
  rw [applicationStarts_eq] at h
  obtain ⟨next, ⟨run, hrun, rfl⟩, rfl⟩ := exists_of_mem_termStarts h
  obtain ⟨tail, htail⟩ := hrun
  have hsize : text.byteSize = run.byteSize + Text.byteSize tail := by
    rw [← Text.byteSize_append, htail]
    rfl
  simp only [Site.past, Site.start]
  omega

/-- Distinct offsets of a text number at most its size and one. -/
theorem length_le_of_nodup {text : Text} (h : (applicationStarts text).Nodup) :
    (applicationStarts text).length ≤ text.byteSize + 1 := by
  have hsubset : applicationStarts text ⊆ List.range (text.byteSize + 1) := by
    intro offset hmem
    exact List.mem_range.2 (Nat.lt_succ_of_le (le_byteSize_of_mem_applicationStarts hmem))
  have hle := (List.subperm_of_subset h hsubset).length_le
  rwa [List.length_range] at hle

/-- A text is a term exactly if one is read at its beginning and only white
space is left. -/
theorem parse_eq_ok_iff {text : Text} {found : Term} :
    parse text = .ok found ↔
      ∃ last, term (.start text) = some (found, last) ∧ Grammar.Blank last.rest := by
  rw [parse_eq_parse, Unguarded.parse]
  cases term (.start text) with
  | none => simp
  | some result =>
      obtain ⟨value, last⟩ := result
      dsimp only
      rw [ite_isAtEnd_eq_ok_iff]
      simp [and_assoc]

theorem not_retries_of_parse {text : Text} {found : Term} (h : parse text = .ok found) :
    ¬ Retries (.start text) := by
  intro hretries
  obtain ⟨last, hterm, hblank⟩ := parse_eq_ok_iff.1 h
  have hend : (pastBlank last).rest = [] := rest_past_run_eq_nil_iff.2 hblank
  rcases hretries.ahead hterm with harrow | ⟨blank, next, hspace, hbracket⟩
  · rw [ArrowAhead, hend] at harrow
    exact absurd (List.prefix_nil.1 harrow) (by decide)
  · obtain ⟨-, -, rfl⟩ := advance_eq_some_iff.1 hspace
    change ['('] <+: (pastBlank last).rest at hbracket
    rw [hend] at hbracket
    exact absurd (List.prefix_nil.1 hbracket) (by decide)

/-- No offset is started twice exactly if nothing is retried; then the starts
number at most the bytes of the text and one.  A text that parses has no retry. -/
theorem started_once_iff_not_retried (text : Text) :
    ((applicationStarts text).Nodup ↔ ¬ Retries (.start text)) ∧
      (¬ Retries (.start text) → (applicationStarts text).length ≤ text.byteSize + 1) ∧
      ∀ found, parse text = .ok found → ¬ Retries (.start text) := by
  have hiff : (applicationStarts text).Nodup ↔ ¬ Retries (.start text) := by
    rw [applicationStarts_eq]
    exact nodup_termStarts_iff _
  exact ⟨hiff, fun hclean => length_le_of_nodup (hiff.2 hclean),
    fun found hparse => not_retries_of_parse hparse⟩

theorem closed_bracket_not_retried :
    parse "x->y (z)".toList = .ok (.lambda ['x'] (.apply (.var ['y']) (.var ['z']))) ∧
      ¬ Retries (.start "x->y (z)".toList) := by
  have hparse : parse "x->y (z)".toList =
      .ok (.lambda ['x'] (.apply (.var ['y']) (.var ['z']))) := by
    decide +kernel
  exact ⟨hparse, (started_once_iff_not_retried _).2.2 _ hparse⟩

/-- A bracket that is not closed, after the body of a lambda, is tried twice, and
each such bracket nested in it doubles the starts again. -/
theorem open_bracket_started_twice :
    ¬ (applicationStarts "x->y (z".toList).Nodup ∧
      Text.byteSize "x->y (x->y (x->y (".toList + 1 <
        (applicationStarts "x->y (x->y (x->y (".toList).length := by
  decide +kernel

end TextScan.Term
