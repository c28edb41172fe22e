import TextScan.Proofs.Lambda.Grammar
import TextScan.Proofs.Lambda.Retries

/-!
# Recognition of terms

A text is read as a term exactly if the grammar derives the term from it.

Whatever is read is derivable, since after a lambda no operand follows: its
body ends only where no operand can be read, and the application around it
looks for the next one at that same place.  Conversely nothing derivable is
missed.  Where an expression ends, the text ends too or a bracket closes, and
there neither a name goes on nor an arrow nor an operand follows; between two
operands stands white space and then a letter or an opening bracket.
-/

namespace TextScan.Grammar

open Scanner Term Term.Unguarded

/-! ### What is read is derivable -/

section Soundness

variable {site next : Site} {span : Span} {found : Term}

theorem sound_name (h : name site = some (span, next)) :
    Letters span.text ∧ site.LeadsBy span.text next := by
  obtain ⟨text, hne, hletters, hlead, -, rfl⟩ := run_iff.1 h
  exact ⟨⟨hne, hletters⟩, hlead⟩

theorem sound_binder (h : binder site = some (span, next)) :
    ∃ gap, Letters span.text ∧ Blank gap ∧
      site.LeadsBy (span.text ++ gap ++ ['-', '>']) next := by
  obtain ⟨param, nameEnd, hname, h⟩ := bind_eq_some_iff.1 h
  obtain ⟨gap, gapEnd, hgap, hspace, -, h⟩ := blank_bind_iff.1 h
  obtain ⟨arrowEnd, harrow, h⟩ := (word_bind_iff (by decide)).1 h
  obtain ⟨rfl, rfl⟩ := pure_eq_some_iff.1 h
  obtain ⟨hletters, hlead⟩ := sound_name hname
  exact ⟨gap, hletters, hgap, (hlead.trans hspace).trans harrow⟩

theorem sound_bracketEnd (h : bracketEnd site = some (span, next)) :
    ∃ gap, Blank gap ∧ site.LeadsBy (gap ++ [')']) next := by
  obtain ⟨gap, gapEnd, hgap, hspace, -, h⟩ := blank_bind_iff.1 h
  exact ⟨gap, hgap, hspace.trans (char_iff.1 h).1⟩

/-- What is read as a term at the site is derivable as an expression, after white space. -/
def SoundAt (site : Site) : Prop :=
  ∀ ⦃found next⦄, term site = some (found, next) →
    ∃ before written, Blank before ∧ site.LeadsBy (before ++ written) next ∧
      Derives .expression found written

theorem sound_lambda (hnested : ∀ inner, site.LeadsOn inner → SoundAt inner)
    (h : Unguarded.lambdaBy term site = some (found, next)) :
    ∃ written, site.LeadsBy written next ∧ Derives .lambda found written ∧
      nextArgument argument next = none := by
  obtain ⟨param, bodyStart, hbinder, h⟩ := bind_eq_some_iff.1 h
  obtain ⟨body, last, hbody, h⟩ := bind_eq_some_iff.1 h
  obtain ⟨rfl, rfl⟩ := pure_eq_some_iff.1 h
  obtain ⟨gap, hparam, hgap, hhead⟩ := sound_binder hbinder
  obtain ⟨before, written, hbefore, hlead, hderives⟩ :=
    hnested bodyStart (consumes_binder hbinder) hbody
  obtain ⟨-, -, -, -, hnone⟩ := exists_last_operand hbody
  exact ⟨_, hhead.trans hlead, .lambda hparam hgap hbefore hderives, hnone⟩

theorem sound_bracketed (hnested : ∀ inner, site.LeadsOn inner → SoundAt inner)
    (h : Unguarded.bracketedBy term site = some (found, next)) :
    ∃ written, site.LeadsBy written next ∧ Derives .atom found written := by
  obtain ⟨bracket, innerStart, hchar, h⟩ := bind_eq_some_iff.1 h
  obtain ⟨inner, innerEnd, hinner, h⟩ := bind_eq_some_iff.1 h
  obtain ⟨close, last, hclose, h⟩ := bind_eq_some_iff.1 h
  obtain ⟨rfl, rfl⟩ := pure_eq_some_iff.1 h
  obtain ⟨before, written, hbefore, hlead, hderives⟩ :=
    hnested innerStart (consumes_char '(' hchar) hinner
  obtain ⟨gap, hgap, hend⟩ := sound_bracketEnd hclose
  exact ⟨_, ((char_iff.1 hchar).1.trans hlead).trans hend,
    .bracketed hbefore hderives hgap⟩

theorem sound_variable (h : variableName site = some (found, next)) :
    ∃ written, site.LeadsBy written next ∧ Derives .atom found written := by
  obtain ⟨named, last, hname, h⟩ := bind_eq_some_iff.1 h
  obtain ⟨rfl, rfl⟩ := pure_eq_some_iff.1 h
  obtain ⟨hletters, hlead⟩ := sound_name hname
  exact ⟨_, hlead, .named hletters⟩

/-- An operand is an atom, or it is a lambda and then it is the last one. -/
theorem sound_argument (hnested : ∀ inner, site.LeadsOn inner → SoundAt inner)
    (h : argument site = some (found, next)) :
    ∃ written, site.LeadsBy written next ∧
      (Derives .atom found written ∨
        Derives .lambda found written ∧ nextArgument argument next = none) := by
  rcases either_eq_some_iff.1 h with hlambda | ⟨-, h⟩
  · obtain ⟨written, hlead, hderives⟩ := sound_lambda hnested hlambda
    exact ⟨written, hlead, .inr hderives⟩
  · have hatom : ∃ written, site.LeadsBy written next ∧ Derives .atom found written := by
      rcases either_eq_some_iff.1 h with hbracketed | ⟨-, hvariable⟩
      · exact sound_bracketed hnested hbracketed
      · exact sound_variable hvariable
    obtain ⟨written, hlead, hderives⟩ := hatom
    exact ⟨written, hlead, .inl hderives⟩

theorem sound_nextArgument (hnested : ∀ inner, site.LeadsOn inner → SoundAt inner)
    (h : nextArgument argument site = some (found, next)) :
    ∃ gap written, Gap gap ∧ site.LeadsBy (gap ++ written) next ∧
      (Derives .atom found written ∨
        Derives .lambda found written ∧ nextArgument argument next = none) := by
  obtain ⟨space, start, hspace, hargument⟩ := bind_eq_some_iff.1 h
  obtain ⟨gap, hne, hblank, hgap, -, -⟩ := run_iff.1 hspace
  obtain ⟨written, hlead, hderives⟩ := sound_argument
    (fun inner hinner => hnested inner ((consumes_space hspace).leads.trans_leadsOn hinner))
    hargument
  exact ⟨gap, written, ⟨hne, hblank⟩, hgap.trans hlead, hderives⟩

/-- The operands read so far form a spine.  An atom makes it longer, and a
lambda ends the expression. -/
theorem sound_arguments {start : Site} {function : Term} {first : Text}
    (hnested : ∀ inner, start.LeadsOn inner → SoundAt inner)
    (hfirst : start.LeadsBy first site) (hspine : Derives .spine function first)
    (h : arguments argument function site = some (found, next)) :
    ∃ written, start.LeadsBy written next ∧ Derives .expression found written := by
  induction hsize : site.rest.length using Nat.strongRecOn
    generalizing site function first with
  | ind size ih =>
      rw [arguments_eq consumes_argument.advances] at h
      cases hoperand : nextArgument argument site with
      | none =>
          rw [hoperand] at h
          obtain ⟨rfl, rfl⟩ := Prod.mk.inj (Option.some.inj h)
          exact ⟨first, hfirst, .atoms hspine⟩
      | some result =>
          obtain ⟨operand, last⟩ := result
          rw [hoperand] at h
          have hlt := (consumes_nextArgument consumes_argument.advances hoperand).length_lt
          obtain ⟨gap, written, hgap, hlead, hderives⟩ := sound_nextArgument
            (fun inner hinner => hnested inner (hfirst.leads.trans_leadsOn hinner)) hoperand
          have hwhole := hfirst.trans hlead
          rcases hderives with hatom | ⟨hlambda, hnone⟩
          · exact ih _ (hsize ▸ hlt) hwhole (.applied hspine hgap hatom) h rfl
          · replace h : arguments argument (.apply function operand) last =
                some (found, next) := h
            rw [arguments_of_none _ hnone] at h
            obtain ⟨rfl, rfl⟩ := Prod.mk.inj (Option.some.inj h)
            exact ⟨_, hwhole, .endingIn hspine hgap hlambda⟩

theorem sound_application (hnested : ∀ inner, site.LeadsOn inner → SoundAt inner)
    (h : application site = some (found, next)) :
    ∃ written, site.LeadsBy written next ∧ Derives .expression found written := by
  obtain ⟨function, middle, hfunction, hrest⟩ := bind_eq_some_iff.1 h
  obtain ⟨written, hlead, hderives⟩ := sound_argument hnested hfunction
  rcases hderives with hatom | ⟨hlambda, hnone⟩
  · exact sound_arguments hnested hlead (.single hatom) hrest
  · replace hrest : arguments argument function middle = some (found, next) := hrest
    rw [arguments_of_none _ hnone] at hrest
    obtain ⟨rfl, rfl⟩ := Prod.mk.inj (Option.some.inj hrest)
    exact ⟨written, hlead, .alone hlambda⟩

theorem sound_term (site : Site) : SoundAt site := by
  induction hsize : site.rest.length using Nat.strongRecOn generalizing site with
  | ind size ih =>
      intro found next h
      rw [term_eq_application] at h
      have hstart := leads_pastBlank site
      have hnested : ∀ inner, (pastBlank site).LeadsOn inner → SoundAt inner := by
        intro inner hinner
        have hlt := hinner.length_lt
        have hle := hstart.length_le
        exact ih _ (by omega) inner rfl
      obtain ⟨written, hlead, hderives⟩ := sound_application hnested h
      obtain ⟨before, hbefore, hblank, -, -⟩ := stretch_iff.1 (blank_eq site)
      exact ⟨before, written, hbefore, hblank.trans hlead, hderives⟩

end Soundness

/-! ### What follows -/

theorem isLetter_of_isWhiteSpace {c : Char} (h : isWhiteSpace c = true) :
    isLetter c = false := by
  have hneither := isLetterOrDigit_of_isWhiteSpace h
  rw [isLetterOrDigit, Bool.or_eq_false_iff] at hneither
  exact hneither.1

def Begins (text : Text) : Prop :=
  ∃ c rest, text = c :: rest ∧ (isLetter c = true ∨ c = '(')

theorem Begins.append {text : Text} (h : Begins text) (more : Text) : Begins (text ++ more) := by
  obtain ⟨c, rest, rfl, hc⟩ := h
  exact ⟨c, rest ++ more, rfl, hc⟩

theorem Letters.begins {name : Text} (h : Letters name) : Begins name := by
  obtain ⟨c, rest, rfl⟩ := List.exists_cons_of_ne_nil h.ne_nil
  exact ⟨c, rest, rfl, .inl (h.letters c List.mem_cons_self)⟩

theorem Derives.begins {kind : Nonterminal} {term : Term} {written : Text}
    (h : Derives kind term written) : Begins written := by
  induction h with
  | named hname => exact hname.begins
  | bracketed => exact ⟨'(', _, rfl, .inr rfl⟩
  | single _ ih => exact ih
  | applied _ _ _ ihspine => exact ihspine.append _
  | lambda hparam =>
      rw [List.append_assoc, List.append_assoc]
      exact hparam.begins.append _
  | atoms _ ih => exact ih
  | alone _ ih => exact ih
  | endingIn _ _ _ ihspine => exact ihspine.append _

section Follow

variable {site middle next : Site} {gap text : Text}

theorem Begins.stops (h : Begins text) (hlead : site.LeadsBy text next) :
    site.Stops isWhiteSpace := by
  obtain ⟨c, rest, rfl, hc⟩ := h
  apply hlead.stops
  rcases hc with hletter | rfl
  · by_contra hspace
    rw [Bool.not_eq_false] at hspace
    rw [isLetter_of_isWhiteSpace hspace] at hletter
    contradiction
  · decide

/-- White space ends where something else stands. -/
theorem pastBlank_eq (hgap : Blank gap) (hlead : site.LeadsBy gap middle)
    (hstops : middle.Stops isWhiteSpace) : pastBlank site = middle := by
  have hread : blank site = some (site.span gap, middle) :=
    stretch_iff.2 ⟨gap, hgap, hlead, hstops, rfl⟩
  rw [blank_eq] at hread
  exact (Prod.mk.inj (Option.some.inj hread)).2

/-- No name goes on at the site and no arrow follows, so an atom may end here. -/
structure EndsAtom (site : Site) : Prop where
  letter : site.Stops isLetter
  arrow : ¬ ArrowAhead site

/-- The text ends or a bracket closes, after white space at most. -/
def Closes (site : Site) : Prop :=
  (pastBlank site).Stops (· != ')')

theorem not_arrow_of_stops {c : Char} (hstops : site.Stops (· != c)) (hc : c ≠ '-') :
    ¬ arrow <+: site.rest := by
  intro harrow
  obtain ⟨rest, hrest⟩ := harrow
  have hdash := hstops '-' ('>' :: rest) hrest.symm
  simp [Ne.symm hc] at hdash

theorem Closes.endsAtom (h : Closes site) : EndsAtom site where
  letter := by
    intro c rest hrest
    by_cases hspace : isWhiteSpace c = true
    · exact isLetter_of_isWhiteSpace hspace
    · have hsame : pastBlank site = site := by
        rw [pastBlank, Probe.run_char, hrest, List.takeWhile_cons_of_neg hspace, Site.past_nil]
      rw [Closes, hsame] at h
      have hc : c = ')' := by simpa using h c rest hrest
      rw [hc]
      decide
  arrow := not_arrow_of_stops h (by decide)

/-- Between two operands. -/
theorem endsAtom_of_gap (hgap : Gap gap) (htext : Begins text)
    (hlead : site.LeadsBy (gap ++ text) next) : EndsAtom site where
  letter := by
    obtain ⟨c, rest, rfl⟩ := List.exists_cons_of_ne_nil hgap.ne_nil
    exact hlead.stops (isLetter_of_isWhiteSpace (hgap.blank c List.mem_cons_self))
  arrow := by
    intro harrow
    obtain ⟨middle, hspace, hoperand⟩ := Site.leadsBy_append_iff.1 hlead
    rw [ArrowAhead, pastBlank_eq hgap.blank hspace (htext.stops hoperand)] at harrow
    obtain ⟨c, rest, rfl, hc⟩ := htext
    obtain ⟨tail, htail⟩ := harrow
    have hcons : '-' :: '>' :: tail = c :: (rest ++ next.rest) :=
      htail.trans hoperand.rest_eq
    rw [← (List.cons.inj hcons).1] at hc
    exact absurd hc (by decide)

/-- At the end of an expression no operand follows. -/
theorem Closes.nextArgument_eq_none (h : Closes site) : nextArgument argument site = none := by
  cases hspace : space site with
  | none => exact bind_of_none _ hspace
  | some result =>
      obtain ⟨span, start⟩ := result
      obtain ⟨-, -, rfl⟩ := advance_eq_some_iff.1 hspace
      have hstops : ∀ accepts : Char → Bool, accepts ')' = false →
          (pastBlank site).Stops accepts := by
        intro accepts hclose c rest hrest
        have hc : c = ')' := by simpa using h c rest hrest
        rw [hc]
        exact hclose
      rw [nextArgument, bind_of_some _ hspace]
      exact argument_of_none (run_eq_none (hstops isLetter (by decide)))
        (one_eq_none (hstops (· == '(') (by decide)))

end Follow

/-! ### What is derivable is read -/

section Completeness

variable {site middle next last : Site} {gap written : Text} {found : Term}

theorem complete_name {text : Text} (htext : Letters text) (hlead : site.LeadsBy text next)
    (hstops : next.Stops isLetter) : name site = some (site.span text, next) :=
  run_iff.2 ⟨text, htext.ne_nil, htext.letters, hlead, hstops, rfl⟩

theorem complete_variable {text : Text} (htext : Letters text) (hlead : site.LeadsBy text next)
    (hend : EndsAtom next) : argument site = some (.var text, next) := by
  have hname := complete_name htext hlead hend.letter
  have hbinder : binder site = none := by
    cases hread : binder site with
    | none => rfl
    | some result =>
        obtain ⟨found, last, hfound, harrow⟩ := exists_of_binder hread
        rw [hname] at hfound
        obtain ⟨-, rfl⟩ := Prod.mk.inj (Option.some.inj hfound)
        exact absurd harrow hend.arrow
  exact argument_of_name hname (bind_of_none _ hbinder)

/-- In front of the arrow the name ends and so does the white space. -/
theorem complete_binder {param : Text} (hparam : Letters param) (hgap : Blank gap)
    (hlead : site.LeadsBy (param ++ gap ++ ['-', '>']) next) :
    binder site = some (site.span param, next) := by
  rw [List.append_assoc] at hlead
  obtain ⟨nameEnd, hname, htail⟩ := Site.leadsBy_append_iff.1 hlead
  obtain ⟨gapEnd, hspace, harrow⟩ := Site.leadsBy_append_iff.1 htail
  have hstops : nameEnd.Stops isLetter := by
    cases gap with
    | nil => exact htail.stops (by decide)
    | cons c rest => exact htail.stops (isLetter_of_isWhiteSpace (hgap c List.mem_cons_self))
  exact bind_eq_some_iff.2 ⟨_, nameEnd, complete_name hparam hname hstops,
    blank_bind_iff.2 ⟨gap, gapEnd, hgap, hspace, harrow.stops (by decide),
    (word_bind_iff (by decide)).2 ⟨next, harrow, rfl⟩⟩⟩

theorem complete_bracketEnd (hgap : Blank gap) (hlead : site.LeadsBy (gap ++ [')']) next) :
    ∃ span, bracketEnd site = some (span, next) := by
  obtain ⟨middle, hspace, hclose⟩ := Site.leadsBy_append_iff.1 hlead
  exact ⟨_, blank_bind_iff.2 ⟨gap, middle, hgap, hspace, hclose.stops (by decide),
    char_iff.2 ⟨hclose, rfl⟩⟩⟩

theorem closes_of_bracket (hgap : Blank gap) (hlead : site.LeadsBy (gap ++ [')']) next) :
    Closes site := by
  obtain ⟨middle, hspace, hclose⟩ := Site.leadsBy_append_iff.1 hlead
  rw [Closes, pastBlank_eq hgap hspace (hclose.stops (by decide))]
  exact hclose.stops (by decide)

/-- A term is an application after white space. -/
theorem term_of_application (hgap : Blank gap) (hwritten : Begins written)
    (hspace : site.LeadsBy gap middle) (hlead : middle.LeadsBy written next)
    (h : application middle = some (found, last)) : term site = some (found, last) := by
  rw [term_eq_application, pastBlank_eq hgap hspace (hwritten.stops hlead)]
  exact h

theorem nextArgument_of_gap (hgap : Gap gap) (hwritten : Begins written)
    (hspace : site.LeadsBy gap middle) (hlead : middle.LeadsBy written next)
    (h : argument middle = some (found, last)) :
    nextArgument argument site = some (found, last) :=
  bind_eq_some_iff.2 ⟨site.span gap, middle,
    run_iff.2 ⟨gap, hgap.ne_nil, hgap.blank, hspace, hwritten.stops hlead, rfl⟩, h⟩

/-- What is in brackets is read whatever follows the closing one. -/
theorem complete_bracketed {before after : Text} (hbefore : Blank before)
    (hwritten : Begins written) (hafter : Blank after)
    (hread : ∀ {start stop : Site}, start.LeadsBy written stop → Closes stop →
      application start = some (found, stop))
    (hlead : site.LeadsBy (['('] ++ (before ++ written) ++ (after ++ [')'])) next) :
    argument site = some (found, next) := by
  rw [List.append_assoc] at hlead
  obtain ⟨innerStart, hopen, hlead⟩ := Site.leadsBy_append_iff.1 hlead
  obtain ⟨innerEnd, hlead, hclose⟩ := Site.leadsBy_append_iff.1 hlead
  obtain ⟨start, hspace, hlead⟩ := Site.leadsBy_append_iff.1 hlead
  have hterm := term_of_application hbefore hwritten hspace hlead
    (hread hlead (closes_of_bracket hafter hclose))
  obtain ⟨span, hend⟩ := complete_bracketEnd hafter hclose
  rw [argument_of_char (char_iff.2 ⟨hopen, rfl⟩), bind_of_some _ hterm, bind_of_some _ hend]
  rfl

/-- How a part of each kind is read between two sites, if the right thing follows. -/
def Reads : Nonterminal → Term → Site → Site → Prop
  | .atom, found, site, next => EndsAtom next → argument site = some (found, next)
  | .spine, found, site, next =>
      EndsAtom next → application site = arguments argument found next
  | .lambda, found, site, next => Closes next → argument site = some (found, next)
  | .expression, found, site, next => Closes next → application site = some (found, next)

theorem Derives.reads {kind : Nonterminal} (h : Derives kind found written)
    (hlead : site.LeadsBy written next) : Reads kind found site next := by
  induction h generalizing site next with
  | named hname => exact complete_variable hname hlead
  | bracketed hbefore hinner hafter ih =>
      intro _
      exact complete_bracketed hbefore hinner.begins hafter ih hlead
  | single _ ih =>
      intro hend
      exact application_of_some (ih hlead hend)
  | @applied function argument first gap second _ hgap hatom ihspine ihatom =>
      intro hend
      obtain ⟨spineEnd, hfirst, hlead⟩ := Site.leadsBy_append_iff.1 hlead
      obtain ⟨start, hspace, hsecond⟩ := Site.leadsBy_append_iff.1 hlead
      rw [ihspine hfirst (endsAtom_of_gap hgap hatom.begins hlead)]
      exact arguments_of_some _
        (nextArgument_of_gap hgap hatom.begins hspace hsecond (ihatom hsecond hend))
  | @lambda param gap before written body hparam hgap hbefore hbody ih =>
      intro hclose
      obtain ⟨bodyStart, hhead, hlead⟩ := Site.leadsBy_append_iff.1 hlead
      obtain ⟨start, hspace, hlead⟩ := Site.leadsBy_append_iff.1 hlead
      exact argument_of_body (complete_binder hparam hgap hhead)
        (term_of_application hbefore hbody.begins hspace hlead (ih hlead hclose))
  | atoms _ ih =>
      intro hclose
      rw [ih hlead hclose.endsAtom]
      exact arguments_of_none _ hclose.nextArgument_eq_none
  | alone _ ih =>
      intro hclose
      rw [application_of_some (ih hlead hclose)]
      exact arguments_of_none _ hclose.nextArgument_eq_none
  | @endingIn function argument first gap second _ hgap hlambda ihspine ihlambda =>
      intro hclose
      obtain ⟨spineEnd, hfirst, hlead⟩ := Site.leadsBy_append_iff.1 hlead
      obtain ⟨start, hspace, hsecond⟩ := Site.leadsBy_append_iff.1 hlead
      rw [ihspine hfirst (endsAtom_of_gap hgap hlambda.begins hlead),
        arguments_of_some _ (nextArgument_of_gap hgap hlambda.begins hspace hsecond
          (ihlambda hsecond hclose))]
      exact arguments_of_none _ hclose.nextArgument_eq_none

end Completeness

/-! ### Whole texts -/

section Texts

variable {text : Text} {found : Term}

theorem padded_of_parse (h : Term.parse text = .ok found) : Padded found text := by
  obtain ⟨last, hterm, hblank⟩ := parse_eq_ok_iff.1 h
  obtain ⟨before, written, hbefore, hlead, hderives⟩ := sound_term _ hterm
  have htext : text = before ++ written ++ last.rest := hlead.rest_eq
  rw [htext]
  exact .mk hbefore hderives hblank

theorem parse_of_padded (h : Padded found text) : Term.parse text = .ok found := by
  obtain @⟨before, written, after, hbefore, hderives, hafter⟩ := h
  obtain ⟨last, hlead, hrest⟩ := Site.exists_leadsBy_start (before ++ written) after
  obtain ⟨middle, hspace, hwritten⟩ := Site.leadsBy_append_iff.1 hlead
  have hblank : Blank last.rest := hrest ▸ hafter
  have hend : (pastBlank last).rest = [] := rest_past_run_eq_nil_iff.2 hblank
  have hcloses : Closes last := by simp [Closes, Site.Stops, hend]
  exact parse_eq_ok_iff.2 ⟨last, term_of_application hbefore hderives.begins hspace hwritten
    (hderives.reads hwritten hcloses), hblank⟩

theorem parse_eq_ok_iff_padded : Term.parse text = .ok found ↔ Padded found text :=
  ⟨padded_of_parse, parse_of_padded⟩

end Texts

/-- A text is read as a term exactly if it is an expression of that term with
white space around it, and no text is an expression of two terms. -/
theorem parsed_iff_derivable (text : Text) :
    (∀ term, Term.parse text = .ok term ↔ Padded term text) ∧
      ∀ term other, Padded term text → Padded other text → term = other := by
  refine ⟨fun term => parse_eq_ok_iff_padded, ?_⟩
  intro term other hterm hother
  have hsame : Except.ok term = Except.ok other :=
    (parse_of_padded hterm).symm.trans (parse_of_padded hother)
  exact Except.ok.inj hsame

/-- Two applications to the left, and a lambda at the end that takes the rest. -/
theorem ending_lambda_derivable :
    Padded (.apply (.apply (.var ['f']) (.lambda ['x'] (.var ['y'])))
        (.lambda ['g'] (.apply (.var ['g']) (.var ['f'])))) " f (x->y)  g -> g f ".toList ∧
      ∀ other, Padded other " f (x->y)  g -> g f ".toList →
        other = .apply (.apply (.var ['f']) (.lambda ['x'] (.var ['y'])))
          (.lambda ['g'] (.apply (.var ['g']) (.var ['f']))) := by
  obtain ⟨hiff, hunique⟩ := parsed_iff_derivable " f (x->y)  g -> g f ".toList
  have hpadded := (hiff (.apply (.apply (.var ['f']) (.lambda ['x'] (.var ['y'])))
    (.lambda ['g'] (.apply (.var ['g']) (.var ['f']))))).1 (by decide +kernel)
  exact ⟨hpadded, fun other hother => hunique _ _ hother hpadded⟩

end TextScan.Grammar
