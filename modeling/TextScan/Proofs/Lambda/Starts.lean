import TextScan.Proofs.Lambda.GuardFree

/-!
# Where applications are started

The journal of a reading records each answer of the guard; an application is
started where the answer is no.  For a parse, which begins with a fresh guard,
the offsets of these starts are given here by a recursion on the text that
knows neither guard nor journal.  The invariant is that the guard never holds
a mark ahead of the place that is read, unless an arrow stands there and stops
the reading.
-/

namespace TextScan.Term

open Unguarded Scanner

/-- The offsets at which applications were started, in order. -/
def startedAt (journal : List Entry) : List Nat :=
  (journal.filter fun entry => !entry.again).map Entry.offset

@[simp]
theorem startedAt_nil : startedAt [] = [] :=
  rfl

@[simp]
theorem startedAt_append (first second : List Entry) :
    startedAt (first ++ second) = startedAt first ++ startedAt second := by
  simp [startedAt]

/-- An application that was entered already is not started. -/
@[simp]
theorem startedAt_cons_again (offset : Nat) (journal : List Entry) :
    startedAt (⟨offset, true⟩ :: journal) = startedAt journal := by
  simp [startedAt]

@[simp]
theorem startedAt_cons_first (offset : Nat) (journal : List Entry) :
    startedAt (⟨offset, false⟩ :: journal) = offset :: startedAt journal := by
  simp [startedAt]

/-- The offsets at which a parse of the text starts applications, in order. -/
def applicationStarts (text : Text) : List Nat :=
  startedAt (readNoted text).1

/-! ### The first character decides -/

theorem exists_of_name {site : Site} {result : Span × Site} (h : name site = some result) :
    ∃ c rest, site.rest = c :: rest ∧ isLetter c = true := by
  obtain ⟨span, next⟩ := result
  obtain ⟨hne, -, -⟩ := advance_eq_some_iff.1 h
  have hrun : Probe.run (.ofClass .letter) site.rest = site.rest.takeWhile isLetter :=
    Probe.run_char ..
  rw [hrun] at hne
  cases hrest : site.rest with
  | nil =>
      rw [hrest] at hne
      contradiction
  | cons c rest =>
      refine ⟨c, rest, rfl, ?_⟩
      rw [hrest, List.takeWhile_cons] at hne
      by_cases hc : isLetter c = true
      · exact hc
      · simp [hc] at hne

theorem exists_of_char {c : Char} {site : Site} {result : Span × Site}
    (h : char c site = some result) : ∃ rest, site.rest = c :: rest := by
  obtain ⟨⟨rest, hrest⟩, -⟩ := char_eq_some_iff.1 h
  exact ⟨rest, hrest.symm⟩

/-- The arrow stands ahead, after white space at most. -/
def ArrowAhead (site : Site) : Prop :=
  arrow <+: (pastBlank site).rest

/-- A binder is a name with an arrow ahead. -/
theorem exists_of_binder {site : Site} {result : Span × Site} (h : binder site = some result) :
    ∃ found next, name site = some (found, next) ∧ ArrowAhead next := by
  obtain ⟨param, last⟩ := result
  obtain ⟨found, next, hname, hrest⟩ := bind_eq_some_iff.1 h
  obtain ⟨blank, start, hblank, hrest⟩ := bind_eq_some_iff.1 hrest
  obtain ⟨spelling, middle, hword, -⟩ := bind_eq_some_iff.1 hrest
  rw [blank_eq] at hblank
  obtain ⟨-, rfl⟩ := Prod.mk.inj (Option.some.inj hblank)
  exact ⟨found, next, hname, (word_strict_eq_some_iff.1 hword).1⟩

theorem char_eq_none_of_name {site : Site} {result : Span × Site}
    (h : name site = some result) : char '(' site = none := by
  obtain ⟨c, rest, hrest, hc⟩ := exists_of_name h
  cases hchar : char '(' site with
  | none => rfl
  | some found =>
      obtain ⟨tail, htail⟩ := exists_of_char hchar
      rw [hrest] at htail
      rw [(List.cons.inj htail).1] at hc
      exact absurd hc (by decide)

theorem name_eq_none_of_char {site : Site} {result : Span × Site}
    (h : char '(' site = some result) : name site = none := by
  cases hname : name site with
  | none => rfl
  | some found =>
      rw [char_eq_none_of_name hname] at h
      contradiction

theorem binder_eq_none_of_name {site : Site} (h : name site = none) : binder site = none :=
  bind_of_none _ h

theorem eq_none_of_arrow {site : Site} (h : arrow <+: site.rest) :
    name site = none ∧ char '(' site = none := by
  obtain ⟨tail, htail⟩ := h
  have hrest : site.rest = '-' :: '>' :: tail := htail.symm
  constructor
  · cases hname : name site with
    | none => rfl
    | some result =>
        obtain ⟨c, rest, hc, hletter⟩ := exists_of_name hname
        rw [hrest] at hc
        rw [← (List.cons.inj hc).1] at hletter
        exact absurd hletter (by decide)
  · cases hchar : char '(' site with
    | none => rfl
    | some result =>
        obtain ⟨rest, hc⟩ := exists_of_char hchar
        rw [hrest] at hc
        exact absurd (List.cons.inj hc).1 (by decide)

/-- An operand starts with a letter or a bracket. -/
theorem argument_of_none {site : Site} (hname : name site = none)
    (hchar : char '(' site = none) : argument site = none := by
  have hlambda : Unguarded.lambdaBy term site = none :=
    bind_of_none _ (binder_eq_none_of_name hname)
  have hbracketed : Unguarded.bracketedBy term site = none := bind_of_none _ hchar
  have hvariable : variableName site = none := bind_of_none _ hname
  rw [argument, Unguarded.argumentBy, either, hlambda]
  dsimp only
  rw [either, hbracketed]
  exact hvariable

/-- Nothing starts at an arrow. -/
theorem argument_of_arrow {site : Site} (h : arrow <+: site.rest) : argument site = none :=
  argument_of_none (eq_none_of_arrow h).1 (eq_none_of_arrow h).2

/-! ### The starts, read off the text -/

mutual

/-- The offsets at which reading a term in full starts applications, in order. -/
def termStarts (site : Site) : List Nat :=
  (pastBlank site).offset :: operandStarts (pastBlank site)
termination_by 3 * site.rest.length + 2
decreasing_by
  have hle := (leads_pastBlank site).length_le
  omega

/-- The starts in an operand and, where there is one, in the operands after it. -/
def operandStarts (site : Site) : List Nat :=
  nestedStarts site ++
    match _hargument : argument site with
    | none => []
    | some (_, last) =>
        match _hspace : space last with
        | none => []
        | some (_, next) => operandStarts next
termination_by 3 * site.rest.length + 1
decreasing_by
  · omega
  · have hlast := (consumes_argument _hargument).length_lt
    have hnext := (consumes_space _hspace).length_lt
    omega

def nestedStarts (site : Site) : List Nat :=
  match _hbinder : binder site with
  | some (_, next) => termStarts next
  | none =>
      match _hchar : char '(' site with
      | some (_, next) => termStarts next
      | none => []
termination_by 3 * site.rest.length
decreasing_by
  · have hnext := (consumes_binder _hbinder).length_lt
    omega
  · have hnext := (consumes_char '(' _hchar).length_lt
    omega

end

section Equations

variable {site next last : Site} {span : Span} {found : Term}

/-- In a lambda the body is the only nested term. -/
theorem nestedStarts_of_binder (h : binder site = some (span, next)) :
    nestedStarts site = termStarts next := by
  rw [nestedStarts]
  split
  · rename_i hbinder
    rw [h] at hbinder
    rw [(Prod.mk.inj (Option.some.inj hbinder)).2]
  · rename_i hbinder
    rw [h] at hbinder
    contradiction

theorem nestedStarts_of_char (h : char '(' site = some (span, next)) :
    nestedStarts site = termStarts next := by
  have hnone := binder_eq_none_of_name (name_eq_none_of_char h)
  rw [nestedStarts]
  split
  · rename_i hbinder
    rw [hnone] at hbinder
    contradiction
  · split
    · rename_i hchar
      rw [h] at hchar
      rw [(Prod.mk.inj (Option.some.inj hchar)).2]
    · rename_i hchar
      rw [h] at hchar
      contradiction

theorem nestedStarts_of_none (hbinder : binder site = none) (hchar : char '(' site = none) :
    nestedStarts site = [] := by
  rw [nestedStarts]
  split
  · simp_all
  · split
    · simp_all
    · rfl

theorem operandStarts_of_none (h : argument site = none) :
    operandStarts site = nestedStarts site := by
  rw [operandStarts]
  split
  · exact List.append_nil _
  · simp_all

def laterStarts (site : Site) : List Nat :=
  match space site with
  | none => []
  | some (_, next) => operandStarts next

theorem laterStarts_of_none (h : space site = none) : laterStarts site = [] := by
  rw [laterStarts, h]

theorem laterStarts_of_some (h : space site = some (span, next)) :
    laterStarts site = operandStarts next := by
  rw [laterStarts, h]

/-- An operand that is read is followed by others, with starts of their own. -/
theorem operandStarts_of_some (h : argument site = some (found, last)) :
    operandStarts site = nestedStarts site ++ laterStarts last := by
  rw [operandStarts]
  split
  · rename_i hnone
    rw [h] at hnone
    contradiction
  · rename_i hsome
    rw [h] at hsome
    rw [(Prod.mk.inj (Option.some.inj hsome)).2]
    split
    · rename_i hspace
      rw [laterStarts_of_none hspace]
    · rename_i hspace
      rw [laterStarts_of_some hspace]

end Equations

/-! ### The journal records exactly these starts -/

section Journal

variable {reader : Reader} {site next : Site} {guard : Guard} {span : Span}

theorem journal_orElse (first second : Reader) (site : Site) (guard : Guard) :
    (orElse first second site guard).journal = (first site guard).journal ++
      match (first site guard).result with
      | some _ => []
      | none => (second site (first site guard).guard).journal := by
  rw [orElse]
  cases hfirst : (first site guard).result with
  | some result => exact (List.append_nil _).symm
  | none => rfl

theorem journal_readVar (site : Site) (guard : Guard) : (readVar site guard).journal = [] := by
  rw [readVar]
  split
  · rfl
  · rfl

theorem lambdaBy_of_none (h : binder site = none) :
    lambdaBy reader site guard = ⟨none, guard, []⟩ := by
  rw [lambdaBy, h]

theorem journal_lambdaBy (h : binder site = some (span, next)) :
    (lambdaBy reader site guard).journal = (reader next guard).journal := by
  rw [lambdaBy, h]
  dsimp only
  split
  · rfl
  · rfl

theorem bracketedBy_of_none (h : char '(' site = none) :
    bracketedBy reader site guard = ⟨none, guard, []⟩ := by
  rw [bracketedBy, h]

theorem journal_bracketedBy (h : char '(' site = some (span, next)) :
    (bracketedBy reader site guard).journal = (reader next guard).journal := by
  rw [bracketedBy, h]
  dsimp only
  split
  · rfl
  · split
    · rfl
    · rfl

/-- An operand has the journal of the term nested in it. -/
theorem journal_argumentBy_of_binder (h : binder site = some (span, next)) :
    (argumentBy reader site guard).journal = (reader next guard).journal := by
  obtain ⟨found, last, hname, -⟩ := exists_of_binder h
  rw [argumentBy, journal_orElse, journal_lambdaBy h, journal_orElse,
    bracketedBy_of_none (char_eq_none_of_name hname), journal_readVar]
  split
  · exact List.append_nil _
  · exact List.append_nil _

theorem journal_argumentBy_of_char (h : char '(' site = some (span, next)) :
    (argumentBy reader site guard).journal = (reader next guard).journal := by
  have hnone := binder_eq_none_of_name (name_eq_none_of_char h)
  rw [argumentBy, journal_orElse, lambdaBy_of_none hnone, journal_orElse,
    journal_bracketedBy h, journal_readVar]
  dsimp only
  split
  · exact List.append_nil _
  · exact List.append_nil _

theorem journal_argumentBy_of_none (hbinder : binder site = none)
    (hchar : char '(' site = none) : (argumentBy reader site guard).journal = [] := by
  rw [argumentBy, journal_orElse, lambdaBy_of_none hbinder, journal_orElse,
    bracketedBy_of_none hchar, journal_readVar]
  rfl

/-- At an arrow nothing is read, nothing is noted and no mark is set. -/
theorem argumentBy_of_arrow (h : arrow <+: site.rest) :
    argumentBy reader site guard = ⟨none, guard, []⟩ := by
  obtain ⟨hname, hchar⟩ := eq_none_of_arrow h
  rw [argumentBy, orElse, lambdaBy_of_none (binder_eq_none_of_name hname)]
  dsimp only
  rw [orElse, bracketedBy_of_none hchar]
  dsimp only
  rw [readVar, hname]
  rfl

/-- A lambda that was read leaves the guard cleared behind it. -/
theorem guard_lambdaBy {result : Term × Site}
    (h : (lambdaBy reader site guard).result = some result) :
    (lambdaBy reader site guard).guard.contains applyMark = false := by
  rw [lambdaBy] at h ⊢
  split at h
  · contradiction
  · dsimp only at h ⊢
    split at h
    · contradiction
    · exact Guard.contains_clear ..

theorem guard_bracketedBy {result : Term × Site}
    (h : (bracketedBy reader site guard).result = some result) :
    (bracketedBy reader site guard).guard.contains applyMark = false := by
  rw [bracketedBy] at h ⊢
  split at h
  · contradiction
  · dsimp only at h ⊢
    split at h
    · contradiction
    · split at h
      · contradiction
      · exact Guard.contains_clear ..

/-- After an operand the guard has no mark, or it is unchanged, or else the
operand is the name in front of an arrow whose lambda could not be read. -/
theorem guard_argumentBy {found : Term} {last : Site}
    (h : (argumentBy reader site guard).result = some (found, last)) :
    (argumentBy reader site guard).guard.contains applyMark = false ∨
      (argumentBy reader site guard).guard = guard ∨ ArrowAhead last := by
  rw [argumentBy, orElse] at h ⊢
  dsimp only at h ⊢
  cases hlambda : (lambdaBy reader site guard).result with
  | some result =>
      rw [hlambda] at h
      exact .inl (guard_lambdaBy hlambda)
  | none =>
      rw [hlambda] at h
      dsimp only at h ⊢
      rw [orElse] at h ⊢
      dsimp only at h ⊢
      cases hbracketed : (bracketedBy reader site
          (lambdaBy reader site guard).guard).result with
      | some result =>
          rw [hbracketed] at h
          exact .inl (guard_bracketedBy hbracketed)
      | none =>
          rw [hbracketed] at h
          dsimp only at h ⊢
          rw [readVar] at h ⊢
          cases hname : name site with
          | none =>
              rw [hname] at h
              contradiction
          | some result =>
              rw [hname] at h
              obtain ⟨-, rfl⟩ := Prod.mk.inj (Option.some.inj h)
              rw [bracketedBy_of_none (char_eq_none_of_name hname)]
              cases hbinder : binder site with
              | none =>
                  rw [lambdaBy_of_none hbinder]
                  exact .inr (.inl rfl)
              | some result =>
                  obtain ⟨span, next, hspan, harrow⟩ := exists_of_binder hbinder
                  rw [hspan] at hname
                  rw [← Option.some.inj hname]
                  exact .inr (.inr harrow)

end Journal

/-- The guard has no mark ahead of the site. -/
def Behind (guard : Guard) (site : Site) : Prop :=
  guard.contains applyMark = true → guard.offset ≤ site.offset

/-- A mark behind the site cannot be met again. -/
theorem Behind.harmless {guard : Guard} {site : Site} (h : Behind guard site) (root : Site) :
    Harmless root site.offset guard := by
  intro hmark other hlead hoffset hlimit
  have hle := h hmark
  omega

/-- Reading on leaves a mark further behind. -/
theorem Behind.mono {guard : Guard} {site next : Site} (h : Behind guard site)
    (hnext : site.Leads next) : Behind guard next :=
  fun hmark => Nat.le_trans (h hmark) hnext.offset_le

/-- The reader follows the grammar, and its journal has the starts of the text. -/
structure Reader.Records (reader : Reader) (root site : Site) : Prop where
  follows : reader.Follows root site
  starts : ∀ guard : Guard, (guard.contains applyMark = true → guard.offset < site.offset) →
    startedAt (reader site guard).journal = termStarts site

section Records

variable {reader : Reader} {root site : Site} {guard : Guard}

theorem startedAt_argumentBy
    (hreader : ∀ next, site.LeadsOn next → reader.Records root next)
    (hguard : Behind guard site) :
    startedAt (argumentBy reader site guard).journal = nestedStarts site := by
  have hnested : ∀ next, site.LeadsOn next →
      startedAt (reader next guard).journal = termStarts next :=
    fun next hnext => (hreader next hnext).starts guard
      fun hmark => Nat.lt_of_le_of_lt (hguard hmark) hnext.offset_lt
  cases hbinder : binder site with
  | some result =>
      rw [journal_argumentBy_of_binder hbinder, nestedStarts_of_binder hbinder]
      exact hnested _ (consumes_binder hbinder)
  | none =>
      cases hchar : char '(' site with
      | some result =>
          rw [journal_argumentBy_of_char hchar, nestedStarts_of_char hchar]
          exact hnested _ (consumes_char '(' hchar)
      | none =>
          rw [journal_argumentBy_of_none hbinder hchar, nestedStarts_of_none hbinder hchar]
          rfl

theorem result_argumentBy
    (hreader : ∀ next, site.LeadsOn next → reader.Records root next)
    (hguard : Behind guard site) :
    (argumentBy reader site guard).result = argument site :=
  (argumentBy_follows (fun next hnext => (hreader next hnext).follows) (Nat.le_refl _)
    (hguard.harmless root)).1

/-- After an operand either no mark lies ahead or nothing more can be read. -/
theorem behind_or_arrowAhead
    (hreader : ∀ next, site.LeadsOn next → reader.Records root next)
    (hguard : Behind guard site) {found : Term} {last : Site}
    (hfound : argument site = some (found, last)) :
    Behind (argumentBy reader site guard).guard last ∨ ArrowAhead last := by
  rcases guard_argumentBy ((result_argumentBy hreader hguard).trans hfound) with
    hclear | hsame | harrow
  · refine .inl fun hmark => ?_
    rw [hclear] at hmark
    contradiction
  · rw [hsame]
    exact .inl (hguard.mono (consumes_argument hfound).leads)
  · exact .inr harrow

/-- White space in front of an arrow leads to the arrow. -/
theorem arrow_of_space (harrow : ArrowAhead site) {span : Span} {next : Site}
    (hspace : space site = some (span, next)) : arrow <+: next.rest := by
  obtain ⟨-, -, hnext⟩ := advance_eq_some_iff.1 hspace
  rw [← hnext]
  exact harrow

theorem startedAt_argumentsBy
    (hreader : ∀ next, site.LeadsOn next → reader.Records root next)
    (hguard : Behind guard site ∨ ArrowAhead site) (fuel : Nat) (function : Term)
    (hfuel : site.rest.length ≤ fuel) :
    startedAt (argumentsBy reader fuel function site guard).journal = laterStarts site := by
  induction fuel generalizing site guard function with
  | zero =>
      cases hspace : space site with
      | none => rw [laterStarts_of_none hspace]; rfl
      | some result =>
          have hlt := (consumes_space hspace).length_lt
          omega
  | succ fuel ih =>
      rw [argumentsBy_succ]
      cases hspace : space site with
      | none => rw [laterStarts_of_none hspace]; rfl
      | some result =>
          obtain ⟨span, next⟩ := result
          have hnext := consumes_space hspace
          have hlater : ∀ last, next.LeadsOn last → reader.Records root last :=
            fun last hlast => hreader last (hnext.leads.trans_leadsOn hlast)
          rw [laterStarts_of_some hspace]
          dsimp only
          rcases hguard with hbehind | harrow
          · have hahead := hbehind.mono hnext.leads
            rw [result_argumentBy hlater hahead]
            cases hfound : argument next with
            | none =>
                rw [operandStarts_of_none hfound]
                exact startedAt_argumentBy hlater hahead
            | some result =>
                obtain ⟨found, last⟩ := result
                have hlast := hnext.leads.trans_leadsOn (consumes_argument hfound)
                have hlt := hlast.length_lt
                dsimp only
                rw [startedAt_append, startedAt_argumentBy hlater hahead,
                  operandStarts_of_some hfound]
                congr 1
                exact ih (fun other hother => hreader other (hlast.leads.trans_leadsOn hother))
                  (behind_or_arrowAhead hlater hahead hfound) _ (by omega)
          · have hstop := arrow_of_space harrow hspace
            obtain ⟨hname, hchar⟩ := eq_none_of_arrow hstop
            rw [argumentBy_of_arrow hstop, operandStarts_of_none (argument_of_arrow hstop),
              nestedStarts_of_none (binder_eq_none_of_name hname) hchar]
            rfl

theorem startedAt_applyBy (hblank : pastBlank site = site)
    (hreader : ∀ next, site.LeadsOn next → reader.Records root next)
    (hagain : ∀ next, site.LeadsOn next → (termBy reader).Records root next) :
    startedAt (applyBy (termBy reader) site (guard.enter applyMark site.offset).2).journal =
      operandStarts site := by
  have hoperand := termBy_enter reader guard hblank
  have hbehind : Behind (guard.enter applyMark site.offset).2 site :=
    fun _ => Nat.le_of_eq (Guard.offset_enter ..)
  have hresult : (termBy reader site (guard.enter applyMark site.offset).2).result =
      argument site := by
    rw [hoperand]
    exact result_argumentBy hreader hbehind
  have hjournal : startedAt (termBy reader site
      (guard.enter applyMark site.offset).2).journal = nestedStarts site := by
    rw [hoperand, startedAt_cons_again]
    exact startedAt_argumentBy hreader hbehind
  cases hfound : argument site with
  | none => rw [applyBy_of_none (hresult.trans hfound), hjournal, operandStarts_of_none hfound]
  | some result =>
      obtain ⟨function, next⟩ := result
      have hnext := consumes_argument hfound
      have hlater : ∀ last, next.LeadsOn last → (termBy reader).Records root last :=
        fun last hlast => hagain last (hnext.leads.trans_leadsOn hlast)
      have hguard : Behind (termBy reader site
          (guard.enter applyMark site.offset).2).guard next ∨ ArrowAhead next := by
        rw [hoperand]
        exact behind_or_arrowAhead hreader hbehind hfound
      obtain ⟨read, last, hwhole⟩ := exists_argumentsBy (termBy reader) next.rest.length
        function next (termBy reader site (guard.enter applyMark site.offset).2).guard
      rw [applyBy_of_some (hresult.trans hfound) hwhole]
      dsimp only
      rw [startedAt_append, hjournal, operandStarts_of_some hfound]
      congr 1
      exact startedAt_argumentsBy hlater hguard _ _ (Nat.le_refl _)

end Records

/-- The first start of a term is its own. -/
theorem termStarts_eq (site : Site) :
    termStarts site = (pastBlank site).offset :: operandStarts (pastBlank site) := by
  rw [termStarts]

theorem termWithin_records {root site : Site} {fuel : Nat} (hroot : root.Leads site)
    (hfuel : 2 * site.rest.length + 2 ≤ fuel) : (termWithin fuel).Records root site := by
  induction hsize : site.rest.length using Nat.strongRecOn generalizing site fuel with
  | ind size ih =>
      obtain ⟨fuel, rfl⟩ : ∃ less, fuel = less + 2 := ⟨fuel - 2, by omega⟩
      have hstart := leads_pastBlank site
      have hnested : ∀ more, fuel ≤ more → ∀ next, (pastBlank site).LeadsOn next →
          (termWithin more).Records root next := by
        intro more hmore next hnext
        have hlt := hnext.length_lt
        have hle := hstart.length_le
        exact ih next.rest.length (by omega)
          ((hroot.trans hstart).trans hnext.leads) (by omega) rfl
      refine ⟨termWithin_follows hroot hfuel, ?_⟩
      intro guard hguard
      have hfirst : (guard.enter applyMark (pastBlank site).offset).1 = false := by
        rw [Guard.enter_fst, Bool.and_eq_false_imp]
        intro hmark
        have hlt := hguard hmark
        have hle := hstart.offset_le
        exact beq_false_of_ne (by omega)
      change startedAt (termBy (termWithin (fuel + 1)) site guard).journal = _
      rw [termBy_eq, termStarts_eq]
      dsimp only
      rw [hfirst, startedAt_cons_first]
      congr 1
      exact startedAt_applyBy (pastBlank_pastBlank site) (hnested _ (Nat.le_refl _))
        (hnested _ (Nat.le_succ _))

/-- A parse starts applications exactly where the text says. -/
theorem applicationStarts_eq (text : Text) :
    applicationStarts text = termStarts (.start text) := by
  have hjournal : (readNoted text).1 = (read (.start text) .fresh).journal := by
    rw [readNoted]
    dsimp only
    split
    · rfl
    · split
      · rfl
      · rfl
  rw [applicationStarts, hjournal]
  refine (termWithin_records (.refl _) (Nat.le_refl _)).starts .fresh ?_
  intro hmark
  rw [Guard.fresh, Guard.contains_clear] at hmark
  contradiction

end TextScan.Term
