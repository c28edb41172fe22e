import TextScan.Proofs.Lambda.Unguarded

/-!
# The guard does not change what is read

Reading under a guard gives what reading without one gives.  A failed
alternative may leave a mark behind, and a mark found on entry cuts a term
down to one argument, so the invariant speaks about marks ahead of the place
that is read: such a mark stands only where no argument starts, and there the
full reading fails as the short one does.
-/

namespace TextScan

namespace Site

/-- Two sites ahead of a third are equal if their offsets are. -/
theorem Leads.eq_of_offset_eq {site left right : Site} (hleft : site.Leads left)
    (hright : site.Leads right) (hoffset : left.offset = right.offset) : left = right := by
  obtain ⟨first, hfirst, rfl⟩ := hleft
  obtain ⟨second, hsecond, rfl⟩ := hright
  have hsize : first.byteSize = second.byteSize := by
    simp only [past] at hoffset
    omega
  have hone : site.rest.uptoByte? first.byteSize = some first :=
    Text.uptoByte?_eq_some_iff.2 ⟨hfirst, rfl⟩
  have htwo : site.rest.uptoByte? first.byteSize = some second :=
    Text.uptoByte?_eq_some_iff.2 ⟨hsecond, hsize.symm⟩
  rw [Option.some.inj (hone.symm.trans htwo)]

end Site

namespace Term

open Unguarded Scanner

def pastBlank (site : Site) : Site :=
  site.past (Probe.run (.char isWhiteSpace) site.rest)

theorem leads_pastBlank (site : Site) : site.Leads (pastBlank site) :=
  Site.leads_past (Probe.run_isPrefix ..)

theorem blank_eq (site : Site) :
    blank site = some (site.span (Probe.run (.char isWhiteSpace) site.rest), pastBlank site) :=
  rfl

theorem pastBlank_pastBlank (site : Site) : pastBlank (pastBlank site) = pastBlank site := by
  have hrest : Probe.run (.char isWhiteSpace) (pastBlank site).rest = [] := by
    simp only [pastBlank, Site.past, Probe.run_char]
    induction site.rest with
    | nil => rfl
    | cons c rest ih =>
        by_cases hc : isWhiteSpace c
        · simpa [hc] using ih
        · simp [hc]
  rw [pastBlank, hrest, Site.past_nil]

theorem termBy_pastBlank (reader : Scanner Term) (site : Site) :
    Unguarded.termBy reader site = applicationBy reader (pastBlank site) :=
  bind_of_some _ (blank_eq site)

/-- A mark beyond the limit stands only where no argument starts. -/
def Harmless (root : Site) (limit : Nat) (guard : Guard) : Prop :=
  guard.contains applyMark = true → ∀ site : Site, root.Leads site →
    site.offset = guard.offset → limit < site.offset → argument site = none

theorem harmless_clear (root : Site) (limit offset : Nat) :
    Harmless root limit (.clear offset) := by
  intro hmark
  rw [Guard.contains_clear] at hmark
  contradiction

/-- Entering a term marks its own offset and nothing beyond. -/
theorem harmless_enter (root : Site) (guard : Guard) (offset : Nat) :
    Harmless root offset (guard.enter applyMark offset).2 := by
  intro hmark site hlead hoffset hlimit
  rw [Guard.offset_enter] at hoffset
  omega

/-- Where no argument starts, the mark of the entry is harmless altogether. -/
theorem harmless_enter_of_none {root site : Site} (limit : Nat) (guard : Guard)
    (hroot : root.Leads site) (hnone : argument site = none) :
    Harmless root limit (guard.enter applyMark site.offset).2 := by
  intro hmark other hlead hoffset hlimit
  rw [Guard.offset_enter] at hoffset
  rw [hlead.eq_of_offset_eq hroot hoffset]
  exact hnone

/-- The reader reads a term in full at the site and leaves no harmful mark. -/
def Reader.Follows (reader : Reader) (root site : Site) : Prop :=
  ∀ (limit : Nat) (guard : Guard), limit < site.offset → Harmless root limit guard →
    (reader site guard).result = term site ∧
      Harmless root limit (reader site guard).guard

section Parts

variable {reader : Reader} {root site : Site} {limit : Nat} {guard : Guard}

theorem lambdaBy_follows (hreader : ∀ next, site.LeadsOn next → reader.Follows root next)
    (hlimit : limit ≤ site.offset) (hguard : Harmless root limit guard) :
    (lambdaBy reader site guard).result = Unguarded.lambdaBy term site ∧
      Harmless root limit (lambdaBy reader site guard).guard := by
  rw [lambdaBy]
  split
  · rename_i hbinder
    exact ⟨(bind_of_none _ hbinder).symm, hguard⟩
  · rename_i param next hbinder
    have hnext := consumes_binder hbinder
    obtain ⟨hbody, hafter⟩ := hreader next hnext limit guard
      (Nat.lt_of_le_of_lt hlimit hnext.offset_lt) hguard
    rw [Unguarded.lambdaBy, bind_of_some _ hbinder]
    dsimp only
    rw [hbody]
    cases hterm : term next with
    | none => exact ⟨(bind_of_none _ hterm).symm, hafter⟩
    | some result =>
        obtain ⟨found, last⟩ := result
        rw [bind_of_some _ hterm]
        exact ⟨rfl, harmless_clear root limit _⟩

theorem bracketedBy_follows
    (hreader : ∀ next, site.LeadsOn next → reader.Follows root next)
    (hlimit : limit ≤ site.offset) (hguard : Harmless root limit guard) :
    (bracketedBy reader site guard).result = Unguarded.bracketedBy term site ∧
      Harmless root limit (bracketedBy reader site guard).guard := by
  rw [bracketedBy]
  split
  · rename_i hbracket
    exact ⟨(bind_of_none _ hbracket).symm, hguard⟩
  · rename_i bracket next hbracket
    have hnext := consumes_char '(' hbracket
    obtain ⟨hinner, hafter⟩ := hreader next hnext limit guard
      (Nat.lt_of_le_of_lt hlimit hnext.offset_lt) hguard
    rw [Unguarded.bracketedBy, bind_of_some _ hbracket]
    dsimp only
    rw [hinner]
    cases hterm : term next with
    | none => exact ⟨(bind_of_none _ hterm).symm, hafter⟩
    | some result =>
        obtain ⟨found, last⟩ := result
        rw [bind_of_some _ hterm]
        dsimp only
        cases hend : bracketEnd last with
        | none => exact ⟨(bind_of_none _ hend).symm, hafter⟩
        | some result =>
            obtain ⟨bracket, past⟩ := result
            rw [bind_of_some _ hend]
            exact ⟨rfl, harmless_clear root limit _⟩

theorem readVar_follows (site : Site) (guard : Guard) :
    (readVar site guard).result = variableName site ∧ (readVar site guard).guard = guard := by
  rw [readVar]
  cases hname : name site with
  | none => exact ⟨(bind_of_none _ hname).symm, rfl⟩
  | some result =>
      obtain ⟨found, next⟩ := result
      rw [variableName, bind_of_some _ hname]
      exact ⟨rfl, rfl⟩

/-- What was tried first leaves its guard to what is tried next. -/
theorem orElse_follows {first second : Reader} {one two : Scanner Term}
    (hfirst : (first site guard).result = one site ∧
      Harmless root limit (first site guard).guard)
    (hsecond : ∀ left, Harmless root limit left →
      (second site left).result = two site ∧ Harmless root limit (second site left).guard) :
    (orElse first second site guard).result = either one two site ∧
      Harmless root limit (orElse first second site guard).guard := by
  obtain ⟨hone, hafter⟩ := hfirst
  rw [orElse, either]
  dsimp only
  rw [← hone]
  cases htried : (first site guard).result with
  | none => exact hsecond _ hafter
  | some result => exact ⟨htried, hafter⟩

theorem argumentBy_follows
    (hreader : ∀ next, site.LeadsOn next → reader.Follows root next)
    (hlimit : limit ≤ site.offset) (hguard : Harmless root limit guard) :
    (argumentBy reader site guard).result = argument site ∧
      Harmless root limit (argumentBy reader site guard).guard := by
  apply orElse_follows (lambdaBy_follows hreader hlimit hguard)
  intro left hleft
  apply orElse_follows (bracketedBy_follows hreader hlimit hleft)
  intro last hlast
  obtain ⟨hresult, hsame⟩ := readVar_follows site last
  rw [hsame]
  exact ⟨hresult, hlast⟩

theorem argumentsBy_succ (reader : Reader) (fuel : Nat) (function : Term) (site : Site)
    (guard : Guard) :
    argumentsBy reader (fuel + 1) function site guard =
      match space site with
      | none => ⟨some (function, site), guard, []⟩
      | some (_, next) =>
          let argument := argumentBy reader next guard
          match argument.result with
          | none => ⟨some (function, site), argument.guard, argument.journal⟩
          | some (found, last) =>
              let others := argumentsBy reader fuel (.apply function found) last argument.guard
              { others with journal := argument.journal ++ others.journal } :=
  rfl

/-- With no argument left the function itself is returned, so this cannot fail. -/
theorem exists_argumentsBy (reader : Reader) (fuel : Nat) (function : Term) (site : Site)
    (guard : Guard) :
    ∃ read last, (argumentsBy reader fuel function site guard).result = some (read, last) := by
  induction fuel generalizing function site guard with
  | zero => exact ⟨function, site, rfl⟩
  | succ fuel ih =>
      rw [argumentsBy_succ]
      split
      · exact ⟨function, site, rfl⟩
      · dsimp only
        split
        · exact ⟨function, site, rfl⟩
        · exact ih _ _ _

theorem argumentsBy_follows
    (hreader : ∀ next, site.LeadsOn next → reader.Follows root next)
    (hlimit : limit ≤ site.offset) (hguard : Harmless root limit guard)
    (fuel : Nat) (function : Term) :
    (argumentsBy reader fuel function site guard).result =
        argumentsWithin argument fuel function site ∧
      Harmless root limit (argumentsBy reader fuel function site guard).guard := by
  induction fuel generalizing site guard function with
  | zero => exact ⟨rfl, hguard⟩
  | succ fuel ih =>
      rw [argumentsBy_succ, argumentsWithin_succ]
      cases hspace : space site with
      | none =>
          have hnone : nextArgument argument site = none := bind_of_none _ hspace
          rw [hnone]
          exact ⟨rfl, hguard⟩
      | some result =>
          obtain ⟨blank, next⟩ := result
          have hnext := consumes_space hspace
          obtain ⟨hargument, hafter⟩ := argumentBy_follows
            (fun last hlast => hreader last (hnext.leads.trans_leadsOn hlast))
            (Nat.le_trans hlimit (Nat.le_of_lt hnext.offset_lt)) hguard
          have hsame : nextArgument argument site = argument next := bind_of_some _ hspace
          rw [hsame]
          dsimp only
          rw [hargument]
          cases hfound : argument next with
          | none => exact ⟨rfl, hafter⟩
          | some result =>
              obtain ⟨found, last⟩ := result
              have hlast := hnext.leads.trans_leadsOn (consumes_argument hfound)
              exact ih (fun other hother => hreader other (hlast.leads.trans_leadsOn hother))
                (Nat.le_trans hlimit (Nat.le_of_lt hlast.offset_lt)) hafter _

end Parts

/-- The first operand of an application is the same term entered again, and
that is read as an argument. -/
theorem termBy_enter (reader : Reader) {site : Site} (guard : Guard)
    (hblank : pastBlank site = site) :
    termBy reader site (guard.enter applyMark site.offset).2 =
      { argumentBy reader site (guard.enter applyMark site.offset).2 with
        journal := ⟨site.offset, true⟩ ::
          (argumentBy reader site (guard.enter applyMark site.offset).2).journal } := by
  have hstart : site.past (Probe.run (.char isWhiteSpace) site.rest) = site := hblank
  rw [termBy]
  dsimp only
  rw [hstart, Guard.enter_enter, if_pos rfl]

theorem applyBy_of_none {reader : Reader} {site : Site} {guard : Guard}
    (hfunction : (reader site guard).result = none) :
    applyBy reader site guard = reader site guard := by
  rw [applyBy]
  dsimp only
  rw [hfunction]

theorem applyBy_of_some {reader : Reader} {site next last : Site} {guard : Guard}
    {function read : Term} (hfunction : (reader site guard).result = some (function, next))
    (hwhole : (argumentsBy reader next.rest.length function next
      (reader site guard).guard).result = some (read, last)) :
    applyBy reader site guard =
      ⟨some (read, last), .clear last.offset, (reader site guard).journal ++
        (argumentsBy reader next.rest.length function next
          (reader site guard).guard).journal⟩ := by
  rw [applyBy]
  dsimp only
  rw [hfunction]
  dsimp only
  rw [hwhole]

theorem applyBy_follows {reader : Reader} {root site : Site} {limit : Nat} (guard : Guard)
    (hroot : root.Leads site) (hblank : pastBlank site = site) (hlimit : limit ≤ site.offset)
    (hreader : ∀ next, site.LeadsOn next → reader.Follows root next)
    (hagain : ∀ next, site.LeadsOn next → (termBy reader).Follows root next) :
    (applyBy (termBy reader) site (guard.enter applyMark site.offset).2).result =
        application site ∧
      Harmless root limit
        (applyBy (termBy reader) site (guard.enter applyMark site.offset).2).guard := by
  have hoperand := termBy_enter reader guard hblank
  obtain ⟨hargument, hafter⟩ := argumentBy_follows hreader (Nat.le_refl _)
    (harmless_enter root guard site.offset)
  cases hfound : argument site with
  | none =>
      have hleft := argumentBy_follows hreader hlimit
        (harmless_enter_of_none limit guard hroot hfound)
      have hnone : (termBy reader site (guard.enter applyMark site.offset).2).result =
          none := by
        rw [hoperand]
        exact hargument.trans hfound
      rw [applyBy_of_none hnone, application_of_none hfound]
      refine ⟨hnone, ?_⟩
      rw [hoperand]
      exact hleft.2
  | some result =>
      obtain ⟨function, next⟩ := result
      have hnext := consumes_argument hfound
      have hsome : (termBy reader site (guard.enter applyMark site.offset).2).result =
          some (function, next) := by
        rw [hoperand]
        exact hargument.trans hfound
      have hguard : Harmless root site.offset
          (termBy reader site (guard.enter applyMark site.offset).2).guard := by
        rw [hoperand]
        exact hafter
      obtain ⟨hwhole, -⟩ := argumentsBy_follows
        (fun last hlast => hagain last (hnext.leads.trans_leadsOn hlast))
        (Nat.le_of_lt hnext.offset_lt) hguard next.rest.length function
      obtain ⟨read, last, hread⟩ := exists_argumentsBy (termBy reader) next.rest.length
        function next (termBy reader site (guard.enter applyMark site.offset).2).guard
      rw [applyBy_of_some hsome hread, application_of_some hfound]
      exact ⟨hread.symm.trans hwhole, harmless_clear root limit _⟩

/-- What is read on entering a term, by whether it was marked there. -/
theorem termBy_eq (reader : Reader) (site : Site) (guard : Guard) :
    termBy reader site guard =
      let entered := guard.enter applyMark (pastBlank site).offset
      let outcome := (if entered.1 then argumentBy reader else applyBy reader)
        (pastBlank site) entered.2
      { outcome with journal := ⟨(pastBlank site).offset, entered.1⟩ :: outcome.journal } :=
  rfl

/-- With fuel for two entries a character every term is read in full. -/
theorem termWithin_follows {root site : Site} {fuel : Nat} (hroot : root.Leads site)
    (hfuel : 2 * site.rest.length + 2 ≤ fuel) : (termWithin fuel).Follows root site := by
  induction hsize : site.rest.length using Nat.strongRecOn generalizing site fuel with
  | ind size ih =>
      obtain ⟨fuel, rfl⟩ : ∃ less, fuel = less + 2 := ⟨fuel - 2, by omega⟩
      have hstart := leads_pastBlank site
      have hnested : ∀ more, fuel ≤ more → ∀ next, (pastBlank site).LeadsOn next →
          (termWithin more).Follows root next := by
        intro more hmore next hnext
        have hlt := hnext.length_lt
        have hle := hstart.length_le
        exact ih next.rest.length (by omega)
          ((hroot.trans hstart).trans hnext.leads) (by omega) rfl
      intro limit guard hlimit hguard
      have hbound : limit < (pastBlank site).offset :=
        Nat.lt_of_lt_of_le hlimit hstart.offset_le
      rw [term_eq, termBy_pastBlank]
      change (termBy (termWithin (fuel + 1)) site guard).result = application (pastBlank site) ∧
        Harmless root limit (termBy (termWithin (fuel + 1)) site guard).guard
      rw [termBy_eq]
      dsimp only
      split
      · rename_i hentered
        -- A mark found here stands ahead of the limit, so nothing starts here.
        rw [Guard.enter_fst, Bool.and_eq_true, beq_iff_eq] at hentered
        have hnone : argument (pastBlank site) = none :=
          hguard hentered.1 _ (hroot.trans hstart) hentered.2.symm hbound
        rw [application_of_none hnone, ← hnone]
        exact argumentBy_follows (hnested _ (Nat.le_succ _)) (Nat.le_of_lt hbound)
          (harmless_enter_of_none limit guard (hroot.trans hstart) hnone)
      · exact applyBy_follows guard (hroot.trans hstart) (pastBlank_pastBlank site)
          (Nat.le_of_lt hbound) (hnested _ (Nat.le_refl _)) (hnested _ (Nat.le_succ _))

namespace Unguarded

/-- Reads a term as a guard demands: one argument where the guard has an
application marked, and in full everywhere else. -/
def entered (guard : Guard) : Scanner Term := fun site =>
  if guard.contains applyMark && guard.offset == (pastBlank site).offset then
    argument (pastBlank site)
  else application (pastBlank site)

theorem advances_entered (guard : Guard) : Advances (entered guard) := by
  intro site next value hread
  rw [entered] at hread
  split at hread
  · exact (leads_pastBlank site).trans (consumes_argument hread).leads
  · exact (leads_pastBlank site).trans
      (consumes_applicationBy consumes_term.advances hread).leads

end Unguarded

/-- Whatever marks a guard brings along, they decide only about the first entry. -/
theorem result_read (site : Site) (guard : Guard) :
    (read site guard).result = entered guard site := by
  have hstart := leads_pastBlank site
  have hnested : ∀ fuel, 2 * site.rest.length ≤ fuel → ∀ next,
      (pastBlank site).LeadsOn next → (termWithin fuel).Follows site next := by
    intro fuel hfuel next hnext
    have hlt := hnext.length_lt
    have hle := hstart.length_le
    exact termWithin_follows (hstart.trans hnext.leads) (by omega)
  change (termBy (termWithin (2 * site.rest.length + 1)) site guard).result = _
  rw [termBy_eq, entered, ← Guard.enter_fst]
  dsimp only
  split
  · exact (argumentBy_follows (hnested _ (Nat.le_succ _)) (Nat.le_refl _)
      (harmless_enter site guard _)).1
  · exact (applyBy_follows guard hstart (pastBlank_pastBlank site) (Nat.le_refl _)
      (hnested _ (Nat.le_refl _)) (hnested _ (Nat.le_succ _))).1

theorem readAt_eq_value (text : Text) (cursor : Cursor) (guard : Guard) :
    ((readAt text cursor guard).1, (readAt text cursor guard).2.1) =
      (entered guard).value text cursor := by
  rw [readAt, Scanner.value, result_read]
  cases entered guard (.ofCursor text cursor) with
  | none => rfl
  | some result =>
      dsimp only
      cases cursor.moveTo? result.2.cursor with
      | none => rfl
      | some moved => rfl

/-- A fresh guard marks nothing, so reading starts in full. -/
theorem entered_fresh (site : Site) : entered .fresh site = term site := by
  rw [term_eq, termBy_pastBlank, entered, Guard.fresh, Guard.contains_clear]
  rfl

theorem parse_eq_parse (text : Text) : Term.parse text = Unguarded.parse text := by
  rw [Term.parse, readNoted, Unguarded.parse, result_read, entered_fresh]
  cases term (.start text) with
  | none => rfl
  | some result =>
      dsimp only
      split
      · rfl
      · rfl

/-- Reading under any guard is reading without one.  The reader without a
guard satisfies the recursive equations of the grammar, in which every nested
term is read in full; a guard that comes with marks decides about the first
entry alone; and texts are parsed alike, errors included. -/
theorem reading_independent_of_guard :
    (∀ site, term site = Unguarded.termBy term site) ∧
    (∀ function site, arguments argument function site =
      match nextArgument argument site with
      | none => some (function, site)
      | some (found, last) => arguments argument (.apply function found) last) ∧
    (∀ text cursor guard,
      ((readAt text cursor guard).1, (readAt text cursor guard).2.1) =
        (entered guard).value text cursor) ∧
    ∀ text, Term.parse text = Unguarded.parse text :=
  ⟨term_eq, arguments_eq consumes_argument.advances, readAt_eq_value, parse_eq_parse⟩

end Term

end TextScan
