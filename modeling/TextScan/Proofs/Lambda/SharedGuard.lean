import TextScan.Proofs.Contract
import TextScan.Proofs.GuardHistory
import TextScan.Proofs.Recount

/-!
# A guard that is used again

A reading that fails leaves its marks in the guard, and a later reading that
comes to a marked place reads a single argument there.  This does no harm,
because a mark is only ever left where no argument starts: wherever one does,
the application goes through in the end and clears the guard.  So one guard
serves any number of readings in a text, in whatever order they come to its
places.
-/

namespace TextScan.Term

open Unguarded Scanner

/-! ### The index -/

theorem ignoresIndex_name : IgnoresIndex name :=
  ignoresIndex_run _

theorem ignoresIndex_binder : IgnoresIndex binder :=
  ignoresIndex_name.bind fun _ => (ignoresIndex_stretch _).bind fun _ =>
    (ignoresIndex_word _ _).bind fun _ => ignoresIndex_pure _

theorem ignoresIndex_bracketEnd : IgnoresIndex bracketEnd :=
  (ignoresIndex_stretch _).bind fun _ => ignoresIndex_one _

theorem ignoresIndex_argumentBy {reader : Scanner Term} (hreader : reader.IgnoresIndex) :
    IgnoresIndex (Unguarded.argumentBy reader) := by
  have hlambda : IgnoresIndex (Unguarded.lambdaBy reader) :=
    ignoresIndex_binder.bind fun _ => hreader.bind fun _ => ignoresIndex_pure _
  have hbracketed : IgnoresIndex (Unguarded.bracketedBy reader) :=
    (ignoresIndex_one _).bind fun _ => hreader.bind fun _ =>
      ignoresIndex_bracketEnd.bind fun _ => ignoresIndex_pure _
  exact hlambda.either (hbracketed.either (ignoresIndex_name.bind fun _ => ignoresIndex_pure _))

/-- Each argument is read at a site that has the same text ahead, wherever the
count stands. -/
theorem ignoresIndex_argumentsWithin {reader : Scanner Term} (hreader : reader.IgnoresIndex)
    (fuel : Nat) (function : Term) : IgnoresIndex (argumentsWithin reader fuel function) := by
  have hnext : IgnoresIndex (nextArgument reader) :=
    (ignoresIndex_run _).bind fun _ => hreader
  induction fuel generalizing function with
  | zero => exact ignoresIndex_pure function
  | succ fuel ih =>
      intro site more
      rw [argumentsWithin_succ, argumentsWithin_succ]
      cases hread : nextArgument reader site with
      | none =>
          rw [hnext.of_none hread]
          rfl
      | some result =>
          rw [hnext.of_some hread]
          exact ih _ result.2 more

theorem ignoresIndex_termWithin (fuel : Nat) :
    IgnoresIndex (Unguarded.termWithin fuel) := by
  induction fuel with
  | zero => exact fun _ _ => rfl
  | succ fuel ih =>
      have hargument := ignoresIndex_argumentBy ih
      exact (ignoresIndex_stretch _).bind fun _ => hargument.bind fun function site more =>
        ignoresIndex_argumentsWithin hargument site.rest.length function site more

theorem ignoresIndex_argument : IgnoresIndex argument :=
  ignoresIndex_argumentBy fun site more =>
    ignoresIndex_termWithin (site.rest.length + 1) site more

/-! ### Where the guard stands -/

/-- The offset of the guard is that of a site that the root leads to. -/
def Reached (root : Site) (guard : Guard) : Prop :=
  ∃ site, root.Leads site ∧ site.offset = guard.offset

theorem reached_clear {root site : Site} (h : root.Leads site) :
    Reached root (.clear site.offset) :=
  ⟨site, h, rfl⟩

theorem reached_enter {root site : Site} (h : root.Leads site) (guard : Guard) :
    Reached root (guard.enter applyMark site.offset).2 :=
  ⟨site, h, (Guard.offset_enter ..).symm⟩

/-- The root leads to where the reading ends and to where it leaves the guard. -/
structure Outcome.Ahead (outcome : Outcome) (root : Site) : Prop where
  guard : Reached root outcome.guard
  result : ∀ found last, outcome.result = some (found, last) → root.Leads last

/-- All that the reader does is ahead of the root if it starts there. -/
def Reader.StaysAhead (reader : Reader) (root : Site) : Prop :=
  ∀ site guard, root.Leads site → Reached root guard → (reader site guard).Ahead root

section Ahead

variable {reader : Reader} {root : Site}

theorem Outcome.Ahead.failed {guard : Guard} (h : Reached root guard) (journal : List Entry) :
    Outcome.Ahead ⟨none, guard, journal⟩ root :=
  ⟨h, fun _ _ hresult => by contradiction⟩

theorem Outcome.Ahead.read {guard : Guard} {found : Term} {last : Site}
    (hguard : Reached root guard) (hlast : root.Leads last) (journal : List Entry) :
    Outcome.Ahead ⟨some (found, last), guard, journal⟩ root := by
  refine ⟨hguard, fun _ _ hresult => ?_⟩
  rw [← (Prod.mk.inj (Option.some.inj hresult)).2]
  exact hlast

/-- The journal does not matter. -/
theorem Outcome.Ahead.note {outcome : Outcome} (h : outcome.Ahead root)
    (journal : List Entry) : Outcome.Ahead { outcome with journal := journal } root :=
  ⟨h.guard, h.result⟩

theorem lambdaBy_staysAhead (hreader : reader.StaysAhead root) :
    (lambdaBy reader).StaysAhead root := by
  intro site guard hsite hguard
  rw [lambdaBy]
  split
  · exact .failed hguard _
  · rename_i param next hbinder
    have hbody := hreader next guard (hsite.trans (consumes_binder hbinder).leads) hguard
    dsimp only
    split
    · exact .failed hbody.guard _
    · rename_i found last hresult
      have hlast := hbody.result found last hresult
      exact .read (reached_clear hlast) hlast _

theorem bracketedBy_staysAhead (hreader : reader.StaysAhead root) :
    (bracketedBy reader).StaysAhead root := by
  intro site guard hsite hguard
  rw [bracketedBy]
  split
  · exact .failed hguard _
  · rename_i bracket next hbracket
    have hinner := hreader next guard (hsite.trans (consumes_char '(' hbracket).leads) hguard
    dsimp only
    split
    · exact .failed hinner.guard _
    · rename_i found last hresult
      split
      · exact .failed hinner.guard _
      · rename_i closing past hend
        have hpast := (hinner.result found last hresult).trans (consumes_bracketEnd hend).leads
        exact .read (reached_clear hpast) hpast _

theorem readVar_staysAhead (root : Site) : readVar.StaysAhead root := by
  intro site guard hsite hguard
  rw [readVar]
  split
  · exact .failed hguard _
  · rename_i found next hname
    exact .read hguard (hsite.trans (consumes_run _ hname).leads) _

/-- The guard that the first reader leaves is still ahead of the root when the
second one starts. -/
theorem orElse_staysAhead {first second : Reader} (hfirst : first.StaysAhead root)
    (hsecond : second.StaysAhead root) : (orElse first second).StaysAhead root := by
  intro site guard hsite hguard
  have htried := hfirst site guard hsite hguard
  rw [orElse]
  dsimp only
  split
  · exact htried
  · exact (hsecond site _ hsite htried.guard).note _

theorem argumentBy_staysAhead (hreader : reader.StaysAhead root) :
    (argumentBy reader).StaysAhead root :=
  orElse_staysAhead (lambdaBy_staysAhead hreader)
    (orElse_staysAhead (bracketedBy_staysAhead hreader) (readVar_staysAhead root))

/-- The induction is on the fuel; each argument hands on a guard that is ahead.
-/
theorem argumentsBy_staysAhead (hreader : reader.StaysAhead root) (fuel : Nat)
    (function : Term) : (argumentsBy reader fuel function).StaysAhead root := by
  induction fuel generalizing function with
  | zero => exact fun site guard hsite hguard => .read hguard hsite _
  | succ fuel ih =>
      intro site guard hsite hguard
      rw [argumentsBy_succ]
      split
      · exact .read hguard hsite _
      · rename_i space next hspace
        have hargument := argumentBy_staysAhead hreader next guard
          (hsite.trans (consumes_space hspace).leads) hguard
        dsimp only
        split
        · exact .read hargument.guard hsite _
        · rename_i found last hresult
          exact (ih _ last _ (hargument.result found last hresult) hargument.guard).note _

theorem applyBy_staysAhead (hreader : reader.StaysAhead root) :
    (applyBy reader).StaysAhead root := by
  intro site guard hsite hguard
  have hfunction := hreader site guard hsite hguard
  rw [applyBy]
  dsimp only
  split
  · exact hfunction
  · rename_i found next hresult
    have hwhole := argumentsBy_staysAhead hreader next.rest.length found next _
      (hfunction.result found next hresult) hfunction.guard
    split
    · exact hwhole.note _
    · rename_i read last hread
      have hlast := hwhole.result read last hread
      exact .read (reached_clear hlast) hlast _

theorem termBy_staysAhead (hreader : reader.StaysAhead root) :
    (termBy reader).StaysAhead root := by
  intro site guard hsite hguard
  have hstart := hsite.trans (leads_pastBlank site)
  rw [termBy_eq]
  dsimp only
  split
  · exact (argumentBy_staysAhead hreader _ _ hstart (reached_enter hstart guard)).note _
  · exact (applyBy_staysAhead hreader _ _ hstart (reached_enter hstart guard)).note _

/-- The induction is on the fuel, one entry for each level. -/
theorem termWithin_staysAhead (root : Site) (fuel : Nat) :
    (termWithin fuel).StaysAhead root := by
  induction fuel with
  | zero => exact fun site guard hsite hguard => .failed hguard _
  | succ fuel ih => exact termBy_staysAhead ih

end Ahead

/-! ### One reading -/

/-- If the guard has an application marked, then at a place of the text where no
argument starts. -/
def Idle (text : Text) (guard : Guard) : Prop :=
  guard.contains applyMark = true → ∀ cursor : Cursor, cursor.offset = guard.offset →
    argument (.ofCursor text cursor) = none

/-- Without a mark there is no place to worry about. -/
theorem idle_of_unmarked {text : Text} {guard : Guard}
    (h : guard.contains applyMark = false) : Idle text guard := by
  intro hmark
  rw [h] at hmark
  contradiction

theorem idle_clear (text : Text) (offset : Nat) : Idle text (.clear offset) :=
  idle_of_unmarked (Guard.contains_clear ..)

section Reading

variable {text : Text} {cursor : Cursor} {guard : Guard}

/-- A mark that stands where the term is entered says rightly that nothing starts there. -/
theorem Idle.argument_eq_none (h : Idle text guard)
    (hentered : (guard.enter applyMark (pastBlank (.ofCursor text cursor)).offset).1 = true) :
    argument (pastBlank (.ofCursor text cursor)) = none := by
  rw [Guard.enter_fst, Bool.and_eq_true, beq_iff_eq] at hentered
  have hnone := h hentered.1 (pastBlank (.ofCursor text cursor)).cursor hentered.2.symm
  rw [Site.ofCursor_cursor (leads_pastBlank _)] at hnone
  exact hnone

theorem Idle.entered_eq (h : Idle text guard) :
    entered guard (.ofCursor text cursor) = entered .fresh (.ofCursor text cursor) := by
  rw [entered_fresh, term_eq, termBy_pastBlank, entered, ← Guard.enter_fst]
  split
  · rename_i hentered
    have hnone := h.argument_eq_none hentered
    exact hnone.trans (application_of_none hnone).symm
  · rfl

/-- The readers of nested terms follow the grammar. -/
theorem termWithin_follows_nested (site : Site) {fuel : Nat}
    (hfuel : 2 * site.rest.length ≤ fuel) :
    ∀ next, (pastBlank site).LeadsOn next →
      (termWithin fuel).Follows (pastBlank site) next := by
  intro next hnext
  have hlt := hnext.length_lt
  have hle := (leads_pastBlank site).length_le
  exact termWithin_follows hnext.leads (by omega)

/-- Where nothing starts, all that is left of a reading is the guard of the one
argument that was tried. -/
theorem guard_read_of_none {site : Site} (guard : Guard)
    (hnone : argument (pastBlank site) = none) :
    ∃ fuel, 2 * site.rest.length ≤ fuel ∧ (read site guard).guard =
      (argumentBy (termWithin fuel) (pastBlank site)
        (guard.enter applyMark (pastBlank site).offset).2).guard := by
  change ∃ fuel, _ ∧ (termBy (termWithin (2 * site.rest.length + 1)) site guard).guard = _
  rw [termBy_eq]
  dsimp only
  split
  · exact ⟨_, Nat.le_succ _, rfl⟩
  · refine ⟨_, Nat.le_refl _, ?_⟩
    have hoperand := termBy_enter (termWithin (2 * site.rest.length)) guard
      (pastBlank_pastBlank site)
    have hresult := (argumentBy_follows (termWithin_follows_nested site (Nat.le_refl _))
      (Nat.le_refl _) (harmless_enter _ guard _)).1
    change (applyBy (termBy (termWithin (2 * site.rest.length))) _ _).guard = _
    rw [applyBy_of_none (by rw [hoperand]; exact hresult.trans hnone), hoperand]

/-- A reading that fails leaves its marks where no argument starts. -/
theorem idle_read_of_none (guard : Guard)
    (hnone : argument (pastBlank (.ofCursor text cursor)) = none) :
    Idle text (read (.ofCursor text cursor) guard).guard := by
  have hstart := leads_pastBlank (.ofCursor text cursor)
  generalize hsite : pastBlank (.ofCursor text cursor) = start at hnone hstart
  obtain ⟨fuel, hfuel, hguard⟩ := guard_read_of_none guard (hsite ▸ hnone)
  have hnested := termWithin_follows_nested _ hfuel
  rw [hsite] at hguard hnested
  rw [hguard]
  have hharmless := (argumentBy_follows hnested (Nat.le_refl _)
    (harmless_enter start guard start.offset)).2
  obtain ⟨site, hlead, hoffset⟩ := (argumentBy_staysAhead (termWithin_staysAhead start fuel)
    start _ (.refl start) (reached_enter (.refl start) guard)).guard
  intro hmark other hother
  -- The mark is at a site ahead, and it does not matter how many characters are
  -- counted before it.
  have hfails : argument site = none := by
    rcases Nat.lt_or_eq_of_le hlead.offset_le with hlt | heq
    · exact hharmless hmark site hlead hoffset hlt
    · rw [hlead.eq_of_offset_eq (.refl start) heq.symm]
      exact hnone
  have hplace := Site.ofCursor_cursor (hstart.trans hlead)
  rw [← hplace] at hfails
  have hsame : other.offset = site.offset := hother.trans hoffset.symm
  exact (ignoresIndex_argument.eq_none_iff hsame
    (congrArg text.remaining hsame)).2 hfails

/-- A reading that succeeds leaves no marks. -/
theorem guard_read_of_some {site last : Site} {found : Term} (guard : Guard)
    (hentered : (guard.enter applyMark (pastBlank site).offset).1 = false)
    (hread : (read site guard).result = some (found, last)) :
    (read site guard).guard = .clear last.offset := by
  change (termBy (termWithin (2 * site.rest.length + 1)) site guard).result = _ at hread
  change (termBy (termWithin (2 * site.rest.length + 1)) site guard).guard = _
  rw [termBy_eq] at hread ⊢
  dsimp only at hread ⊢
  rw [hentered, if_neg Bool.false_ne_true] at hread ⊢
  rw [applyBy] at hread ⊢
  dsimp only at hread ⊢
  split at hread
  · rename_i hnone
    rw [hnone] at hread
    contradiction
  · split at hread
    · rename_i hnone
      rw [hnone] at hread
      contradiction
    · obtain ⟨-, rfl⟩ := Prod.mk.inj (Option.some.inj hread)
      rfl

/-- What one reading under an idle guard does to the guard. -/
theorem Idle.read (h : Idle text guard) (cursor : Cursor) :
    Idle text (read (.ofCursor text cursor) guard).guard ∧
      ∀ found last, (Term.read (.ofCursor text cursor) guard).result = some (found, last) →
        (Term.read (.ofCursor text cursor) guard).guard = .clear last.offset := by
  cases hentered : (guard.enter applyMark (pastBlank (.ofCursor text cursor)).offset).1 with
  | true =>
      have hnone := h.argument_eq_none hentered
      refine ⟨idle_read_of_none guard hnone, fun found last hread => ?_⟩
      rw [result_read, entered, ← Guard.enter_fst, hentered, if_pos rfl, hnone] at hread
      contradiction
  | false =>
      refine ⟨?_, fun found last hread => guard_read_of_some guard hentered hread⟩
      cases hread : (Term.read (.ofCursor text cursor) guard).result with
      | some result =>
          rw [guard_read_of_some guard hentered hread]
          exact idle_clear text _
      | none =>
          rw [result_read, entered, ← Guard.enter_fst, hentered, if_neg Bool.false_ne_true,
            application_eq_none_iff] at hread
          exact idle_read_of_none guard hread

/-- A session can pass its guard on from one term to the next. -/
theorem Idle.readAt (h : Idle text guard) (cursor : Cursor) :
    Idle text (readAt text cursor guard).2.2 ∧
      ((Term.readAt text cursor guard).1, (Term.readAt text cursor guard).2.1) =
        ((Term.readAt text cursor .fresh).1, (Term.readAt text cursor .fresh).2.1) ∧
      ∀ found, (Term.readAt text cursor guard).1 = some found →
        (Term.readAt text cursor guard).2.2 =
          .clear (Term.readAt text cursor guard).2.1.offset := by
  obtain ⟨hidle, hclear⟩ := h.read cursor
  refine ⟨?_, ?_, ?_⟩
  · rw [Term.readAt]
    split
    · exact hidle
    · split
      · exact hidle
      · exact hidle
  · rw [readAt_eq_value, readAt_eq_value, value, value, h.entered_eq]
  · intro found hfound
    rw [Term.readAt] at hfound ⊢
    split at hfound
    · contradiction
    · rename_i read last hread
      split at hfound
      · contradiction
      · rename_i moved hmoved
        rw [hclear read last hread, Cursor.offset_of_moveTo? hmoved]
        rfl

end Reading

/-! ### Any number of readings -/

end TextScan.Term

namespace TextScan.Session

open Term

theorem text_step (session : Session) (step : Step) :
    (session.step step).2.text = session.text := by
  cases step with
  | moveTo _ | takeTo _ | moveAfresh _ | takeOver _ | enter _ | isMarked _ | markNumber _ =>
      rw [step]
      split
      · rfl
      · rfl
  | _ => rfl

/-- No step but an entry by hand leaves a mark where an argument starts. -/
theorem idle_step {session : Session} {step : Step} (hstep : ∀ number, step ≠ .enter number)
    (h : Idle session.text session.guard) : Idle session.text (session.step step).2.guard := by
  cases hconcerns : step.concernsGuard with
  | false =>
      rw [guard_step hconcerns]
      exact h
  | true =>
      cases step with
      | enter number => exact absurd rfl (hstep number)
      | moveAfresh slot =>
          rw [step]
          split
          · exact h
          · rename_i moved guard hmoved
            obtain ⟨cursor, -, hguard⟩ := Option.map_eq_some_iff.1 hmoved
            rw [← (Prod.mk.inj hguard).2]
            exact idle_clear _ _
      | resetGuard => exact idle_of_unmarked (Guard.contains_reset ..)
      | freshGuard => exact idle_clear _ _
      | term => exact (h.readAt session.cursor).1
      | _ => contradiction

theorem idle_after (text : Text) (cursor : Cursor) {steps : List Step}
    (hsteps : ∀ number, Step.enter number ∉ steps) :
    ((start text cursor).after steps).text = text ∧
      Idle text ((start text cursor).after steps).guard := by
  induction steps using List.reverseRecOn with
  | nil => exact ⟨rfl, idle_clear text 0⟩
  | append_singleton steps step ih =>
      simp only [List.mem_append, List.mem_singleton, not_or] at hsteps
      obtain ⟨htext, hidle⟩ := ih fun number => (hsteps number).1
      rw [after_concat, text_step]
      generalize (start text cursor).after steps = session at htext hidle ⊢
      subst htext
      exact ⟨rfl, idle_step (fun number => Ne.symm (hsteps number).2) hidle⟩

/-- In a session that leaves the guard to the readings of terms, each reading, at
whatever cursor and after whatever others, gives the term and the cursor that it
gives under a fresh guard; and where it finds a term, it leaves the guard clear
at the new cursor. -/
theorem shared_guard_reads_as_fresh (text : Text) (cursor : Cursor) (steps : List Step)
    (hsteps : ∀ number, Step.enter number ∉ steps) :
    (((start text cursor).after steps).step .term).1 =
        .term (readAt text ((start text cursor).after steps).cursor .fresh).1 ∧
      (((start text cursor).after steps).step .term).2.cursor =
        (readAt text ((start text cursor).after steps).cursor .fresh).2.1 ∧
      ∀ found, (((start text cursor).after steps).step .term).1 = .term (some found) →
        (((start text cursor).after steps).step .term).2.guard =
          .clear (((start text cursor).after steps).step .term).2.cursor.offset := by
  obtain ⟨htext, hidle⟩ := idle_after text cursor hsteps
  generalize (start text cursor).after steps = session at htext hidle ⊢
  subst htext
  obtain ⟨-, hsame, hclear⟩ := hidle.readAt session.cursor
  obtain ⟨hterm, hcursor⟩ := Prod.mk.inj hsame
  refine ⟨congrArg StepAnswer.term hterm, hcursor, ?_⟩
  intro found hfound
  exact hclear found (StepAnswer.term.inj hfound)

/-- A reading that fails behind the bracket leaves a mark there; the next one, with
another count of characters, finds the name. -/
theorem shared_guard_after_failure :
    (∀ number, Step.enter number ∉ [Step.term, .put ⟨2, 9, 4⟩]) ∧
      ((start "(-x".toList .start).after [.term, .put ⟨2, 9, 4⟩]).guard.contains applyMark =
        true ∧
      (((start "(-x".toList .start).after [.term, .put ⟨2, 9, 4⟩]).step .term).2.cursor =
        (readAt "(-x".toList ⟨2, 9, 4⟩ .fresh).2.1 ∧
      (((start "(-x".toList .start).after [.term, .put ⟨2, 9, 4⟩]).step .term).2.guard =
        .clear 3 := by
  have hsteps : ∀ number, Step.enter number ∉ [Step.term, .put ⟨2, 9, 4⟩] := by
    simp
  obtain ⟨-, hcursor, hguard⟩ := shared_guard_reads_as_fresh "(-x".toList .start _ hsteps
  exact ⟨hsteps, by decide, hcursor, hguard (.var ['x']) (by decide)⟩

end TextScan.Session
