import TextScan.Proofs.Grammars
import TextScan.Proofs.Places

/-!
# Recognisers and their scanners

Some recognisers are not scanners put to use.  One character is stepped over in
place, digits in brackets are an attempt in one form and a sequence of its own
in the other, groups of digits are taken after the move over them, and a choice
of codes tries the one recogniser and then the other.  Each of them still does
what a scanner would do, and so whatever is known of the scanner holds of it.
Only the size of the move over a single character is counted in two ways.
-/

namespace TextScan

open Scanner

/-! ### Recognisers that move over a run -/

namespace Rule

/-- The answer of a recogniser with the given run ahead of it.  An empty run is refused. -/
def movedOver (form : Form) (cursor : Cursor) (found : Text) : Answer × Cursor :=
  match form with
  | .test => if found = [] then (.verdict false, cursor) else (.verdict true, cursor.past found)
  | .capture =>
      if found = [] then (.span none, cursor)
      else (.span (some ⟨cursor.offset, found⟩), cursor.past found)

section MovedOver

variable {text found : Text} {cursor : Cursor}

theorem movedOver_test (hne : found ≠ []) :
    movedOver .test cursor found = (.verdict true, cursor.past found) :=
  if_neg hne

theorem movedOver_capture (hne : found ≠ []) :
    movedOver .capture cursor found = (.span (some ⟨cursor.offset, found⟩), cursor.past found) :=
  if_neg hne

theorem movedOver_test_iff :
    (movedOver .test cursor found).1 = .verdict true ↔ found ≠ [] := by
  by_cases hne : found = []
  · simp [movedOver, hne]
  · simp [movedOver, hne]

theorem movedOver_nil (form : Form) (cursor : Cursor) :
    (movedOver form cursor []).1.matched = false ∧ (movedOver form cursor []).2 = cursor := by
  cases form with
  | test => exact ⟨rfl, rfl⟩
  | capture => exact ⟨rfl, rfl⟩

/-- Either form matches where there is something to move over. -/
theorem movedOver_matched (hne : found ≠ []) (form : Form) :
    (movedOver form cursor found).1.matched = true := by
  cases form with
  | test => rw [movedOver_test hne, Answer.matched]
  | capture => rw [movedOver_capture hne, Answer.matched, Option.isSome_some]

/-- The plain answer is the other one without the text. -/
theorem asVerdict_movedOver (cursor : Cursor) (found : Text) :
    asVerdict (movedOver .capture cursor found) = movedOver .test cursor found := by
  by_cases hne : found = []
  · rw [hne]
    rfl
  · rw [movedOver_capture hne, movedOver_test hne]
    rfl

variable {α : Type} {scanner : Scanner α} {site : Site} {value : α}

theorem report_of_none (hread : scanner (.ofCursor text cursor) = none) (form : Form) :
    report form scanner text cursor = movedOver form cursor [] := by
  obtain ⟨htest, hcapture, -⟩ := forms_of_none hread
  cases form with
  | test =>
      rw [report, htest]
      rfl
  | capture =>
      rw [report, hcapture]
      rfl

/-- Both forms go over the run that the scanner reads. -/
theorem report_of_some (hread : scanner (.ofCursor text cursor) = some (value, site))
    (hlead : (Site.ofCursor text cursor).LeadsBy found site) (hne : found ≠ []) (form : Form) :
    report form scanner text cursor = movedOver form cursor found := by
  obtain ⟨htest, hcapture, -⟩ := forms_of_read hread hlead hne
  cases form with
  | test => rw [report, htest, movedOver_test hne]
  | capture =>
      rw [report, hcapture, movedOver_capture hne]
      rfl

/-- An attempt moves over the run that the attempted part led past, if the part matched. -/
theorem settle_eq_movedOver {outcome : Answer × Cursor}
    (hlead : (Site.ofCursor text cursor).LeadsBy found (.ofCursor text outcome.2)) (form : Form) :
    settle form text cursor outcome =
      movedOver form cursor (if outcome.1.matched then found else []) := by
  cases hmatched : outcome.1.matched with
  | false => cases form <;> simp [settle, movedOver, hmatched]
  | true =>
      by_cases hne : found = []
      · have hstays : cursor.moveTo? outcome.2 = none := by
          rw [hne, Site.leadsBy_nil_iff] at hlead
          exact Cursor.moveTo?_eq_none (congrArg Site.offset hlead)
        have htake : cursor.takeTo? text outcome.2 = none := by
          rw [Cursor.takeTo?, hstays]
          split <;> rfl
        cases form <;> simp [settle, movedOver, hmatched, hne, hstays, htake]
      · have hmove := Cursor.moveTo?_of_leadsBy hlead hne
        have htake := Cursor.takeTo?_of_leadsBy hlead hne
        cases form <;> simp [settle, movedOver, hmatched, hne, hmove, htake]

/-- A scanner that consumes what it reads reads a run or nothing, and both forms report that. -/
theorem exists_report_eq (h : scanner.Consumes) (text : Text) (cursor : Cursor) :
    ∃ run, run <+: text.remaining cursor.offset ∧
      (run = [] ↔ scanner (.ofCursor text cursor) = none) ∧
      ∀ form, report form scanner text cursor = movedOver form cursor run := by
  cases hread : scanner (.ofCursor text cursor) with
  | none => exact ⟨[], List.nil_prefix, by simp, report_of_none hread⟩
  | some result =>
      obtain ⟨run, hne, hrun, hnext⟩ := h hread
      exact ⟨run, hrun, by simp [hne], report_of_some hread ⟨hrun, hnext⟩ hne⟩

end MovedOver

end Rule

/-! ### One character -/

namespace Probe

variable {probe : Probe} {text : Text} {cursor : Cursor}

/-- The probe accepts the character at the cursor, and a scanner would read it, or neither is the
case. -/
theorem peek_cases (probe : Probe) (text : Text) (cursor : Cursor) :
    ((cursor.peek text).filter (probe []) = none ∧ one probe (.ofCursor text cursor) = none) ∨
      ∃ c, (cursor.peek text).filter (probe []) = some c ∧
        (Site.ofCursor text cursor).LeadsBy [c] (.ofCursor text (cursor.stepOver c)) ∧
        one probe (.ofCursor text cursor) =
          some (⟨cursor.offset, [c]⟩, .ofCursor text (cursor.stepOver c)) := by
  rw [one, Cursor.peek]
  cases hrest : text.remaining cursor.offset with
  | nil =>
      refine .inl ⟨rfl, ?_⟩
      rw [Site.ofCursor, hrest]
  | cons c rest =>
      cases hc : probe [] c with
      | false =>
          refine .inl ⟨by simp [hc], ?_⟩
          rw [Site.ofCursor, hrest]
          exact if_neg (by simp [hc])
      | true =>
          have hrun : [c] <+: text.remaining cursor.offset := ⟨rest, hrest.symm⟩
          have hnext : Site.ofCursor text (cursor.stepOver c) =
              (Site.ofCursor text cursor).past [c] := Site.ofCursor_past hrun
          refine .inr ⟨c, by simp [hc], ⟨hrun, hnext⟩, ?_⟩
          rw [hnext, Site.ofCursor, hrest]
          exact if_pos hc

theorem test_of_none (h : one probe (.ofCursor text cursor) = none) :
    probe.test text cursor = (false, cursor) := by
  rcases probe.peek_cases text cursor with ⟨hpeek, -⟩ | ⟨c, -, -, hread⟩
  · rw [test, hpeek]
  · rw [h] at hread
    contradiction

/-- The step in place ends where the scanner does; only its size is counted apart. -/
theorem test_of_some {found : Span} {next : Site}
    (h : one probe (.ofCursor text cursor) = some (found, next)) :
    ∃ after, probe.test text cursor = (true, after) ∧ Site.ofCursor text after = next := by
  rcases probe.peek_cases text cursor with ⟨-, hread⟩ | ⟨c, hpeek, -, hread⟩
  · rw [h] at hread
    contradiction
  · rw [h] at hread
    refine ⟨cursor.stepOver c, ?_, (Prod.mk.inj (Option.some.inj hread)).2.symm⟩
    rw [test, hpeek]

/-- A single character is taken as any text is. -/
theorem capture_eq (probe : Probe) (text : Text) (cursor : Cursor) :
    probe.capture text cursor = (one probe).capture text cursor := by
  rcases probe.peek_cases text cursor with ⟨hpeek, hread⟩ | ⟨c, hpeek, hlead, hread⟩
  · rw [capture, hpeek, (forms_of_none hread).2.1]
  · rw [capture, hpeek, (forms_of_read hread hlead (List.cons_ne_nil c [])).2.1]
    dsimp only
    rw [Cursor.takeOver?, Cursor.takeTo?_of_leadsBy hlead (List.cons_ne_nil c [])]

end Probe

/-! ### Brackets -/

/-- The recogniser refuses where the scanner does, and otherwise leaves the cursor at the site
where the scanner ends.  What size its last move has is left open. -/
structure Rule.Realises {α : Type} (scanner : Scanner α) (text : Text)
    (recogniser : Cursor → Answer × Cursor) : Prop where
  refused : ∀ {cursor}, scanner (.ofCursor text cursor) = none →
    (recogniser cursor).1.matched = false
  reached : ∀ {cursor found next}, scanner (.ofCursor text cursor) = some (found, next) →
    (recogniser cursor).1.matched = true ∧ Site.ofCursor text (recogniser cursor).2 = next

namespace Rule

/-- The verdict on a scanner says whether it returns something. -/
theorem report_test_eq {α : Type} {wrap : Option α → Answer}
    (hwrap : ∀ found, (wrap found).matched = found.isSome) (scanner : Scanner α) (text : Text)
    (cursor : Cursor) :
    report .test scanner text cursor = asVerdict (answer wrap (scanner.value text cursor)) := by
  rw [report, test_eq_value, asVerdict, answer, hwrap]

theorem reportInner_test (scanner : Scanner Span) (text : Text) (cursor : Cursor) :
    reportInner .test scanner text cursor = report .test scanner text cursor :=
  (report_test_eq (fun _ => rfl) scanner text cursor).symm

variable {α β : Type} {scanner first : Scanner α} {second : α → Scanner β} {text : Text}
  {recogniser next : Cursor → Answer × Cursor}

/-- One recogniser after the other realises one scanner after the other. -/
theorem Realises.andThen (hfirst : Realises first text recogniser)
    (hsecond : ∀ found, Realises (second found) text next) :
    Realises (first >>= second) text fun cursor => Rule.andThen (recogniser cursor) next where
  refused := by
    intro cursor hnone
    rw [Rule.andThen]
    cases hread : first (.ofCursor text cursor) with
    | none =>
        rw [if_neg (ne_true_of_eq_false (hfirst.refused hread))]
        exact hfirst.refused hread
    | some result =>
        obtain ⟨hmatched, hsite⟩ := hfirst.reached hread
        rw [bind_of_some _ hread, ← hsite] at hnone
        rw [if_pos hmatched]
        exact (hsecond _).refused hnone
  reached := by
    intro cursor found last hsome
    obtain ⟨value, middle, hread, hrest⟩ := bind_eq_some_iff.1 hsome
    obtain ⟨hmatched, hsite⟩ := hfirst.reached hread
    rw [← hsite] at hrest
    rw [Rule.andThen, if_pos hmatched]
    exact (hsecond _).reached hrest

/-- What is returned does not matter. -/
theorem Realises.map (h : Realises scanner text recogniser) (f : α → β) :
    Realises (do return f (← scanner) : Scanner β) text recogniser where
  refused := by
    intro cursor hnone
    cases hread : scanner (.ofCursor text cursor) with
    | none => exact h.refused hread
    | some result =>
        rw [bind_of_some _ hread] at hnone
        contradiction
  reached := by
    intro cursor found last hsome
    obtain ⟨value, middle, hread, hpure⟩ := bind_eq_some_iff.1 hsome
    obtain ⟨-, rfl⟩ := pure_eq_some_iff.1 hpure
    exact h.reached hread

/-- An attempt at a recogniser moves the cursor as the scanner does that it realises. -/
theorem Realises.settle_eq (h : Realises scanner text recogniser) (cursor : Cursor) :
    settle .test text cursor (recogniser cursor) = report .test scanner text cursor := by
  rw [settle, report, test]
  cases hread : scanner (.ofCursor text cursor) with
  | none => rw [h.refused hread, if_neg Bool.false_ne_true]
  | some result =>
      obtain ⟨hmatched, hsite⟩ := h.reached hread
      obtain ⟨hoffset, hindex, -⟩ := Site.mk.inj hsite
      have hmove : cursor.moveTo? (recogniser cursor).2 = cursor.moveTo? result.2.cursor := by
        rw [Cursor.moveTo?, Cursor.moveTo?, Site.cursor, hoffset, hindex]
      rw [hmatched, if_pos rfl, hmove]
      dsimp only
      cases cursor.moveTo? result.2.cursor with
      | none => rfl
      | some moved => rfl

/-- The size of a step over one character is one at any index, and the site does not tell it. -/
theorem realises_reportOne (probe : Probe) (text : Text) :
    Realises (Scanner.one probe) text (reportOne .test probe text) where
  refused := by
    intro cursor hread
    rw [reportOne, Probe.test_of_none hread, Answer.matched]
  reached := by
    intro cursor found next hread
    obtain ⟨after, htest, hafter⟩ := Probe.test_of_some hread
    rw [reportOne, htest]
    exact ⟨rfl, hafter⟩

theorem realises_report (h : scanner.Consumes) (text : Text) :
    Realises scanner text (report .test scanner text) where
  refused := by
    intro cursor hread
    rw [report_of_none hread]
    exact (movedOver_nil .test cursor).1
  reached := by
    intro cursor found next hread
    obtain ⟨run, hne, hrun, rfl⟩ := h hread
    rw [report_of_some hread ⟨hrun, rfl⟩ hne, movedOver_test hne]
    exact ⟨rfl, Site.ofCursor_past hrun⟩

end Rule

namespace Scanner

variable {text : Text} {cursor after : Cursor}

/-- The cursor that is at the site where a scanner ends tells where to move. -/
theorem value_of_read {α : Type} {scanner : Scanner α} {found : α}
    (hread : scanner (.ofCursor text cursor) = some (found, .ofCursor text after)) :
    scanner.value text cursor =
      match cursor.moveTo? after with
      | none => (none, cursor)
      | some moved => (some found, moved) := by
  rw [value, hread]
  rfl

def ReturnsRun (scanner : Scanner Span) : Prop :=
  ∀ {site next : Site} {found : Span}, scanner site = some (found, next) →
    ∃ run, run ≠ [] ∧ site.LeadsBy run next ∧ found = site.span run

theorem returnsRun_one (accepts : Char → Bool) : ReturnsRun (one (.char accepts)) := by
  intro site next found h
  obtain ⟨c, -, hlead, hfound⟩ := one_iff.1 h
  exact ⟨[c], List.cons_ne_nil c [], hlead, hfound⟩

theorem returnsRun_run (accepts : Char → Bool) : ReturnsRun (run (.char accepts)) := by
  intro site next found h
  obtain ⟨run, hne, -, hlead, -, hfound⟩ := run_iff.1 h
  exact ⟨run, hne, hlead, hfound⟩

/-- What such a scanner returns is what the form returns that takes the text. -/
theorem ReturnsRun.capture_of_read {scanner : Scanner Span} {found : Span} {next : Site}
    (h : scanner.ReturnsRun) (hread : scanner (.ofCursor text cursor) = some (found, next)) :
    ∃ after, scanner.capture text cursor = (some found, after) ∧
      Site.ofCursor text after = next := by
  obtain ⟨run, hne, hlead, rfl⟩ := h hread
  exact ⟨_, (forms_of_read hread hlead hne).2.1, (Site.ofCursor_past hlead.1).trans hlead.2.symm⟩

end Scanner

namespace Telephone

section Brackets

variable {inner : Scanner Span} {site opened ended closed : Site} {opening closing found : Span}

theorem inBrackets_of_not_opened (hopen : Scanner.char '(' site = none) :
    inBrackets inner site = none :=
  bind_of_none _ hopen

theorem inBrackets_of_opened (hopen : Scanner.char '(' site = some (opening, opened)) :
    inBrackets inner site = (do
      let found ← inner
      let _ ← Scanner.char ')'
      return found : Scanner Span) opened :=
  bind_of_some _ hopen

theorem inBrackets_of_not_read (hopen : Scanner.char '(' site = some (opening, opened))
    (hread : inner opened = none) : inBrackets inner site = none := by
  rw [inBrackets_of_opened hopen, bind_of_none _ hread]

/-- The inner part is given up where no bracket closes. -/
theorem inBrackets_of_not_closed (hopen : Scanner.char '(' site = some (opening, opened))
    (hread : inner opened = some (found, ended)) (hclose : Scanner.char ')' ended = none) :
    inBrackets inner site = none := by
  rw [inBrackets_of_opened hopen, bind_of_some _ hread, bind_of_none _ hclose]

theorem inBrackets_of_closed (hopen : Scanner.char '(' site = some (opening, opened))
    (hread : inner opened = some (found, ended))
    (hclose : Scanner.char ')' ended = some (closing, closed)) :
    inBrackets inner site = some (found, closed) := by
  rw [inBrackets_of_opened hopen, bind_of_some _ hread, bind_of_some _ hclose]
  rfl

end Brackets

variable {inner : Scanner Span} {text : Text}

/-- What is taken between brackets is what the scanner reads there. -/
theorem takeInBrackets_eq (h : inner.ReturnsRun) (text : Text) (cursor : Cursor) :
    takeInBrackets (inner.capture text) text cursor = (inBrackets inner).value text cursor := by
  rw [takeInBrackets]
  cases hopen : Scanner.char '(' (.ofCursor text cursor) with
  | none =>
      have hnone : inBrackets inner (.ofCursor text cursor) = none :=
        inBrackets_of_not_opened hopen
      rw [Probe.test_of_none hopen, (forms_of_none hnone).2.2]
  | some opening =>
      obtain ⟨opened, hopened, hsite⟩ := Probe.test_of_some hopen
      simp only [hopened]
      cases hread : inner opening.2 with
      | none =>
          rw [(forms_of_none (inBrackets_of_not_read hopen hread)).2.2]
          rw [← hsite] at hread
          rw [(forms_of_none hread).2.1]
      | some result =>
          have hinner := hread
          rw [← hsite] at hinner
          obtain ⟨ended, htaken, hend⟩ := h.capture_of_read hinner
          simp only [htaken]
          cases hclose : Scanner.char ')' result.2 with
          | none =>
              rw [(forms_of_none (inBrackets_of_not_closed hopen hread hclose)).2.2]
              rw [← hend] at hclose
              rw [Probe.test_of_none hclose]
          | some closing =>
              have hwhole := inBrackets_of_closed hopen hread hclose
              rw [← hend] at hclose
              obtain ⟨closed, hclosed, hlast⟩ := Probe.test_of_some hclose
              rw [← hlast] at hwhole
              simp only [hclosed]
              exact (value_of_read hwhole).symm

/-- An attempt at a bracket, the inner recogniser and a bracket realises the scanner, and the
other form takes what the scanner reads. -/
theorem reportInBrackets_eq (h : inner.ReturnsRun) {test : Cursor → Answer × Cursor}
    (htest : Rule.Realises inner text test) (form : Form) (cursor : Cursor) :
    Rule.reportInBrackets form test (inner.capture text) text cursor =
      Rule.reportInner form (inBrackets inner) text cursor := by
  cases form with
  | test =>
      have hopening : Rule.Realises (Scanner.char '(') text _ :=
        Rule.realises_reportOne (.is '(') text
      have hclosing : Rule.Realises (Scanner.char ')') text _ :=
        Rule.realises_reportOne (.is ')') text
      have hbrackets := hopening.andThen fun _ =>
        htest.andThen fun found => hclosing.map fun _ => found
      exact (hbrackets.settle_eq cursor).trans (Rule.reportInner_test (inBrackets inner) _ _).symm
  | capture => exact congrArg (Rule.answer .span) (takeInBrackets_eq h text cursor)

end Telephone

/-! ### Groups of digits, codes and labels -/

namespace PostCode

def zipOrPostal : Scanner Unit :=
  .either (do let _ ← zip) (do let _ ← postal)

theorem consumes_zipOrPostal : Consumes zipOrPostal :=
  ((consumes_run _).bind fun _ => advances_pure _).either
    (consumes_postal.bind fun _ => advances_pure _)

section ZipOrPostal

variable {site next : Site}

theorem zipOrPostal_of_zip {found : Span} (hzip : zip site = some (found, next)) :
    zipOrPostal site = some ((), next) := by
  rw [zipOrPostal, Scanner.either, bind_of_some _ hzip]
  rfl

theorem zipOrPostal_of_postal {halves : Span × Span} (hzip : zip site = none)
    (hpostal : postal site = some (halves, next)) : zipOrPostal site = some ((), next) := by
  rw [zipOrPostal, Scanner.either, bind_of_none _ hzip, bind_of_some _ hpostal]
  rfl

theorem zipOrPostal_of_none (hzip : zip site = none) (hpostal : postal site = none) :
    zipOrPostal site = none := by
  rw [zipOrPostal, Scanner.either, bind_of_none _ hzip, bind_of_none _ hpostal]

end ZipOrPostal

end PostCode

namespace Rule

/-- A single digit is stepped over in one form and taken in the other, and both make up the same
scanner. -/
theorem apply_digitInBrackets (form : Form) (text : Text) (cursor : Cursor) :
    (digitInBrackets form).apply text cursor =
      reportInner form (Telephone.inBrackets (Scanner.one (.ofClass .digit))) text cursor := by
  have hcapture : Probe.capture (.ofClass .digit) text =
      (Scanner.one (.ofClass .digit)).capture text := funext (Probe.capture_eq _ text)
  rw [apply, hcapture]
  exact Telephone.reportInBrackets_eq (returnsRun_one _) (realises_reportOne _ text) form cursor

theorem apply_digitsInBrackets (form : Form) (text : Text) (cursor : Cursor) :
    (digitsInBrackets form).apply text cursor =
      reportInner form Telephone.digitsInBrackets text cursor :=
  Telephone.reportInBrackets_eq (returnsRun_run _) (realises_report (consumes_run _) text) form
    cursor

/-- To take the text behind the move comes to the same, since a move that was made is over a run.
-/
theorem apply_delimitedDigits (form : Form) (delimiters text : Text) (cursor : Cursor) :
    (delimitedDigits form delimiters).apply text cursor =
      report form (Telephone.delimitedDigits delimiters) text cursor := by
  cases form with
  | test => rfl
  | capture =>
      have heq := (Telephone.consumes_delimitedDigits delimiters).captureBehind_eq text cursor
      exact congrArg (answer .span) heq

/-- The plain form takes the label and drops it. -/
theorem apply_attentionLabel (form : Form) (text : Text) (cursor : Cursor) :
    (attentionLabel form).apply text cursor =
      report form Routing.attentionLabel text cursor := by
  obtain ⟨run, -, -, hreport⟩ :=
    exists_report_eq (consumes_anyWord .ignored Routing.attentionLabels) text cursor
  cases form with
  | test =>
      have hverdict := congrArg asVerdict (hreport .capture)
      rw [asVerdict_movedOver] at hverdict
      exact hverdict.trans (hreport .test).symm
  | capture => rfl

/-- The choice between the codes is made where the scanner makes it, since a zip code that is
found is also moved over. -/
theorem apply_zipOrPostal (form : Form) (text : Text) (cursor : Cursor) :
    (zipOrPostal form).apply text cursor = report form PostCode.zipOrPostal text cursor := by
  rw [apply, orElse]
  cases hzip : PostCode.zip (.ofCursor text cursor) with
  | some result =>
      obtain ⟨run, hne, hlead⟩ := consumes_run _ hzip
      rw [report_of_some hzip hlead hne, if_pos (movedOver_matched hne form)]
      exact (report_of_some (PostCode.zipOrPostal_of_zip hzip) hlead hne form).symm
  | none =>
      obtain ⟨hrefused, hstays⟩ := movedOver_nil form cursor
      rw [report_of_none hzip, if_neg (ne_true_of_eq_false hrefused), hstays]
      cases hpostal : PostCode.postal (.ofCursor text cursor) with
      | none =>
          rw [report_of_none hpostal, report_of_none (PostCode.zipOrPostal_of_none hzip hpostal)]
      | some result =>
          obtain ⟨run, hne, hlead⟩ := PostCode.consumes_postal hpostal
          rw [report_of_some hpostal hlead hne]
          exact (report_of_some (PostCode.zipOrPostal_of_postal hzip hpostal) hlead hne form).symm

end Rule

end TextScan
