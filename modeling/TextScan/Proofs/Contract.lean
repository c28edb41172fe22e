import TextScan.Proofs.Lambda.GuardFree
import TextScan.Proofs.Recognition

/-!
# The contract of recognition

A recogniser that fails leaves the cursor as it was, in all three fields.  One
that succeeds moves it from a boundary to a later boundary of the text and
counts the characters in between twice: in the index and, unless the index
wraps around on the way, as the size of the move.  The contract holds of every
recogniser on its own, and `attempt` restores it for whatever is put together
from them, since no part of a rule ever moves the cursor backwards.
-/

namespace TextScan

/-- What a recogniser owes at a cursor, by whether it matched. -/
structure Contract (text : Text) (before : Cursor) (matched : Bool) (after : Cursor) :
    Prop where
  restored : matched = false → after = before
  moved : matched = true →
    text.IsBoundary before.offset ∧ text.IsBoundary after.offset ∧
    before.offset < after.offset ∧ after.offset ≤ text.byteSize ∧
    ∃ span, text.slice before.offset after.offset = some span ∧
      after.index = before.index + .ofNat span.text.length ∧
      (before.Counts span.text →
        after.index.toNat = before.index.toNat + span.text.length ∧
        after.moved.toNat = span.text.length)
  /-- There is nothing to match inside a character or at the end. -/
  refused : ¬ text.IsBoundary before.offset ∨ text.byteSize ≤ before.offset →
    matched = false ∧ after = before

namespace Contract

variable {text : Text} {before next after : Cursor} {matched : Bool}

/-- A failure that leaves the cursor alone keeps the contract everywhere. -/
theorem refusal (text : Text) (cursor : Cursor) : Contract text cursor false cursor where
  restored _ := rfl
  moved h := by contradiction
  refused _ := ⟨rfl, rfl⟩

/-- A step past a run of characters keeps the contract if it tells their number. -/
theorem of_run {run : Text} {moved : UInt64} (hrun : run <+: text.remaining before.offset)
    (hne : run ≠ []) (hmoved : before.Counts run → moved.toNat = run.length) :
    Contract text before true
      ⟨before.offset + run.byteSize, before.index + .ofNat run.length, moved⟩ := by
  have hslice := Text.slice_of_isPrefix hne hrun
  obtain ⟨head, tail, htext, hhead, -, -⟩ := Text.slice_eq_some_iff.1 hslice
  replace htext : text = head ++ run ++ tail := htext
  have hsize : run.byteSize ≠ 0 := fun hzero => hne (Text.byteSize_eq_zero_iff.1 hzero)
  have hbefore : text.IsBoundary before.offset :=
    ⟨head, run ++ tail, by rw [htext, List.append_assoc], hhead⟩
  have hafter : text.IsBoundary (before.offset + run.byteSize) :=
    ⟨head ++ run, tail, htext, by rw [Text.byteSize_append, hhead]⟩
  have hlt : before.offset < before.offset + run.byteSize := by omega
  have hend : before.offset + run.byteSize ≤ text.byteSize := by
    rw [htext, Text.byteSize_append, Text.byteSize_append]
    omega
  refine ⟨by simp, fun _ => ⟨hbefore, hafter, hlt, hend, _, hslice, rfl, fun hcounts => ?_⟩, ?_⟩
  · exact ⟨hcounts.toNat_index, hmoved hcounts⟩
  · intro hoff
    rcases hoff with hnot | hpast
    · exact absurd hbefore hnot
    · omega

/-- A move along a run at the front of what remains keeps the contract. -/
theorem of_moveTo (hleads : (Site.ofCursor text before).Leads (.ofCursor text next))
    (hmove : before.moveTo? next = some after) : Contract text before true after := by
  obtain ⟨run, hrun, hnext⟩ := hleads
  have hne : run ≠ [] := by
    rintro rfl
    rw [Site.past_nil] at hnext
    rw [Cursor.moveTo?_eq_none (congrArg Site.offset hnext)] at hmove
    contradiction
  rw [Cursor.moveTo?_of_leadsBy ⟨hrun, hnext⟩ hne] at hmove
  rw [← Option.some.inj hmove]
  exact of_run hrun hne fun hcounts => hcounts.moved_past

/-- Under the contract the cursor never goes back. -/
theorem leads (h : Contract text before matched after) :
    (Site.ofCursor text before).Leads (.ofCursor text after) := by
  cases matched with
  | false =>
      rw [h.restored rfl]
      exact .refl _
  | true =>
      obtain ⟨-, -, -, -, span, hslice, hindex, -⟩ := h.moved rfl
      obtain ⟨hrun, hstop⟩ := Text.remaining_of_slice hslice
      refine ⟨span.text, hrun, ?_⟩
      rw [Site.ofCursor, Site.ofCursor, Site.past, ← Text.remaining_add hrun, ← hindex, hstop]

end Contract

/-! ### Scanners at a cursor -/

namespace Scanner

variable {α : Type} {scanner : Scanner α}

/-- Where a scanner ends, the cursor could move. -/
theorem Advances.contract_of_moveTo (h : scanner.Advances) {text : Text}
    {cursor moved : Cursor} {value : α} {site : Site}
    (hread : scanner (.ofCursor text cursor) = some (value, site))
    (hmove : cursor.moveTo? site.cursor = some moved) : Contract text cursor true moved := by
  have hleads := h hread
  rw [← Site.ofCursor_cursor hleads] at hleads
  exact .of_moveTo hleads hmove

/-- A scanner need not consume for the contract: a move that makes no progress is
refused. -/
theorem Advances.contract_capture (h : scanner.Advances) (text : Text) (cursor : Cursor) :
    Contract text cursor (scanner.capture text cursor).1.isSome
      (scanner.capture text cursor).2 := by
  rw [capture]
  split
  · exact .refusal text cursor
  · rename_i hread
    split
    · exact .refusal text cursor
    · rename_i htake
      exact h.contract_of_moveTo hread (Cursor.moveTo?_of_takeTo? htake)

theorem Advances.contract_value (h : scanner.Advances) (text : Text) (cursor : Cursor) :
    Contract text cursor (scanner.value text cursor).1.isSome (scanner.value text cursor).2 := by
  rw [value]
  split
  · exact .refusal text cursor
  · rename_i hread
    split
    · exact .refusal text cursor
    · rename_i hmove
      exact h.contract_of_moveTo hread hmove

theorem Advances.contract_test (h : scanner.Advances) (text : Text) (cursor : Cursor) :
    Contract text cursor (scanner.test text cursor).1 (scanner.test text cursor).2 := by
  rw [test_eq_value]
  exact h.contract_value text cursor

/-- Whichever form is asked for, the contract is the same. -/
theorem Advances.contract_report (h : scanner.Advances) (form : Form) (text : Text)
    (cursor : Cursor) :
    Contract text cursor (Rule.report form scanner text cursor).1.matched
      (Rule.report form scanner text cursor).2 := by
  cases form with
  | test => exact h.contract_test text cursor
  | capture => exact h.contract_capture text cursor

theorem Advances.contract_reportInner {scanner : Scanner Span} (h : scanner.Advances)
    (form : Form) (text : Text) (cursor : Cursor) :
    Contract text cursor (Rule.reportInner form scanner text cursor).1.matched
      (Rule.reportInner form scanner text cursor).2 := by
  cases form with
  | test => exact h.contract_value text cursor
  | capture => exact h.contract_value text cursor

/-- A step over a single character in place is a move of one. -/
theorem contract_reportOne (form : Form) (probe : Probe) (text : Text) (cursor : Cursor) :
    Contract text cursor (Rule.reportOne form probe text cursor).1.matched
      (Rule.reportOne form probe text cursor).2 := by
  cases form with
  | test =>
      rw [Rule.reportOne, Probe.test]
      rcases probe.peek_cases text cursor with ⟨hpeek, -⟩ | ⟨c, hpeek, hlead, -⟩
      · rw [hpeek]
        exact .refusal text cursor
      · rw [hpeek]
        exact .of_run hlead.1 (List.cons_ne_nil c []) fun _ => rfl
  | capture =>
      rw [Rule.reportOne, Probe.capture_eq]
      exact (consumes_one probe).advances.contract_capture text cursor

end Scanner

/-- Under any guard reading a term is reading with a scanner that does not know
the guard. -/
theorem Term.contract_readAt (text : Text) (cursor : Cursor) (guard : Guard) :
    Contract text cursor (Term.readAt text cursor guard).1.isSome
      (Term.readAt text cursor guard).2.1 := by
  have heq := Term.readAt_eq_value text cursor guard
  have hcontract := (Unguarded.advances_entered guard).contract_value text cursor
  rw [← heq] at hcontract
  exact hcontract

/-! ### Rules -/

namespace Rule

/-- The recognisers, which go back where they fail.  The others only pass the
cursor on or do not move it. -/
def isRecogniser : Rule → Bool
  | always | never | both _ _ | either _ _ | optional _ | holds _ | wholly _ _ => false
  | runEnd _ | wordEnd _ _ | wordsEnd _ _ | addressee _ => false
  | _ => true

/-- Over a run ahead of the cursor both forms keep the contract. -/
theorem contract_movedOver {text run : Text} {cursor : Cursor}
    (hrun : run <+: text.remaining cursor.offset) (form : Form) :
    Contract text cursor (movedOver form cursor run).1.matched (movedOver form cursor run).2 := by
  by_cases hne : run = []
  · obtain ⟨hrefused, hstays⟩ := movedOver_nil form cursor
    rw [hne, hrefused, hstays]
    exact .refusal text cursor
  · have hmoved : Contract text cursor true (cursor.past run) :=
      .of_run hrun hne fun hcounts => hcounts.moved_past
    cases form with
    | test =>
        rw [movedOver_test hne]
        exact hmoved
    | capture =>
        rw [movedOver_capture hne]
        exact hmoved

/-- An attempt keeps the contract, whatever the attempted part did on its way
forward. -/
theorem contract_settle {text : Text} {cursor : Cursor} (form : Form)
    (outcome : Answer × Cursor)
    (hleads : (Site.ofCursor text cursor).Leads (.ofCursor text outcome.2)) :
    Contract text cursor (settle form text cursor outcome).1.matched
      (settle form text cursor outcome).2 := by
  obtain ⟨run, hlead⟩ := hleads
  rw [settle_eq_movedOver hlead]
  apply contract_movedOver
  split
  · exact hlead.1
  · exact List.nil_prefix

/-- A rule moves the cursor forward at most, and a recogniser keeps the contract. -/
structure Sound (rule : Rule) (text : Text) (cursor : Cursor) : Prop where
  leads : (Site.ofCursor text cursor).Leads (.ofCursor text (rule.apply text cursor).2)
  contract : rule.isRecogniser = true →
    Contract text cursor (rule.apply text cursor).1.matched (rule.apply text cursor).2

section Sound

variable {rule : Rule} {text : Text} {cursor : Cursor}

theorem Sound.of_contract (h : Contract text cursor (rule.apply text cursor).1.matched
    (rule.apply text cursor).2) : rule.Sound text cursor :=
  ⟨h.leads, fun _ => h⟩

theorem Sound.of_leads (hrule : rule.isRecogniser = false)
    (h : (Site.ofCursor text cursor).Leads (.ofCursor text (rule.apply text cursor).2)) :
    rule.Sound text cursor :=
  ⟨h, fun hpromise => by rw [hrule] at hpromise; contradiction⟩

end Sound

open Scanner

/-- The induction is on the rule.  Of the parts of a rule only the direction of
their moves is used, also where they are attempted. -/
theorem sound (rule : Rule) (text : Text) (cursor : Cursor) : rule.Sound text cursor := by
  induction rule generalizing cursor with
  | always => exact .of_leads rfl (.refl _)
  | never => exact .of_leads rfl (.refl _)
  | both first second hfirst hsecond =>
      apply Sound.of_leads rfl
      rw [apply, asVerdict, andThen]
      split
      · exact (hfirst cursor).leads.trans (hsecond _).leads
      · exact (hfirst cursor).leads
  | either first second hfirst hsecond =>
      apply Sound.of_leads rfl
      rw [apply, asVerdict, orElse]
      split
      · exact (hfirst cursor).leads
      · exact (hfirst cursor).leads.trans (hsecond _).leads
  | optional rule hrule => exact .of_leads rfl (hrule cursor).leads
  | holds rule hrule => exact .of_leads rfl (hrule cursor).leads
  | attempt form rule hrule => exact .of_contract (contract_settle form _ (hrule cursor).leads)
  | wholly rule other hrule => exact .of_leads rfl (.refl _)
  | runEnd probe => exact .of_leads rfl (.refl _)
  | wordEnd mode spelling => exact .of_leads rfl (.refl _)
  | wordsEnd mode spelling => exact .of_leads rfl (.refl _)
  | addressee line => exact .of_leads rfl (.refl _)
  | one form probe =>
      exact .of_contract (contract_reportOne form probe text cursor)
  | run form probe =>
      exact .of_contract ((consumes_run probe).advances.contract_report ..)
  | word form mode spelling =>
      exact .of_contract ((consumes_word mode spelling).advances.contract_report ..)
  | words form mode spelling =>
      exact .of_contract ((consumes_words mode spelling).advances.contract_report ..)
  | pair separator =>
      exact .of_contract ((Attributes.consumes_pair separator).advances.contract_value ..)
  | pairParts separator =>
      exact .of_contract ((Attributes.consumes_pair separator).advances.contract_value ..)
  | attributes separator =>
      exact .of_contract ((Attributes.advances_read separator).contract_value ..)
  | digitInBrackets form =>
      apply Sound.of_contract
      rw [apply_digitInBrackets]
      exact (Telephone.consumes_inBrackets
        (consumes_one _).advances).advances.contract_reportInner form text cursor
  | digitsInBrackets form =>
      apply Sound.of_contract
      rw [apply_digitsInBrackets]
      exact (Telephone.consumes_inBrackets
        (consumes_run _).advances).advances.contract_reportInner form text cursor
  | delimitedDigits form delimiters =>
      apply Sound.of_contract
      rw [apply_delimitedDigits]
      exact (Telephone.advances_delimitedDigits delimiters).contract_report form text cursor
  | digitGroups delimiters =>
      exact .of_contract ((Telephone.advances_delimitedDigits delimiters).contract_value ..)
  | phoneNumber form => exact .of_contract (Telephone.advances_number.contract_report ..)
  | phoneGroups => exact .of_contract (Telephone.advances_number.contract_value ..)
  | labelledPhone =>
      exact .of_contract (Telephone.advances_labelledNumber.contract_report ..)
  | zip form => exact .of_contract ((consumes_run _).advances.contract_report ..)
  | postal form => exact .of_contract (PostCode.advances_postal.contract_report ..)
  | zipOrPostal form =>
      apply Sound.of_contract
      rw [apply_zipOrPostal]
      exact PostCode.consumes_zipOrPostal.advances.contract_report form text cursor
  | attentionLabel form =>
      apply Sound.of_contract
      rw [apply_attentionLabel]
      exact (consumes_anyWord _ _).advances.contract_report form text cursor
  | attention form => exact .of_contract (Routing.advances_attention.contract_reportInner ..)
  | careOf form => exact .of_contract (Routing.advances_careOf.contract_reportInner ..)
  | prolog => exact .of_contract (Tag.consumes_prolog.advances.contract_value ..)
  | openingTag => exact .of_contract (Tag.consumes_opening.advances.contract_value ..)
  | closingTag => exact .of_contract (Tag.consumes_closing.advances.contract_value ..)
  | element => exact .of_contract (Element.consumes_scanner.advances.contract_value ..)
  | document => exact .of_contract (Document.consumes_scanner.advances.contract_value ..)

end Rule

/-! ### Rules and terms put together -/

/-- Rules and terms put together.  The terms share one guard. -/
inductive Composite where
  | rule (single : Rule)
  | term
  | both (first second : Composite)
  | either (first second : Composite)
  | optional (part : Composite)
  | attempt (form : Form) (part : Composite)

namespace Composite

/-- Whether the composite matches, the cursor and the guard afterwards. -/
def apply : Composite → Text → Cursor → Guard → Bool × Cursor × Guard
  | rule single, text, cursor, guard =>
      let outcome := single.apply text cursor
      (outcome.1.matched, outcome.2, guard)
  | term, text, cursor, guard =>
      let outcome := Term.readAt text cursor guard
      (outcome.1.isSome, outcome.2)
  | both first second, text, cursor, guard =>
      let tried := first.apply text cursor guard
      if tried.1 then second.apply text tried.2.1 tried.2.2 else tried
  | either first second, text, cursor, guard =>
      let tried := first.apply text cursor guard
      if tried.1 then tried else second.apply text tried.2.1 tried.2.2
  | optional part, text, cursor, guard => (true, (part.apply text cursor guard).2)
  | attempt form part, text, cursor, guard =>
      let tried := part.apply text cursor guard
      let settled := Rule.settle form text cursor (.verdict tried.1, tried.2.1)
      (settled.1.matched, settled.2, tried.2.2)

/-- Nothing that is put together from recognisers and terms goes back. -/
theorem leads_apply (composite : Composite) (text : Text) (cursor : Cursor) (guard : Guard) :
    (Site.ofCursor text cursor).Leads
      (.ofCursor text (composite.apply text cursor guard).2.1) := by
  induction composite generalizing cursor guard with
  | rule single => exact (single.sound text cursor).leads
  | term => exact (Term.contract_readAt text cursor guard).leads
  | both first second hfirst hsecond =>
      rw [apply]
      split
      · exact (hfirst cursor guard).trans (hsecond _ _)
      · exact hfirst cursor guard
  | either first second hfirst hsecond =>
      rw [apply]
      split
      · exact hfirst cursor guard
      · exact (hfirst cursor guard).trans (hsecond _ _)
  | optional part hpart => exact hpart cursor guard
  | attempt form part hpart =>
      exact (Rule.contract_settle form (.verdict _, _) (hpart cursor guard)).leads

/-- An attempt at it keeps the contract, even where it failed on its way. -/
theorem contract_attempt (form : Form) (part : Composite) (text : Text) (cursor : Cursor)
    (guard : Guard) :
    Contract text cursor ((attempt form part).apply text cursor guard).1
      ((attempt form part).apply text cursor guard).2.1 :=
  Rule.contract_settle form (.verdict _, _) (part.leads_apply text cursor guard)

end Composite

/-- At every cursor of every text, be it inside a character or past the end,
the contract holds of each recogniser, of reading a term under any guard, and
of an attempt at anything put together from them. -/
theorem contract_of_recognition (text : Text) (cursor : Cursor) :
    (∀ rule : Rule, rule.isRecogniser = true →
      Contract text cursor (rule.apply text cursor).1.matched (rule.apply text cursor).2) ∧
    (∀ guard : Guard,
      Contract text cursor (Term.readAt text cursor guard).1.isSome
        (Term.readAt text cursor guard).2.1) ∧
    ∀ (form : Form) (part : Composite) (guard : Guard),
      Contract text cursor ((Composite.attempt form part).apply text cursor guard).1
        ((Composite.attempt form part).apply text cursor guard).2.1 :=
  ⟨fun rule hrule => (rule.sound text cursor).contract hrule,
    Term.contract_readAt text cursor,
    fun form part guard => part.contract_attempt form text cursor guard⟩

/-- The digits in brackets after a character of two bytes, returned without the brackets. -/
theorem contract_of_bracketed_digits :
    Rule.isRecogniser (.digitsInBrackets .capture) = true ∧
      Rule.apply (.digitsInBrackets .capture) "é(12)".toList ⟨2, 1, 0⟩ =
        (.span (some ⟨3, "12".toList⟩), ⟨6, 5, 4⟩) ∧
      Contract "é(12)".toList ⟨2, 1, 0⟩ true ⟨6, 5, 4⟩ := by
  have hrule : Rule.isRecogniser (.digitsInBrackets .capture) = true := rfl
  have happly : Rule.apply (.digitsInBrackets .capture) "é(12)".toList ⟨2, 1, 0⟩ =
      (.span (some ⟨3, "12".toList⟩), ⟨6, 5, 4⟩) := by
    decide
  have hcontract := (contract_of_recognition "é(12)".toList ⟨2, 1, 0⟩).1 _ hrule
  rw [happly] at hcontract
  exact ⟨hrule, happly, hcontract⟩

end TextScan
