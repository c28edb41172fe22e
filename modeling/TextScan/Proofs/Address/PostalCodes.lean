import TextScan.Proofs.Address.PostalLines
import TextScan.Proofs.Moves

/-!
# Postal codes at a cursor

A postal code is two runs of three letters or digits with white space between
them.  How long a run is can be told from the text or from the size of the move
over it, which the cursor holds after the move.  Both ways of judging agree as
long as the count does not wrap around: every move that is looked at was made
by the same match, so it does not matter what the cursor held before.
-/

namespace TextScan

namespace Grammar

def LettersOrDigits (text : Text) : Prop :=
  ∀ c ∈ text, isLetterOrDigit c = true

/-- A postal code is ahead: a run of three letters or digits, all white space
after it, and another run of three. -/
structure PostalAhead (text first gap second rest : Text) : Prop where
  first_run : Longest LettersOrDigits text first (gap ++ (second ++ rest))
  first_length : first.length = 3
  gap_run : Longest Blank (gap ++ (second ++ rest)) gap (second ++ rest)
  second_run : Longest LettersOrDigits (second ++ rest) second rest
  second_length : second.length = 3

variable {text first gap second rest : Text}

theorem PostalAhead.split (h : PostalAhead text first gap second rest) :
    text = first ++ gap ++ second ++ rest := by
  rw [h.first_run.split, List.append_assoc, List.append_assoc]

theorem PostalAhead.ne_nil (h : PostalAhead text first gap second rest) :
    first ++ gap ++ second ≠ [] := by
  intro hnil
  have hfirst : first = [] := (List.append_eq_nil_iff.1 (List.append_eq_nil_iff.1 hnil).1).1
  exact absurd h.first_length (by rw [hfirst]; decide)

end Grammar

open Grammar

namespace PostCode

variable {text rest : Text} {cursor next last : Cursor}

theorem afterHalf_eq_some_iff_longest :
    afterHalf text = some rest ↔ ∃ half, Longest LettersOrDigits text half rest ∧
      half.length = 3 := by
  rw [afterHalf]
  constructor
  · intro h
    split at h
    · rename_i hlength
      exact ⟨_, longest_run_iff.2 ⟨rfl, Option.some.inj h⟩, hlength⟩
    · contradiction
  · rintro ⟨half, hhalf, hlength⟩
    obtain ⟨rfl, rfl⟩ := longest_run_iff.1 hhalf
    rw [if_pos hlength]

theorem afterPostal_eq_some_iff :
    afterPostal text = some rest ↔ ∃ first gap second, PostalAhead text first gap second rest := by
  rw [afterPostal, Option.bind_eq_some_iff]
  constructor
  · rintro ⟨middle, hfirst, hsecond⟩
    obtain ⟨first, hfirst, hlength⟩ := afterHalf_eq_some_iff_longest.1 hfirst
    obtain ⟨second, hsecond, hcount⟩ := afterHalf_eq_some_iff_longest.1 hsecond
    have hgap : Longest Blank middle (middle.takeWhile isWhiteSpace) (second ++ rest) :=
      longest_run_iff.2 ⟨rfl, hsecond.split⟩
    refine ⟨first, middle.takeWhile isWhiteSpace, second, ?_, hlength, ?_, ?_, hcount⟩
    · rw [← hgap.split]
      exact hfirst
    · rw [← hgap.split]
      exact hgap
    · rw [← hsecond.split]
      exact hsecond
  · rintro ⟨first, gap, second, h⟩
    refine ⟨_, afterHalf_eq_some_iff_longest.2 ⟨first, h.first_run, h.first_length⟩, ?_⟩
    rw [(longest_run_iff.1 h.gap_run).2]
    exact afterHalf_eq_some_iff_longest.2 ⟨second, h.second_run, h.second_length⟩

/-! ### What a match moves over -/

theorem apply_postal_of_ahead {first gap second : Text}
    (h : PostalAhead (text.remaining cursor.offset) first gap second rest) (form : Form) :
    (Rule.postal form).apply text cursor =
      Rule.movedOver form cursor (first ++ gap ++ second) := by
  have hleft := (leaves_postal (.ofCursor text cursor)).trans
    (afterPostal_eq_some_iff.2 ⟨first, gap, second, h⟩)
  obtain ⟨⟨found, next⟩, hread, hrest⟩ := Option.map_eq_some_iff.1 hleft
  obtain ⟨run, hrun⟩ := advances_postal hread
  have hlead : (Site.ofCursor text cursor).LeadsBy run next := hrun
  have hrun : run = first ++ gap ++ second := by
    refine List.append_cancel_right (hlead.rest_eq.symm.trans (h.split.trans ?_))
    rw [← hrest]
  rw [hrun] at hlead
  exact Rule.report_of_some hread hlead h.ne_nil form

theorem apply_postal_of_not_ahead
    (h : ¬ ∃ first gap second rest,
      PostalAhead (text.remaining cursor.offset) first gap second rest) (form : Form) :
    (Rule.postal form).apply text cursor = Rule.movedOver form cursor [] := by
  have hnone : postal (.ofCursor text cursor) = none := by
    rw [← Option.map_eq_none_iff, leaves_postal, Option.eq_none_iff_forall_ne_some]
    intro rest hrest
    obtain ⟨first, gap, second, hahead⟩ := afterPostal_eq_some_iff.1 hrest
    exact h ⟨first, gap, second, rest, hahead⟩
  exact Rule.report_of_none hnone form

theorem apply_postal_test_iff :
    ((Rule.postal .test).apply text cursor).1 = .verdict true ↔
      ∃ first gap second rest,
        PostalAhead (text.remaining cursor.offset) first gap second rest := by
  by_cases hahead : ∃ first gap second rest,
      PostalAhead (text.remaining cursor.offset) first gap second rest
  · refine iff_of_true ?_ hahead
    obtain ⟨first, gap, second, rest, h⟩ := hahead
    rw [apply_postal_of_ahead h, Rule.movedOver_test h.ne_nil]
  · refine iff_of_false ?_ hahead
    rw [apply_postal_of_not_ahead hahead]
    exact Rule.movedOver_test_iff.not.2 (not_not_intro rfl)

/-- A cursor at the same offset moves alike, whatever else it holds. -/
theorem apply_postal_of_offset_eq {other : Cursor} (h : other.offset = cursor.offset) :
    ((Rule.postal .test).apply text other).1 = ((Rule.postal .test).apply text cursor).1 ∧
      ((Rule.postal .test).apply text other).2.offset =
        ((Rule.postal .test).apply text cursor).2.offset := by
  by_cases hahead : ∃ first gap second rest,
      PostalAhead (text.remaining cursor.offset) first gap second rest
  · obtain ⟨first, gap, second, rest, hahead⟩ := hahead
    have hother := hahead
    rw [← h] at hother
    rw [apply_postal_of_ahead hahead, apply_postal_of_ahead hother,
      Rule.movedOver_test hahead.ne_nil, Rule.movedOver_test hahead.ne_nil, Cursor.past,
      Cursor.past, h]
    exact ⟨rfl, rfl⟩
  · have hother := hahead
    rw [← h] at hother
    rw [apply_postal_of_not_ahead hahead, apply_postal_of_not_ahead hother]
    exact ⟨rfl, h⟩

/-! ### Judging by the size of moves -/

/-- Moves over letters and digits, and asks whether three characters were moved over. -/
def halfByMove (text : Text) (cursor : Cursor) : Option Cursor :=
  let tried := (Rule.run .test (.ofClass .letterOrDigit)).apply text cursor
  if tried.1.matched = true ∧ tried.2.moved = 3 then some tried.2 else none

def gapMove (text : Text) (cursor : Cursor) : Cursor :=
  ((Rule.run .test (.ofClass .whiteSpace)).apply text cursor).2

/-- Moves over half a code, the white space after it, and the other half. -/
def postalByMoves (text : Text) (cursor : Cursor) : Option Cursor :=
  (halfByMove text cursor).bind fun middle => halfByMove text (gapMove text middle)

theorem leads_halfByMove (h : halfByMove text cursor = some next) :
    (Site.ofCursor text cursor).Leads (.ofCursor text next) := by
  rw [halfByMove] at h
  split at h
  · rw [← Option.some.inj h]
    exact (Rule.sound _ text cursor).leads
  · contradiction

/-- Three characters were moved over exactly if the run of letters and digits has three. -/
theorem remaining_halfByMove (h : cursor.Counts (text.remaining cursor.offset)) :
    (halfByMove text cursor).map (fun next => text.remaining next.offset) =
      afterHalf (text.remaining cursor.offset) := by
  have hrun : (Probe.ofClass .letterOrDigit).run (text.remaining cursor.offset) =
      (text.remaining cursor.offset).takeWhile isLetterOrDigit :=
    Probe.run_char ..
  rw [halfByMove, Rule.apply_run, hrun, afterHalf]
  by_cases hnil : (text.remaining cursor.offset).takeWhile isLetterOrDigit = []
  · rw [hnil]
    rfl
  · have hprefix : (text.remaining cursor.offset).takeWhile isLetterOrDigit <+:
        text.remaining cursor.offset := List.takeWhile_prefix _
    have hrest := Text.remaining_add hprefix
    rw [Scanner.drop_length_takeWhile] at hrest
    -- The size of the move is a word of 64 bits; it is small because nothing wraps.
    have hmoved : (cursor.past ((text.remaining cursor.offset).takeWhile
        isLetterOrDigit)).moved = 3 ↔
          ((text.remaining cursor.offset).takeWhile isLetterOrDigit).length = 3 := by
      rw [← UInt64.toNat_inj, (h.of_length_le hprefix.length_le).moved_past]
      rfl
    rw [Rule.movedOver_test hnil]
    simp only [Answer.matched, true_and, hmoved]
    split
    · exact congrArg some hrest
    · rfl

theorem remaining_gapMove (text : Text) (cursor : Cursor) :
    text.remaining (gapMove text cursor).offset =
      (text.remaining cursor.offset).dropWhile isWhiteSpace := by
  have hrest := ((Scanner.leaves_run isWhiteSpace).test_spec
    (Scanner.consumes_run _) text cursor).2
  rw [Text.getD_afterRun] at hrest
  exact hrest

theorem leads_gapMove (text : Text) (cursor : Cursor) :
    (Site.ofCursor text cursor).Leads (.ofCursor text (gapMove text cursor)) :=
  (Rule.sound _ text cursor).leads

theorem leads_postalByMoves (h : postalByMoves text cursor = some last) :
    (Site.ofCursor text cursor).Leads (.ofCursor text last) := by
  obtain ⟨middle, hfirst, hsecond⟩ := Option.bind_eq_some_iff.1 h
  exact ((leads_halfByMove hfirst).trans (leads_gapMove text middle)).trans
    (leads_halfByMove hsecond)

theorem remaining_postalByMoves (h : cursor.Counts (text.remaining cursor.offset)) :
    (postalByMoves text cursor).map (fun last => text.remaining last.offset) =
      afterPostal (text.remaining cursor.offset) := by
  rw [postalByMoves, afterPostal, ← remaining_halfByMove h]
  cases hmiddle : halfByMove text cursor with
  | none => rfl
  | some middle =>
      have hgap := (leads_halfByMove hmiddle).trans (leads_gapMove text middle)
      rw [Option.bind_some, remaining_halfByMove (h.of_leads hgap), remaining_gapMove]
      rfl

/-- Moves that add up to a postal code end past it. -/
theorem moveTo?_of_postalByMoves (hcounts : cursor.Counts (text.remaining cursor.offset))
    (h : postalByMoves text cursor = some last) :
    ∃ first gap second rest,
      PostalAhead (text.remaining cursor.offset) first gap second rest ∧
        cursor.moveTo? last = some (cursor.past (first ++ gap ++ second)) := by
  have hrest := remaining_postalByMoves hcounts
  rw [h] at hrest
  obtain ⟨first, gap, second, hahead⟩ := afterPostal_eq_some_iff.1 hrest.symm
  refine ⟨first, gap, second, _, hahead, ?_⟩
  -- The moves went over some run, and what they left tells which one.
  obtain ⟨run, hrun⟩ := leads_postalByMoves h
  have hlead : (Site.ofCursor text cursor).LeadsBy run (.ofCursor text last) := hrun
  have hsame : run = first ++ gap ++ second :=
    List.append_cancel_right (hlead.rest_eq.symm.trans hahead.split)
  rw [hsame] at hlead
  exact Cursor.moveTo?_of_leadsBy hlead hahead.ne_nil

/-- The moves are made, and end where the postal code ends, exactly if there is one. -/
theorem apply_postal_eq_moves (hcounts : cursor.Counts (text.remaining cursor.offset)) :
    (Rule.postal .test).apply text cursor =
      ((postalByMoves text cursor).bind cursor.moveTo?).elim (.verdict false, cursor)
        fun moved => (.verdict true, moved) := by
  cases hmoves : postalByMoves text cursor with
  | some last =>
      obtain ⟨first, gap, second, rest, hahead, hmove⟩ := moveTo?_of_postalByMoves hcounts hmoves
      rw [apply_postal_of_ahead hahead, Rule.movedOver_test hahead.ne_nil, Option.bind_some, hmove]
      rfl
  | none =>
      have hrest := remaining_postalByMoves hcounts
      rw [hmoves] at hrest
      refine apply_postal_of_not_ahead ?_ .test
      rintro ⟨first, gap, second, rest, hahead⟩
      have hsome := afterPostal_eq_some_iff.2 ⟨first, gap, second, hahead⟩
      exact absurd (hrest.trans hsome) (by simp)

end PostCode

open PostCode

/-- A postal code is found exactly where the run of letters and digits at the
cursor has three characters, and the run after it and after white space as
well.  These three parts are moved over.  Neither the outcome nor the place
where it ends depends on the index or on the last move of the cursor, and to
judge each half by the size of the move over it comes to the same unless the
index wraps around. -/
theorem postal_judged_by_runs (text : Text) (cursor : Cursor) :
    (((Rule.postal .test).apply text cursor).1 = .verdict true ↔
      ∃ first gap second rest,
        PostalAhead (text.remaining cursor.offset) first gap second rest) ∧
    (∀ first gap second rest,
      PostalAhead (text.remaining cursor.offset) first gap second rest →
      (Rule.postal .test).apply text cursor =
        (.verdict true, cursor.past (first ++ gap ++ second)) ∧
      (Rule.postal .capture).apply text cursor =
        (.span (some ⟨cursor.offset, first ++ gap ++ second⟩),
          cursor.past (first ++ gap ++ second))) ∧
    (∀ index moved,
      ((Rule.postal .test).apply text ⟨cursor.offset, index, moved⟩).1 =
        ((Rule.postal .test).apply text cursor).1 ∧
      ((Rule.postal .test).apply text ⟨cursor.offset, index, moved⟩).2.offset =
        ((Rule.postal .test).apply text cursor).2.offset) ∧
    (cursor.Counts text →
      (Rule.postal .test).apply text cursor =
        ((postalByMoves text cursor).bind cursor.moveTo?).elim (.verdict false, cursor)
          fun moved => (.verdict true, moved)) := by
  refine ⟨apply_postal_test_iff, ?_, fun _ _ => apply_postal_of_offset_eq rfl,
    fun hcounts => apply_postal_eq_moves (hcounts.of_isPrefix List.prefix_rfl)⟩
  intro first gap second rest hahead
  rw [apply_postal_of_ahead hahead, apply_postal_of_ahead hahead]
  exact ⟨Rule.movedOver_test hahead.ne_nil, Rule.movedOver_capture hahead.ne_nil⟩

/-- Two halves with letters of two bytes, a gap of two bytes, and a cursor that
holds three moved characters from before. -/
theorem two_byte_halves_judged :
    PostalAhead "Ä1Ö\u00A01é1!".toList "Ä1Ö".toList ['\u00A0'] "1é1".toList ['!'] ∧
      (Rule.postal .capture).apply "é Ä1Ö\u00A01é1!".toList ⟨3, 9, 3⟩ =
        (.span (some ⟨3, "Ä1Ö\u00A01é1".toList⟩), ⟨14, 16, 7⟩) ∧
      ((Rule.postal .test).apply "é Ä1Ö\u00A01é1!".toList ⟨3, 0, 0⟩).1 = .verdict true ∧
      Cursor.Counts ⟨3, 9, 3⟩ "é Ä1Ö\u00A01é1!".toList ∧
      ((postalByMoves "é Ä1Ö\u00A01é1!".toList ⟨3, 9, 3⟩).bind (Cursor.moveTo? ⟨3, 9, 3⟩)).elim
          (Answer.verdict false, ⟨3, 9, 3⟩) (fun moved => (.verdict true, moved)) =
        (.verdict true, ⟨14, 16, 7⟩) := by
  have hahead : PostalAhead "Ä1Ö\u00A01é1!".toList "Ä1Ö".toList ['\u00A0'] "1é1".toList ['!'] :=
    ⟨longest_run_iff.2 (by decide +kernel), rfl, longest_run_iff.2 (by decide +kernel),
      longest_run_iff.2 (by decide +kernel), rfl⟩
  have hrest : Text.remaining "é Ä1Ö\u00A01é1!".toList 3 = "Ä1Ö\u00A01é1!".toList := by
    decide +kernel
  have hcounts : Cursor.Counts ⟨3, 9, 3⟩ "é Ä1Ö\u00A01é1!".toList := by decide
  have hpast : Cursor.past ⟨3, 9, 3⟩ ("Ä1Ö".toList ++ ['\u00A0'] ++ "1é1".toList) =
      ⟨14, 16, 7⟩ := by
    decide +kernel
  obtain ⟨-, hread, hindex, hmoves⟩ := postal_judged_by_runs "é Ä1Ö\u00A01é1!".toList ⟨3, 9, 3⟩
  rw [hrest] at hread
  obtain ⟨htest, hcapture⟩ := hread _ _ _ _ hahead
  rw [hpast] at htest hcapture
  refine ⟨hahead, hcapture, ?_, hcounts, (hmoves hcounts).symm.trans htest⟩
  rw [(hindex 0 0).1, htest]

end TextScan
