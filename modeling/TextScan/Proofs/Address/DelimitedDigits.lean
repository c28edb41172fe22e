import TextScan.Proofs.Moves

/-!
# Delimited digits

Groups of digits with delimiters are read in turns: a turn takes a run of
digits or, where there is none, a run of delimiters.  Each turn leaves less of
the text, so the turns come to an end whatever the delimiters are.  They end
where neither a digit nor a delimiter is ahead, and so together they go over the
longest beginning of digits and delimiters.

The groups are what the turns with digits took.  If no delimiter is a digit
these are the runs of digits in that beginning.  A digit among the delimiters
can end up inside a run of them and is then no part of a group.
-/

namespace TextScan

open Grammar

namespace Telephone

inductive Turn where
  | group (digits : Span)
  /-- What stands in front of a group or after it. -/
  | gap (between : Span)

namespace Turn

def text : Turn → Text
  | group digits => digits.text
  | gap between => between.text

def group? : Turn → Option Span
  | group digits => some digits
  | gap _ => none

def groups (turns : List Turn) : List Span :=
  turns.filterMap group?

/-- A turn takes a run of digits or, where there is none, a run of delimiters. -/
inductive Made (delimiters text : Text) : Cursor → Turn → Cursor → Prop
  | group {cursor next : Cursor} {digits : Span}
      (hdigits : (Rule.run .capture (.ofClass .digit)).Takes text cursor digits next) :
      Made delimiters text cursor (.group digits) next
  | gap {cursor next : Cursor} {between : Span}
      (hnone : ∀ digits other,
        ¬ (Rule.run .capture (.ofClass .digit)).Takes text cursor digits other)
      (hgap : (Rule.run .capture (.oneOf delimiters)).Takes text cursor between next) :
      Made delimiters text cursor (.gap between) next

end Turn

variable {delimiters text : Text} {cursor next last : Cursor} {turn : Turn} {turns : List Turn}

/-! ### One turn -/

theorem movesOver_made (delimiters text : Text) :
    MovesOver text Turn.text (Turn.Made delimiters text) := by
  intro cursor turn next hmade
  cases hmade with
  | group hdigits => exact movesOver_run _ text hdigits
  | gap hnone hgap => exact movesOver_run _ text hgap

/-- There is at most one turn to make. -/
theorem Turn.Made.unique {other : Turn} {stop : Cursor}
    (h : Turn.Made delimiters text cursor turn next)
    (hother : Turn.Made delimiters text cursor other stop) : turn = other ∧ next = stop := by
  cases h with
  | group hdigits =>
      cases hother with
      | group hlater =>
          obtain ⟨rfl, rfl⟩ := hdigits.unique hlater
          exact ⟨rfl, rfl⟩
      | gap hnone hgap => exact absurd hdigits (hnone _ _)
  | gap hnone hgap =>
      cases hother with
      | group hlater => exact absurd hlater (hnone _ _)
      | gap _ hlater =>
          obtain ⟨rfl, rfl⟩ := hgap.unique hlater
          exact ⟨rfl, rfl⟩

/-- A turn goes over digits and delimiters only. -/
theorem Turn.Made.inGroups (h : Turn.Made delimiters text cursor turn next) :
    ∀ c ∈ turn.text, inGroups delimiters c = true := by
  cases h with
  | group hdigits =>
      obtain ⟨-, rfl, -⟩ := Rule.takes_run_iff.1 hdigits
      intro c hc
      rw [Turn.text, Probe.ofClass, Probe.run_char] at hc
      exact inGroups_iff.2 (.inl (List.mem_takeWhile_imp hc))
  | gap hnone hgap =>
      obtain ⟨-, rfl, -⟩ := Rule.takes_run_iff.1 hgap
      intro c hc
      rw [Turn.text, Probe.oneOf, Probe.run_char] at hc
      exact inGroups_iff.2 (.inr (Probe.among_iff.1 (List.mem_takeWhile_imp hc)))

/-- No turn is left where there are neither digits nor delimiters. -/
theorem not_made_iff :
    (∀ turn next, ¬ Turn.Made delimiters text cursor turn next) ↔
      Scanner.run (.ofClass .digit) (.ofCursor text cursor) = none ∧
        Scanner.run (.oneOf delimiters) (.ofCursor text cursor) = none := by
  rw [Scanner.run_ofCursor_eq_none_iff, Scanner.run_ofCursor_eq_none_iff]
  constructor
  · intro h
    have hdigits : ∀ digits next,
        ¬ (Rule.run .capture (.ofClass .digit)).Takes text cursor digits next :=
      fun digits next htakes => h (.group digits) next (.group htakes)
    exact ⟨hdigits, fun between next htakes => h (.gap between) next (.gap hdigits htakes)⟩
  · rintro ⟨hdigits, hgap⟩ turn next hmade
    cases hmade with
    | group htakes => exact hdigits _ _ htakes
    | gap _ htakes => exact hgap _ _ htakes

/-! ### All turns -/

/-- With fuel for every character the loop makes all turns. -/
theorem groupsWithin_of_exhausts {fuel : Nat}
    (h : Exhausts (Turn.Made delimiters text) cursor turns last)
    (hfuel : (Site.ofCursor text cursor).rest.length ≤ fuel) :
    groupsWithin delimiters fuel (.ofCursor text cursor) =
      (Turn.groups turns, .ofCursor text last) := by
  induction h generalizing fuel with
  | done hnone =>
      obtain ⟨hdigits, hgap⟩ := not_made_iff.1 hnone
      cases fuel with
      | zero => rfl
      | succ fuel =>
          rw [groupsWithin, hdigits]
          dsimp only
          rw [hgap]
          rfl
  | @step cursor next last turn others hmade hothers ih =>
      have hlt := (movesOver_made delimiters text).length_lt hmade
      obtain ⟨fuel, rfl⟩ := Nat.exists_eq_add_one_of_ne_zero (show fuel ≠ 0 by omega)
      rw [groupsWithin]
      cases hmade with
      | group hdigits =>
          rw [Scanner.run_ofCursor_iff.2 ⟨next, hdigits, rfl⟩]
          dsimp only
          rw [ih (by omega)]
          rfl
      | gap hnone hgap =>
          rw [Scanner.run_ofCursor_eq_none_iff.2 hnone]
          dsimp only
          rw [Scanner.run_ofCursor_iff.2 ⟨next, hgap, rfl⟩]
          exact ih (by omega)

theorem delimitedDigits_of_exhausts
    (h : Exhausts (Turn.Made delimiters text) cursor turns last) :
    delimitedDigits delimiters (.ofCursor text cursor) =
      if Turn.groups turns = [] then none
      else some (Turn.groups turns, .ofCursor text last) := by
  rw [delimitedDigits, groupsWithin_of_exhausts h (Nat.le_refl _)]
  simp only [List.isEmpty_iff]

/-- The turns go over digits and delimiters as far as there are any. -/
theorem takeWhile_of_exhausts (h : Exhausts (Turn.Made delimiters text) cursor turns last) :
    (text.remaining cursor.offset).takeWhile (inGroups delimiters) = turns.flatMap Turn.text ∧
      (text.remaining cursor.offset).dropWhile (inGroups delimiters) =
        text.remaining last.offset := by
  have hsplit : text.remaining cursor.offset =
      turns.flatMap Turn.text ++ text.remaining last.offset :=
    (h.leadsBy (movesOver_made delimiters text)).rest_eq
  have hgroups : ∀ c ∈ turns.flatMap Turn.text, inGroups delimiters c = true := by
    intro c hc
    obtain ⟨turn, hturn, hmem⟩ := List.mem_flatMap.1 hc
    obtain ⟨before, after, hmade⟩ := h.exists_move hturn
    exact hmade.inGroups c hmem
  have hstops : (Site.ofCursor text last).Stops (inGroups delimiters) := by
    obtain ⟨hdigits, hgap⟩ := not_made_iff.1 h.not_move
    exact stops_inGroups (Scanner.stops_of_run_eq_none hdigits)
      (Scanner.stops_of_run_eq_none hgap)
  rw [hsplit]
  exact Text.takeWhile_append_of_stops hgroups hstops

theorem longest_of_exhausts (h : Exhausts (Turn.Made delimiters text) cursor turns last) :
    Longest (Delimited delimiters) (text.remaining cursor.offset) (turns.flatMap Turn.text)
      (text.remaining last.offset) := by
  have hform : Delimited delimiters = fun run => ∀ c ∈ run, inGroups delimiters c = true :=
    funext fun run => propext delimited_iff
  rw [hform]
  exact longest_run_iff.2 (takeWhile_of_exhausts h)

section Free

variable (hfree : ∀ c ∈ delimiters, isDigit c = false)
include hfree

/-- The groups are the runs of digits in all that the turns go over. -/
theorem runs_of_exhausts (h : Exhausts (Turn.Made delimiters text) cursor turns last) :
    Span.Runs ⟨cursor.offset, turns.flatMap Turn.text⟩ isDigit (Turn.groups turns) := by
  have hpasses := passes_groupsWithin hfree (Site.ofCursor text cursor).rest.length
    (.ofCursor text cursor)
  rw [groupsWithin_of_exhausts h (Nat.le_refl _)] at hpasses
  obtain ⟨written, hlead, hruns, -⟩ := hpasses
  rw [(h.leadsBy (movesOver_made delimiters text)).unique hlead]
  exact hruns

theorem groups_ne_nil_iff (h : Exhausts (Turn.Made delimiters text) cursor turns last) :
    Turn.groups turns ≠ [] ↔ ∃ c ∈ turns.flatMap Turn.text, isDigit c = true := by
  have hfuel := Nat.le_refl (Site.ofCursor text cursor).rest.length
  have htake : (Site.ofCursor text cursor).rest.takeWhile (inGroups delimiters) =
      turns.flatMap Turn.text := (takeWhile_of_exhausts h).1
  have hnone := (groupsWithin_spec hfree hfuel).2
  rw [groupsWithin_of_exhausts h hfuel, htake] at hnone
  rw [Ne, hnone]
  simp only [not_forall, Bool.not_eq_false, exists_prop]

end Free

/-! ### What the rules answer -/

theorem apply_delimitedDigits_of_exhausts
    (h : Exhausts (Turn.Made delimiters text) cursor turns last) :
    (Rule.delimitedDigits .test delimiters).apply text cursor =
        (if Turn.groups turns = [] then (.verdict false, cursor)
          else (.verdict true, cursor.past (turns.flatMap Turn.text))) ∧
      (Rule.delimitedDigits .capture delimiters).apply text cursor =
        (if Turn.groups turns = [] then (.span none, cursor)
          else (.span (some ⟨cursor.offset, turns.flatMap Turn.text⟩),
            cursor.past (turns.flatMap Turn.text))) ∧
      (Rule.digitGroups delimiters).apply text cursor =
        (if Turn.groups turns = [] then (.spans none, cursor)
          else (.spans (some (Turn.groups turns)), cursor.past (turns.flatMap Turn.text))) := by
  have hread := delimitedDigits_of_exhausts h
  have hlead := h.leadsBy (movesOver_made delimiters text)
  by_cases hnil : Turn.groups turns = []
  · rw [if_pos hnil] at hread
    simp only [if_pos hnil]
    refine ⟨Rule.report_of_none hread .test, ?_, ?_⟩
    · rw [Rule.apply_delimitedDigits, Rule.report_of_none hread]
      rfl
    · rw [Rule.apply, Scanner.value, hread]
      rfl
  · rw [if_neg hnil] at hread
    simp only [if_neg hnil]
    have hne : turns.flatMap Turn.text ≠ [] := by
      obtain ⟨run, hne, hrun⟩ := consumes_delimitedDigits delimiters hread
      rwa [hlead.unique hrun]
    obtain ⟨-, -, hvalue⟩ := Scanner.forms_of_read hread hlead hne
    refine ⟨?_, ?_, ?_⟩
    · exact (Rule.report_of_some hread hlead hne .test).trans (Rule.movedOver_test hne)
    · rw [Rule.apply_delimitedDigits, Rule.report_of_some hread hlead hne,
        Rule.movedOver_capture hne]
    · rw [Rule.apply, hvalue]
      rfl

/-- Whatever the delimiters are, turns can be made in one way until none is
left, and they go over the longest beginning of digits and delimiters.  This is
what is consumed and captured if one of the turns found a group, and the groups
are returned.  If no delimiter is a digit they are the runs of digits in it, so
it is consumed exactly if it has a digit. -/
theorem delimited_digits_span_longest (delimiters text : Text) (cursor : Cursor) :
    ∃ whole turns last,
      (∀ others stop, Exhausts (Turn.Made delimiters text) cursor others stop ↔
        others = turns ∧ stop = last) ∧
      Longest (Delimited delimiters) (text.remaining cursor.offset) whole
        (text.remaining last.offset) ∧
      (Rule.delimitedDigits .test delimiters).apply text cursor =
        (if Turn.groups turns = [] then (.verdict false, cursor)
          else (.verdict true, cursor.past whole)) ∧
      (Rule.delimitedDigits .capture delimiters).apply text cursor =
        (if Turn.groups turns = [] then (.span none, cursor)
          else (.span (some ⟨cursor.offset, whole⟩), cursor.past whole)) ∧
      (Rule.digitGroups delimiters).apply text cursor =
        (if Turn.groups turns = [] then (.spans none, cursor)
          else (.spans (some (Turn.groups turns)), cursor.past whole)) ∧
      ((∀ c ∈ delimiters, isDigit c = false) →
        (((Rule.delimitedDigits .test delimiters).apply text cursor).1 = .verdict true ↔
          ∃ c ∈ whole, isDigit c = true) ∧
        Span.Runs ⟨cursor.offset, whole⟩ isDigit (Turn.groups turns)) := by
  obtain ⟨turns, last, h⟩ := (movesOver_made delimiters text).exists_exhausts cursor
  obtain ⟨htest, hcapture, hgroups⟩ := apply_delimitedDigits_of_exhausts h
  refine ⟨turns.flatMap Turn.text, turns, last, ?_, longest_of_exhausts h, htest, hcapture,
    hgroups, fun hfree => ⟨?_, runs_of_exhausts hfree h⟩⟩
  · intro others stop
    constructor
    · exact fun hothers => hothers.unique h Turn.Made.unique
    · rintro ⟨rfl, rfl⟩
      exact h
  · rw [← groups_ne_nil_iff hfree h, htest]
    by_cases hnil : Turn.groups turns = []
    · simp [hnil]
    · simp [hnil]

/-- Three groups, the last of them an Arabic digit of two bytes, with a
delimiter in front. -/
theorem dotted_groups_span_longest :
    (∀ c ∈ ['.', '-'], isDigit c = false) ∧
      (Rule.digitGroups ['.', '-']).apply "é-10.20-٣;1".toList ⟨2, 1, 0⟩ =
        (.spans (some [⟨3, "10".toList⟩, ⟨6, "20".toList⟩, ⟨9, "٣".toList⟩]), ⟨11, 9, 8⟩) ∧
      Span.Runs ⟨2, "-10.20-٣".toList⟩ isDigit
        [⟨3, "10".toList⟩, ⟨6, "20".toList⟩, ⟨9, "٣".toList⟩] := by
  have hfree : ∀ c ∈ ['.', '-'], isDigit c = false := by
    intro c hc
    rcases List.mem_pair.1 hc with rfl | rfl
    · decide
    · decide
  have hread : (Rule.digitGroups ['.', '-']).apply "é-10.20-٣;1".toList ⟨2, 1, 0⟩ =
      (.spans (some [⟨3, "10".toList⟩, ⟨6, "20".toList⟩, ⟨9, "٣".toList⟩]), ⟨11, 9, 8⟩) := by
    decide +kernel
  have htaken : (Rule.delimitedDigits .capture ['.', '-']).apply "é-10.20-٣;1".toList ⟨2, 1, 0⟩ =
      (.span (some ⟨2, "-10.20-٣".toList⟩), ⟨11, 9, 8⟩) := by
    decide +kernel
  obtain ⟨whole, turns, last, -, -, -, hcapture, hgroups, hruns⟩ :=
    delimited_digits_span_longest ['.', '-'] "é-10.20-٣;1".toList ⟨2, 1, 0⟩
  obtain ⟨-, hruns⟩ := hruns hfree
  rw [hread] at hgroups
  rw [htaken] at hcapture
  split at hgroups
  · simp at hgroups
  · rename_i hne
    rw [if_neg hne] at hcapture
    have hfound := Option.some.inj (Answer.spans.inj (Prod.mk.inj hgroups).1)
    have hspan := Option.some.inj (Answer.span.inj (Prod.mk.inj hcapture).1)
    rw [← hfound, ← hspan] at hruns
    exact ⟨hfree, hread, hruns⟩

/-- A digit among the delimiters is lost to a run of them. -/
example : (Rule.digitGroups [' ', '1']).apply "2 12".toList .start =
    (.spans (some [⟨0, ['2']⟩, ⟨3, ['2']⟩]), ⟨4, 4, 4⟩) := by
  decide +kernel

end Telephone

end TextScan
