import TextScan.Proofs.Forms

/-!
# Moves over a run

The recognisers of runs and of words differ only in the run that they find at
the front of what remains.  Each of them moves over its run and refuses where
the run is empty.  Moves of this kind can be made one after the other until
none is left.  From every cursor this comes to an end, since each move leaves
less, and what the moves found is all the text on the way.
-/

namespace TextScan

/-! ### Recognisers that move over a run -/

namespace Rule

variable {text found : Text} {cursor next : Cursor} {span : Span}

theorem report_of_advance {scanner : Scanner Span}
    (hread : scanner (.ofCursor text cursor) = Scanner.advance found (.ofCursor text cursor))
    (hfound : found <+: text.remaining cursor.offset) (form : Form) :
    report form scanner text cursor = movedOver form cursor found := by
  by_cases hne : found = []
  · rw [hne] at hread ⊢
    exact report_of_none hread form
  · have hsome := hread.trans (Scanner.advance_eq_some_iff.2 ⟨hne, rfl, rfl⟩)
    exact report_of_some hsome ⟨hfound, rfl⟩ hne form

theorem apply_run (form : Form) (probe : Probe) (text : Text) (cursor : Cursor) :
    (run form probe).apply text cursor =
      movedOver form cursor (probe.run (text.remaining cursor.offset)) :=
  report_of_advance rfl (probe.run_isPrefix _) form

theorem apply_word (form : Form) (mode : CaseMode) (spelling text : Text) (cursor : Cursor) :
    (word form mode spelling).apply text cursor =
      movedOver form cursor
        ((Text.spelled? mode spelling (text.remaining cursor.offset)).getD []) := by
  cases hfound : Text.spelled? mode spelling (text.remaining cursor.offset) with
  | none =>
      refine report_of_advance ?_ List.nil_prefix form
      rw [Scanner.word, Site.ofCursor, hfound]
      rfl
  | some found =>
      refine report_of_advance ?_ (Text.spelled?_isPrefix hfound) form
      rw [Scanner.word, Site.ofCursor, hfound]

/-- The rule takes the span and leaves the cursor after it. -/
def Takes (rule : Rule) (text : Text) (cursor : Cursor) (span : Span) (next : Cursor) : Prop :=
  rule.apply text cursor = (.span (some span), next)

instance (rule : Rule) (text : Text) (cursor : Cursor) (span : Span) (next : Cursor) :
    Decidable (rule.Takes text cursor span next) :=
  inferInstanceAs (Decidable (rule.apply text cursor = (.span (some span), next)))

theorem takes_iff {rule : Rule} (h : rule.apply text cursor = movedOver .capture cursor found) :
    rule.Takes text cursor span next ↔
      found ≠ [] ∧ span = ⟨cursor.offset, found⟩ ∧ next = cursor.past found := by
  rw [Takes, h, movedOver]
  by_cases hne : found = []
  · simp [hne]
  · simp [hne, eq_comm]

theorem takes_run_iff {probe : Probe} :
    (Rule.run .capture probe).Takes text cursor span next ↔
      probe.run (text.remaining cursor.offset) ≠ [] ∧
        span = ⟨cursor.offset, probe.run (text.remaining cursor.offset)⟩ ∧
        next = cursor.past (probe.run (text.remaining cursor.offset)) :=
  takes_iff (apply_run ..)

theorem Takes.unique {rule : Rule} {other : Span} {stop : Cursor}
    (h : rule.Takes text cursor span next) (hother : rule.Takes text cursor other stop) :
    span = other ∧ next = stop := by
  have heq := h.symm.trans hother
  simpa using heq

end Rule

/-- A run is read where the rule takes it. -/
theorem Scanner.run_ofCursor_iff {probe : Probe} {text : Text} {cursor : Cursor} {span : Span}
    {site : Site} :
    run probe (.ofCursor text cursor) = some (span, site) ↔
      ∃ next, (Rule.run .capture probe).Takes text cursor span next ∧
        site = .ofCursor text next := by
  have hpast := Site.ofCursor_past (probe.run_isPrefix (text.remaining cursor.offset))
  rw [run, advance_eq_some_iff]
  constructor
  · rintro ⟨hne, rfl, rfl⟩
    exact ⟨_, Rule.takes_run_iff.2 ⟨hne, rfl, rfl⟩, hpast.symm⟩
  · rintro ⟨next, htakes, rfl⟩
    obtain ⟨hne, rfl, rfl⟩ := Rule.takes_run_iff.1 htakes
    exact ⟨hne, rfl, hpast.symm⟩

theorem Scanner.run_ofCursor_eq_none_iff {probe : Probe} {text : Text} {cursor : Cursor} :
    run probe (.ofCursor text cursor) = none ↔
      ∀ span next, ¬ (Rule.run .capture probe).Takes text cursor span next := by
  rw [Option.eq_none_iff_forall_ne_some]
  constructor
  · intro h span next htakes
    exact h _ (run_ofCursor_iff.2 ⟨next, htakes, rfl⟩)
  · rintro h ⟨span, site⟩ hread
    obtain ⟨next, htakes, -⟩ := run_ofCursor_iff.1 hread
    exact h span next htakes

/-! ### Moves until none is left -/

variable {α : Type}

/-- Moves are made from the cursor until none can be made: what each of them
found, and where the last one ended. -/
inductive Exhausts (move : Cursor → α → Cursor → Prop) : Cursor → List α → Cursor → Prop
  | done {cursor : Cursor} (hnone : ∀ found next, ¬ move cursor found next) :
      Exhausts move cursor [] cursor
  | step {cursor next last : Cursor} {found : α} {others : List α}
      (hmove : move cursor found next) (hothers : Exhausts move next others last) :
      Exhausts move cursor (found :: others) last

/-- Each move goes over what it found, which is not empty. -/
def MovesOver (text : Text) (written : α → Text) (move : Cursor → α → Cursor → Prop) : Prop :=
  ∀ ⦃cursor found next⦄, move cursor found next →
    written found ≠ [] ∧
      (Site.ofCursor text cursor).LeadsBy (written found) (.ofCursor text next)

section MovesOver

variable {text : Text} {written : α → Text} {move : Cursor → α → Cursor → Prop}

theorem MovesOver.length_lt (h : MovesOver text written move) {cursor next : Cursor} {found : α}
    (hmove : move cursor found next) :
    (Site.ofCursor text next).rest.length < (Site.ofCursor text cursor).rest.length := by
  obtain ⟨hne, hrun, hnext⟩ := h hmove
  exact Site.LeadsOn.length_lt ⟨_, hne, hrun, hnext⟩

/-- No move is left after finitely many, since each leaves less of the text. -/
theorem MovesOver.exists_exhausts (h : MovesOver text written move) (cursor : Cursor) :
    ∃ found last, Exhausts move cursor found last := by
  induction hlength : (Site.ofCursor text cursor).rest.length using Nat.strong_induction_on
    generalizing cursor with
  | _ length ih =>
      by_cases hmove : ∃ found next, move cursor found next
      · obtain ⟨found, next, hmove⟩ := hmove
        obtain ⟨others, last, hothers⟩ := ih _ (hlength ▸ h.length_lt hmove) next rfl
        exact ⟨found :: others, last, .step hmove hothers⟩
      · simp only [not_exists] at hmove
        exact ⟨[], cursor, .done hmove⟩

theorem movesOver_run (probe : Probe) (text : Text) :
    MovesOver text Span.text ((Rule.run .capture probe).Takes text) := by
  intro cursor span next htakes
  obtain ⟨hne, rfl, rfl⟩ := Rule.takes_run_iff.1 htakes
  have hrun := probe.run_isPrefix (text.remaining cursor.offset)
  exact ⟨hne, hrun, Site.ofCursor_past hrun⟩

variable {cursor last : Cursor} {found : List α}

/-- What was found is all the text on the way. -/
theorem Exhausts.leadsBy (h : Exhausts move cursor found last)
    (hmoves : MovesOver text written move) :
    (Site.ofCursor text cursor).LeadsBy (found.flatMap written) (.ofCursor text last) := by
  induction h with
  | done hnone => exact Site.leadsBy_nil_iff.2 rfl
  | step hmove hothers ih =>
      rw [List.flatMap_cons]
      exact (hmoves hmove).2.trans ih

/-- One move over all of it ends where the last move ended. -/
theorem Exhausts.past_eq (h : Exhausts move cursor found last)
    (hmoves : MovesOver text written move) :
    cursor.past (found.flatMap written) =
      ⟨last.offset, last.index, Cursor.distance cursor.index last.index⟩ := by
  obtain ⟨-, hlast⟩ := h.leadsBy hmoves
  obtain ⟨hoffset, hindex, -⟩ := Site.mk.inj hlast
  rw [Cursor.past, hoffset, hindex]
  rfl

theorem Exhausts.exists_move (h : Exhausts move cursor found last) {value : α}
    (hvalue : value ∈ found) : ∃ before after, move before value after := by
  induction h with
  | done hnone => contradiction
  | step hmove hothers ih =>
      rcases List.mem_cons.1 hvalue with rfl | hmem
      · exact ⟨_, _, hmove⟩
      · exact ih hmem

theorem Exhausts.not_move (h : Exhausts move cursor found last) (value : α) (next : Cursor) :
    ¬ move last value next := by
  induction h with
  | done hnone => exact hnone value next
  | step hmove hothers ih => exact ih

/-- Where no two moves can be made from one cursor, they end in one way. -/
theorem Exhausts.unique {others : List α} {stop : Cursor} (h : Exhausts move cursor found last)
    (hothers : Exhausts move cursor others stop)
    (hmove : ∀ {cursor found next other stop}, move cursor found next → move cursor other stop →
      found = other ∧ next = stop) : found = others ∧ last = stop := by
  induction h generalizing others with
  | done hnone =>
      cases hothers with
      | done => exact ⟨rfl, rfl⟩
      | step hfirst hlater => exact absurd hfirst (hnone _ _)
  | step hfirst hlater ih =>
      cases hothers with
      | done hnone => exact absurd hfirst (hnone _ _)
      | step hother hmore =>
          obtain ⟨rfl, rfl⟩ := hmove hfirst hother
          obtain ⟨rfl, rfl⟩ := ih hmore
          exact ⟨rfl, rfl⟩

end MovesOver

end TextScan
