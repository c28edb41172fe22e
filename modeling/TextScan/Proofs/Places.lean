import TextScan.Proofs.Extent

/-!
# Places in a text

A cursor names a place by its offset; a site holds what remains there.  Where a
run stands at the front of what remains, its two ends are boundaries of the
text and the run is the text between them.  So moving a cursor over the run
and leading the site of the cursor past it come to the same, and every form in
which a scanner is put to use is settled by the run that it reads.
-/

namespace TextScan

/-! ### Boundaries -/

namespace Text

/-- The offset stands between two characters, before the first or after the last. -/
def IsBoundary (text : Text) (offset : Nat) : Prop :=
  ∃ before after : Text, text = before ++ after ∧ before.byteSize = offset

theorem remaining_start (text : Text) : text.remaining Cursor.start.offset = text := by
  simp [Cursor.start, remaining, fromByte?]

theorem isBoundary_start (text : Text) : text.IsBoundary Cursor.start.offset :=
  ⟨[], text, rfl, rfl⟩

/-- What remains after a run is what remained before it, less the run. -/
theorem remaining_add {text run : Text} {offset : Nat} (hrun : run <+: text.remaining offset) :
    text.remaining (offset + run.byteSize) = (text.remaining offset).drop run.length := by
  by_cases hne : run = []
  · simp [hne, byteSize]
  · obtain ⟨tail, htail⟩ := hrun
    cases hrest : text.fromByte? offset with
    | none =>
        rw [remaining, hrest] at htail
        exact absurd (List.append_eq_nil_iff.1 htail).1 hne
    | some rest =>
        rw [remaining, hrest, Option.getD_some] at htail
        obtain ⟨before, rfl, rfl⟩ := fromByte?_eq_some_iff.1 hrest
        have hafter : (before ++ rest).fromByte? (before.byteSize + run.byteSize) =
            some tail :=
          fromByte?_eq_some_iff.2 ⟨before ++ run, by rw [← htail, List.append_assoc],
            byteSize_append before run⟩
        rw [remaining, remaining, hafter, hrest, ← htail]
        simp

theorem length_remaining_le (text : Text) (offset : Nat) :
    (text.remaining offset).length ≤ text.length := by
  cases hrest : text.fromByte? offset with
  | none => simp [remaining, hrest]
  | some rest =>
      obtain ⟨before, rfl, -⟩ := fromByte?_eq_some_iff.1 hrest
      simp [remaining, hrest]

/-- A slice is at the front of what remains at its start. -/
theorem remaining_of_slice {text : Text} {start stop : Nat} {span : Span}
    (h : text.slice start stop = some span) :
    span.text <+: text.remaining start ∧ start + span.text.byteSize = stop := by
  obtain ⟨before, after, rfl, hbefore, -, hstop⟩ := slice_eq_some_iff.1 h
  have hrest : (before ++ span.text ++ after).fromByte? start = some (span.text ++ after) :=
    fromByte?_eq_some_iff.2 ⟨before, by rw [List.append_assoc], hbefore⟩
  refine ⟨?_, by omega⟩
  rw [remaining, hrest]
  exact List.prefix_append ..

/-- What is at the front of what remains is a slice.  The empty run is left out: it may stand at
an offset that is no boundary, where nothing remains. -/
theorem slice_of_isPrefix {text run : Text} {start : Nat} (hne : run ≠ [])
    (h : run <+: text.remaining start) :
    text.slice start (start + run.byteSize) = some ⟨start, run⟩ := by
  obtain ⟨after, hafter⟩ := h
  cases hrest : text.fromByte? start with
  | none =>
      rw [remaining, hrest] at hafter
      exact absurd (List.append_eq_nil_iff.1 hafter).1 hne
  | some rest =>
      rw [remaining, hrest, Option.getD_some] at hafter
      obtain ⟨before, rfl, hbefore⟩ := fromByte?_eq_some_iff.1 hrest
      exact slice_eq_some_iff.2
        ⟨before, after, by rw [← hafter, List.append_assoc], hbefore, rfl, Nat.add_comm ..⟩

end Text

/-! ### Moves over a run -/

def Cursor.past (cursor : Cursor) (run : Text) : Cursor :=
  ⟨cursor.offset + run.byteSize, cursor.index + .ofNat run.length,
    distance cursor.index (cursor.index + .ofNat run.length)⟩

/-- Where the whole text can be counted, so can a run ahead of the cursor. -/
theorem Cursor.Counts.of_isPrefix {cursor : Cursor} {text run : Text} (h : cursor.Counts text)
    (hrun : run <+: text.remaining cursor.offset) : cursor.Counts run :=
  h.of_length_le (hrun.length_le.trans (text.length_remaining_le cursor.offset))

/-- The size of a move is the number of characters in the run, unless the count wraps. -/
theorem Cursor.Counts.moved_past {cursor : Cursor} {run : Text} (h : cursor.Counts run) :
    (cursor.past run).moved.toNat = run.length := by
  rw [past, h.distance_eq, h.toNat_length]

namespace Site

variable {text run other : Text} {cursor next : Cursor} {site middle : Site}

/-- Two sites leave no choice of the run between them. -/
theorem LeadsBy.unique (h : site.LeadsBy run middle) (hother : site.LeadsBy other middle) :
    run = other :=
  List.append_cancel_right (h.rest_eq.symm.trans hother.rest_eq)

/-- Moving a cursor and moving its site are the same. -/
theorem ofCursor_past (h : run <+: text.remaining cursor.offset) :
    ofCursor text (cursor.past run) = (ofCursor text cursor).past run := by
  rw [ofCursor, ofCursor, past, Cursor.past]
  dsimp only
  rw [Text.remaining_add h]

/-- What remains at a site that a cursor leads to remains there in the text. -/
theorem ofCursor_cursor (h : (ofCursor text cursor).Leads site) :
    ofCursor text site.cursor = site := by
  obtain ⟨run, hrun, rfl⟩ := h
  exact ofCursor_past hrun

/-- A run that leads away from a cursor is the text between the two offsets. -/
theorem LeadsBy.slice (h : (ofCursor text cursor).LeadsBy run site) (hne : run ≠ []) :
    text.slice cursor.offset site.offset = some ⟨cursor.offset, run⟩ := by
  rw [h.offset_eq]
  exact Text.slice_of_isPrefix hne h.1

end Site

namespace Cursor

variable {text run : Text} {cursor next moved : Cursor} {span : Span}

/-- Where the text is taken, the cursor moves as it does without. -/
theorem moveTo?_of_takeTo? (h : cursor.takeTo? text next = some (span, moved)) :
    cursor.moveTo? next = some moved := by
  rw [takeTo?] at h
  split at h
  · contradiction
  · obtain ⟨found, hfound, hpair⟩ := Option.map_eq_some_iff.1 h
    rw [hfound, (Prod.mk.inj hpair).2]

/-- The move to where a run leads is the move over the run.  How the other cursor got there does
not matter. -/
theorem moveTo?_of_leadsBy
    (h : (Site.ofCursor text cursor).LeadsBy run (.ofCursor text next)) (hne : run ≠ []) :
    cursor.moveTo? next = some (cursor.past run) := by
  obtain ⟨-, hnext⟩ := h
  obtain ⟨hoffset, hindex, -⟩ := Site.mk.inj hnext
  have hpos : run.byteSize ≠ 0 := fun hzero => hne (Text.byteSize_eq_zero_iff.1 hzero)
  simp only [Site.ofCursor] at hoffset hindex
  rw [moveTo?, if_neg (by omega), hoffset, hindex, past]

/-- Taking the text never fails where the move is over a run. -/
theorem takeTo?_of_leadsBy
    (h : (Site.ofCursor text cursor).LeadsBy run (.ofCursor text next)) (hne : run ≠ []) :
    cursor.takeTo? text next = some (⟨cursor.offset, run⟩, cursor.past run) := by
  have hslice : text.slice cursor.offset next.offset = some ⟨cursor.offset, run⟩ := h.slice hne
  rw [takeTo?, hslice, moveTo?_of_leadsBy h hne]
  rfl

/-- What remains further on in the text is counted without a wrap if all of it is. -/
theorem Counts.of_leads (h : cursor.Counts (text.remaining cursor.offset))
    (hleads : (Site.ofCursor text cursor).Leads (.ofCursor text next)) :
    next.Counts (text.remaining next.offset) := by
  obtain ⟨run, hrun, hnext⟩ := hleads
  have hlength : run.length ≤ (text.remaining cursor.offset).length := hrun.length_le
  obtain ⟨-, hindex, hrest⟩ := Site.mk.inj hnext
  simp only [Site.ofCursor] at hindex hrest
  rw [Counts, hindex, hrest, (h.of_length_le hlength).toNat_index, List.length_drop]
  rw [Counts] at h
  omega

/-- A cursor that stayed at its place cannot move there. -/
theorem moveTo?_eq_none (h : next.offset = cursor.offset) : cursor.moveTo? next = none :=
  if_pos h

end Cursor

/-! ### Scanners at a cursor -/

namespace Scanner

variable {α : Type} {scanner : Scanner α} {text run : Text} {cursor : Cursor} {next : Site}
  {found : α}

/-- Where a scanner fails, each of its forms does and the cursor stays. -/
theorem forms_of_none (hread : scanner (.ofCursor text cursor) = none) :
    scanner.test text cursor = (false, cursor) ∧
      scanner.capture text cursor = (none, cursor) ∧
      scanner.value text cursor = (none, cursor) := by
  rw [test, capture, value, hread]
  simp only [and_self]

/-- What a scanner reads at a cursor is the answer of each of its forms. -/
theorem forms_of_read (hread : scanner (.ofCursor text cursor) = some (found, next))
    (hrun : (Site.ofCursor text cursor).LeadsBy run next) (hne : run ≠ []) :
    scanner.test text cursor = (true, cursor.past run) ∧
      scanner.capture text cursor = (some ⟨cursor.offset, run⟩, cursor.past run) ∧
      scanner.value text cursor = (some found, cursor.past run) := by
  have hlead := hrun
  rw [← Site.ofCursor_cursor hrun.leads] at hlead
  have hmove := Cursor.moveTo?_of_leadsBy hlead hne
  have htake := Cursor.takeTo?_of_leadsBy hlead hne
  rw [test, capture, value, hread]
  simp only [hmove, htake, and_self]

/-- To take the text after the move is to take it with the move. -/
theorem Consumes.captureBehind_eq (h : scanner.Consumes) (text : Text) (cursor : Cursor) :
    scanner.captureBehind text cursor = scanner.capture text cursor := by
  rw [captureBehind]
  cases hread : scanner (.ofCursor text cursor) with
  | none =>
      obtain ⟨htest, hcapture, -⟩ := forms_of_none hread
      rw [htest, hcapture]
  | some result =>
      obtain ⟨run, hne, hrun, hnext⟩ := h hread
      obtain ⟨htest, hcapture, -⟩ := forms_of_read hread ⟨hrun, hnext⟩ hne
      have hslice : text.slice cursor.offset (cursor.past run).offset = some ⟨cursor.offset, run⟩ :=
        Text.slice_of_isPrefix hne hrun
      rw [htest, hcapture, ← hslice]

/-- A scanner matches where it returns something. -/
theorem test_eq_value (scanner : Scanner α) (text : Text) (cursor : Cursor) :
    scanner.test text cursor =
      ((scanner.value text cursor).1.isSome, (scanner.value text cursor).2) := by
  rw [test, value]
  cases scanner (.ofCursor text cursor) with
  | none => rfl
  | some result =>
      dsimp only
      cases cursor.moveTo? result.2.cursor with
      | none => rfl
      | some moved => rfl

end Scanner

end TextScan
