import TextScan.Proofs.Contract
import TextScan.Proofs.Extent

/-!
# How far a text can be read

A text that cannot be read as a whole may still begin with one that can.  A
scanner is greedy for a language if all that it reads is of the language and if
it goes at least as far as any text of the language that stands where it
starts.  Then the longest beginning that can be read ends where the scanner
ends and the white space after it, and where the scanner finds nothing no
beginning can be read.  What stands past a beginning may change what is read of
it, so this has to be shown of a scanner and does not hold of every one.
-/

namespace TextScan

namespace Text

/-- At the offset stands a character that is not white space. -/
def SolidAt (text : Text) (offset : Nat) : Prop :=
  ∃ c rest, text.fromByte? offset = some (c :: rest) ∧ isWhiteSpace c = false

variable {text : Text} {offset : Nat}

theorem SolidAt.isBoundary (h : text.SolidAt offset) : text.IsBoundary offset := by
  obtain ⟨c, rest, hrest, -⟩ := h
  obtain ⟨before, htext, hsize⟩ := fromByte?_eq_some_iff.1 hrest
  exact ⟨before, c :: rest, htext, hsize⟩

theorem SolidAt.lt_byteSize (h : text.SolidAt offset) : offset < text.byteSize := by
  obtain ⟨c, rest, hrest, -⟩ := h
  obtain ⟨before, rfl, rfl⟩ := fromByte?_eq_some_iff.1 hrest
  have hc := c.utf8Size_pos
  simp only [byteSize_append, byteSize]
  omega

theorem uptoByte?_byteSize (text : Text) : text.uptoByte? text.byteSize = some text :=
  uptoByte?_eq_some_iff.2 ⟨List.prefix_rfl, rfl⟩

end Text

namespace Site

open Grammar

variable {text run gap : Text} {site middle next stop : Site}

/-- The beginning of a text that ends at a site is the run that leads there. -/
theorem LeadsBy.uptoByte? (h : (start text).LeadsBy run next) :
    text.uptoByte? next.offset = some run := by
  refine Text.uptoByte?_eq_some_iff.2 ⟨h.1, ?_⟩
  rw [h.2]
  exact (Nat.zero_add _).symm

/-- A beginning of the text leads to where it ends. -/
theorem exists_leadsBy_of_uptoByte? {offset : Nat} (h : text.uptoByte? offset = some run) :
    ∃ next, (start text).LeadsBy run next ∧ next.offset = offset := by
  obtain ⟨hrun, rfl⟩ := Text.uptoByte?_eq_some_iff.1 h
  exact ⟨_, ⟨hrun, rfl⟩, Nat.zero_add _⟩

theorem LeadsBy.fromByte? (h : (start text).LeadsBy run next) :
    text.fromByte? next.offset = some next.rest := by
  refine Text.fromByte?_eq_some_iff.2 ⟨run, h.rest_eq, ?_⟩
  rw [h.2]
  exact (Nat.zero_add _).symm

theorem Leads.isBoundary (h : (start text).Leads next) : text.IsBoundary next.offset := by
  obtain ⟨run, hrun⟩ := h
  obtain ⟨before, htext, hsize⟩ := Text.fromByte?_eq_some_iff.1 (LeadsBy.fromByte? hrun)
  exact ⟨before, next.rest, htext, hsize⟩

/-- White space leads from the one site to the other and ends there. -/
def Skips (site next : Site) : Prop :=
  ∃ gap, Blank gap ∧ site.LeadsBy gap next ∧ next.Stops isWhiteSpace

theorem skips_iff :
    site.Skips next ↔ next = site.past (Probe.run (.char isWhiteSpace) site.rest) := by
  constructor
  · intro h
    obtain ⟨gap, hgap, ⟨hfront, rfl⟩, hstops⟩ := h
    rw [Scanner.run_rest_iff.2 ⟨hgap, ⟨hfront, rfl⟩, hstops⟩]
  · rintro rfl
    exact ⟨_, Scanner.run_rest_iff.1 rfl⟩

/-- White space ahead of a site reaches no further than the white space at a later site. -/
theorem Skips.offset_le (h : middle.Skips stop) (hmiddle : site.Leads middle)
    (hgap : Blank gap) (hnext : site.LeadsBy gap next) : next.offset ≤ stop.offset := by
  obtain ⟨run, hrun⟩ := hmiddle
  obtain ⟨space, -, hspace, hstops⟩ := h
  have hstop : site.LeadsBy (run ++ space) stop := LeadsBy.trans hrun hspace
  have hoffset : next.offset = site.offset + gap.byteSize := by rw [hnext.2, past]
  have hlast : stop.offset = site.offset + (run ++ space).byteSize := by rw [hstop.2, past]
  rw [hoffset, hlast]
  rcases List.prefix_or_prefix_of_prefix hnext.1 hstop.1 with ⟨tail, htail⟩ | ⟨tail, htail⟩
  · rw [← htail, Text.byteSize_append]
    omega
  · cases tail with
    | nil => rw [← htail, List.append_nil]
    | cons c tail =>
        -- The gap would go on where the white space ends.
        have hrest : stop.rest = c :: (tail ++ next.rest) := by
          have hboth := hstop.rest_eq.symm.trans hnext.rest_eq
          rw [← htail, List.append_assoc (run ++ space)] at hboth
          exact List.append_cancel_left hboth
        have hc : isWhiteSpace c = true := hgap c (by rw [← htail]; simp)
        exact absurd (hc.symm.trans (hstops c _ hrest)) (by decide)

/-- White space was skipped as far as it goes, so it does not go on. -/
theorem Skips.solidAt (h : middle.Skips stop) (hstart : (start text).Leads middle)
    (hne : stop.rest ≠ []) : text.SolidAt stop.offset := by
  obtain ⟨run, hrun⟩ := hstart
  obtain ⟨space, -, hspace, hstops⟩ := h
  obtain ⟨c, rest, hrest⟩ := List.exists_cons_of_ne_nil hne
  have hstop : (start text).LeadsBy (run ++ space) stop := LeadsBy.trans hrun hspace
  exact ⟨c, rest, hrest ▸ hstop.fromByte?, hstops c rest hrest⟩

end Site

/-- A value does not stand for a whole text if something but white space is left after it. -/
theorem Scanner.ite_isAtEnd_eq_error_iff {α ε : Type} {site : Site} {value : α}
    {error : Nat → ε} {found : ε} :
    (if (site.past (Probe.run (.char isWhiteSpace) site.rest)).isAtEnd then Except.ok value
      else .error (error (site.past (Probe.run (.char isWhiteSpace) site.rest)).offset)) =
        .error found ↔
      ∃ stop, site.Skips stop ∧ stop.rest ≠ [] ∧ error stop.offset = found := by
  simp only [Site.skips_iff, exists_eq_left, Site.isAtEnd, List.isEmpty_iff]
  by_cases hend : (site.past (Probe.run (.char isWhiteSpace) site.rest)).rest = []
  · simp [hend]
  · simp [hend]

namespace Grammar

variable {α ε : Type}

/-- No beginning of the text can be read. -/
def NoneRead (parse : Text → Except ε α) (text : Text) : Prop :=
  ∀ stop part, text.uptoByte? stop = some part → ∃ error, parse part = .error error

/-- The beginning of the text that ends at the offset is read as the value, and
no longer one can be read. -/
structure LongestRead (parse : Text → Except ε α) (text : Text) (stop : Nat) (value : α) :
    Prop where
  read : ∃ part, text.uptoByte? stop = some part ∧ parse part = .ok value
  longest : ∀ later part, stop < later → text.uptoByte? later = some part →
    ∃ error, parse part = .error error

/-- The scanner reads texts of the language, and it goes at least as far as any
that stands where it starts. -/
structure Greedy (scanner : Scanner α) (language : α → Text → Prop) : Prop where
  sound : ∀ {site next value}, scanner site = some (value, next) →
    ∃ written, site.LeadsBy written next ∧ language value written
  reaches : ∀ {site next value written}, language value written →
    site.LeadsBy written next →
    ∃ found last, scanner site = some (found, last) ∧ next.Leads last

/-- A text is read if it is of the language, with white space after it. -/
def ReadsBlankAfter (parse : Text → Except ε α) (language : α → Text → Prop) : Prop :=
  ∀ text value, parse text = .ok value ↔
    ∃ written after, text = written ++ after ∧ language value written ∧ Blank after

section LongestRead

variable {parse : Text → Except ε α} {text : Text}

theorem exists_error_of_ne (h : ∀ value, parse text ≠ .ok value) :
    ∃ error, parse text = .error error := by
  cases hparse : parse text with
  | error error => exact ⟨error, rfl⟩
  | ok value => exact absurd hparse (h value)

/-- There is one longest beginning. -/
theorem LongestRead.unique {stop other : Nat} {value found : α}
    (h : LongestRead parse text stop value) (hother : LongestRead parse text other found) :
    stop = other := by
  have hle : ∀ {first second : Nat} {left right : α}, LongestRead parse text first left →
      LongestRead parse text second right → second ≤ first := by
    intro first second left right hfirst hsecond
    by_contra hlt
    obtain ⟨part, hpart, hread⟩ := hsecond.read
    obtain ⟨error, herror⟩ := hfirst.longest second part (Nat.lt_of_not_le hlt) hpart
    rw [hread] at herror
    contradiction
  exact Nat.le_antisymm (hle hother h) (hle h hother)

theorem LongestRead.not_noneRead {stop : Nat} {value : α}
    (h : LongestRead parse text stop value) : ¬ NoneRead parse text := by
  intro hnone
  obtain ⟨part, hpart, hread⟩ := h.read
  obtain ⟨error, herror⟩ := hnone stop part hpart
  rw [hread] at herror
  contradiction

end LongestRead

namespace Greedy

variable {scanner : Scanner α} {language : α → Text → Prop} {parse : Text → Except ε α}
variable {text part : Text} {value : α} {last stop : Site}

/-- Where a beginning of the text is read, the scanner goes at least as far. -/
theorem exists_of_beginning (h : Greedy scanner language)
    (hparse : ReadsBlankAfter parse language) (hread : parse part = .ok value)
    {next : Site} (hpart : (Site.start text).LeadsBy part next) :
    ∃ (found : α) (last middle : Site) (after : Text),
      scanner (.start text) = some (found, last) ∧ middle.Leads last ∧ Blank after ∧
        middle.LeadsBy after next := by
  obtain ⟨written, after, rfl, hwritten, hafter⟩ := (hparse _ _).1 hread
  obtain ⟨middle, hlead, hnext⟩ := Site.leadsBy_append_iff.1 hpart
  obtain ⟨found, last, hfound, hlast⟩ := h.reaches hwritten hlead
  exact ⟨found, last, middle, after, hfound, hlast, hafter, hnext⟩

/-- If the scanner fails on the whole text, no beginning of it is read either.
-/
theorem noneRead (h : Greedy scanner language) (hparse : ReadsBlankAfter parse language)
    (hnone : scanner (.start text) = none) : NoneRead parse text := by
  intro offset part hpart
  refine exists_error_of_ne fun value hread => ?_
  obtain ⟨next, hlead, -⟩ := Site.exists_leadsBy_of_uptoByte? hpart
  obtain ⟨found, last, -, -, hfound, -⟩ := h.exists_of_beginning hparse hread hlead
  rw [hnone] at hfound
  contradiction

theorem longestRead (h : Greedy scanner language) (hparse : ReadsBlankAfter parse language)
    (hread : scanner (.start text) = some (value, last)) (hskips : last.Skips stop) :
    LongestRead parse text stop.offset value where
  read := by
    obtain ⟨written, hlead, hwritten⟩ := h.sound hread
    obtain ⟨gap, hgap, hspace, -⟩ := hskips
    exact ⟨written ++ gap, (hlead.trans hspace).uptoByte?,
      (hparse _ _).2 ⟨written, gap, rfl, hwritten, hgap⟩⟩
  longest := by
    intro later part hlater hpart
    refine exists_error_of_ne fun other hother => ?_
    obtain ⟨next, hnext, rfl⟩ := Site.exists_leadsBy_of_uptoByte? hpart
    obtain ⟨found, final, middle, after, hfound, hmiddle, hafter, hspace⟩ :=
      h.exists_of_beginning hparse hother hnext
    rw [hread] at hfound
    obtain ⟨-, rfl⟩ := Prod.mk.inj (Option.some.inj hfound)
    exact absurd (hskips.offset_le hmiddle hafter hspace) (Nat.not_le_of_lt hlater)

end Greedy

end Grammar

end TextScan
