import TextScan.Proofs.Beginnings
import TextScan.Proofs.Markup.Printing

/-!
# Where reading a document stops

Reading a whole text and recognising a document at its beginning go the same
way, so what the one reports can be told from the other: the declaration is
missing, or no element follows it, or something but white space follows the
document.  What is recognised depends on the text that it takes and on nothing
after it.  So a text that goes on after a document begins with no longer one,
and a text in which none is recognised begins with none.
-/

namespace TextScan

open Grammar

/-! ### Scanners at a cursor and at a site -/

namespace Scanner

variable {α : Type} {scanner : Scanner α} {text : Text} {cursor : Cursor}

theorem Consumes.value_eq_none_iff (h : scanner.Consumes) :
    (scanner.value text cursor).1 = none ↔ scanner (.ofCursor text cursor) = none := by
  rw [value]
  cases hread : scanner (.ofCursor text cursor) with
  | none => simp
  | some result =>
      have hne : result.2.cursor.offset ≠ cursor.offset := Nat.ne_of_gt (h hread).offset_lt
      simp [Cursor.moveTo?, hne]

end Scanner

theorem Site.ofCursor_start (text : Text) : Site.ofCursor text .start = .start text := by
  rw [ofCursor, Text.remaining_start]
  rfl

/-- The second offset is that of the first character from the first offset on
that is not white space. -/
def Text.SolidAfter (text : Text) (start offset : Nat) : Prop :=
  ∃ gap, text.slice start offset = some gap ∧ Blank gap.text ∧ text.SolidAt offset

theorem Site.exists_skips_iff {text : Text} {site : Site} {offset : Nat}
    (h : (start text).Leads site) :
    (∃ stop, site.Skips stop ∧ stop.rest ≠ [] ∧ stop.offset = offset) ↔
      text.SolidAfter site.offset offset := by
  obtain ⟨run, hrun⟩ := h
  have hlead : (start text).LeadsBy run site := hrun
  constructor
  · rintro ⟨stop, hskips, hne, rfl⟩
    have hsolid := hskips.solidAt hlead.leads hne
    obtain ⟨gap, hgap, hspace, -⟩ := hskips
    refine ⟨⟨site.offset, gap⟩, Text.slice_eq_some_iff.2 ⟨run, stop.rest, ?_, ?_, rfl, ?_⟩,
      hgap, hsolid⟩
    · exact (hlead.trans hspace).rest_eq
    · rw [hlead.2]
      exact (Nat.zero_add _).symm
    · rw [hspace.2]
      exact Nat.add_comm _ _
  · rintro ⟨⟨place, gap⟩, hslice, hgap, c, rest, hrest, hc⟩
    obtain ⟨hfront, hoffset⟩ := Text.remaining_of_slice hslice
    have hremaining : text.remaining site.offset = site.rest := by
      rw [Text.remaining, hlead.fromByte?]
      rfl
    rw [hremaining] at hfront
    have hspace : site.LeadsBy gap (site.past gap) := ⟨hfront, rfl⟩
    have hstop : (site.past gap).rest = c :: rest := by
      have hplace := (hlead.trans hspace).fromByte?
      rw [show (site.past gap).offset = offset from hoffset, hrest] at hplace
      exact (Option.some.inj hplace).symm
    refine ⟨site.past gap, ⟨gap, hgap, hspace, ?_⟩, by simp [hstop], hoffset⟩
    intro d more hmore
    rw [hstop] at hmore
    rw [← (List.cons.inj hmore).1]
    exact hc

/-! ### The errors -/

namespace Document

variable {text : Text} {document : Document} {offset : Nat}

theorem parse_of_prolog_eq_none (h : Tag.prolog (.start text) = none) :
    parse text = .error (.prolog 0) := by
  rw [parse, readNoted]
  dsimp only
  rw [h]
  rfl

theorem parse_of_element_eq_none {prolog : Attributes} {middle : Site}
    (hprolog : Tag.prolog (.start text) = some (prolog, middle))
    (hroot : Element.scanner middle = none) :
    parse text = .error (.element middle.offset) := by
  rw [Element.scanner] at hroot
  rw [parse, readNoted]
  dsimp only
  rw [hprolog]
  dsimp only
  rw [hroot]

/-- What follows the document is white space or a fault at its first other
character. -/
theorem parse_of_scanner {last stop : Site}
    (hread : scanner (.start text) = some (document, last)) (hskips : last.Skips stop) :
    parse text =
      if stop.rest = [] then .ok document else .error (.trailingContent stop.offset) := by
  obtain ⟨prolog, middle, hprolog, hread⟩ := Scanner.bind_eq_some_iff.1 hread
  obtain ⟨root, rootEnd, hroot, hread⟩ := Scanner.bind_eq_some_iff.1 hread
  obtain ⟨rfl, rfl⟩ := Scanner.pure_eq_some_iff.1 hread
  rw [Element.scanner] at hroot
  rw [parse, readNoted]
  dsimp only
  rw [hprolog]
  dsimp only
  rw [hroot, Site.skips_iff.1 hskips]
  dsimp only
  rw [apply_ite Prod.snd]
  simp only [Site.isAtEnd, List.isEmpty_iff]

/-- What each error says about the text. -/
theorem error_cases {error : Error} (h : parse text = .error error) :
    (Tag.prolog (.start text) = none ∧ error = .prolog 0) ∨
      (∃ prolog middle, Tag.prolog (.start text) = some (prolog, middle) ∧
        Element.scanner middle = none ∧ error = .element middle.offset) ∨
      ∃ document last stop, scanner (.start text) = some (document, last) ∧
        last.Skips stop ∧ stop.rest ≠ [] ∧ error = .trailingContent stop.offset := by
  cases hprolog : Tag.prolog (.start text) with
  | none =>
      rw [parse_of_prolog_eq_none hprolog] at h
      exact .inl ⟨rfl, (Except.error.inj h).symm⟩
  | some result =>
      obtain ⟨prolog, middle⟩ := result
      cases hroot : Element.scanner middle with
      | none =>
          rw [parse_of_element_eq_none hprolog hroot] at h
          exact .inr (.inl ⟨prolog, middle, rfl, hroot, (Except.error.inj h).symm⟩)
      | some result =>
          obtain ⟨root, last⟩ := result
          have hread : scanner (.start text) = some (⟨prolog, root⟩, last) :=
            Scanner.bind_eq_some_iff.2 ⟨prolog, middle, hprolog,
              Scanner.bind_eq_some_iff.2 ⟨root, last, hroot, rfl⟩⟩
          have hskips := Site.skips_iff.2 (rfl : _ = last.past _)
          rw [parse_of_scanner hread hskips] at h
          split at h
          · contradiction
          · rename_i hne
            exact .inr (.inr ⟨_, last, _, hread, hskips, hne, (Except.error.inj h).symm⟩)

theorem parse_eq_prolog_iff :
    parse text = .error (.prolog offset) ↔ offset = 0 ∧ Tag.prolog (.start text) = none := by
  constructor
  · intro h
    rcases error_cases h with ⟨hnone, herror⟩ | ⟨_, _, _, _, herror⟩ |
      ⟨_, _, _, _, _, _, herror⟩
    · exact ⟨Error.prolog.inj herror, hnone⟩
    · contradiction
    · contradiction
  · rintro ⟨rfl, hnone⟩
    exact parse_of_prolog_eq_none hnone

/-- The offset of the fault is where the declaration ends. -/
theorem parse_eq_element_iff :
    parse text = .error (.element offset) ↔
      ∃ prolog middle, Tag.prolog (.start text) = some (prolog, middle) ∧
        middle.offset = offset ∧ Element.scanner middle = none := by
  constructor
  · intro h
    rcases error_cases h with ⟨-, herror⟩ | ⟨prolog, middle, hprolog, hroot, herror⟩ |
      ⟨_, _, _, _, _, _, herror⟩
    · contradiction
    · exact ⟨prolog, middle, hprolog, (Error.element.inj herror).symm, hroot⟩
    · contradiction
  · rintro ⟨prolog, middle, hprolog, rfl, hroot⟩
    exact parse_of_element_eq_none hprolog hroot

theorem parse_eq_trailingContent_iff :
    parse text = .error (.trailingContent offset) ↔
      ∃ document last, scanner (.start text) = some (document, last) ∧
        ∃ stop, last.Skips stop ∧ stop.rest ≠ [] ∧ stop.offset = offset := by
  constructor
  · intro h
    rcases error_cases h with ⟨-, herror⟩ | ⟨_, _, _, _, herror⟩ |
      ⟨document, last, stop, hread, hskips, hne, herror⟩
    · contradiction
    · contradiction
    · exact ⟨document, last, hread, stop, hskips, hne, (Error.trailingContent.inj herror).symm⟩
  · rintro ⟨document, last, hread, stop, hskips, hne, rfl⟩
    rw [parse_of_scanner hread hskips, if_neg hne]

/-! ### The longest document -/

/-- No beginning of a text is a longer document than the one that is read. -/
theorem greedy_scanner : Greedy scanner Whole where
  sound := fun hread => (recognises_document _ _ _).1 hread
  reaches := fun hwhole hlead =>
    ⟨_, _, (recognises_document _ _ _).2 ⟨_, hlead, hwhole⟩, .refl _⟩

theorem readsBlankAfter_parse : ReadsBlankAfter parse Whole :=
  fun _ _ => parse_eq_ok_iff

theorem noneRead_of_error (h : parse text = .error (.element offset) ∨
    parse text = .error (.prolog offset)) : NoneRead parse text := by
  apply greedy_scanner.noneRead readsBlankAfter_parse
  rcases h with helement | hprolog
  · obtain ⟨prolog, middle, hprolog, -, hroot⟩ := parse_eq_element_iff.1 helement
    rw [scanner, Scanner.bind_of_some _ hprolog]
    exact Scanner.bind_of_none _ hroot
  · exact Scanner.bind_of_none _ (parse_eq_prolog_iff.1 hprolog).2

theorem isBoundary_of_error {error : Error} (h : parse text = .error error) :
    text.IsBoundary error.offset := by
  rcases error_cases h with ⟨-, rfl⟩ | ⟨prolog, middle, hprolog, -, rfl⟩ |
    ⟨document, last, stop, hread, hskips, hne, rfl⟩
  · exact (Site.Leads.refl _).isBoundary
  · exact (Tag.consumes_prolog hprolog).leads.isBoundary
  · exact (hskips.solidAt (consumes_scanner hread).leads hne).isBoundary

end Document

/-- A text is read as a document exactly if one is recognised at its beginning
and only white space is left, and each error says exactly how this fails: more
than white space is left, and then the document is the longest that the text
begins with; no element follows the declaration, or there is no declaration,
and then the text begins with no document.  All errors point between
characters. -/
theorem parse_iff_document_recognised (text : Text) :
    (∀ document, Document.parse text = .ok document ↔
      ∃ after, Document.scanner.value text .start = (some document, after) ∧
        Blank (text.remaining after.offset)) ∧
    (∀ offset, Document.parse text = .error (.trailingContent offset) ↔
      ∃ document after, Document.scanner.value text .start = (some document, after) ∧
        text.SolidAfter after.offset offset) ∧
    (∀ offset, Document.parse text = .error (.trailingContent offset) →
      ∃ document after, Document.scanner.value text .start = (some document, after) ∧
        LongestRead Document.parse text offset document) ∧
    (∀ offset, Document.parse text = .error (.element offset) ↔
      ∃ prolog after, Tag.prolog.value text .start = (some prolog, after) ∧
        after.offset = offset ∧ (Element.scanner.value text after).1 = none) ∧
    (∀ offset, Document.parse text = .error (.prolog offset) ↔
      offset = 0 ∧ (Tag.prolog.value text .start).1 = none) ∧
    (∀ offset, Document.parse text = .error (.element offset) ∨
      Document.parse text = .error (.prolog offset) → NoneRead Document.parse text) ∧
    ∀ error, Document.parse text = .error error → text.IsBoundary error.offset := by
  have hstart := Site.ofCursor_start text
  refine ⟨fun document => ?_, fun offset => ?_, fun offset h => ?_, fun offset => ?_,
    fun offset => ?_, fun offset => Document.noneRead_of_error,
    fun error => Document.isBoundary_of_error⟩
  · rw [Document.parse_eq_ok_iff_scanner, ← hstart]
    exact (Document.consumes_scanner.exists_value_iff fun next => Blank next.rest).symm
  · rw [Document.parse_eq_trailingContent_iff, ← hstart]
    refine exists_congr fun document => Iff.trans ?_
      (Document.consumes_scanner.exists_value_iff fun next =>
        text.SolidAfter next.offset offset).symm
    refine exists_congr fun last => and_congr_right fun hread => Site.exists_skips_iff ?_
    rw [← hstart]
    exact (Document.consumes_scanner hread).leads
  · obtain ⟨document, last, hread, stop, hskips, -, rfl⟩ :=
      Document.parse_eq_trailingContent_iff.1 h
    have hlongest := Document.greedy_scanner.longestRead Document.readsBlankAfter_parse hread hskips
    rw [← hstart] at hread
    obtain ⟨after, hafter, -⟩ :=
      (Document.consumes_scanner.exists_value_iff fun _ => True).2 ⟨last, hread, trivial⟩
    exact ⟨document, after, hafter, hlongest⟩
  · rw [Document.parse_eq_element_iff, ← hstart]
    refine exists_congr fun prolog => ?_
    simp only [Element.consumes_scanner.value_eq_none_iff]
    exact (Tag.consumes_prolog.exists_value_iff fun middle =>
      middle.offset = offset ∧ Element.scanner middle = none).symm
  · rw [Document.parse_eq_prolog_iff, Tag.consumes_prolog.value_eq_none_iff, hstart]

/-- A second element after white space: the error points at it, and the first one
with the white space is the longest document. -/
theorem second_element_after_longest_document :
    Document.parse "<?xml?><é/> \n<b/>".toList = .error (.trailingContent 14) ∧
      LongestRead Document.parse "<?xml?><é/> \n<b/>".toList 14
        ⟨.empty, .node ['é'] .empty []⟩ := by
  have hparse : Document.parse "<?xml?><é/> \n<b/>".toList = .error (.trailingContent 14) := by
    decide +kernel
  have hread : Document.scanner.value "<?xml?><é/> \n<b/>".toList .start =
      (some ⟨.empty, .node ['é'] .empty []⟩, ⟨12, 11, 11⟩) := by
    decide +kernel
  obtain ⟨document, after, hvalue, hlongest⟩ := (parse_iff_document_recognised _).2.2.1 14 hparse
  rw [hread] at hvalue
  cases hvalue
  exact ⟨hparse, hlongest⟩

end TextScan
