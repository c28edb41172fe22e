import TextScan.Proofs.Address.Remainders
import TextScan.Proofs.Forms

/-!
# Words in any case

A word that is read without regard to case is found as a run of as many
characters, each with the lower case of its own letter of the word.  Of several
words the first that is found is read.  Where longer words are tried before
shorter ones, it is the longest: none of those that were tried before is
there, and none of those that would be tried after goes further.
-/

namespace TextScan

theorem CaseMode.agrees_ignored {found expected : Char} :
    CaseMode.ignored.agrees found expected = true ↔ lowerCase found = lowerCase expected := by
  simp only [agrees, Bool.or_eq_true, beq_iff_eq, sameLetter_iff]
  exact or_iff_right_of_imp (congrArg lowerCase)

/-- One of the words, but for the case of its letters. -/
def Grammar.AnyCase (words : List Text) (written : Text) : Prop :=
  ∃ word ∈ words, written.map lowerCase = word.map lowerCase

open Grammar

theorem Grammar.AnyCase.ne_nil {words : List Text} {written : Text} (h : AnyCase words written)
    (hwords : ∀ word ∈ words, word ≠ []) : written ≠ [] := by
  obtain ⟨word, hword, hlower⟩ := h
  rintro rfl
  exact hwords word hword (List.map_eq_nil_iff.1 hlower.symm)

namespace Text

variable {words : List Text} {word text found rest : Text}

/-- Where case does not count, the run that spells a word has its lower cases. -/
theorem spelled?_ignored_eq_some_iff :
    spelled? .ignored word text = some found ↔
      found <+: text ∧ found.map lowerCase = word.map lowerCase := by
  induction word generalizing text found with
  | nil => simp +contextual [spelled?, eq_comm]
  | cons expected word ih =>
      cases text with
      | nil => simp +contextual [spelled?]
      | cons c text =>
          simp only [spelled?, CaseMode.agrees_ignored]
          constructor
          · intro h
            split at h
            · rename_i hc
              obtain ⟨more, hmore, rfl⟩ := Option.map_eq_some_iff.1 h
              obtain ⟨hbegins, hlower⟩ := ih.1 hmore
              exact ⟨List.cons_prefix_cons.2 ⟨rfl, hbegins⟩, by simp [hc, hlower]⟩
            · contradiction
          · rintro ⟨hbegins, hlower⟩
            cases found with
            | nil => contradiction
            | cons d more =>
                obtain ⟨rfl, hmore⟩ := List.cons_prefix_cons.1 hbegins
                obtain ⟨hd, hlower⟩ := List.cons.inj hlower
                rw [if_pos hd, ih.2 ⟨hmore, hlower⟩]
                rfl

theorem afterWord_ignored_eq_some_iff :
    afterWord .ignored word text = some rest ↔
      ∃ written, text = written ++ rest ∧ written.map lowerCase = word.map lowerCase := by
  rw [afterWord, Option.map_eq_some_iff]
  constructor
  · rintro ⟨written, hfound, rfl⟩
    obtain ⟨hbegins, hlower⟩ := spelled?_ignored_eq_some_iff.1 hfound
    exact ⟨written, (List.prefix_iff_eq_append.1 hbegins).symm, hlower⟩
  · rintro ⟨written, rfl, hlower⟩
    exact ⟨written, spelled?_ignored_eq_some_iff.2 ⟨List.prefix_append _ _, hlower⟩,
      List.drop_left⟩

/-- Something is found where the text begins with one of the words. -/
theorem exists_afterAnyWord_iff :
    (∃ rest, afterAnyWord .ignored words text = some rest) ↔
      ∃ written rest, AnyCase words written ∧ text = written ++ rest := by
  rw [← Option.isSome_iff_exists, afterAnyWord, List.findSome?_isSome_iff]
  constructor
  · rintro ⟨word, hword, hsome⟩
    obtain ⟨rest, hrest⟩ := Option.isSome_iff_exists.1 hsome
    obtain ⟨written, hsplit, hlower⟩ := afterWord_ignored_eq_some_iff.1 hrest
    exact ⟨written, rest, ⟨word, hword, hlower⟩, hsplit⟩
  · rintro ⟨written, rest, ⟨word, hword, hlower⟩, hsplit⟩
    have hrest := afterWord_ignored_eq_some_iff.2 ⟨written, hsplit, hlower⟩
    exact ⟨word, hword, Option.isSome_of_eq_some hrest⟩

/-- No word is longer than one that is tried before it. -/
def LongestFirst (words : List Text) : Prop :=
  words.Pairwise fun word later => later.length ≤ word.length

instance : DecidablePred LongestFirst :=
  fun words => inferInstanceAs (Decidable (words.Pairwise _))

/-- The first word that is found is the longest that is there. -/
theorem afterAnyWord_eq_some_iff (hwords : LongestFirst words) :
    afterAnyWord .ignored words text = some rest ↔
      ∃ written, Longest (AnyCase words) text written rest := by
  have hlongest : ∀ {after}, afterAnyWord .ignored words text = some after →
      ∃ written, Longest (AnyCase words) text written after := by
    intro after hafter
    obtain ⟨tried, word, later, rfl, hword, htried⟩ := List.findSome?_eq_some_iff.1 hafter
    obtain ⟨written, hsplit, hlower⟩ := afterWord_ignored_eq_some_iff.1 hword
    refine ⟨written, hsplit, ⟨word, by simp, hlower⟩, ?_⟩
    rintro other more hother ⟨choice, hchoice, hsame⟩
    have hlength : written.length = word.length := by simpa using congrArg List.length hlower
    have hsize : other.length = choice.length := by simpa using congrArg List.length hsame
    rcases List.mem_append.1 hchoice with hbefore | hafter
    · have hfound := afterWord_ignored_eq_some_iff.2 ⟨other, hother, hsame⟩
      exact absurd (hfound.symm.trans (htried choice hbefore)) (by simp)
    · rcases List.mem_cons.1 hafter with rfl | hlater
      · omega
      · have hle := (List.pairwise_cons.1 (List.pairwise_append.1 hwords).2.1).1 choice hlater
        omega
  refine ⟨hlongest, ?_⟩
  rintro ⟨written, h⟩
  obtain ⟨after, hafter⟩ := exists_afterAnyWord_iff.2 ⟨written, rest, h.written, h.split⟩
  obtain ⟨other, hother⟩ := hlongest hafter
  rw [hafter, (h.unique hother).2]

end Text

namespace Scanner

open Text

variable {words : List Text}

/-- What is read is the longest of the words. -/
theorem longest_of_anyWord (hne : ∀ word ∈ words, word ≠ []) (hwords : LongestFirst words)
    {site next : Site} {found : Span} (h : anyWord .ignored words site = some (found, next)) :
    ∃ written, Longest (AnyCase words) site.rest written next.rest ∧
      site.LeadsBy written next := by
  have hleaves := leaves_anyWord .ignored hne site
  rw [h] at hleaves
  obtain ⟨written, hwritten⟩ := (afterAnyWord_eq_some_iff hwords).1 hleaves.symm
  obtain ⟨run, -, hlead, -⟩ := anyWord_eq_some h
  have hrun : run = written :=
    List.append_cancel_right (hlead.rest_eq.symm.trans hwritten.split)
  exact ⟨written, hwritten, hrun ▸ hlead⟩

/-- The longest of the words is captured, as it is spelled in the text. -/
theorem capture_anyWord_iff (hne : ∀ word ∈ words, word ≠ []) (hwords : LongestFirst words)
    {text : Text} {cursor : Cursor} {span : Span} :
    (capture (anyWord .ignored words) text cursor).1 = some span ↔
      span.start = cursor.offset ∧
        ∃ rest, Longest (AnyCase words) (text.remaining cursor.offset) span.text rest := by
  cases hread : anyWord .ignored words (.ofCursor text cursor) with
  | none =>
      have hnone : afterAnyWord .ignored words (text.remaining cursor.offset) = none := by
        have hleaves := leaves_anyWord .ignored hne (.ofCursor text cursor)
        rw [hread] at hleaves
        exact hleaves.symm
      simp only [capture, hread, reduceCtorEq, false_iff]
      rintro ⟨-, rest, hlongest⟩
      have hsome := (afterAnyWord_eq_some_iff hwords).2 ⟨_, hlongest⟩
      exact absurd (hnone.symm.trans hsome) (by simp)
  | some result =>
      obtain ⟨written, hwritten, hlead⟩ := longest_of_anyWord hne hwords hread
      rw [(forms_of_read hread hlead (hwritten.written.ne_nil hne)).2.1]
      constructor
      · intro hspan
        obtain rfl := Option.some.inj hspan
        exact ⟨rfl, _, hwritten⟩
      · rintro ⟨hstart, rest, hother⟩
        have hsame : written = span.text := (Longest.unique hwritten hother).1
        rw [← hstart, hsame]

end Scanner

end TextScan
