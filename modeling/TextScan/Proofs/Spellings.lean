import TextScan.Proofs.Moves
import TextScan.Proofs.Words

/-!
# Words, once and repeated

Without regard to case a word stands for all words with the same lower cases,
letter by letter.  It is found where as many characters remain and agree with
it one by one, whatever number of bytes they take, and what was found can stand
for the word itself.

A word that is repeated is read in one move.  It goes as far as single moves
over the word go, made one after the other until the word is found no more.
-/

namespace TextScan

namespace Text

variable {mode : CaseMode} {word other text found : Text}

/-! ### Lower cases -/

/-- Words with the same lower cases are found in the same places. -/
theorem spelled?_ignored_congr (h : word.map lowerCase = other.map lowerCase) (text : Text) :
    spelled? .ignored word text = spelled? .ignored other text := by
  apply Option.ext
  intro found
  rw [spelled?_ignored_eq_some_iff, spelled?_ignored_eq_some_iff, h]

/-- The beginning of a text has the lower cases of a word if each character has. -/
theorem map_take_eq_iff :
    (text.take word.length).map lowerCase = word.map lowerCase ↔
      word.length ≤ text.length ∧
        ∀ i (_ : i < word.length) (_ : i < text.length), lowerCase text[i] = lowerCase word[i] := by
  rw [List.ext_getElem_iff]
  simp only [List.length_map, List.length_take, List.getElem_map, List.getElem_take]
  constructor
  · rintro ⟨hlength, hall⟩
    have hle : word.length ≤ text.length := by omega
    exact ⟨hle, fun i hword htext => hall i (by omega) hword⟩
  · rintro ⟨hle, hall⟩
    exact ⟨by omega, fun i hi hword => hall i hword (by omega)⟩

/-- What spells a word is as long as the word. -/
theorem length_of_spelled? (h : spelled? mode word text = some found) :
    found.length = word.length := by
  induction word generalizing text found with
  | nil =>
      obtain rfl := Option.some.inj h
      rfl
  | cons expected word ih =>
      cases text with
      | nil => contradiction
      | cons c rest =>
          rw [spelled?] at h
          split at h
          · obtain ⟨more, hmore, rfl⟩ := Option.map_eq_some_iff.1 h
            exact congrArg Nat.succ (ih hmore)
          · contradiction

theorem ne_nil_of_spelled? (h : spelled? mode word text = some found) (hne : word ≠ []) :
    found ≠ [] := by
  rintro rfl
  exact hne (List.length_eq_zero_iff.1 (length_of_spelled? h).symm)

theorem eq_take_of_spelled? (h : spelled? mode word text = some found) :
    found = text.take word.length := by
  rw [List.prefix_iff_eq_take.1 (spelled?_isPrefix h), length_of_spelled? h]

/-- A word is found where the characters that remain have its lower cases. -/
theorem exists_spelled?_ignored_iff :
    (∃ found, spelled? .ignored word text = some found) ↔
      word.length ≤ text.length ∧
        ∀ i (_ : i < word.length) (_ : i < text.length), lowerCase text[i] = lowerCase word[i] := by
  rw [← map_take_eq_iff]
  constructor
  · rintro ⟨found, hfound⟩
    rw [← eq_take_of_spelled? hfound]
    exact (spelled?_ignored_eq_some_iff.1 hfound).2
  · intro h
    exact ⟨_, spelled?_ignored_eq_some_iff.2 ⟨List.take_prefix _ _, h⟩⟩

/-! ### Repetitions -/

end Text

/-! ### Single moves and one move -/

namespace Rule

open Text

variable {mode : CaseMode} {word text : Text} {cursor next last : Cursor} {span : Span}
  {pieces : List Span}

theorem takes_word_iff :
    (Rule.word .capture mode word).Takes text cursor span next ↔
      ∃ found, found ≠ [] ∧ spelled? mode word (text.remaining cursor.offset) = some found ∧
        span = ⟨cursor.offset, found⟩ ∧ next = cursor.past found := by
  rw [takes_iff (apply_word ..)]
  cases spelled? mode word (text.remaining cursor.offset) with
  | none => simp
  | some found => simp

theorem apply_word_test_iff :
    ((Rule.word .test mode word).apply text cursor).1 = .verdict true ↔
      ∃ found, found ≠ [] ∧ spelled? mode word (text.remaining cursor.offset) = some found := by
  rw [apply_word, movedOver_test_iff]
  cases spelled? mode word (text.remaining cursor.offset) with
  | none => simp
  | some found => simp

/-- What is taken spells the word and nothing else. -/
theorem Takes.wholly (h : (Rule.word .capture mode word).Takes text cursor span next)
    (other : Text) (place : Cursor) :
    (Rule.wholly (.word .test mode word) span.text).apply other place = (.verdict true, place) := by
  obtain ⟨found, hne, hfound, rfl, -⟩ := takes_word_iff.1 h
  have hword : word ≠ [] := by
    rintro rfl
    exact hne (Option.some.inj hfound).symm
  rw [Rule.Tests.wholly_iff (fun _ _ => rfl) (Scanner.leaves_word mode hword)
    (Scanner.consumes_word mode word), afterWord, spelled?_self hfound]
  simp

end Rule

open Rule

/-- Without regard to case a word is found exactly where as many characters
remain and each has the lower case of its letter.  These characters are moved
over, as they are spelled.  What was found in one place can be looked for in
place of the word everywhere, with the same outcome.  Within ASCII the lower
case is the usual one. -/
theorem word_found_by_lower_case (word text : Text) (cursor : Cursor) (hne : word ≠ []) :
    (((Rule.word .test .ignored word).apply text cursor).1 = .verdict true ↔
      word.length ≤ (text.remaining cursor.offset).length ∧
        ∀ i (_ : i < word.length) (_ : i < (text.remaining cursor.offset).length),
          lowerCase (text.remaining cursor.offset)[i] = lowerCase word[i]) ∧
    (((Rule.word .test .ignored word).apply text cursor).1 = .verdict true →
      (Rule.word .test .ignored word).apply text cursor =
        (.verdict true, cursor.past ((text.remaining cursor.offset).take word.length)) ∧
      (Rule.word .capture .ignored word).apply text cursor =
        (.span (some ⟨cursor.offset, (text.remaining cursor.offset).take word.length⟩),
          cursor.past ((text.remaining cursor.offset).take word.length))) ∧
    (∀ span next,
      (Rule.word .capture .ignored word).apply text cursor = (.span (some span), next) →
      ∀ (form : Form) (other : Text) (place : Cursor),
        (Rule.word form .ignored span.text).apply other place =
          (Rule.word form .ignored word).apply other place) ∧
    ∀ c : Char, c.toNat < 0x80 → lowerCase c = [c.toLower] := by
  refine ⟨?_, ?_, ?_, fun _ => lowerCase_of_ascii⟩
  · rw [apply_word_test_iff, ← Text.exists_spelled?_ignored_iff]
    refine exists_congr fun found => and_iff_right_of_imp fun hfound => ?_
    exact Text.ne_nil_of_spelled? hfound hne
  · intro htest
    obtain ⟨found, hsome, hfound⟩ := apply_word_test_iff.1 htest
    rw [apply_word, apply_word, hfound, Option.getD_some, ← Text.eq_take_of_spelled? hfound]
    exact ⟨movedOver_test hsome, movedOver_capture hsome⟩
  · intro span next htakes form other place
    obtain ⟨found, -, hfound, rfl, -⟩ := takes_word_iff.1 htakes
    have hlower := (Text.spelled?_ignored_eq_some_iff.1 hfound).2
    rw [apply_word, apply_word, Text.spelled?_ignored_congr hlower]

/-- The sign for kelvin is one of the spellings of the letter k, and takes two
bytes more. -/
theorem kelvin_found_by_lower_case :
    (Rule.word .capture .ignored "kg".toList).apply "é\u212AG".toList ⟨2, 1, 0⟩ =
        (.span (some ⟨2, "\u212AG".toList⟩), ⟨6, 3, 2⟩) ∧
      lowerCase '\u212A' = lowerCase 'k' ∧
      ∀ (form : Form) (other : Text) (place : Cursor),
        (Rule.word form .ignored "\u212AG".toList).apply other place =
          (Rule.word form .ignored "kg".toList).apply other place := by
  obtain ⟨hiff, hread, hsame, -⟩ :=
    word_found_by_lower_case "kg".toList "é\u212AG".toList ⟨2, 1, 0⟩ (by decide)
  have htest : ((Rule.word .test .ignored "kg".toList).apply "é\u212AG".toList ⟨2, 1, 0⟩).1 =
      .verdict true := by
    decide +kernel
  have hcapture := (hread htest).2
  exact ⟨hcapture, (hiff.1 htest).2 0 (by decide) (by decide), hsame _ _ hcapture⟩

end TextScan
