import TextScan.Proofs.Address.Remainders
import TextScan.Proofs.Forms

/-!
# Lines with a zip code or a postal code

The filter for codes tries a zip code first and a postal code only where there
is none, and it asks afterwards whether the line ends.  A postal code such as
`1A1 1A1` begins with digits, so it is taken for a zip code and the line is
refused for what is left of it.  All other lines are kept that hold a zip code
or a postal code and nothing else.
-/

namespace TextScan

namespace Grammar

/-- The part, with white space after it. -/
def Holds (part : Text → Prop) (line : Text) : Prop :=
  ∃ written after, line = written ++ after ∧ part written ∧ Blank after

structure Half (text : Text) : Prop where
  length : text.length = 3
  letterOrDigit : ∀ c ∈ text, isLetterOrDigit c = true

/-- A postal code: two halves with white space between them. -/
inductive PostalCode : Text → Prop
  | mk {first gap second : Text} (hfirst : Half first) (hgap : Blank gap) (hne : gap ≠ [])
      (hsecond : Half second) : PostalCode (first ++ gap ++ second)

/-- A postal code that begins with a digit. -/
def DigitLed (code : Text) : Prop :=
  PostalCode code ∧ ∃ c rest, code = c :: rest ∧ isDigit c = true

end Grammar

open Grammar

namespace PostCode

open Text

variable {text rest line : Text}

/-- Half a code is three letters or digits in front of anything else. -/
theorem afterHalf_eq_some_iff :
    afterHalf text = some rest ↔
      ∃ half, Half half ∧ text = half ++ rest ∧ rest.Stops isLetterOrDigit := by
  constructor
  · intro h
    rw [afterHalf] at h
    split at h
    · rename_i hlength
      obtain rfl := Option.some.inj h
      exact ⟨text.takeWhile isLetterOrDigit, ⟨hlength, fun c hc => List.mem_takeWhile_imp hc⟩,
        List.takeWhile_append_dropWhile.symm, stops_dropWhile _ _⟩
    · contradiction
  · rintro ⟨half, hhalf, rfl, hrest⟩
    obtain ⟨htake, hdrop⟩ := takeWhile_append_of_stops hhalf.letterOrDigit hrest
    rw [afterHalf, htake, hdrop, if_pos hhalf.length]

theorem ne_nil_of_half (h : Half text) : text ≠ [] := by
  rintro rfl
  exact absurd h.length (by decide)

/-- A half does not begin with white space. -/
theorem dropWhile_of_half (h : Half text) (rest : Text) :
    (text ++ rest).dropWhile isWhiteSpace = text ++ rest := by
  obtain ⟨c, more, rfl⟩ := List.exists_cons_of_ne_nil (ne_nil_of_half h)
  have hc : isWhiteSpace c = false := by
    cases hspace : isWhiteSpace c with
    | false => rfl
    | true =>
        have hsolid := isLetterOrDigit_of_isWhiteSpace hspace
        exact absurd ((h.letterOrDigit c List.mem_cons_self).symm.trans hsolid) (by decide)
  simp [hc]

/-- The whole line is a postal code and white space.  Between the halves white
space has to stand, since a run of letters and digits counts as a whole. -/
theorem holds_postalCode_iff :
    Holds PostalCode line ↔ ∃ rest, afterPostal line = some rest ∧ Blank rest := by
  constructor
  · rintro ⟨code, after, rfl, hcode, hafter⟩
    cases hcode with
    | @mk first gap second hfirst hgap hne hsecond =>
        have hstops : Text.Stops (gap ++ (second ++ after)) isLetterOrDigit :=
          (hgap.stops fun _ => isLetterOrDigit_of_isWhiteSpace).append fun hnil =>
            absurd hnil hne
        have hhalf : afterHalf (first ++ (gap ++ (second ++ after))) =
            some (gap ++ (second ++ after)) :=
          afterHalf_eq_some_iff.2 ⟨first, hfirst, rfl, hstops⟩
        have hother : afterHalf ((gap ++ (second ++ after)).dropWhile isWhiteSpace) =
            some after := by
          rw [List.dropWhile_append_of_pos hgap, dropWhile_of_half hsecond]
          exact afterHalf_eq_some_iff.2
            ⟨second, hsecond, rfl, hafter.stops fun _ => isLetterOrDigit_of_isWhiteSpace⟩
        refine ⟨after, ?_, hafter⟩
        rw [afterPostal, List.append_assoc, List.append_assoc, hhalf, Option.bind_some, hother]
  · rintro ⟨rest, hrest, hblank⟩
    obtain ⟨middle, hmiddle, hother⟩ := Option.bind_eq_some_iff.1 hrest
    obtain ⟨first, hfirst, rfl, hstops⟩ := afterHalf_eq_some_iff.1 hmiddle
    obtain ⟨second, hsecond, hsplit, -⟩ := afterHalf_eq_some_iff.1 hother
    have hgap : middle.takeWhile isWhiteSpace ++ (second ++ rest) = middle := by
      rw [← hsplit, List.takeWhile_append_dropWhile]
    refine ⟨first ++ middle.takeWhile isWhiteSpace ++ second, rest, ?_, .mk hfirst
      (blank_takeWhile middle) (fun hnil => ?_) hsecond, hblank⟩
    · rw [List.append_assoc, List.append_assoc, hgap]
    · rw [hnil, List.nil_append] at hgap
      obtain ⟨c, more, rfl⟩ := List.exists_cons_of_ne_nil (ne_nil_of_half hsecond)
      have hc := hsecond.letterOrDigit c List.mem_cons_self
      exact absurd (hc.symm.trans (hstops c (more ++ rest) hgap.symm)) (by decide)

theorem holds_digits_iff :
    Holds Digits line ↔ ∃ rest, afterRun isDigit line = some rest ∧ Blank rest := by
  constructor
  · rintro ⟨digits, after, rfl, hdigits, hafter⟩
    exact ⟨after, afterRun_eq_some_iff.2 ⟨digits, hdigits.ne_nil, hdigits.digits, rfl,
      hafter.stops fun _ => isDigit_of_isWhiteSpace⟩, hafter⟩
  · rintro ⟨rest, hrest, hblank⟩
    obtain ⟨digits, hne, hdigits, rfl, -⟩ := afterRun_eq_some_iff.1 hrest
    exact ⟨digits, rest, rfl, ⟨hne, hdigits⟩, hblank⟩

/-- Digits and white space are no postal code: the second half is missing. -/
theorem not_holds_postalCode (h : Holds Digits line) : ¬ Holds PostalCode line := by
  obtain ⟨digits, after, rfl, hdigits, hafter⟩ := h
  rw [holds_postalCode_iff]
  rintro ⟨rest, hrest, -⟩
  obtain ⟨middle, hmiddle, hother⟩ := Option.bind_eq_some_iff.1 hrest
  have hletters : ∀ c ∈ digits, isLetterOrDigit c = true :=
    fun c hc => Bool.or_eq_true_iff.2 (.inr (hdigits.digits c hc))
  have hdrop := (takeWhile_append_of_stops hletters
    (hafter.stops fun _ => isLetterOrDigit_of_isWhiteSpace)).2
  rw [afterHalf, hdrop] at hmiddle
  split at hmiddle
  · rw [← Option.some.inj hmiddle, List.dropWhile_eq_nil_iff.2 hafter] at hother
    contradiction
  · contradiction

/-- A digit in front is a zip code in front. -/
theorem holds_digitLed_iff :
    Holds DigitLed line ↔ Holds PostalCode line ∧ afterRun isDigit line ≠ none := by
  rw [afterRun_ne_none_iff]
  constructor
  · rintro ⟨code, after, rfl, ⟨hcode, c, more, rfl, hc⟩, hafter⟩
    exact ⟨⟨_, after, rfl, hcode, hafter⟩, c, more ++ after, rfl, hc⟩
  · rintro ⟨⟨code, after, rfl, hcode, hafter⟩, c, more, hcons, hc⟩
    refine ⟨code, after, rfl, ⟨hcode, ?_⟩, hafter⟩
    cases hcode with
    | @mk first gap second hfirst hgap hne hsecond =>
        obtain ⟨d, others, rfl⟩ := List.exists_cons_of_ne_nil (ne_nil_of_half hfirst)
        have hd : d = c := (List.cons.inj hcons).1
        exact ⟨d, others ++ gap ++ second, rfl, hd ▸ hc⟩

/-- The filter decides for a zip code or a postal code before it looks for the
end of the line. -/
theorem keeps_postal_iff :
    LineKind.postal.filter.keeps line = true ↔
      LineKind.zip.filter.keeps line = true ∨
        LineFilter.keeps ⟨.postal .test, .whole⟩ line = true ∧ afterRun isDigit line = none := by
  rw [LineKind.keeps_iff, LineKind.keeps_iff,
    Rule.Tests.keeps_iff (fun _ _ => rfl) leaves_postal consumes_postal]
  simp only [LineKind.left, LineKind.filter, true_imp_iff]
  cases afterRun isDigit line <;> simp

/-- The filter for codes keeps the lines that hold a zip code or a postal code
and nothing else, except those where the postal code begins with a digit. -/
theorem code_kept_iff_not_digitLed (line : Text) :
    (LineKind.zip.filter.keeps line = true ↔ Holds Digits line) ∧
      (LineFilter.keeps ⟨.postal .test, .whole⟩ line = true ↔ Holds PostalCode line) ∧
      ((LineKind.postal.filter.keeps line = true ↔
          LineKind.zip.filter.keeps line = true ∨
            LineFilter.keeps ⟨.postal .test, .whole⟩ line = true) ↔
        ¬ Holds DigitLed line) := by
  have hzip : LineKind.zip.filter.keeps line = true ↔ Holds Digits line := by
    rw [LineKind.keeps_iff, holds_digits_iff]
    simp [LineKind.left, LineKind.filter]
  have hpostal : LineFilter.keeps ⟨.postal .test, .whole⟩ line = true ↔
      Holds PostalCode line := by
    rw [Rule.Tests.keeps_iff (fun _ _ => rfl) leaves_postal consumes_postal,
      holds_postalCode_iff]
    simp
  have hdisjoint : Holds Digits line → ¬ Holds PostalCode line := not_holds_postalCode
  refine ⟨hzip, hpostal, ?_⟩
  rw [keeps_postal_iff, holds_digitLed_iff, hzip, hpostal]
  tauto

/-- A postal code with a digit in front, alone on its line, is refused. -/
theorem digit_led_code_refused :
    Holds DigitLed "1A1 1A1".toList ∧
      LineFilter.keeps ⟨.postal .test, .whole⟩ "1A1 1A1".toList = true ∧
      LineKind.postal.filter.keeps "1A1 1A1".toList = false := by
  have hhalf : Half "1A1".toList := ⟨rfl, List.all_eq_true.1 (by decide +kernel)⟩
  have hcode : PostalCode "1A1 1A1".toList :=
    @PostalCode.mk "1A1".toList [' '] "1A1".toList hhalf (blank_singleton (by decide))
      (List.cons_ne_nil _ _) hhalf
  refine ⟨⟨_, [], (List.append_nil _).symm, ⟨hcode, '1', _, rfl, by decide⟩, blank_nil⟩, ?_, ?_⟩
  · decide +kernel
  · decide +kernel

end PostCode

end TextScan
