import TextScan.Proofs.Address.Numbers
import TextScan.Proofs.Runs

/-!
# How far a telephone number goes

A number is read in two parts.  The first has the sign and the country code;
nothing of it is required, and reading takes the longest beginning of the text
that has this form.  The second has the area code, the slash and the groups of
digits, of which one is required; it is read from where the first part ends,
and again the longest beginning of this form is taken.  No choice inside a part
matters, since a bracket, a slash or a digit can stand for one thing only.

The two parts together are the text that is captured, and the groups that are
returned are the runs of digits in it.
-/

namespace TextScan

namespace Grammar

/-- An optional sign and an optional country code. -/
inductive CountryPart : Text → Prop
  | mk {sign country : Text} (hsign : Sign sign) (hcountry : Maybe Digits country) :
      CountryPart (sign ++ country)

/-- An optional area code, an optional slash, and digits and delimiters with a
digit among them. -/
inductive LocalPart : Text → Prop
  | mk {area body : Text} (harea : Area area) (hbody : Delimited Telephone.delimiters body)
      (hdigit : ∃ c ∈ body, isDigit c = true) : LocalPart (area ++ body)

end Grammar

namespace Telephone

open Grammar Text

/-! ### Optional parts -/

section Optional

variable {left : Text → Option Text} {part : Text → Prop}
variable {before written after : Text}

/-- What is taken from the front of a text is the part. -/
def Takes (left : Text → Option Text) (part : Text → Prop) : Prop :=
  ∀ ⦃text rest⦄, left text = some rest → ∃ written, part written ∧ text = written ++ rest

theorem takes_char (c : Char) : Takes (afterChar c) (· = [c]) :=
  fun _ _ h => ⟨[c], rfl, afterChar_eq_some_iff.1 h⟩

theorem takes_brackets : Takes afterBrackets Bracketed := by
  intro text rest h
  obtain ⟨inner, hinner, h⟩ := Option.bind_eq_some_iff.1 h
  obtain ⟨close, hclose, hrest⟩ := Option.bind_eq_some_iff.1 h
  obtain ⟨digits, hne, hdigits, rfl, -⟩ := afterRun_eq_some_iff.1 hclose
  refine ⟨_, ⟨digits, ⟨hne, hdigits⟩, rfl⟩, ?_⟩
  rw [afterChar_eq_some_iff.1 hinner, afterChar_eq_some_iff.1 hrest]
  simp

/-- An optional part with white space around it is passed over. -/
theorem Takes.exists_pastMaybe (h : Takes left part) (text : Text) :
    ∃ before written after, Blank before ∧ Maybe part written ∧ Blank after ∧
      text = before ++ written ++ after ++ pastMaybe left text := by
  cases hfound : left (text.dropWhile isWhiteSpace) with
  | none =>
      refine ⟨text.takeWhile isWhiteSpace, [], [], blank_takeWhile text, .inl rfl, blank_nil, ?_⟩
      rw [pastMaybe, hfound, Option.getD_none, List.dropWhile_idempotent, List.append_nil,
        List.append_nil, List.takeWhile_append_dropWhile]
  | some rest =>
      obtain ⟨written, hwritten, hsplit⟩ := h hfound
      refine ⟨text.takeWhile isWhiteSpace, written, rest.takeWhile isWhiteSpace,
        blank_takeWhile text, .inr hwritten, blank_takeWhile rest, ?_⟩
      rw [pastMaybe, hfound, Option.getD_some, List.append_assoc, List.takeWhile_append_dropWhile,
        List.append_assoc, ← hsplit, List.takeWhile_append_dropWhile]

theorem Takes.pastMaybe_suffix (h : Takes left part) (text : Text) :
    pastMaybe left text <:+ text := by
  obtain ⟨before, written, after, -, -, -, hsplit⟩ := h.exists_pastMaybe text
  exact ⟨_, hsplit.symm⟩

/-- Past an optional part that stands there no more is left than follows it. -/
theorem Takes.pastMaybe_append_suffix (h : Takes left part) (hfound : Found left part)
    (hbefore : Blank before) (hwritten : Maybe part written) (hafter : Blank after)
    (rest : Text) : pastMaybe left (before ++ written ++ after ++ rest) <:+ rest := by
  rcases hwritten with rfl | hpart
  · rw [List.append_nil, pastMaybe, dropWhile_gap (hbefore.append hafter), ← pastMaybe]
    exact h.pastMaybe_suffix rest
  · obtain ⟨hsolid, hleft⟩ := hfound written hpart (after ++ rest)
    rw [pastMaybe, List.append_assoc, List.append_assoc, dropWhile_gap hbefore, hsolid, hleft,
      Option.getD_some, dropWhile_gap hafter]
    exact List.dropWhile_suffix isWhiteSpace

end Optional

/-! ### The first part -/

theorem exists_countryPart (text : Text) :
    ∃ written, CountryPart written ∧ text = written ++ pastCountry text := by
  obtain ⟨before, sign, after, hbefore, hsign, hafter, hsplit⟩ :=
    (takes_char '+').exists_pastMaybe text
  let rest := pastMaybe (afterChar '+') text
  have hcountry : Maybe Digits (rest.takeWhile isDigit) := by
    by_cases hnil : rest.takeWhile isDigit = []
    · exact .inl hnil
    · exact .inr ⟨hnil, fun c hc => List.mem_takeWhile_imp hc⟩
  refine ⟨_, .mk (.mk hbefore hsign hafter) hcountry, ?_⟩
  rw [pastCountry, List.append_assoc, List.takeWhile_append_dropWhile]
  exact hsplit

theorem pastCountry_append_suffix {written : Text} (h : CountryPart written) (rest : Text) :
    pastCountry (written ++ rest) <:+ rest := by
  cases h with
  | @mk sign country hsign hcountry =>
      rcases hcountry with rfl | hdigits
      · cases hsign with
        | mk hbefore hsign hafter =>
            have hplus := (takes_char '+').pastMaybe_append_suffix (found_char (by decide))
              hbefore hsign hafter rest
            rw [List.append_nil, pastCountry]
            exact (List.dropWhile_suffix isDigit).trans hplus
      · have hsolid := hdigits.dropWhile_space rest
        have hplus : afterChar '+' ((country ++ rest).dropWhile isWhiteSpace) = none := by
          rw [hsolid]
          exact hdigits.afterChar_eq_none (by decide) rest
        rw [List.append_assoc, hsign.pastCountry_eq hplus, hsolid,
          List.dropWhile_append_of_pos hdigits.digits]
        exact List.dropWhile_suffix isDigit

/-- All of the sign and the country code is read. -/
theorem exists_longest_countryPart (text : Text) :
    ∃ lead, Longest CountryPart text lead (pastCountry text) := by
  obtain ⟨lead, hlead, hsplit⟩ := exists_countryPart text
  refine ⟨lead, .of_suffix hsplit hlead ?_⟩
  rintro other after rfl hother
  exact pastCountry_append_suffix hother after

/-! ### The second part -/

/-- What is left after area code, slash and groups of digits. -/
def afterLocal (text : Text) : Option Text :=
  afterGroups delimiters (pastArea text)

theorem afterNumber_eq_afterLocal (text : Text) :
    afterNumber text = afterLocal (pastCountry text) :=
  rfl

theorem exists_area (text : Text) : ∃ area, Area area ∧ text = area ++ pastArea text := by
  obtain ⟨before, area, between, hbefore, harea, hbetween, hbracket⟩ :=
    takes_brackets.exists_pastMaybe text
  obtain ⟨gap, slash, after, hgap, hslash, hafter, hsplit⟩ :=
    (takes_char '/').exists_pastMaybe (pastMaybe afterBrackets text)
  refine ⟨_, .mk hbefore harea (hbetween.append hgap) hslash hafter, ?_⟩
  calc text = before ++ area ++ between ++ pastMaybe afterBrackets text := hbracket
    _ = before ++ area ++ between ++ (gap ++ slash ++ after ++ pastArea text) := by
      rw [pastArea, ← hsplit]
    _ = before ++ area ++ (between ++ gap ++ slash ++ after) ++ pastArea text := by
      simp only [List.append_assoc]

theorem exists_localPart {text rest : Text} (h : afterLocal text = some rest) :
    ∃ written, LocalPart written ∧ text = written ++ rest := by
  obtain ⟨area, harea, hsplit⟩ := exists_area text
  rw [afterLocal, afterGroups] at h
  split at h
  · rename_i hdigit
    obtain rfl := Option.some.inj h
    have hbody : Delimited delimiters ((pastArea text).takeWhile (inGroups delimiters)) :=
      fun c hc => inGroups_iff.1 (List.mem_takeWhile_imp hc)
    refine ⟨_, .mk harea hbody (List.any_eq_true.1 hdigit), ?_⟩
    rw [List.append_assoc, List.takeWhile_append_dropWhile]
    exact hsplit
  · contradiction

/-- White space in front of digits and delimiters is passed over, and a digit is left. -/
theorem dropWhile_body {body : Text} (hdigit : ∃ c ∈ body, isDigit c = true) (rest : Text) :
    (body ++ rest).dropWhile isWhiteSpace = body.dropWhile isWhiteSpace ++ rest := by
  rw [List.dropWhile_append, if_neg]
  rw [List.isEmpty_iff, List.dropWhile_eq_nil_iff]
  intro hblank
  obtain ⟨c, hc, hdigit⟩ := hdigit
  exact absurd (hdigit.symm.trans (isDigit_of_isWhiteSpace (hblank c hc))) (by decide)

theorem Delimited.afterChar_append_eq_none {set body : Text} {c : Char}
    (hbody : Delimited set body) (hne : body ≠ []) (hdigit : isDigit c = false)
    (hdelimiter : c ∉ set) (rest : Text) : afterChar c (body ++ rest) = none := by
  have hnone := hbody.afterChar_eq_none hdigit hdelimiter
  obtain ⟨first, more, rfl⟩ := List.exists_cons_of_ne_nil hne
  rw [afterChar] at hnone
  rw [List.cons_append, afterChar]
  split at hnone
  · contradiction
  · rename_i hother
    exact if_neg hother

/-- A second part that stands there is read, together with the digits and
delimiters that follow it. -/
theorem afterLocal_append {written : Text} (h : LocalPart written) (rest : Text) :
    afterLocal (written ++ rest) = some (rest.dropWhile (inGroups delimiters)) := by
  cases h with
  | @mk area body harea hbody hdigit =>
      have hfront := dropWhile_body hdigit rest
      have hleft : Delimited delimiters (body.dropWhile isWhiteSpace) := hbody.dropWhile _
      have hany : (body.dropWhile isWhiteSpace).any isDigit = true := by
        rw [any_isDigit_dropWhile]
        exact List.any_eq_true.2 hdigit
      have hne : body.dropWhile isWhiteSpace ≠ [] := by
        intro hnil
        rw [hnil] at hany
        contradiction
      have hall := delimited_iff.1 hleft
      have hpast : pastArea (area ++ (body ++ rest)) = body.dropWhile isWhiteSpace ++ rest := by
        rw [harea.pastArea_of_none, hfront]
        · rw [hfront]
          exact Delimited.afterChar_append_eq_none hleft hne (by decide) (by decide) rest
        · rw [hfront]
          exact Delimited.afterChar_append_eq_none hleft hne (by decide) (by decide) rest
      rw [List.append_assoc, afterLocal, hpast, afterGroups, List.takeWhile_append_of_pos hall,
        List.dropWhile_append_of_pos hall, if_pos]
      rw [List.any_append, hany, Bool.true_or]

/-- All of the second part is read. -/
theorem exists_longest_localPart {text rest : Text} (h : afterLocal text = some rest) :
    ∃ part, Longest LocalPart text part rest := by
  obtain ⟨part, hpart, hsplit⟩ := exists_localPart h
  refine ⟨part, .of_suffix hsplit hpart ?_⟩
  rintro other after rfl hother
  rw [afterLocal_append hother] at h
  rw [← Option.some.inj h]
  exact List.dropWhile_suffix _

theorem afterLocal_isSome_iff {text : Text} :
    (afterLocal text).isSome = true ↔ ∃ part after, text = part ++ after ∧ LocalPart part := by
  rw [Option.isSome_iff_exists]
  constructor
  · rintro ⟨rest, hrest⟩
    obtain ⟨part, hpart, hsplit⟩ := exists_localPart hrest
    exact ⟨part, rest, hsplit, hpart⟩
  · rintro ⟨part, after, rfl, hpart⟩
    exact ⟨_, afterLocal_append hpart after⟩

/-- What a number reads is all that it does not leave, and its groups are the
runs of digits there. -/
theorem number_of_split {site : Site} {written after : Text} (hsplit : site.rest = written ++ after)
    (h : afterNumber site.rest = some after) :
    ∃ groups next, number site = some (groups, next) ∧ site.LeadsBy written next ∧
      Span.Runs ⟨site.offset, written⟩ isDigit groups := by
  obtain ⟨⟨groups, next⟩, hread, hrest⟩ := Option.map_eq_some_iff.1 ((leaves_number site).trans h)
  obtain ⟨-, passed, hrun, hruns, -⟩ := passes_number hread
  have hboth : passed ++ after = written ++ after := by
    rw [← hsplit, hrun.rest_eq, hrest]
  obtain rfl := List.append_cancel_right hboth
  exact ⟨groups, next, hread, hrun, hruns⟩

end Telephone

namespace Grammar

open Telephone

/-- A number is found exactly if area code, slash and groups of digits stand
where the longest first part ends.  What is read is this first part and after it
the longest second part, and the groups that are returned are the runs of digits
in both together. -/
theorem number_spans_longest_parts (text : Text) (cursor : Cursor) :
    ∃ lead rest, Longest CountryPart (text.remaining cursor.offset) lead rest ∧
      (((Rule.phoneNumber .test).apply text cursor).1 = .verdict true ↔
        ∃ part after, rest = part ++ after ∧ LocalPart part) ∧
      (((Rule.phoneNumber .test).apply text cursor).1 = .verdict true →
        ∃ part after groups, Longest LocalPart rest part after ∧
          Span.Runs ⟨cursor.offset, lead ++ part⟩ isDigit groups ∧
          (Rule.phoneNumber .test).apply text cursor =
            (.verdict true, cursor.past (lead ++ part)) ∧
          (Rule.phoneNumber .capture).apply text cursor =
            (.span (some ⟨cursor.offset, lead ++ part⟩), cursor.past (lead ++ part)) ∧
          Rule.phoneGroups.apply text cursor =
            (.spans (some groups), cursor.past (lead ++ part))) := by
  obtain ⟨lead, hlead⟩ := exists_longest_countryPart (text.remaining cursor.offset)
  have hmatched : ((Rule.phoneNumber .test).apply text cursor).1 = .verdict true ↔
      (afterLocal (pastCountry (text.remaining cursor.offset))).isSome = true := by
    rw [← afterNumber_eq_afterLocal,
      ← (leaves_number.test_spec consumes_number text cursor).1]
    exact iff_of_eq (Answer.verdict.injEq _ _)
  refine ⟨lead, _, hlead, hmatched.trans afterLocal_isSome_iff, fun h => ?_⟩
  obtain ⟨after, hafter⟩ := Option.isSome_iff_exists.1 (hmatched.1 h)
  obtain ⟨part, hpart⟩ := exists_longest_localPart hafter
  have hsplit : (Site.ofCursor text cursor).rest = lead ++ part ++ after := by
    rw [List.append_assoc, ← hpart.split]
    exact hlead.split
  obtain ⟨groups, next, hread, hrun, hruns⟩ := number_of_split hsplit hafter
  have hne : lead ++ part ≠ [] := by
    obtain ⟨run, hne, hlater⟩ := consumes_number hread
    rwa [hrun.unique hlater]
  obtain ⟨htest, hcapture, hvalue⟩ := Scanner.forms_of_read hread hrun hne
  refine ⟨part, after, groups, hpart, hruns, ?_, ?_, ?_⟩
  · rw [Rule.apply, Rule.report, htest]
  · rw [Rule.apply, Rule.report, hcapture]
    rfl
  · rw [Rule.apply, hvalue]
    rfl

/-- A number after a two-byte character, with a bracket that is closed and one that is not. -/
theorem number_before_open_bracket :
    ((Rule.phoneNumber .test).apply "é+49 (89) 63-(1".toList ⟨2, 1, 0⟩).1 = .verdict true ∧
      ∃ lead rest part after groups,
        Longest CountryPart "+49 (89) 63-(1".toList lead rest ∧
        Longest LocalPart rest part after ∧ Span.Runs ⟨2, lead ++ part⟩ isDigit groups ∧
        Rule.phoneGroups.apply "é+49 (89) 63-(1".toList ⟨2, 1, 0⟩ =
          (.spans (some groups), Cursor.past ⟨2, 1, 0⟩ (lead ++ part)) := by
  have hmatched : ((Rule.phoneNumber .test).apply "é+49 (89) 63-(1".toList ⟨2, 1, 0⟩).1 =
      .verdict true := by
    decide +kernel
  obtain ⟨lead, rest, hlead, -, hread⟩ :=
    number_spans_longest_parts "é+49 (89) 63-(1".toList ⟨2, 1, 0⟩
  obtain ⟨part, after, groups, hpart, hruns, -, -, hgroups⟩ := hread hmatched
  exact ⟨hmatched, lead, rest, part, after, groups, hlead, hpart, hruns, hgroups⟩

end Grammar

end TextScan
