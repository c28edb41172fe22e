import TextScan.Proofs.Address.Remainders
import TextScan.Proofs.Forms

/-!
# Telephone numbers as documented

The grammar of a number is

`ws? '+'? ws? digits? ws? ('(' digits ')')? ws? '/'? ws? (digits | delimiter)+`,

where only the run of digits and delimiters at the end is required, with a
digit in it.  Reading takes the first digits for a country code wherever it
finds them and never gives them back.  So it fails on the numbers whose digits
all stand in one group without an area code or a slash: then no digit is left
for the part that is required.  All other numbers are read to their end.
-/

namespace TextScan

namespace Grammar

open Telephone

def Maybe (part : Text → Prop) (written : Text) : Prop :=
  written = [] ∨ part written

def Bracketed (written : Text) : Prop :=
  ∃ digits, Digits digits ∧ written = '(' :: digits ++ [')']

/-- An optional plus sign with white space around it. -/
inductive Sign : Text → Prop
  | mk {before sign after : Text} (hbefore : Blank before) (hsign : Maybe (· = ['+']) sign)
      (hafter : Blank after) : Sign (before ++ sign ++ after)

/-- An optional area code and an optional slash with white space around them. -/
inductive Area : Text → Prop
  | mk {before area between slash after : Text} (hbefore : Blank before)
      (harea : Maybe Bracketed area) (hbetween : Blank between)
      (hslash : Maybe (· = ['/']) slash) (hafter : Blank after) :
      Area (before ++ area ++ (between ++ slash ++ after))

inductive Number : Text → Prop
  | mk {sign country area body : Text} (hsign : Sign sign) (hcountry : Maybe Digits country)
      (harea : Area area) (hbody : Delimited delimiters body)
      (hdigit : ∃ c ∈ body, isDigit c = true) : Number (sign ++ country ++ area ++ body)

/-- A number with all its digits in one group and delimiters after it. -/
inductive SingleGroup : Text → Prop
  | mk {sign digits after : Text} (hsign : Sign sign) (hdigits : Digits digits)
      (hafter : ∀ c ∈ after, c ∈ delimiters) : SingleGroup (sign ++ digits ++ after)

end Grammar

namespace Telephone

open Grammar Text

/-! ### Optional parts -/

section Optional

variable {left : Text → Option Text} {part : Text → Prop} {gap written rest : Text}

theorem dropWhile_gap (hgap : Blank gap) (rest : Text) :
    (gap ++ rest).dropWhile isWhiteSpace = rest.dropWhile isWhiteSpace :=
  List.dropWhile_append_of_pos hgap

theorem pastMaybe_dropWhile (left : Text → Option Text) (text : Text) :
    pastMaybe left (text.dropWhile isWhiteSpace) = pastMaybe left text := by
  rw [pastMaybe, List.dropWhile_idempotent, ← pastMaybe]

/-- The part does not begin with white space, and it is found where it stands. -/
def Found (left : Text → Option Text) (part : Text → Prop) : Prop :=
  ∀ written, part written → ∀ rest,
    (written ++ rest).dropWhile isWhiteSpace = written ++ rest ∧ left (written ++ rest) = some rest

theorem found_char {c : Char} (hc : isWhiteSpace c = false) : Found (afterChar c) (· = [c]) := by
  rintro written rfl rest
  simp [afterChar, hc]

theorem afterRun_append {accepts : Char → Bool} {run : Text} (hne : run ≠ [])
    (hrun : ∀ c ∈ run, accepts c = true) {c : Char} (hc : accepts c = false) (rest : Text) :
    afterRun accepts (run ++ c :: rest) = some (c :: rest) := by
  obtain ⟨first, more, rfl⟩ := List.exists_cons_of_ne_nil hne
  have hmore : ∀ d ∈ more, accepts d = true := fun d hd => hrun d (List.mem_cons_of_mem _ hd)
  simp [afterRun, hrun first List.mem_cons_self, List.dropWhile_append_of_pos hmore, hc]

theorem found_brackets : Found afterBrackets Bracketed := by
  rintro written ⟨digits, hdigits, rfl⟩ rest
  have hopen : isWhiteSpace '(' = false := by decide
  have hclose : isDigit ')' = false := by decide
  have hinner : afterRun isDigit (digits ++ ')' :: rest) = some (')' :: rest) :=
    afterRun_append hdigits.ne_nil hdigits.digits hclose rest
  simp [afterBrackets, afterChar, hopen, hinner]

/-- An optional part is passed over, whether or not it is there. -/
theorem Found.pastMaybe_eq (h : Found left part) (hgap : Blank gap)
    (hwritten : Maybe part written) (hrest : left (rest.dropWhile isWhiteSpace) = none) :
    pastMaybe left (gap ++ written ++ rest) = rest.dropWhile isWhiteSpace := by
  rw [pastMaybe, List.append_assoc, dropWhile_gap hgap]
  rcases hwritten with rfl | hpart
  · rw [List.nil_append, hrest, Option.getD_none, List.dropWhile_idempotent]
  · obtain ⟨hsolid, hfound⟩ := h written hpart rest
    rw [hsolid, hfound, Option.getD_some]

end Optional

end Telephone

/-! ### The steps of a number -/

namespace Grammar

open Telephone Text

section Steps

variable {sign area body digits rest set text : Text} {c : Char}

theorem Delimited.append {first second : Text} (hfirst : Delimited set first)
    (hsecond : Delimited set second) : Delimited set (first ++ second) := by
  intro c hc
  exact (List.mem_append.1 hc).elim (hfirst c) (hsecond c)

/-- What is left of digits and delimiters is digits and delimiters. -/
theorem Delimited.dropWhile (h : Delimited set text) (accepts : Char → Bool) :
    Delimited set (text.dropWhile accepts) :=
  fun c hc => h c ((List.dropWhile_suffix accepts).subset hc)

/-- No other character stands in front of digits and delimiters. -/
theorem Delimited.afterChar_eq_none (h : Delimited set text) (hdigit : isDigit c = false)
    (hdelimiter : c ∉ set) : afterChar c text = none := by
  cases text with
  | nil => rfl
  | cons first rest =>
      have hne : first ≠ c := by
        rintro rfl
        rcases h first List.mem_cons_self with htrue | hmem
        · exact absurd (htrue.symm.trans hdigit) (by decide)
        · exact hdelimiter hmem
      simp [afterChar, hne]

theorem Sign.pastCountry_eq (h : Sign sign)
    (hrest : afterChar '+' (rest.dropWhile isWhiteSpace) = none) :
    pastCountry (sign ++ rest) = (rest.dropWhile isWhiteSpace).dropWhile isDigit := by
  cases h with
  | mk hbefore hsign hafter =>
      rw [← dropWhile_gap hafter] at hrest
      rw [List.append_assoc, pastCountry,
        (found_char (by decide)).pastMaybe_eq hbefore hsign hrest, dropWhile_gap hafter]

/-- Area code and slash are passed over where no other bracket or slash follows. -/
theorem Area.pastArea_of_none (h : Area area)
    (hbracket : afterChar '(' (rest.dropWhile isWhiteSpace) = none)
    (hslash : afterChar '/' (rest.dropWhile isWhiteSpace) = none) :
    pastArea (area ++ rest) = rest.dropWhile isWhiteSpace := by
  cases h with
  | @mk before area between slash after hbefore harea hbetween hmaybe hafter =>
      have hslashed : afterChar '/' ((after ++ rest).dropWhile isWhiteSpace) = none := by
        rw [dropWhile_gap hafter, hslash]
      have hopen : afterBrackets ((between ++ slash ++ (after ++ rest)).dropWhile isWhiteSpace) =
          none := by
        rw [List.append_assoc, dropWhile_gap hbetween]
        rcases hmaybe with rfl | rfl
        · rw [List.nil_append, dropWhile_gap hafter, afterBrackets, hbracket]
          rfl
        · have hsolid : isWhiteSpace '/' = false := by decide
          simp [afterBrackets, afterChar, hsolid]
      calc pastArea (before ++ area ++ (between ++ slash ++ after) ++ rest)
          = pastArea (before ++ area ++ (between ++ slash ++ (after ++ rest))) := by
            simp only [List.append_assoc]
        _ = pastMaybe (afterChar '/') (between ++ slash ++ (after ++ rest)) := by
            rw [pastArea, found_brackets.pastMaybe_eq hbefore harea hopen, pastMaybe_dropWhile]
        _ = rest.dropWhile isWhiteSpace := by
            rw [(found_char (by decide)).pastMaybe_eq hbetween hmaybe hslashed,
              dropWhile_gap hafter]

theorem Area.pastArea_eq (h : Area area) (hrest : Delimited delimiters rest) :
    pastArea (area ++ rest) = rest.dropWhile isWhiteSpace :=
  h.pastArea_of_none ((hrest.dropWhile _).afterChar_eq_none (by decide) (by decide))
    ((hrest.dropWhile _).afterChar_eq_none (by decide) (by decide))

/-- White space in front has no digits. -/
theorem any_isDigit_dropWhile (text : Text) :
    (text.dropWhile isWhiteSpace).any isDigit = text.any isDigit := by
  have hgap : (text.takeWhile isWhiteSpace).any isDigit = false := by
    rw [List.any_eq_false]
    intro c hc
    simp [isDigit_of_isWhiteSpace (List.mem_takeWhile_imp hc)]
  calc (text.dropWhile isWhiteSpace).any isDigit
      = (text.takeWhile isWhiteSpace ++ text.dropWhile isWhiteSpace).any isDigit := by
        rw [List.any_append, hgap, Bool.false_or]
    _ = text.any isDigit := by rw [List.takeWhile_append_dropWhile]

theorem Delimited.afterGroups_eq (h : Delimited set text) :
    afterGroups set text = if text.any isDigit then some [] else none := by
  have hall := delimited_iff.1 h
  rw [afterGroups, List.takeWhile_eq_self_iff.2 hall, List.dropWhile_eq_nil_iff.2 hall]

theorem area_nil : Area [] :=
  @Area.mk [] [] [] [] [] blank_nil (.inl rfl) blank_nil (.inl rfl) blank_nil

/-- Without area code and slash the first digits are taken for a country code,
and a digit has to come after them. -/
theorem Sign.afterNumber_eq (h : Sign sign) (hbody : Delimited delimiters body) :
    afterNumber (sign ++ body) =
      if ((body.dropWhile isWhiteSpace).dropWhile isDigit).any isDigit then some [] else none := by
  have hplus : afterChar '+' (body.dropWhile isWhiteSpace) = none :=
    (hbody.dropWhile _).afterChar_eq_none (by decide) (by decide)
  have hmore := (hbody.dropWhile isWhiteSpace).dropWhile isDigit
  have harea := area_nil.pastArea_eq hmore
  rw [List.nil_append] at harea
  rw [afterNumber, h.pastCountry_eq hplus, harea, (hmore.dropWhile _).afterGroups_eq,
    any_isDigit_dropWhile]

theorem isWhiteSpace_of_isDigit (h : isDigit c = true) : isWhiteSpace c = false := by
  cases hspace : isWhiteSpace c with
  | false => rfl
  | true => exact absurd (h.symm.trans (isDigit_of_isWhiteSpace hspace)) (by decide)

theorem Digits.dropWhile_space (h : Digits digits) (rest : Text) :
    (digits ++ rest).dropWhile isWhiteSpace = digits ++ rest := by
  obtain ⟨first, more, rfl⟩ := List.exists_cons_of_ne_nil h.ne_nil
  have hfirst := isWhiteSpace_of_isDigit (h.digits first List.mem_cons_self)
  simp [hfirst]

theorem Digits.afterChar_eq_none (h : Digits digits) (hc : isDigit c = false) (rest : Text) :
    afterChar c (digits ++ rest) = none := by
  obtain ⟨first, more, rfl⟩ := List.exists_cons_of_ne_nil h.ne_nil
  have hfirst : first ≠ c := by
    rintro rfl
    exact absurd ((h.digits first List.mem_cons_self).symm.trans hc) (by decide)
  simp [afterChar, hfirst]

/-- Behind the digits of a single group no digit is left. -/
theorem SingleGroup.afterNumber_eq_none (h : SingleGroup text) : afterNumber text = none := by
  cases h with
  | @mk sign digits after hsign hdigits hafter =>
      have hnone : ∀ c ∈ after, isDigit c = false :=
        fun c hc => isDigit_of_mem_delimiters (hafter c hc)
      have hbody : Delimited delimiters (digits ++ after) :=
        Delimited.append (fun c hc => .inl (hdigits.digits c hc)) fun c hc => .inr (hafter c hc)
      have hleft : (digits ++ after).dropWhile isDigit = after.dropWhile isDigit :=
        List.dropWhile_append_of_pos hdigits.digits
      rw [List.append_assoc, hsign.afterNumber_eq hbody, hdigits.dropWhile_space, hleft, if_neg]
      rw [List.any_eq_true]
      rintro ⟨c, hc, hdigit⟩
      exact absurd (hdigit.symm.trans (hnone c ((List.dropWhile_suffix _).subset hc))) (by decide)

theorem Sign.append (h : Sign sign) {gap : Text} (hgap : Blank gap) : Sign (sign ++ gap) := by
  cases h with
  | mk hbefore hsign hafter =>
      rw [List.append_assoc]
      exact .mk hbefore hsign (hafter.append hgap)

/-- Digits and delimiters of which no digit is left are a single group. -/
theorem Sign.singleGroup_or (h : Sign sign) (hbody : Delimited delimiters body)
    (hdigit : ∃ c ∈ body, isDigit c = true) :
    SingleGroup (sign ++ body) ∨ afterNumber (sign ++ body) = some [] := by
  rw [h.afterNumber_eq hbody]
  let gap := body.takeWhile isWhiteSpace
  let group := (body.dropWhile isWhiteSpace).takeWhile isDigit
  let after := (body.dropWhile isWhiteSpace).dropWhile isDigit
  by_cases hmore : after.any isDigit = true
  · exact .inr (if_pos hmore)
  · rw [Bool.not_eq_true] at hmore
    have hsolid : group ++ after = body.dropWhile isWhiteSpace := List.takeWhile_append_dropWhile
    have hparts : sign ++ body = sign ++ gap ++ group ++ after := by
      rw [List.append_assoc _ group, hsolid, List.append_assoc, List.takeWhile_append_dropWhile]
    have hgroup : Digits group := by
      refine ⟨fun hnil => ?_, fun c hc => List.mem_takeWhile_imp hc⟩
      have hany : body.any isDigit = true := List.any_eq_true.2 hdigit
      rw [← any_isDigit_dropWhile, ← hsolid, hnil, List.nil_append, hmore] at hany
      contradiction
    have hafter : ∀ c ∈ after, c ∈ delimiters := by
      intro c hc
      refine ((hbody.dropWhile _).dropWhile _ c hc).resolve_left fun hc' => ?_
      exact List.any_eq_false.1 hmore c hc hc'
    rw [hparts]
    exact .inl (.mk (h.append fun c hc => List.mem_takeWhile_imp hc) hgroup hafter)

/-- An area code or a slash begins what stands between country code and body,
white space aside, if there is one. -/
theorem Area.blank_or (h : Area area) :
    Blank area ∨ ∃ gap c more, area = gap ++ c :: more ∧ Blank gap ∧ Area (c :: more) ∧
      (c = '(' ∨ c = '/') := by
  cases h with
  | @mk before area between slash after hbefore harea hbetween hslash hafter =>
      rcases harea with rfl | ⟨digits, hdigits, rfl⟩
      · rcases hslash with rfl | rfl
        · left
          simpa using hbefore.append (hbetween.append hafter)
        · refine .inr ⟨before ++ between, '/', after, by simp, hbefore.append hbetween, ?_,
            .inr rfl⟩
          exact @Area.mk [] [] [] ['/'] after blank_nil (.inl rfl) blank_nil (.inr rfl) hafter
      · refine .inr ⟨before, '(', digits ++ [')'] ++ (between ++ slash ++ after), by simp, hbefore,
          ?_, .inl rfl⟩
        exact .mk blank_nil (.inr ⟨digits, hdigits, rfl⟩) hbetween hslash hafter

theorem Area.dropWhile_isDigit (h : Area area) (hne : area ≠ []) (rest : Text) :
    (area ++ rest).dropWhile isDigit = area ++ rest := by
  obtain ⟨first, more, rfl⟩ := List.exists_cons_of_ne_nil hne
  have hfirst : isDigit first = false := by
    rcases h.blank_or with hblank | ⟨gap, c, others, heq, hgap, -, hc⟩
    · exact isDigit_of_isWhiteSpace (hblank first List.mem_cons_self)
    · cases gap with
      | nil =>
          rw [(List.cons.inj heq).1]
          rcases hc with rfl | rfl <;> decide
      | cons d gap =>
          rw [(List.cons.inj heq).1]
          exact isDigit_of_isWhiteSpace (hgap d List.mem_cons_self)
  simp [hfirst]

section Divided

variable (hsign : Sign sign) (harea : Area area) (hbody : Delimited delimiters body)
  (hdigit : ∃ c ∈ body, isDigit c = true)

include harea hbody hdigit

theorem afterNumber_of_pastCountry (h : pastCountry text = area ++ body) :
    afterNumber text = some [] := by
  have hany : (body.dropWhile isWhiteSpace).any isDigit = true := by
    rw [any_isDigit_dropWhile]
    exact List.any_eq_true.2 hdigit
  rw [afterNumber, h, harea.pastArea_eq hbody, (hbody.dropWhile _).afterGroups_eq, if_pos hany]

include hsign

/-- White space or an area code or a slash ends the country code. -/
theorem Digits.afterNumber_eq (hcountry : Digits digits) (hne : area ≠ []) :
    afterNumber (sign ++ (digits ++ (area ++ body))) = some [] := by
  have hsolid := hcountry.dropWhile_space (area ++ body)
  have hplus : afterChar '+' ((digits ++ (area ++ body)).dropWhile isWhiteSpace) = none := by
    rw [hsolid]
    exact hcountry.afterChar_eq_none (by decide) (area ++ body)
  refine afterNumber_of_pastCountry harea hbody hdigit ?_
  rw [hsign.pastCountry_eq hplus, hsolid, List.dropWhile_append_of_pos hcountry.digits,
    harea.dropWhile_isDigit hne]

/-- Without a country code, an area code or a slash keeps the digits after it. -/
theorem Area.afterNumber_eq {more : Text} (hc : c = '(' ∨ c = '/') (heq : area = c :: more) :
    afterNumber (sign ++ (area ++ body)) = some [] := by
  have hsolid : (area ++ body).dropWhile isWhiteSpace = area ++ body := by
    have hspace : isWhiteSpace c = false := by rcases hc with rfl | rfl <;> decide
    simp [heq, hspace]
  have hplus : afterChar '+' ((area ++ body).dropWhile isWhiteSpace) = none := by
    have hne : c ≠ '+' := by rcases hc with rfl | rfl <;> decide
    rw [hsolid, heq]
    simp [afterChar, hne]
  refine afterNumber_of_pastCountry harea hbody hdigit ?_
  rw [hsign.pastCountry_eq hplus, hsolid, harea.dropWhile_isDigit (by simp [heq])]

end Divided

/-- A number is read to its end unless it is a single group. -/
theorem Number.singleGroup_or (h : Number text) :
    SingleGroup text ∨ afterNumber text = some [] := by
  cases h with
  | @mk sign country area body hsign hcountry harea hbody hdigit =>
      rcases hcountry with rfl | hcountry
      · rw [List.append_nil]
        rcases harea.blank_or with hblank | ⟨gap, c, more, rfl, hgap, harea, hc⟩
        · exact (hsign.append hblank).singleGroup_or hbody hdigit
        · rw [← List.append_assoc sign, List.append_assoc]
          exact .inr (harea.afterNumber_eq (hsign.append hgap) hbody hdigit hc rfl)
      · by_cases hne : area = []
        · have hcountryBody : Delimited delimiters (country ++ body) :=
            Delimited.append (fun c hc => .inl (hcountry.digits c hc)) hbody
          rw [hne, List.append_nil, List.append_assoc]
          exact hsign.singleGroup_or hcountryBody
            (hdigit.imp fun c hc => ⟨List.mem_append_right _ hc.1, hc.2⟩)
        · rw [List.append_assoc, List.append_assoc]
          exact .inr (hcountry.afterNumber_eq hsign harea hbody hdigit hne)

theorem Number.afterNumber_iff (h : Number text) :
    afterNumber text = some [] ↔ ¬ SingleGroup text := by
  constructor
  · intro hread hsingle
    rw [hsingle.afterNumber_eq_none] at hread
    contradiction
  · exact h.singleGroup_or.resolve_left

end Steps

/-! ### Numbers and lines with a number -/

theorem afterNumber_dropWhile (text : Text) :
    afterNumber (text.dropWhile isWhiteSpace) = afterNumber text := by
  rw [afterNumber, pastCountry, pastMaybe_dropWhile, ← pastCountry, ← afterNumber]

/-- A label is found where it stands. -/
theorem afterWord_append (mode : CaseMode) (word rest : Text) :
    afterWord mode word (word ++ rest) = some rest := by
  have hfound : spelled? mode word (word ++ rest) = some word := by
    induction word with
    | nil => rfl
    | cons c word ih => simp [spelled?, CaseMode.agrees, ih]
  simp [afterWord, hfound]

theorem afterLabel_phone (text : Text) :
    afterLabel ("Phone: ".toList ++ text) = some (text.dropWhile isWhiteSpace) := by
  have hstart : ("Phone: ".toList ++ text).dropWhile isWhiteSpace = "Phone: ".toList ++ text := by
    have hsolid : isWhiteSpace 'P' = false := by decide
    simp [hsolid]
  have hfax : afterWord .ignored "Fax".toList ("Phone: ".toList ++ text) = none := by
    have hother : CaseMode.ignored.agrees 'P' 'F' = false := by decide +kernel
    simp [afterWord, spelled?, hother]
  have hphone : afterWord .ignored "Phone".toList ("Phone: ".toList ++ text) =
      some (':' :: ' ' :: text) :=
    afterWord_append .ignored "Phone".toList (':' :: ' ' :: text)
  have hcolon : pastMaybe (afterChar ':') (':' :: ' ' :: text) = text.dropWhile isWhiteSpace := by
    have hsolid : isWhiteSpace ':' = false := by decide
    have hspace : isWhiteSpace ' ' = true := by decide
    simp [pastMaybe, afterChar, hsolid, hspace]
  rw [afterLabel, hstart, afterAnyWord, labels, List.findSome?_cons, hfax, List.findSome?_cons,
    hphone]
  exact congrArg some hcolon

/-- Of the numbers of the grammar those are read to their end, and the lines
with them are kept, that are not a single group of digits. -/
theorem number_read_iff_not_singleGroup {text : Text} (h : Number text) (other : Text)
    (cursor : Cursor) :
    ((Rule.wholly (.phoneNumber .test) text).apply other cursor = (.verdict true, cursor) ↔
        ¬ SingleGroup text) ∧
      (LineKind.phone.filter.keeps ("Phone: ".toList ++ text) = true ↔ ¬ SingleGroup text) := by
  have htests : (Rule.phoneNumber .test).Tests number := fun _ _ => rfl
  have hleft : LineKind.phone.left ("Phone: ".toList ++ text) = afterNumber text := by
    rw [LineKind.left, afterLabel_phone, Option.bind_some, afterNumber_dropWhile]
  refine ⟨(htests.wholly_iff leaves_number consumes_number ..).trans h.afterNumber_iff, ?_⟩
  rw [LineKind.keeps_iff, hleft]
  constructor
  · rintro ⟨rest, hrest, -⟩ hsingle
    rw [hsingle.afterNumber_eq_none] at hrest
    contradiction
  · intro hsingle
    exact ⟨[], h.afterNumber_iff.2 hsingle, fun _ => blank_nil⟩

theorem number_of_all_parts_read :
    Number "+49 (089) / 636-48018".toList ∧ ¬ SingleGroup "+49 (089) / 636-48018".toList ∧
      LineKind.phone.filter.keeps "Phone: +49 (089) / 636-48018".toList = true := by
  have hspace : Blank [' '] := blank_singleton (by decide)
  have hsign : Sign ['+'] := @Sign.mk [] ['+'] [] blank_nil (.inr rfl) blank_nil
  have hcode : Digits "089".toList := ⟨by decide, List.all_eq_true.1 (by decide)⟩
  have harea : Area " (089) / ".toList :=
    @Area.mk [' '] "(089)".toList [' '] ['/'] [' '] hspace (.inr ⟨_, hcode, rfl⟩) hspace
      (.inr rfl) hspace
  have hgroups : "636-48018".toList.all (inGroups delimiters) = true := by decide
  have hbody : Delimited delimiters "636-48018".toList :=
    fun c hc => inGroups_iff.1 (List.all_eq_true.1 hgroups c hc)
  have hnumber : Number "+49 (089) / 636-48018".toList :=
    @Number.mk ['+'] ['4', '9'] _ _ hsign (.inr ⟨by decide, List.all_eq_true.1 (by decide)⟩) harea
      hbody ⟨'6', by decide, by decide⟩
  obtain ⟨hread, hkept⟩ := number_read_iff_not_singleGroup hnumber [] .start
  have hdivided := hread.1 (by decide +kernel)
  exact ⟨hnumber, hdivided, hkept.2 hdivided⟩

/-- A plain number in one group is a number of the grammar, and it is refused. -/
theorem single_group_refused :
    Number "5555555".toList ∧ SingleGroup "5555555".toList ∧
      (Rule.wholly (.phoneNumber .test) "5555555".toList).apply [] .start =
        (.verdict false, .start) ∧
      LineKind.phone.filter.keeps "Phone: 5555555".toList = false := by
  have hsign : Sign [] := @Sign.mk [] [] [] blank_nil (.inl rfl) blank_nil
  have hdigits : Digits "5555555".toList := ⟨by decide, List.all_eq_true.1 (by decide)⟩
  refine ⟨?_, ?_, by decide +kernel, by decide +kernel⟩
  · exact @Number.mk [] [] [] _ hsign (.inl rfl) area_nil (fun c hc => .inl (hdigits.digits c hc))
      ⟨'5', by decide, by decide⟩
  · exact @SingleGroup.mk [] _ [] hsign hdigits (by simp)

end Grammar

end TextScan
