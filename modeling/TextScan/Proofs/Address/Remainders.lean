import Mathlib.Data.List.DropRight
import TextScan.Address.Block
import TextScan.Proofs.Contract
import TextScan.Proofs.Extent

/-!
# What the address grammars leave

Whether a line is kept depends on what its grammar leaves of the line, not on
where the line stands or on what is read.  So a grammar of addresses is
described here by a function that takes a text to what is left of it, and the
function of a grammar is put together from those of its parts.  Telephone
numbers come out as three steps: past the country code, past the area code,
past the groups of digits.
-/

namespace TextScan

open Grammar

theorem isDigit_of_isWhiteSpace {c : Char} (h : isWhiteSpace c = true) : isDigit c = false :=
  (Bool.or_eq_false_iff.1 (isLetterOrDigit_of_isWhiteSpace h)).2

theorem Grammar.Blank.stops {text : Text} (h : Blank text) {accepts : Char → Bool}
    (hsolid : ∀ c, isWhiteSpace c = true → accepts c = false) : text.Stops accepts :=
  Text.stops_of_forall fun c hc => hsolid c (h c hc)

/-! ### What is left of a text -/

namespace Text

def afterChar (expected : Char) : Text → Option Text
  | [] => none
  | c :: rest => if c = expected then some rest else none

/-- What is left after the longest run of accepted characters, if there is one
at least. -/
def afterRun (accepts : Char → Bool) : Text → Option Text
  | [] => none
  | c :: rest => if accepts c then some (rest.dropWhile accepts) else none

def afterWord (mode : CaseMode) (word text : Text) : Option Text :=
  (spelled? mode word text).map fun found => text.drop found.length

def afterAnyWord (mode : CaseMode) (words : List Text) (text : Text) : Option Text :=
  words.findSome? (afterWord mode · text)

theorem afterAnyWord_cons (mode : CaseMode) (word : Text) (words : List Text) (text : Text) :
    afterAnyWord mode (word :: words) text =
      (afterWord mode word text).or (afterAnyWord mode words text) := by
  rw [afterAnyWord, List.findSome?_cons]
  cases afterWord mode word text <;> rfl

/-- What is left after an optional part and the white space around it. -/
def pastMaybe (left : Text → Option Text) (text : Text) : Text :=
  let start := text.dropWhile isWhiteSpace
  ((left start).getD start).dropWhile isWhiteSpace

section Splits

variable {accepts : Char → Bool} {text rest : Text}

theorem afterChar_eq_some_iff {expected : Char} :
    afterChar expected text = some rest ↔ text = expected :: rest := by
  cases text with
  | nil => simp [afterChar]
  | cons c more => by_cases hc : c = expected <;> simp [afterChar, hc]

/-- A text splits in one way into accepted characters and what does not begin with one. -/
theorem takeWhile_append_of_stops {run : Text} (hrun : ∀ c ∈ run, accepts c = true)
    (hrest : rest.Stops accepts) :
    (run ++ rest).takeWhile accepts = run ∧ (run ++ rest).dropWhile accepts = rest := by
  have htake : (run ++ rest).takeWhile accepts = run := by
    rw [← Probe.run_char]
    exact Probe.run_char_eq_iff.2 ⟨rest, rfl, hrun, hrest⟩
  refine ⟨htake, ?_⟩
  have hsplit := List.takeWhile_append_dropWhile (p := accepts) (l := run ++ rest)
  rw [htake] at hsplit
  exact List.append_cancel_left hsplit

/-- The rest begins where the run cannot go on. -/
theorem afterRun_eq_some_iff :
    afterRun accepts text = some rest ↔
      ∃ run, run ≠ [] ∧ (∀ c ∈ run, accepts c = true) ∧ text = run ++ rest ∧
        rest.Stops accepts := by
  constructor
  · intro h
    cases text with
    | nil => contradiction
    | cons c more =>
        rw [afterRun] at h
        split at h
        · rename_i hc
          obtain rfl := Option.some.inj h
          refine ⟨c :: more.takeWhile accepts, List.cons_ne_nil _ _, ?_, ?_, stops_dropWhile _ _⟩
          · exact List.forall_mem_cons.2 ⟨hc, fun d hd => List.mem_takeWhile_imp hd⟩
          · rw [List.cons_append, List.takeWhile_append_dropWhile]
        · contradiction
  · rintro ⟨run, hne, hrun, rfl, hrest⟩
    obtain ⟨c, more, rfl⟩ := List.exists_cons_of_ne_nil hne
    have hmore : ∀ d ∈ more, accepts d = true := fun d hd => hrun d (List.mem_cons_of_mem _ hd)
    rw [List.cons_append, afterRun, if_pos (hrun c List.mem_cons_self),
      (takeWhile_append_of_stops hmore hrest).2]

theorem afterRun_ne_none_iff :
    afterRun accepts text ≠ none ↔ ∃ c more, text = c :: more ∧ accepts c = true := by
  cases text with
  | nil => simp [afterRun]
  | cons c more => by_cases hc : accepts c = true <;> simp [afterRun, hc]

end Splits

theorem getD_afterRun (accepts : Char → Bool) (text : Text) :
    (afterRun accepts text).getD text = text.dropWhile accepts := by
  cases text with
  | nil => rfl
  | cons c rest => by_cases hc : accepts c <;> simp [afterRun, hc]

end Text

namespace Scanner

open Text

variable {α β : Type}

/-- What the scanner leaves is told from the text that it is given alone. -/
def Leaves (scanner : Scanner α) (left : Text → Option Text) : Prop :=
  ∀ site, (scanner site).map (fun result => result.2.rest) = left site.rest

theorem Leaves.congr {scanner : Scanner α} {left other : Text → Option Text}
    (h : scanner.Leaves left) (heq : ∀ text, left text = other text) :
    scanner.Leaves other :=
  fun site => (h site).trans (heq site.rest)

theorem leaves_pure (value : α) : (pure value : Scanner α).Leaves some :=
  fun _ => rfl

/-- What a sequence leaves is told part by part, with no site in between. -/
theorem Leaves.bind {first : Scanner α} {second : α → Scanner β}
    {left more : Text → Option Text} (hfirst : first.Leaves left)
    (hsecond : ∀ value, (second value).Leaves more) :
    (first >>= second).Leaves fun text => (left text).bind more := by
  intro site
  dsimp only
  rw [← hfirst site]
  cases hread : first site with
  | none => rw [bind_of_none second hread]; rfl
  | some result => rw [bind_of_some second hread]; exact hsecond result.1 result.2

/-- A missing part leaves the text as it is. -/
theorem Leaves.maybe {part : Scanner α} {left : Text → Option Text} (h : part.Leaves left) :
    (Scanner.maybe part).Leaves fun text => some ((left text).getD text) := by
  intro site
  dsimp only
  rw [← h site, Scanner.maybe]
  cases part site <;> rfl

theorem Leaves.either {first second : Scanner α} {left other : Text → Option Text}
    (hfirst : first.Leaves left) (hsecond : second.Leaves other) :
    (Scanner.either first second).Leaves fun text => (left text).or (other text) := by
  intro site
  dsimp only
  rw [← hfirst site, ← hsecond site, Scanner.either]
  cases first site <;> rfl

theorem rest_advance (found : Text) (site : Site) :
    (advance found site).map (fun result => result.2.rest) =
      if found = [] then none else some (site.rest.drop found.length) := by
  rw [advance]
  by_cases hempty : found = []
  · simp [hempty]
  · simp [hempty, Site.past]

/-- To drop as many characters as a run has is to drop the run. -/
theorem drop_length_takeWhile (accepts : Char → Bool) (text : Text) :
    text.drop (text.takeWhile accepts).length = text.dropWhile accepts := by
  have hfront := List.prefix_iff_eq_append.1 (List.takeWhile_prefix accepts (l := text))
  exact List.append_cancel_left (hfront.trans List.takeWhile_append_dropWhile.symm)

theorem leaves_stretch (accepts : Char → Bool) :
    (stretch (.char accepts)).Leaves fun text => some (text.dropWhile accepts) := by
  intro site
  dsimp only
  rw [stretch, Probe.run_char, ← drop_length_takeWhile]
  rfl

theorem leaves_run (accepts : Char → Bool) : (run (.char accepts)).Leaves (afterRun accepts) := by
  intro site
  rw [run, rest_advance, Probe.run_char, drop_length_takeWhile]
  cases site.rest with
  | nil => rfl
  | cons c rest => by_cases hc : accepts c <;> simp [afterRun, hc]

theorem leaves_char (expected : Char) : (char expected).Leaves (afterChar expected) := by
  intro site
  rw [char, one]
  cases hrest : site.rest with
  | nil => rfl
  | cons c rest =>
      by_cases hc : c = expected
      · simp [afterChar, Probe.is, Probe.char, hc, rest_advance, hrest]
      · simp [afterChar, Probe.is, Probe.char, hc]

theorem leaves_word (mode : CaseMode) {spelling : Text} (hne : spelling ≠ []) :
    (word mode spelling).Leaves (afterWord mode spelling) := by
  intro site
  obtain ⟨expected, others, rfl⟩ := List.exists_cons_of_ne_nil hne
  rw [word, afterWord]
  cases hfound : spelled? mode (expected :: others) site.rest with
  | none => rfl
  | some found =>
      have hsome : found ≠ [] := by
        rintro rfl
        cases hrest : site.rest with
        | nil => simp [hrest, spelled?] at hfound
        | cons c rest => simp [hrest, spelled?] at hfound
      exact (rest_advance found site).trans (if_neg hsome)

theorem leaves_anyWord (mode : CaseMode) {words : List Text} (hwords : ∀ word ∈ words, word ≠ []) :
    (anyWord mode words).Leaves (afterAnyWord mode words) := by
  induction words with
  | nil => exact fun _ => rfl
  | cons first words ih =>
      have heither : anyWord mode (first :: words) =
          Scanner.either (word mode first) (anyWord mode words) := by
        funext site
        rw [anyWord, List.findSome?_cons, Scanner.either]
        cases word mode first site <;> rfl
      have hfirst := leaves_word mode (hwords first List.mem_cons_self)
      have hothers := ih fun word hword => hwords word (List.mem_cons_of_mem _ hword)
      rw [heither]
      exact (hfirst.either hothers).congr fun text => (afterAnyWord_cons ..).symm

end Scanner

/-! ### Telephone numbers -/

/-- Digits and the given delimiters in any order, maybe none. -/
def Grammar.Delimited (delimiters written : Text) : Prop :=
  ∀ c ∈ written, isDigit c = true ∨ c ∈ delimiters

namespace Telephone

open Scanner Text

/-- What a group of digits and the delimiters around it are made of. -/
def inGroups (delimiters : Text) (c : Char) : Bool :=
  isDigit c || delimiters.contains c

def afterBrackets (text : Text) : Option Text := do
  let inner ← afterChar '(' text
  let close ← afterRun isDigit inner
  afterChar ')' close

/-- What is left after the groups of digits, of which there is one at least. -/
def afterGroups (delimiters text : Text) : Option Text :=
  if (text.takeWhile (inGroups delimiters)).any isDigit then
    some (text.dropWhile (inGroups delimiters))
  else none

/-- What is left after the sign and the country code, both optional. -/
def pastCountry (text : Text) : Text :=
  (pastMaybe (afterChar '+') text).dropWhile isDigit

/-- What is left after the area code and the slash, both optional. -/
def pastArea (text : Text) : Text :=
  pastMaybe (afterChar '/') (pastMaybe afterBrackets text)

def afterNumber (text : Text) : Option Text :=
  afterGroups delimiters (pastArea (pastCountry text))

theorem leaves_digitsInBrackets : digitsInBrackets.Leaves afterBrackets := by
  refine Leaves.congr ((leaves_char '(').bind fun _ => (leaves_run isDigit).bind fun _ =>
    (leaves_char ')').bind fun _ => leaves_pure _) fun text => ?_
  simp [afterBrackets]

section Groups

variable {delimiters : Text} {site next : Site} {fuel : Nat}

theorem inGroups_iff {c : Char} :
    inGroups delimiters c = true ↔ isDigit c = true ∨ c ∈ delimiters := by
  simp [inGroups]

theorem delimited_iff {written : Text} :
    Grammar.Delimited delimiters written ↔ ∀ c ∈ written, inGroups delimiters c = true := by
  simp only [Grammar.Delimited, inGroups_iff]

/-- The groups end where neither a digit nor a delimiter is ahead. -/
theorem stops_inGroups (hdigit : site.Stops isDigit) (hset : site.Stops (Probe.among delimiters)) :
    site.Stops (inGroups delimiters) := by
  intro c rest hrest
  have hmem : c ∉ delimiters := by
    rw [← Probe.among_iff, hset c rest hrest]
    decide
  rw [← Bool.not_eq_true, inGroups_iff, hdigit c rest hrest]
  simp [hmem]

/-- A run of digits or of delimiters in front is passed over. -/
theorem past_inGroups {found : Text} (hfound : ∀ c ∈ found, inGroups delimiters c = true)
    (hnext : site.LeadsBy found next) :
    site.rest.takeWhile (inGroups delimiters) =
        found ++ next.rest.takeWhile (inGroups delimiters) ∧
      site.rest.dropWhile (inGroups delimiters) =
        next.rest.dropWhile (inGroups delimiters) := by
  rw [hnext.rest_eq, List.takeWhile_append_of_pos hfound, List.dropWhile_append_of_pos hfound]
  exact ⟨rfl, rfl⟩

/-- The loop ends where digits and delimiters end, and it found a group exactly
if there is a digit among them. -/
theorem groupsWithin_spec (hfree : ∀ c ∈ delimiters, isDigit c = false)
    (hfuel : site.rest.length ≤ fuel) :
    (groupsWithin delimiters fuel site).2.rest = site.rest.dropWhile (inGroups delimiters) ∧
      ((groupsWithin delimiters fuel site).1 = [] ↔
        ∀ c ∈ site.rest.takeWhile (inGroups delimiters), isDigit c = false) := by
  induction fuel generalizing site with
  | zero =>
      have hnil : site.rest = [] := List.length_eq_zero_iff.1 (Nat.le_zero.1 hfuel)
      simp [groupsWithin, hnil]
  | succ fuel ih =>
      rw [groupsWithin]
      split
      · rename_i group next hgroup
        obtain ⟨found, hne, hdigits, hnext, -⟩ := run_iff.1 hgroup
        have hlt := (consumes_run _ hgroup).length_lt
        obtain ⟨htake, hdrop⟩ :=
          past_inGroups (fun c hc => inGroups_iff.2 (.inl (hdigits c hc))) hnext
        obtain ⟨c, others, rfl⟩ := List.exists_cons_of_ne_nil hne
        have hc : isDigit c = true := hdigits c List.mem_cons_self
        exact ⟨hdrop ▸ (ih (by omega)).1, by simp [htake, hc]⟩
      · rename_i hgroup
        split
        · rename_i delimiter next hdelimiter
          obtain ⟨found, -, hset, hnext, -⟩ := run_iff.1 hdelimiter
          have hmem : ∀ c ∈ found, c ∈ delimiters :=
            fun c hc => Probe.among_iff.1 (hset c hc)
          have hlt := (consumes_run _ hdelimiter).length_lt
          obtain ⟨htake, hdrop⟩ :=
            past_inGroups (fun c hc => inGroups_iff.2 (.inr (hmem c hc))) hnext
          obtain ⟨hrest, hgroups⟩ := ih (show next.rest.length ≤ fuel by omega)
          refine ⟨hdrop ▸ hrest, hgroups.trans ?_⟩
          rw [htake, List.forall_mem_append]
          exact (and_iff_right fun c hc => hfree c (hmem c hc)).symm
        · rename_i hdelimiter
          have hstops := stops_inGroups (stops_of_run_eq_none hgroup)
            (stops_of_run_eq_none hdelimiter)
          cases hrest : site.rest with
          | nil => simp
          | cons c rest => simp [hstops c rest hrest]

theorem leaves_delimitedDigits (hfree : ∀ c ∈ delimiters, isDigit c = false) :
    (delimitedDigits delimiters).Leaves (afterGroups delimiters) := by
  intro site
  obtain ⟨hrest, hgroups⟩ := groupsWithin_spec hfree (Nat.le_refl site.rest.length)
  have hany : (site.rest.takeWhile (inGroups delimiters)).any isDigit = true ↔
      (groupsWithin delimiters site.rest.length site).1 ≠ [] := by
    rw [Ne, hgroups]
    simp
  rw [delimitedDigits, afterGroups]
  by_cases hnil : (groupsWithin delimiters site.rest.length site).1 = []
  · rw [if_neg fun h => hany.1 h hnil]
    simp [hnil]
  · rw [if_pos (hany.2 hnil)]
    simp [hnil, hrest]

end Groups

theorem isDigit_of_mem_delimiters {c : Char} (h : c ∈ delimiters) : isDigit c = false := by
  rcases List.mem_pair.1 h with rfl | rfl <;> decide

theorem leaves_number : number.Leaves afterNumber := by
  have hgroups := leaves_delimitedDigits fun _ => isDigit_of_mem_delimiters
  refine Leaves.congr ((leaves_stretch _).bind fun _ => (leaves_char '+').maybe.bind fun _ =>
    (leaves_stretch _).bind fun _ => (leaves_run isDigit).maybe.bind fun _ =>
      (leaves_stretch _).bind fun _ => leaves_digitsInBrackets.maybe.bind fun _ =>
        (leaves_stretch _).bind fun _ => (leaves_char '/').maybe.bind fun _ =>
          (leaves_stretch _).bind fun _ => hgroups.bind fun _ => leaves_pure _) fun text => ?_
  simp [afterNumber, pastArea, pastCountry, pastMaybe, getD_afterRun, List.dropWhile_idempotent]

theorem labels_ne_nil : ∀ word ∈ labels, word ≠ [] := by
  decide

def afterLabel (text : Text) : Option Text :=
  (afterAnyWord .ignored labels (text.dropWhile isWhiteSpace)).map (pastMaybe (afterChar ':'))

theorem leaves_labelledNumber :
    labelledNumber.Leaves fun text => (afterLabel text).bind afterNumber := by
  refine Leaves.congr ((leaves_stretch _).bind fun _ =>
    (leaves_anyWord .ignored labels_ne_nil).bind fun _ => (leaves_stretch _).bind fun _ =>
      (leaves_char ':').maybe.bind fun _ => (leaves_stretch _).bind fun _ =>
        leaves_number) fun text => ?_
  rw [afterLabel, Option.bind_map]
  rfl

end Telephone

/-! ### Codes and labels -/

namespace PostCode

open Scanner Text

def afterHalf (text : Text) : Option Text :=
  if (text.takeWhile isLetterOrDigit).length = 3 then some (text.dropWhile isLetterOrDigit)
  else none

def afterPostal (text : Text) : Option Text :=
  (afterHalf text).bind fun rest => afterHalf (rest.dropWhile isWhiteSpace)

theorem leaves_half : half.Leaves afterHalf := by
  intro site
  have hrun : run (.ofClass .letterOrDigit) site =
      advance (site.rest.takeWhile isLetterOrDigit) site := by
    rw [run, ← Probe.run_char]
    rfl
  rw [half, hrun, afterHalf, ← drop_length_takeWhile, advance]
  by_cases hnil : site.rest.takeWhile isLetterOrDigit = []
  · simp [hnil]
  · by_cases hlength : (site.rest.takeWhile isLetterOrDigit).length = 3
    · simp [hnil, Site.span, Site.past, hlength]
    · simp [hnil, Site.span, hlength]

theorem leaves_postal : postal.Leaves afterPostal := by
  refine Leaves.congr (leaves_half.bind fun _ => (leaves_stretch _).bind fun _ =>
    leaves_half.bind fun _ => leaves_pure _) fun text => ?_
  simp [afterPostal]

theorem leaves_zip : zip.Leaves (afterRun isDigit) :=
  leaves_run isDigit

theorem leaves_zipOrPostal :
    zipOrPostal.Leaves fun text => (afterRun isDigit text).or (afterPostal text) := by
  refine Leaves.congr ((leaves_zip.bind fun _ => leaves_pure _).either
    (leaves_postal.bind fun _ => leaves_pure _)) fun text => ?_
  simp

end PostCode

namespace Routing

open Scanner Text

def afterAttention (text : Text) : Option Text :=
  (afterAnyWord .ignored attentionLabels text).map fun rest =>
    (afterChar ':' rest).getD (rest.dropWhile isWhiteSpace)

def afterCareOf (text : Text) : Option Text :=
  afterAnyWord .ignored careOfLabels (text.dropWhile isWhiteSpace)

theorem leaves_attention : attention.Leaves afterAttention := by
  refine Leaves.congr ((leaves_anyWord .ignored (by decide)).bind fun _ =>
    ((leaves_char ':').either (leaves_run isWhiteSpace)).maybe.bind fun _ =>
      leaves_pure _) fun text => ?_
  rw [afterAttention]
  cases afterAnyWord .ignored attentionLabels text with
  | none => rfl
  | some rest => simp [Option.getD_or, getD_afterRun]

theorem leaves_careOf : careOf.Leaves afterCareOf :=
  Leaves.congr ((leaves_stretch _).bind fun _ => leaves_anyWord .ignored (by decide))
    fun _ => rfl

end Routing

/-! ### Lines -/

namespace Scanner

variable {α : Type} {scanner : Scanner α} {left : Text → Option Text}

/-- A test succeeds where the scanner does, and then the cursor stands before
what is left. -/
theorem Leaves.test_spec (h : scanner.Leaves left) (hconsumes : scanner.Consumes) (text : Text)
    (cursor : Cursor) :
    (scanner.test text cursor).1 = (left (text.remaining cursor.offset)).isSome ∧
      text.remaining (scanner.test text cursor).2.offset =
        (left (text.remaining cursor.offset)).getD (text.remaining cursor.offset) := by
  have hleft : _ = left (text.remaining cursor.offset) := h (.ofCursor text cursor)
  rw [← hleft, test]
  cases hread : scanner (.ofCursor text cursor) with
  | none => exact ⟨rfl, rfl⟩
  | some result =>
      have hlead := hconsumes hread
      have hne : result.2.offset ≠ cursor.offset := Nat.ne_of_gt hlead.offset_lt
      have hafter : text.remaining result.2.offset = result.2.rest :=
        congrArg Site.rest (Site.ofCursor_cursor hlead.leads)
      simp [Cursor.moveTo?, Site.cursor, hne, hafter]

end Scanner

theorem Cursor.isAtEnd_iff {text : Text} {cursor : Cursor}
    (h : text.IsBoundary cursor.offset) :
    cursor.isAtEnd text = true ↔ text.remaining cursor.offset = [] := by
  obtain ⟨before, after, rfl, hsize⟩ := h
  have hafter : (before ++ after : Text).fromByte? cursor.offset = some after :=
    Text.fromByte?_eq_some_iff.2 ⟨before, rfl, hsize⟩
  rw [isAtEnd, beq_iff_eq, Text.remaining, hafter, Option.getD_some,
    ← Text.byteSize_eq_zero_iff, Text.byteSize_append]
  omega

/-- A test leaves the cursor at a boundary. -/
theorem Scanner.Advances.isBoundary_test {α : Type} {scanner : Scanner α} (h : scanner.Advances)
    {text : Text} {cursor : Cursor} (hcursor : text.IsBoundary cursor.offset) :
    text.IsBoundary (scanner.test text cursor).2.offset := by
  have hcontract := h.contract_test text cursor
  cases hmatched : (scanner.test text cursor).1 with
  | false => rwa [hcontract.restored hmatched]
  | true => exact (hcontract.moved hmatched).2.1

/-- The rule says whether the scanner succeeds. -/
def Rule.Tests {α : Type} (rule : Rule) (scanner : Scanner α) : Prop :=
  ∀ text cursor, rule.apply text cursor =
    (.verdict (scanner.test text cursor).1, (scanner.test text cursor).2)

section Tests

variable {α : Type} {rule : Rule} {scanner : Scanner α} {left : Text → Option Text}

/-- A rule takes all of a text if its scanner leaves nothing. -/
theorem Rule.Tests.wholly_iff (h : rule.Tests scanner) (hleaves : scanner.Leaves left)
    (hconsumes : scanner.Consumes) (text other : Text) (cursor : Cursor) :
    (wholly rule other).apply text cursor = (.verdict true, cursor) ↔ left other = some [] := by
  obtain ⟨hmatched, hrest⟩ := hleaves.test_spec hconsumes other .start
  have hend := Cursor.isAtEnd_iff
    (hconsumes.advances.isBoundary_test (Text.isBoundary_start other))
  rw [Text.remaining_start] at hmatched hrest
  rw [apply, h]
  dsimp only [Answer.matched]
  rw [Prod.mk.injEq, Answer.verdict.injEq, Bool.and_eq_true, hend, hmatched, hrest]
  cases left other <;> simp

/-- Whether nothing but white space follows is asked after the space is read. -/
theorem Cursor.isAtEnd_space_iff {text : Text} {cursor : Cursor}
    (h : text.IsBoundary cursor.offset) :
    (Scanner.space.test text cursor).2.isAtEnd text = true ↔
      Blank (text.remaining cursor.offset) := by
  have hrest := ((Scanner.leaves_run isWhiteSpace).test_spec
    Scanner.consumes_space text cursor).2
  rw [isAtEnd_iff (Scanner.consumes_space.advances.isBoundary_test h)]
  rw [Text.getD_afterRun] at hrest
  exact (Eq.congr_left hrest).trans List.dropWhile_eq_nil_iff

/-- A line is kept if the scanner succeeds and, where the match has to be the
whole line, leaves only white space. -/
theorem Rule.Tests.keeps_iff (h : rule.Tests scanner) (hleaves : scanner.Leaves left)
    (hconsumes : scanner.Consumes) (coverage : Coverage) (line : Text) :
    LineFilter.keeps ⟨rule, coverage⟩ line = true ↔
      ∃ rest, left line = some rest ∧ (coverage = .whole → Blank rest) := by
  obtain ⟨hmatched, hrest⟩ := hleaves.test_spec hconsumes line .start
  have hend := Cursor.isAtEnd_space_iff
    (hconsumes.advances.isBoundary_test (Text.isBoundary_start line))
  rw [Text.remaining_start] at hmatched hrest
  rw [hrest] at hend
  rw [LineFilter.keeps, h]
  dsimp only [Answer.matched]
  rw [hmatched, Bool.and_eq_true]
  cases coverage with
  | beginning => simp [Option.isSome_iff_exists]
  | whole =>
      dsimp only
      rw [hend]
      cases left line <;> simp

end Tests

namespace LineKind

/-- What the grammar of the kind leaves of a line. -/
def left : LineKind → Text → Option Text
  | phone, line => (Telephone.afterLabel line).bind Telephone.afterNumber
  | postal, line => (Text.afterRun isDigit line).or (PostCode.afterPostal line)
  | zip, line => Text.afterRun isDigit line
  | attention, line => Routing.afterAttention line
  | careOf, line => Routing.afterCareOf line

theorem keeps_iff (kind : LineKind) (line : Text) :
    kind.filter.keeps line = true ↔
      ∃ rest, kind.left line = some rest ∧ (kind.filter.coverage = .whole → Blank rest) := by
  cases kind with
  | phone =>
      exact Rule.Tests.keeps_iff (fun _ _ => rfl) Telephone.leaves_labelledNumber
        Telephone.consumes_labelledNumber _ line
  | postal =>
      exact Rule.Tests.keeps_iff (Rule.apply_zipOrPostal .test) PostCode.leaves_zipOrPostal
        PostCode.consumes_zipOrPostal _ line
  | zip =>
      exact Rule.Tests.keeps_iff (fun _ _ => rfl) PostCode.leaves_zip
        (Scanner.consumes_run _) _ line
  | attention =>
      have htests : (Rule.attention .test).Tests Routing.attention := Rule.reportInner_test _
      exact htests.keeps_iff Routing.leaves_attention Routing.consumes_attention _ line
  | careOf =>
      have htests : (Rule.careOf .test).Tests Routing.careOf := Rule.reportInner_test _
      exact htests.keeps_iff Routing.leaves_careOf Routing.consumes_careOf _ line

end LineKind

end TextScan
